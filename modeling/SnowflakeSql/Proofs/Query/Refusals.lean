import SnowflakeSql.Proofs.Query.Compiled
import SnowflakeSql.Proofs.Session.OneStatement

/-!
# What is refused, and what is nothing to run

A query is refused for the first of three reasons that applies (`Query.Refused`): it asks for
returned columns, it has no table, or it is an update that assigns nothing.  Every other query
compiles.  The text of its statement begins with a word of the dialect, whatever the clauses are
(`Query.hasText_templateOn`), so there is nothing to run only in raw SQL that is blank and in an
insertion whose rows have no column (`Query.NothingToRun`).

Running a statement that has text is never a quiet success: the first poll of it asks the session
to start it, or fails because the connection is busy (`Statement.notSkipped_of_text`).
-/

namespace SnowflakeSql

open Text

/-! ## Statements with text -/

/-- The template begins with text that is not blank. -/
def Template.HasText (t : Template) : Prop :=
  ∃ s rest, t = .text s :: rest ∧ allBlank s.toList = false

theorem Template.HasText.sql_not_blank {t : Template} (h : t.HasText) :
    allBlank t.sql.toList = false := by
  obtain ⟨s, rest, rfl, hs⟩ := h
  rw [sql_cons, String.toList_append, allBlank_append, Piece.sql, hs, Bool.false_and]

/-- Text stays text when more follows it. -/
theorem Template.hasText_append {word : String} (h : allBlank word.toList = false) (rest : String)
    (t : Template) : HasText (.text (word ++ rest) :: t) := by
  refine ⟨_, _, rfl, ?_⟩
  rw [String.toList_append, allBlank_append, h, Bool.false_and]

/-- However it is run, the statement is not passed over in silence: the first poll of such a task
asks the session to start it, and nothing else, or fails as the connection runs another one. -/
def Statement.NotSkipped (statement : Statement) : Prop :=
  ∀ (σ : Type) (B : Backend σ) (s : System σ) (i n : Nat),
    ((∃ finish, s.tasks n = .execute i statement finish none) ∨
      ∃ channel, s.tasks n = .stream i statement channel .fresh) →
    (s.slotOf i = .idle → System.Asks s (s.poll B n).2 [i]) ∧
    (s.slotOf i ≠ .idle →
      (s.poll B n).1 = some (.error (.statementInProgress (System.busyName (s.slotOf i)))))

theorem Statement.notSkipped_of_text {statement : Statement} (h : statement.isEmpty = false) :
    statement.NotSkipped := by
  intro σ B s i n htask
  have hwant : (s.tasks n).wanting? = some i := by
    rcases htask with ⟨finish, htask⟩ | ⟨channel, htask⟩
    · rw [htask]
      exact if_neg (Bool.eq_false_iff.mp h)
    · rw [htask]
      exact if_neg (Bool.eq_false_iff.mp h)
  refine ⟨fun hidle => ?_, fun hbusy => (System.poll_of_refused hwant hbusy).1⟩
  have hasks := System.asks_act B s (.poll n)
  have hstarts : System.startsOfAct s (.poll n) = [i] := by
    unfold System.startsOfAct System.startsOfPoll
    dsimp only
    rw [hwant]
    exact if_pos hidle
  rwa [hstarts] at hasks

namespace Query

variable {naming : Naming} {query : Query} {table : String}

theorem hasText_selectTemplate (limit : Option Nat) :
    (query.selectTemplate naming limit table).HasText := by
  unfold selectTemplate
  simp only [String.append_assoc]
  exact Template.hasText_append rfl _ _

theorem hasText_lookup (view name : String) (column : Option String) :
    (Catalogue.lookup view name column).HasText := by
  unfold Catalogue.lookup
  simp only [String.append_assoc]
  exact Template.hasText_append rfl _ _

theorem hasText_insertTemplate (h : query.insertColumns ≠ []) :
    (query.insertTemplate naming table).HasText := by
  unfold insertTemplate
  rw [if_neg (mt List.isEmpty_iff.mp h)]
  simp only [String.append_assoc]
  exact Template.hasText_append rfl _ _

theorem hasText_updateTemplate : (query.updateTemplate naming table).HasText := by
  unfold updateTemplate
  rw [String.append_assoc]
  exact Template.hasText_append rfl _ _

theorem hasText_deleteTemplate : (query.deleteTemplate naming table).HasText :=
  Template.hasText_append rfl _ _

/-- Whatever the clauses are, the text begins with a word of the dialect. -/
theorem hasText_templateOn (hraw : query.method ≠ .raw)
    (hcolumns : query.method = .insert → query.insertColumns ≠ []) :
    (query.templateOn naming table).HasText := by
  unfold templateOn
  cases hm : query.method with
  | raw => exact absurd hm hraw
  | select => exact hasText_selectTemplate query.limit
  | pluck => exact hasText_selectTemplate query.limit
  | first => exact hasText_selectTemplate (some 1)
  | insert => exact hasText_insertTemplate (hcolumns hm)
  | update => exact hasText_updateTemplate
  | delete => exact hasText_deleteTemplate
  | truncate => exact Template.hasText_append rfl _ _
  | columnInfo => exact hasText_lookup "columns" table none

theorem isEmpty_statementOf (naming : Naming) (table : String) (hraw : query.method ≠ .raw)
    (hcolumns : query.method = .insert → query.insertColumns ≠ []) :
    (query.statementOf (query.templateOn naming table)).isEmpty = false :=
  (hasText_templateOn hraw hcolumns).sql_not_blank

/-! ## Refused queries -/

/-- Why a query is refused: the first of the reasons that apply. -/
inductive Refused (query : Query) : CompileError → Prop
  | returning : query.returning ≠ [] → Refused query (.unsupported "snowflake" "returning")
  | noTable : query.returning = [] → query.method ≠ .raw → query.table = none →
    Refused query (.missingTable (statementWord query.method))
  | noAssignment : query.returning = [] → query.table ≠ none → query.method = .update →
    query.assignments = [] → Refused query (.emptyColumns "update")

theorem compile_of_refused {error : CompileError} (h : query.Refused error) :
    query.compile naming = .error error := by
  cases h with
  | returning hreturning =>
    unfold compile
    cases hcolumns : query.returning with
    | nil => exact absurd hcolumns hreturning
    | cons column columns => rfl
  | noTable hreturning hraw htable =>
    rw [compile_eq_compiled hraw]
    unfold compiled
    rw [if_neg (not_not.mpr hreturning), htable]
  | noAssignment hreturning htable hupdate hassignments =>
    have hraw : query.method ≠ .raw := by
      rw [hupdate]
      exact nofun
    obtain ⟨table, htable⟩ := Option.ne_none_iff_exists'.mp htable
    rw [compile_eq_compiled hraw]
    unfold compiled
    rw [if_neg (not_not.mpr hreturning), htable]
    exact if_pos ⟨hupdate, hassignments⟩

/-- Raw SQL passes through. -/
theorem compile_of_raw (naming : Naming) (hraw : query.method = .raw)
    (hreturning : query.returning = []) : ∃ statement, query.compile naming = .ok statement ∧
      statement.sql = (query.rawSql.getD ("", [])).1 := by
  unfold compile sqlAndBinds
  rw [hraw, hreturning]
  exact ⟨_, rfl, rfl⟩

/-! ## Queries with nothing to run -/

/-- There is nothing to run: no raw SQL, or only blanks, or rows without any column. -/
inductive NothingToRun (query : Query) : Prop
  | noText : query.method = .raw → query.rawSql = none → NothingToRun query
  | blankText {sql : String} {binds : List Value} : query.method = .raw →
    query.rawSql = some (sql, binds) → allBlank sql.toList = true → NothingToRun query
  | noColumn : query.method = .insert → (∀ row ∈ query.rows, row = []) → NothingToRun query

theorem insertColumns_eq_nil_iff : query.insertColumns = [] ↔ ∀ row ∈ query.rows, row = [] := by
  have hnames : query.insertColumns = [] ↔
      query.rows.flatMap (fun row => row.map Prod.fst) = [] := by
    simp only [List.eq_nil_iff_forall_not_mem, insertColumns, List.mem_eraseDups]
  rw [hnames, List.flatMap_eq_nil_iff]
  simp only [List.map_eq_nil_iff]

theorem nothingToRun_of_raw (hraw : query.method = .raw) :
    query.NothingToRun ↔ allBlank (query.rawSql.getD ("", [])).1.toList = true := by
  constructor
  · intro h
    cases h with
    | noText _ hsql =>
      rw [hsql]
      rfl
    | blankText _ hsql hblank =>
      rw [hsql]
      exact hblank
    | noColumn hinsert _ =>
      rw [hraw] at hinsert
      cases hinsert
  · intro hblank
    cases hsql : query.rawSql with
    | none => exact .noText hraw hsql
    | some text =>
      rw [hsql] at hblank
      exact .blankText hraw hsql hblank

theorem nothingToRun_iff (hraw : query.method ≠ .raw) :
    query.NothingToRun ↔ query.method = .insert ∧ query.insertColumns = [] := by
  rw [insertColumns_eq_nil_iff]
  constructor
  · intro h
    cases h with
    | noText hm _ => exact absurd hm hraw
    | blankText hm _ _ => exact absurd hm hraw
    | noColumn hinsert hrows => exact ⟨hinsert, hrows⟩
  · exact fun h => .noColumn h.1 h.2

/-- What a compiled query leaves to run. -/
theorem isEmpty_iff_of_compile {statement : Statement} (h : query.compile naming = .ok statement) :
    statement.isEmpty = true ↔ query.NothingToRun := by
  by_cases hraw : query.method = .raw
  · have hreturning : query.returning = [] := by
      by_contra hreturning
      rw [compile_of_refused (.returning hreturning)] at h
      cases h
    obtain ⟨statement', hcompile, hsql⟩ := compile_of_raw naming hraw hreturning
    rw [h] at hcompile
    cases hcompile
    rw [nothingToRun_of_raw hraw, ← hsql]
    rfl
  · obtain ⟨-, table, -, -, rfl⟩ := (compile_eq_ok_iff hraw).mp h
    rw [nothingToRun_iff hraw]
    by_cases hempty : query.method = .insert ∧ query.insertColumns = []
    · have htemplate : query.templateOn naming table = [] := by
        unfold templateOn insertTemplate
        rw [hempty.1, hempty.2]
        rfl
      rw [htemplate]
      exact iff_of_true rfl hempty
    · have htext := isEmpty_statementOf naming table hraw
        fun hinsert hcolumns => hempty ⟨hinsert, hcolumns⟩
      rw [htext]
      exact iff_of_false Bool.false_ne_true hempty

theorem exists_compile_of_not_refused (naming : Naming) (h : ∀ error, ¬ query.Refused error) :
    ∃ statement, query.compile naming = .ok statement := by
  have hreturning : query.returning = [] := by
    by_contra hreturning
    exact h _ (.returning hreturning)
  by_cases hraw : query.method = .raw
  · obtain ⟨statement, hcompile, -⟩ := compile_of_raw naming hraw hreturning
    exact ⟨statement, hcompile⟩
  · have htable : query.table ≠ none := fun htable => h _ (.noTable hreturning hraw htable)
    obtain ⟨table, hsome⟩ := Option.ne_none_iff_exists'.mp htable
    refine ⟨_, (compile_eq_ok_iff hraw).mpr ⟨hreturning, table, hsome, ?_, rfl⟩⟩
    exact fun hupdate hassignments => h _ (.noAssignment hreturning htable hupdate hassignments)

/-- A query fails to compile for the first reason that applies, and only then.  Otherwise its
statement has text unless there is nothing to run, and what neither is raw SQL nor an insertion
is never skipped. -/
theorem compile_eq_error_iff_refused (naming : Naming) (query : Query) :
    (∀ error, query.compile naming = .error error ↔ query.Refused error) ∧
    ((∀ error, ¬ query.Refused error) → ∃ statement, query.compile naming = .ok statement) ∧
    ∀ statement, query.compile naming = .ok statement →
      (statement.isEmpty = true ↔ query.NothingToRun) ∧
      (query.method ≠ .raw → query.method ≠ .insert → statement.NotSkipped) := by
  refine ⟨fun error => ⟨fun herror => ?_, compile_of_refused⟩, exists_compile_of_not_refused naming,
    fun statement hcompile => ⟨isEmpty_iff_of_compile hcompile, fun hraw hinsert => ?_⟩⟩
  · by_contra hnot
    by_cases hrefused : ∃ error', query.Refused error'
    · obtain ⟨error', hrefused⟩ := hrefused
      rw [compile_of_refused hrefused] at herror
      cases herror
      exact hnot hrefused
    · obtain ⟨statement, hcompile⟩ := exists_compile_of_not_refused naming
        (not_exists.mp hrefused)
      rw [hcompile] at herror
      cases herror
  · refine Statement.notSkipped_of_text (Bool.eq_false_iff.mpr fun hempty => ?_)
    have hnothing := (isEmpty_iff_of_compile hcompile).mp hempty
    exact hinsert ((nothingToRun_iff hraw).mp hnothing).1

/-- An update that is wrong in three ways at once. -/
def bareUpdate : Query := { method := .update, returning := ["id"] }

/-- That update is refused for the first of them, and a deletion is never skipped. -/
theorem compile_eq_error_iff_refused_bareUpdate :
    bareUpdate.compile .folded = .error (.unsupported "snowflake" "returning") ∧
    (∀ error, ¬ (delete "t").Refused error) ∧
    ∃ statement, (delete "t").compile .folded = .ok statement ∧
      ¬ statement.isEmpty = true ∧ statement.NotSkipped := by
  have hrefused : bareUpdate.Refused (.unsupported "snowflake" "returning") :=
    .returning (List.cons_ne_nil _ _)
  have hnot : ∀ error, ¬ (delete "t").Refused error := by
    intro error h
    cases h with
    | returning h => exact h rfl
    | noTable _ _ h => cases h
    | noAssignment _ _ h _ => cases h
  obtain ⟨hok, hstatement⟩ := (compile_eq_error_iff_refused .folded (delete "t")).2
  obtain ⟨statement, hcompile⟩ := hok hnot
  obtain ⟨hempty, hrun⟩ := hstatement statement hcompile
  refine ⟨((compile_eq_error_iff_refused .folded bareUpdate).1 _).mpr hrefused, hnot, statement,
    hcompile, fun h => ?_, hrun nofun nofun⟩
  cases hempty.mp h with
  | noText h _ => cases h
  | blankText h _ _ => cases h
  | noColumn h _ => cases h

end Query

end SnowflakeSql
