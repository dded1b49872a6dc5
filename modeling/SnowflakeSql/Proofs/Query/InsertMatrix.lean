import Mathlib.Data.List.Forall2
import Mathlib.Data.List.Nodup
import Mathlib.Data.List.Perm.Basic
import Mathlib.Data.List.ReduceOption
import SnowflakeSql.Proofs.Query.BoundData

/-!
# The matrix of an insertion

The columns of an insertion are the names that its rows have, each once and in the order of
first appearance (`FirstAppearances`).  A row has a slot for each of them, with the value of its
first entry under the name or with nothing (`Fills`); the text of a slot is a question mark or
the default.  `Query.Inserts` says how the statement is made of this matrix, whatever the naming,
and `Query.inserts_of_insert` that every insertion into a table becomes such a statement unless
it asks for returned columns.
-/

namespace SnowflakeSql

open Text

/-- The columns are the names, each once and in the order of first appearance. -/
structure FirstAppearances (names columns : List String) : Prop where
  mem_iff : ∀ name, name ∈ columns ↔ name ∈ names
  ordered : columns.Pairwise fun first second => names.idxOf first < names.idxOf second

/-- What a row puts into the slot of a column. -/
inductive Fills (row : InsertRow) (column : String) : Option Value → Prop
  /-- The value of the first entry under the column. -/
  | value {before after : InsertRow} {value : Value} :
    row = before ++ (column, value) :: after → column ∉ before.map Prod.fst →
      Fills row column (some value)
  | default : column ∉ row.map Prod.fst → Fills row column none

/-- The text of a slot. -/
def slotText : Option Value → String
  | some _ => "?"
  | none => "DEFAULT"

/-- The text of the slots of a row. -/
def tupleText (slots : List (Option Value)) : String := "(" ++ commaJoin (slots.map slotText) ++ ")"

/-- The statement inserts the rows of the query, with these columns and slots. -/
structure Query.Inserts (naming : Naming) (query : Query) (table : String) (columns : List String)
    (matrix : List (List (Option Value))) (statement : Statement) : Prop where
  names : FirstAppearances (query.rows.flatMap fun row => row.map Prod.fst) columns
  /-- A line of slots for each row, a slot for each column. -/
  slots : List.Forall₂ (fun row slots => List.Forall₂ (Fills row) columns slots) query.rows matrix
  blank : columns = [] → statement.sql = "" ∧ statement.binds = []
  sql : columns ≠ [] → statement.sql =
    "insert into " ++ query.spell naming table ++ " (" ++
      commaJoin (columns.map (query.spell naming)) ++ ") values " ++
      commaJoin (matrix.map tupleText)
  binds : statement.binds = matrix.flatMap List.reduceOption
  /-- If no row repeats a name, every value is bound once. -/
  rearranged : (∀ row ∈ query.rows, (row.map Prod.fst).Nodup) →
    statement.binds.Perm (query.rows.flatMap fun row => row.map Prod.snd)

/-! ## First appearances -/

section Names

variable {names columns : List String}

theorem FirstAppearances.nodup (h : FirstAppearances names columns) : columns.Nodup := by
  refine h.ordered.imp ?_
  rintro first second hlt rfl
  exact Nat.lt_irrefl _ hlt

/-- Leaving names out keeps the order in which the others appear. -/
theorem idxOf_lt_of_filter {keep : String → Bool} {x y : String} (hx : keep x) (hy : keep y)
    (h : (names.filter keep).idxOf x < (names.filter keep).idxOf y) :
    names.idxOf x < names.idxOf y := by
  induction names with
  | nil => exact absurd h (Nat.lt_irrefl _)
  | cons name names ih =>
    by_cases hname : keep name
    · rw [List.filter_cons_of_pos hname] at h
      simp only [List.idxOf_cons] at h ⊢
      by_cases hyname : name = y
      · simp [hyname] at h
      · by_cases hxname : name = x
        · simp [beq_iff_eq.mpr hxname, beq_eq_false_iff_ne.mpr hyname]
        · simp only [beq_eq_false_iff_ne.mpr hxname, beq_eq_false_iff_ne.mpr hyname,
            cond_false] at h ⊢
          have hlt := ih (by omega)
          omega
    · rw [List.filter_cons_of_neg hname] at h
      have hxname : name ≠ x := fun heq => hname (heq ▸ hx)
      have hyname : name ≠ y := fun heq => hname (heq ▸ hy)
      have hlt := ih h
      simp only [List.idxOf_cons, beq_eq_false_iff_ne.mpr hxname, beq_eq_false_iff_ne.mpr hyname,
        cond_false]
      omega

/-- The recursion is on the length: without the repetitions of the head the rest is no tail. -/
theorem pairwise_eraseDups (names : List String) :
    names.eraseDups.Pairwise fun first second => names.idxOf first < names.idxOf second := by
  cases names with
  | nil => simp
  | cons name names =>
    have hne {other : String} (h : other ∈ (names.filter fun b => !b == name).eraseDups) :
        name ≠ other := by
      rintro rfl
      simp [List.mem_eraseDups] at h
    have hrest := pairwise_eraseDups (names.filter fun b => !b == name)
    rw [List.eraseDups_cons]
    refine .cons ?_ (hrest.imp_of_mem ?_)
    · intro other hother
      simp [List.idxOf_cons, beq_eq_false_iff_ne.mpr (hne hother)]
    · intro x y hx hy hlt
      have hlt' : names.idxOf x < names.idxOf y :=
        idxOf_lt_of_filter (by simp [(hne hx).symm]) (by simp [(hne hy).symm]) hlt
      simp only [List.idxOf_cons, beq_eq_false_iff_ne.mpr (hne hx),
        beq_eq_false_iff_ne.mpr (hne hy), cond_false]
      omega
termination_by names.length
decreasing_by
  exact Nat.lt_succ_of_le (List.length_filter_le _ _)

theorem firstAppearances_eraseDups (names : List String) :
    FirstAppearances names names.eraseDups :=
  ⟨fun _ => List.mem_eraseDups, pairwise_eraseDups names⟩

end Names

/-! ## The slots of a row -/

section Slots

variable {row : InsertRow} {columns : List String}

theorem fills_firstValue? (row : InsertRow) (column : String) :
    Fills row column (Placeholder.firstValue? row column) := by
  unfold Placeholder.firstValue?
  cases hfind : row.find? fun entry => entry.1 = column with
  | none =>
    refine .default ?_
    intro hmem
    obtain ⟨entry, hentry, rfl⟩ := List.mem_map.mp hmem
    have := List.find?_eq_none.mp hfind entry hentry
    simp at this
  | some entry =>
    obtain ⟨hname, before, after, hrow, hbefore⟩ := List.find?_eq_some_iff_append.mp hfind
    obtain ⟨name, value⟩ := entry
    obtain rfl : name = column := by simpa using hname
    refine .value hrow ?_
    intro hmem
    obtain ⟨earlier, hearlier, hsame⟩ := List.mem_map.mp hmem
    have := hbefore earlier hearlier
    simp [hsame] at this

/-- In a row that repeats no name, the slot of a column has the value of its only entry. -/
theorem firstValue?_eq_some_iff (hnodup : (row.map Prod.fst).Nodup) {column : String}
    {value : Value} :
    Placeholder.firstValue? row column = some value ↔ (column, value) ∈ row := by
  constructor
  · intro h
    have hfills := fills_firstValue? row column
    rw [h] at hfills
    cases hfills with
    | value hrow _ => simp [hrow]
  · intro hmem
    have hfills := fills_firstValue? row column
    cases hvalue : Placeholder.firstValue? row column with
    | none =>
      rw [hvalue] at hfills
      cases hfills with
      | default hnot => exact absurd (List.mem_map_of_mem hmem) hnot
    | some first =>
      rw [hvalue] at hfills
      cases hfills with
      | @value before after _ hrow _ =>
        have hfirst : (column, first) ∈ row := by simp [hrow]
        have := List.inj_on_of_nodup_map hnodup hfirst hmem rfl
        cases this
        rfl

/-- The slots of a row that repeats no name have its values, each once. -/
theorem perm_filterMap_firstValue? (hnodup : (row.map Prod.fst).Nodup) (hcolumns : columns.Nodup)
    (hnames : ∀ name ∈ row.map Prod.fst, name ∈ columns) :
    (columns.filterMap (Placeholder.firstValue? row)).Perm (row.map Prod.snd) := by
  let entryOf (column : String) : Option (String × Value) :=
    (Placeholder.firstValue? row column).map (column, ·)
  have hentries : (columns.filterMap entryOf).Perm row := by
    refine (List.perm_ext_iff_of_nodup ?_ (List.Nodup.of_map _ hnodup)).mpr ?_
    · refine hcolumns.filterMap ?_
      simp only [entryOf, Option.mem_def, Option.map_eq_some_iff]
      rintro column column' _ ⟨_, _, rfl⟩ ⟨_, _, hentry⟩
      cases hentry
      rfl
    · rintro ⟨column, value⟩
      simp only [entryOf, List.mem_filterMap, Option.map_eq_some_iff, Prod.mk.injEq]
      constructor
      · rintro ⟨_, _, _, hvalue, rfl, rfl⟩
        exact (firstValue?_eq_some_iff hnodup).mp hvalue
      · intro hmem
        exact ⟨column, hnames column (List.mem_map_of_mem hmem), value,
          (firstValue?_eq_some_iff hnodup).mpr hmem, rfl, rfl⟩
  have hvalues : (columns.filterMap entryOf).map Prod.snd =
      columns.filterMap (Placeholder.firstValue? row) := by
    rw [List.map_filterMap]
    refine List.filterMap_congr fun column _ => ?_
    cases h : Placeholder.firstValue? row column <;> simp [entryOf, h]
  exact hvalues ▸ hentries.map Prod.snd

end Slots

/-! ## The statement -/

namespace Query

variable {naming : Naming} {query : Query} {table : String}

/-- The slots of the rows, by the columns of the insertion. -/
def insertMatrix (query : Query) : List (List (Option Value)) :=
  query.rows.map fun row => query.insertColumns.map (Placeholder.firstValue? row)

theorem sql_insertSlot (row : InsertRow) (column : String) :
    (insertSlot row column).sql = slotText (Placeholder.firstValue? row column) := by
  unfold insertSlot
  rw [Placeholder.lookup_eq_firstValue?]
  cases Placeholder.firstValue? row column <;> simp [Template.sql, Piece.sql, slotText,
    Value.placeholder]

theorem sql_insertTuple (columns : List String) (row : InsertRow) :
    (insertTuple columns row).sql =
      tupleText (columns.map (Placeholder.firstValue? row)) := by
  unfold insertTuple tupleText
  simp only [Template.sql_cons, Template.sql_append, Template.sql_joinWith, List.map_map,
    Function.comp_def, sql_insertSlot]
  simp [Template.sql, Piece.sql, String.append_assoc]

theorem sql_insertTemplate_of_columns (h : query.insertColumns ≠ []) :
    (query.insertTemplate naming table).sql =
      "insert into " ++ query.spell naming table ++ " (" ++
        commaJoin (query.insertColumns.map (query.spell naming)) ++ ") values " ++
        commaJoin (query.insertMatrix.map tupleText) := by
  unfold insertTemplate insertMatrix
  simp only [List.isEmpty_iff, h, if_false, Template.sql_cons, Template.sql_joinWith, List.map_map,
    Function.comp_def, sql_insertTuple]
  rfl

theorem insertTemplate_of_no_columns (h : query.insertColumns = []) :
    query.insertTemplate naming table = [] := by
  simp [insertTemplate, h]

/-- Every value of a row without repeated names goes to a slot. -/
theorem perm_binds_insertTemplate (h : ∀ row ∈ query.rows, (row.map Prod.fst).Nodup) :
    (query.insertTemplate naming table).binds.Perm
      (query.rows.flatMap fun row => row.map Prod.snd) := by
  rw [binds_insertTemplate]
  refine List.Perm.flatMap_left _ fun row hrow => ?_
  refine perm_filterMap_firstValue? (h row hrow) (firstAppearances_eraseDups _).nodup ?_
  intro name hname
  exact List.mem_eraseDups.mpr (List.mem_flatMap.mpr ⟨row, hrow, hname⟩)

/-- The statement of an insertion is made of its matrix. -/
theorem inserts_insertTemplate :
    query.Inserts naming table query.insertColumns query.insertMatrix
      (query.statementOf (query.insertTemplate naming table)) where
  names := firstAppearances_eraseDups _
  slots := by
    refine List.forall₂_map_right_iff.mpr (List.forall₂_same.mpr fun row _ => ?_)
    exact List.forall₂_map_right_iff.mpr (List.forall₂_same.mpr fun column _ =>
      fills_firstValue? row column)
  blank h := by
    rw [insertTemplate_of_no_columns h]
    exact ⟨rfl, rfl⟩
  sql := sql_insertTemplate_of_columns
  binds := by
    refine (binds_insertTemplate table).trans ?_
    rw [insertMatrix, List.flatMap_map]
    simp only [List.reduceOption, List.filterMap_map, Function.id_comp]
  rearranged := perm_binds_insertTemplate

theorem templateOn_of_insert (hmethod : query.method = .insert) :
    query.templateOn naming table = query.insertTemplate naming table := by
  unfold templateOn
  rw [hmethod]

/-- An insertion into a table becomes the statement that inserts the matrix of its rows, unless it
asks for returned columns, which is refused. -/
theorem inserts_of_insert (naming : Naming) (hmethod : query.method = .insert)
    (htable : query.table = some table) :
    (query.returning ≠ [] →
      query.compile naming = .error (.unsupported "snowflake" "returning")) ∧
    (query.returning = [] → ∃ columns matrix statement,
      query.compile naming = .ok statement ∧
      query.Inserts naming table columns matrix statement) := by
  have hraw : query.method ≠ .raw := by
    rw [hmethod]
    exact nofun
  constructor
  · intro hreturning
    rw [compile_eq_compiled hraw]
    exact if_pos hreturning
  · intro hreturning
    have hcompile : query.compile naming =
        .ok (query.statementOf (query.insertTemplate naming table)) := by
      refine (compile_eq_ok_iff hraw).mpr
        ⟨hreturning, table, htable, ?_, by rw [templateOn_of_insert hmethod]⟩
      intro hupdate
      rw [hmethod] at hupdate
      cases hupdate
    exact ⟨_, _, _, hcompile, inserts_insertTemplate⟩

/-- Three rows, one of them empty, with their columns in different orders. -/
def raggedInsert : Query :=
  (insert "t").applyAll
    [.row [("b", .int 1), ("a", .int 2)], .row [], .row [("a", .null), ("c", .int 3)]]

theorem inserts_of_insert_raggedInsert :
    raggedInsert.method = .insert ∧ raggedInsert.table = some "t" ∧ ∃ columns matrix statement,
      raggedInsert.compile .folded = .ok statement ∧
      raggedInsert.Inserts .folded "t" columns matrix statement ∧
      statement.sql = "insert into \"T\" (\"B\", \"A\", \"C\") values " ++
        "(?, ?, DEFAULT), (DEFAULT, DEFAULT, DEFAULT), (DEFAULT, ?, ?)" ∧
      statement.binds.Perm [.int 1, .int 2, .null, .int 3] := by
  have hcompile : raggedInsert.compile .folded =
      .ok (raggedInsert.statementOf (raggedInsert.insertTemplate .folded "t")) := rfl
  obtain ⟨columns, matrix, statement, hstatement, hinserts⟩ :=
    (@inserts_of_insert raggedInsert "t" .folded rfl rfl).2 rfl
  have hnodup : ∀ row ∈ raggedInsert.rows, (row.map Prod.fst).Nodup := by
    simp [raggedInsert, insert, applyAll, QueryCall.apply]
  refine ⟨rfl, rfl, columns, matrix, statement, hstatement, hinserts, ?_,
    hinserts.rearranged hnodup⟩
  rw [hcompile] at hstatement
  cases hstatement
  decide +kernel

end Query

end SnowflakeSql
