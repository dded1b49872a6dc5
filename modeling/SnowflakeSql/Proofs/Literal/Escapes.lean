import SnowflakeSql.Proofs.Literal.Single

/-!
# Literals with escapes

The backend reads more into a literal than pairs of quotes: a backslash escapes the character after
it, which then stands for another one and neither closes the literal nor pairs with a quote
(`readEscaped?`).  A literal is written without regard to that.  It is still read to its last
character if no escape takes a quote or the end (`keepsQuotes`), and what it says then is the text
with its escapes carried out (`unescaped`).  So the comment of a table arrives as it is given
exactly if it has no backslash (`comment_read_iff`), and one with a quote behind a backslash can end
its literal too early (`comment_breaksOut`).
-/

namespace SnowflakeSql

open Text

namespace Text

variable (escaped : Char → Char)

/-- Reads to the quote that closes a literal: what it says, and what follows the quote.  A
backslash and the character after it stand for what `escaped` gives for that character. -/
def readEscapedBody? : List Char → Option (List Char × List Char)
  | [] => none
  | ['\\'] => none
  | '\\' :: c :: cs => (readEscapedBody? cs).map fun (body, rest) => (escaped c :: body, rest)
  | '\'' :: '\'' :: cs => (readEscapedBody? cs).map fun (body, rest) => ('\'' :: body, rest)
  | '\'' :: cs => some ([], cs)
  | c :: cs => (readEscapedBody? cs).map fun (body, rest) => (c :: body, rest)

/-- Reads one literal with escapes: what it says, and what follows it. -/
def readEscaped? : List Char → Option (List Char × List Char)
  | '\'' :: cs => readEscapedBody? escaped cs
  | _ => none

/-- The text with its escapes carried out, from the left. -/
def unescaped : List Char → List Char
  | '\\' :: c :: cs => escaped c :: unescaped cs
  | c :: cs => c :: unescaped cs
  | [] => []

/-- Whether no escape of the text, taken from the left, takes a quote or what stands behind the
text. -/
def keepsQuotes : List Char → Bool
  | [] => true
  | ['\\'] => false
  | '\\' :: c :: cs => c ≠ '\'' && keepsQuotes cs
  | _ :: cs => keepsQuotes cs

variable {escaped}

/-! ## One character at a time -/

theorem readEscapedBody?_of_ne {c : Char} (hescape : c ≠ '\\') (hquote : c ≠ '\'')
    (cs : List Char) : readEscapedBody? escaped (c :: cs) =
      (readEscapedBody? escaped cs).map fun (body, rest) => (c :: body, rest) := by
  rw [readEscapedBody?]
  all_goals simp_all

theorem readEscapedBody?_close {c : Char} (h : c ≠ '\'') (cs : List Char) :
    readEscapedBody? escaped ('\'' :: c :: cs) = some ([], c :: cs) := by
  rw [readEscapedBody?]
  simp_all

theorem unescaped_of_ne {c : Char} (h : c ≠ '\\') (cs : List Char) :
    unescaped escaped (c :: cs) = c :: unescaped escaped cs := by
  rw [unescaped]
  simp_all

theorem keepsQuotes_of_ne {c : Char} (h : c ≠ '\\') (cs : List Char) :
    keepsQuotes (c :: cs) = keepsQuotes cs := by
  rw [keepsQuotes]
  all_goals simp_all

/-- What starts no escape is no backslash. -/
theorem ne_backslash_of_cons {c : Char} {cs : List Char} (hlast : c = '\\' → cs = [] → False)
    (hescape : ∀ d ds, c = '\\' → cs = d :: ds → False) : c ≠ '\\' := fun hc => by
  cases cs with
  | nil => exact hlast hc rfl
  | cons d ds => exact hescape d ds hc rfl

/-- One more character at the front of what is read, and nothing behind it. -/
theorem map_cons_eq_some_iff {read : Option (List Char × List Char)} {c : Char}
    {body : List Char} : (read.map fun (body, rest) => (c :: body, rest)) = some (body, []) ↔
      ∃ tail, read = some (tail, []) ∧ body = c :: tail := by
  rw [Option.map_eq_some_iff]
  constructor
  · rintro ⟨⟨tail, rest⟩, hread, hpair⟩
    cases hpair
    exact ⟨tail, hread, rfl⟩
  · rintro ⟨tail, hread, rfl⟩
    exact ⟨(tail, []), hread, rfl⟩

/-! ## Doubled texts -/

/-- After a quote without a partner a doubled text is not read to its end: the quotes pair
wrongly up to the next other character, or up to the end. -/
theorem readEscapedBody?_unpaired (cs body : List Char) :
    readEscapedBody? escaped ('\'' :: (double '\'' cs ++ ['\''])) ≠ some (body, []) := by
  induction cs generalizing body with
  | nil => nofun
  | cons c cs ih =>
    by_cases hc : c = '\''
    · rw [hc, double_cons_mark]
      intro h
      obtain ⟨tail, hread, -⟩ := map_cons_eq_some_iff.mp h
      exact ih tail hread
    · rw [double_cons_of_ne hc, List.cons_append, readEscapedBody?_close hc]
      nofun

/-- A doubled text is read to its end if its escapes keep off the quotes, and then says the text
with the escapes carried out. -/
theorem readEscapedBody?_double_iff (cs body : List Char) :
    readEscapedBody? escaped (double '\'' cs ++ ['\'']) = some (body, []) ↔
      keepsQuotes cs = true ∧ body = unescaped escaped cs := by
  fun_induction keepsQuotes cs generalizing body with
  | case1 =>
    show some ([], []) = some (body, []) ↔ true = true ∧ body = []
    simp [eq_comm]
  | case2 =>
    show none = some (body, []) ↔ false = true ∧ _
    simp
  | case3 c cs ih =>
    by_cases hc : c = '\''
    · refine iff_of_false (fun h => ?_) (by simp [hc])
      rw [hc, double_cons_of_ne (by decide), double_cons_mark] at h
      obtain ⟨tail, hread, -⟩ := map_cons_eq_some_iff.mp h
      exact readEscapedBody?_unpaired cs tail hread
    · rw [double_cons_of_ne (by decide), double_cons_of_ne hc]
      show (readEscapedBody? escaped (double '\'' cs ++ ['\''])).map _ = _ ↔ _
      rw [map_cons_eq_some_iff]
      simp only [ih, unescaped]
      simp [hc]
  | case4 c cs hlast hescape ih =>
    have hne : c ≠ '\\' := ne_backslash_of_cons hlast hescape
    have hread : readEscapedBody? escaped (double '\'' (c :: cs) ++ ['\'']) =
        (readEscapedBody? escaped (double '\'' cs ++ ['\''])).map
          fun (body, rest) => (c :: body, rest) := by
      by_cases hc : c = '\''
      · rw [hc, double_cons_mark]
        rfl
      · rw [double_cons_of_ne hc, List.cons_append, readEscapedBody?_of_ne hne hc]
    rw [hread, map_cons_eq_some_iff, unescaped_of_ne hne]
    simp only [ih]
    simp

/-! ## Texts without escapes -/

theorem length_unescaped_le (cs : List Char) : (unescaped escaped cs).length ≤ cs.length := by
  fun_induction unescaped escaped cs with
  | case1 c cs ih => simp only [List.length_cons]; omega
  | case2 c cs h ih => simp only [List.length_cons]; omega
  | case3 => exact Nat.le_refl _

/-- A text with a backslash gets shorter when its escapes are carried out. -/
theorem length_unescaped_lt {cs : List Char} (hkeeps : keepsQuotes cs = true)
    (h : '\\' ∈ cs) : (unescaped escaped cs).length < cs.length := by
  fun_induction keepsQuotes cs with
  | case1 => cases h
  | case2 => cases hkeeps
  | case3 c cs ih =>
    have hle : (unescaped escaped cs).length ≤ cs.length := length_unescaped_le cs
    rw [unescaped]
    simp only [List.length_cons]
    omega
  | case4 c cs hlast hescape ih =>
    have hne : c ≠ '\\' := ne_backslash_of_cons hlast hescape
    have hmem : '\\' ∈ cs := (List.mem_cons.mp h).resolve_left (Ne.symm hne)
    rw [unescaped_of_ne hne]
    exact Nat.succ_lt_succ (ih hkeeps hmem)

theorem unescaped_of_not_mem {cs : List Char} (h : '\\' ∉ cs) :
    keepsQuotes cs = true ∧ unescaped escaped cs = cs := by
  induction cs with
  | nil => exact ⟨rfl, rfl⟩
  | cons c cs ih =>
    rw [List.mem_cons, not_or] at h
    obtain ⟨hkeeps, hsame⟩ := ih h.2
    rw [keepsQuotes_of_ne (Ne.symm h.1), unescaped_of_ne (Ne.symm h.1), hsame]
    exact ⟨hkeeps, rfl⟩

/-- A literal is read to its last character and says its text exactly if that has no backslash. -/
theorem keepsQuotes_and_eq_unescaped_iff (cs : List Char) :
    keepsQuotes cs = true ∧ cs = unescaped escaped cs ↔ '\\' ∉ cs := by
  constructor
  · rintro ⟨hkeeps, hsame⟩ hmem
    have hlt : (unescaped escaped cs).length < cs.length := length_unescaped_lt hkeeps hmem
    exact absurd (congrArg List.length hsame) (Nat.ne_of_gt hlt)
  · intro h
    obtain ⟨hkeeps, hsame⟩ := unescaped_of_not_mem h
    exact ⟨hkeeps, hsame.symm⟩

theorem readEscaped?_literal_iff (content : String) (said : List Char) :
    readEscaped? escaped (literal content).toList = some (said, []) ↔
      keepsQuotes content.toList = true ∧ said = unescaped escaped content.toList := by
  rw [toList_encloseString]
  exact readEscapedBody?_double_iff content.toList said

end Text

/-! ## Comments -/

/-- The backend reads the comment of a table to the last character of its statement exactly if the
escapes of the comment keep off its quotes, and reads it as it is given exactly if it has no
backslash, whatever escaped characters stand for. -/
theorem comment_read_iff (escaped : Char → Char) (client : Client) (schema : Option String)
    {change : TableChange} {before after : List TableCommand} {content : String}
    (hcolumns : change.action.creates = true → change.columns ≠ [])
    (hcommands : change.commands = before ++ .comment content :: after) :
    ∃ (front : List Statement) (sql : String) (back : List Statement),
      (client.compileTable schema change).result =
        .ok (front ++ Statement.ofSql ("comment on table " ++
          client.compilerNaming.wrap none (qualify schema change.name) ++ " is " ++ sql) :: back) ∧
      front.length = (if change.action.creates then 1 else change.columns.length) +
        before.countP (TableCommand.standsAlone change.action.creates) ∧
      ((∃ said, readEscaped? escaped sql.toList = some (said, [])) ↔
        keepsQuotes content.toList = true) ∧
      (readEscaped? escaped sql.toList = some (content.toList, []) ↔ '\\' ∉ content.toList) := by
  obtain ⟨front, back, hresult, hplace⟩ :=
    client.exists_compileTable_of_comment schema hcolumns hcommands
  refine ⟨front, _, back, hresult, hplace, ?ends, ?same⟩
  case ends => simp only [readEscaped?_literal_iff, exists_and_left, exists_eq, and_true]
  case same => rw [readEscaped?_literal_iff, keepsQuotes_and_eq_unescaped_iff]

/-- A comment with an escape that keeps off its quotes. -/
def pathNote : TableChange where
  name := "t"
  action := .alter
  commands := [.dropColumns ["a"], .comment "it's in C:\\data"]

theorem comment_read_iff_pathNote :
    (pathNote.action.creates = true → pathNote.columns ≠ []) ∧
    pathNote.commands = [TableCommand.dropColumns ["a"]] ++ .comment "it's in C:\\data" :: [] ∧
    ∃ (front : List Statement) (sql : String) (back : List Statement),
      (({} : Client).compileTable none pathNote).result =
        .ok (front ++ Statement.ofSql ("comment on table \"T\" is " ++ sql) :: back) ∧
      front.length = 1 ∧
      (∃ said, readEscaped? id sql.toList = some (said, [])) ∧
      readEscaped? id sql.toList ≠ some ("it's in C:\\data".toList, []) := by
  have hcolumns : pathNote.action.creates = true → pathNote.columns ≠ [] := nofun
  have hcommands : pathNote.commands =
      [TableCommand.dropColumns ["a"]] ++ .comment "it's in C:\\data" :: [] := rfl
  obtain ⟨front, sql, back, hresult, hplace, hends, hsays⟩ :=
    comment_read_iff id {} none hcolumns hcommands
  have hspelled : ({} : Client).compilerNaming.wrap none (qualify none pathNote.name) =
      "\"T\"" := by
    show Naming.folded.wrap none (qualify none "t") = "\"T\""
    decide +kernel
  rw [hspelled] at hresult
  exact ⟨hcolumns, hcommands, front, sql, back, hresult, hplace, hends.mpr (by decide +kernel),
    mt hsays.mp (by decide +kernel)⟩

/-- A comment whose escape takes one of its quotes. -/
def breakingNote : TableChange where
  name := "t"
  action := .alter
  commands := [.comment "\\'; drop table u; --"]

/-- The backend ends the literal before its last character, and no other end of the statement is a
literal that says the comment. -/
theorem comment_breaksOut :
    (({} : Client).compileTable none breakingNote).result =
      .ok [.ofSql "comment on table \"T\" is '\\''; drop table u; --'"] ∧
    readEscaped? id "'\\''; drop table u; --'".toList =
      some (['\''], "; drop table u; --'".toList) ∧
    ∀ sql ∈ "comment on table \"T\" is '\\''; drop table u; --'".toList.tails,
      readEscaped? id sql ≠ some ("\\'; drop table u; --".toList, []) := by
  have htexts : breakingNote.statements Naming.folded none =
      ["comment on table \"T\" is '\\''; drop table u; --'"] := by
    decide +kernel
  refine ⟨?_, by decide +kernel, by decide +kernel⟩
  have hcolumns : breakingNote.action.creates = true → breakingNote.columns ≠ [] := nofun
  rw [({} : Client).compileTable_eq_statements none hcolumns]
  exact congrArg (fun texts => Except.ok (texts.map Statement.ofSql)) htexts

end SnowflakeSql
