import SnowflakeSql.Proofs.Identifier.Reading
import SnowflakeSql.Proofs.Table.Commands

/-!
# Literals

A text is one literal if it stands between single quotes, the quotes inside it come in pairs, and a
reader that starts at its first character stops behind its last one; the literal says what is left
when each pair of quotes is made one (`IsLiteral`).  Inline values that are texts, documents, dates
or timestamps are such literals, and so are the comments of tables and the members of a standard
enumeration, whose list is read back as the list of values (`readEnumeration?`).
`literals_readBack` says so of all of them.
-/

namespace SnowflakeSql

open Text

/-! ## One literal -/

namespace Text

/-- Every mark in the text stands beside another one, in pairs from the left. -/
inductive Paired (mark : Char) : List Char → Prop
  | nil : Paired mark []
  | pair {cs : List Char} : Paired mark cs → Paired mark (mark :: mark :: cs)
  | other {c : Char} {cs : List Char} : c ≠ mark → Paired mark cs → Paired mark (c :: cs)

theorem paired_double (mark : Char) (cs : List Char) : Paired mark (double mark cs) := by
  induction cs with
  | nil => exact .nil
  | cons c cs ih =>
    unfold double
    split_ifs with hc
    · exact .pair ih
    · exact .other hc ih

/-- The SQL text is one literal, which says the content. -/
structure IsLiteral (sql content : String) : Prop where
  /-- It stands between quotes, with its own quotes in pairs, and undoubling gives the content. -/
  enclosed : ∃ body, sql.toList = '\'' :: (body ++ ['\'']) ∧ Paired '\'' body ∧
    halve '\'' body = content.toList
  /-- It is read to its last character, whatever follows, unless that is a quote again. -/
  read : ∀ rest : List Char, rest.head? ≠ some '\'' →
    readEnclosed? '\'' (sql.toList ++ rest) = some (content.toList, rest)

theorem isLiteral_literal (content : String) : IsLiteral (literal content) content where
  enclosed := ⟨double '\'' content.toList, toList_encloseString '\'' content, paired_double _ _,
    halve_double _ _⟩
  read rest h := by
    rw [toList_encloseString]
    exact readEnclosed?_enclose '\'' content.toList h

/-! ## Lists of literals -/

/-- Reads literals with commas between them, and gives what follows the last. -/
def readLiterals? (cs : List Char) : Option (List String × List Char) :=
  match _h : readEnclosed? '\'' cs with
  | none => none
  | some (body, ',' :: ' ' :: rest) =>
    (readLiterals? rest).map fun (contents, rest) => (String.ofList body :: contents, rest)
  | some (body, rest) => some ([String.ofList body], rest)
termination_by cs.length
decreasing_by
  have hlt := length_of_readEnclosed? _h
  simp only [List.length_cons] at hlt
  omega

theorem readLiterals?_of_comma {cs body rest : List Char}
    (h : readEnclosed? '\'' cs = some (body, ',' :: ' ' :: rest)) :
    readLiterals? cs =
      (readLiterals? rest).map fun (contents, rest) => (String.ofList body :: contents, rest) := by
  rw [readLiterals?]
  split
  · next hnone => cases h.symm.trans hnone
  · next hcomma =>
    cases h.symm.trans hcomma
    rfl
  · next hnot hsome =>
    cases h.symm.trans hsome
    exact absurd rfl (hnot _)

theorem readLiterals?_of_end {cs body rest : List Char}
    (h : readEnclosed? '\'' cs = some (body, rest)) (hcomma : rest.head? ≠ some ',') :
    readLiterals? cs = some ([String.ofList body], rest) := by
  rw [readLiterals?]
  split
  · next hnone => cases h.symm.trans hnone
  · next hsome =>
    cases h.symm.trans hsome
    exact absurd rfl hcomma
  · next hsome =>
    cases h.symm.trans hsome
    rfl

theorem readLiterals?_parenthesis : readLiterals? [')'] = none := by
  rw [readLiterals?]
  split
  · rfl
  · next h => cases h
  · next h => cases h

/-- Literals with commas between are read back, up to what ends them. -/
theorem readLiterals?_commaJoin {contents : List String} (hne : contents ≠ []) {rest : List Char}
    (hquote : rest.head? ≠ some '\'') (hcomma : rest.head? ≠ some ',') :
    readLiterals? ((commaJoin (contents.map literal)).toList ++ rest) = some (contents, rest) := by
  induction contents with
  | nil => exact absurd rfl hne
  | cons content contents ih =>
    cases contents with
    | nil =>
      have hread := (isLiteral_literal content).read rest hquote
      have hend := readLiterals?_of_end hread hcomma
      rw [String.ofList_toList] at hend
      exact hend
    | cons next contents =>
      have htext : (commaJoin ((content :: next :: contents).map literal)).toList ++ rest =
          (literal content).toList ++
            ',' :: ' ' :: ((commaJoin ((next :: contents).map literal)).toList ++ rest) := by
        simp [commaJoin, String.intercalate_cons_cons]
      have hread := (isLiteral_literal content).read
        (',' :: ' ' :: ((commaJoin ((next :: contents).map literal)).toList ++ rest)) (by simp)
      rw [htext, readLiterals?_of_comma hread, ih (List.cons_ne_nil _ _), Option.map_some,
        String.ofList_toList]

/-- Reads the type of an enumeration: the contents of its literals, perhaps none. -/
def readEnumeration? (cs : List Char) : Option (List String) :=
  (cs.dropPrefix? "enum(".toList).bind fun list =>
    if list = [')'] then some [] else
      match readLiterals? list with
      | some (contents, [')']) => some contents
      | _ => none

end Text

/-! ## Enumerations -/

theorem ColumnType.readEnumeration?_standardSql (values : List String) :
    readEnumeration? (standardSql (.enum values)).toList = some values := by
  have htext : (standardSql (.enum values)).toList =
      "enum(".toList ++ ((commaJoin (values.map literal)).toList ++ [')']) := by
    simp [standardSql]
  have hdrop : (standardSql (.enum values)).toList.dropPrefix? "enum(".toList =
      some ((commaJoin (values.map literal)).toList ++ [')']) :=
    List.dropPrefix?_eq_some_iff.mpr ⟨_, htext, beq_self_eq_true _⟩
  unfold readEnumeration?
  rw [hdrop, Option.bind_some]
  cases values with
  | nil => rfl
  | cons value values =>
    have hread : readLiterals? ((commaJoin ((value :: values).map literal)).toList ++ [')']) =
        some (value :: values, [')']) :=
      readLiterals?_commaJoin (List.cons_ne_nil value values) (by decide) (by decide)
    have hsome : (commaJoin ((value :: values).map literal)).toList ++ [')'] ≠ [')'] := by
      intro hnone
      rw [hnone] at hread
      cases readLiterals?_parenthesis.symm.trans hread
    rw [if_neg hsome, hread]
    rfl

/-! ## Values -/

/-- The text of a value that is written as a literal. -/
inductive Value.HasText : Value → String → Prop
  | text (content : String) : HasText (.text content) content
  | json (document : Json) : HasText (.json document) document.text
  | date (day : Date) : HasText (.date day) day.text
  | timestamp (moment : Timestamp) : HasText (.timestamp moment) moment.text

theorem Value.HasText.isLiteral {value : Value} {content : String} (h : value.HasText content) :
    IsLiteral value.inline content := by
  cases h <;> exact isLiteral_literal _

/-- What is written as a literal is read back: the text of an inline value, the comment of a table,
which stands behind the words before it, and each value of a standard enumeration. -/
theorem literals_readBack :
    (∀ (value : Value) (content : String), value.HasText content →
      IsLiteral value.inline content) ∧
    (∀ (client : Client) (schema : Option String) (change : TableChange)
      (before after : List TableCommand) (content : String),
      change.commands = before ++ .comment content :: after →
      (change.action.creates = true → change.columns ≠ []) →
      ∃ (front : List Statement) (sql : String) (back : List Statement),
        (client.compileTable schema change).result =
          .ok (front ++ Statement.ofSql ("comment on table " ++
            client.compilerNaming.wrap none (qualify schema change.name) ++ " is " ++ sql) ::
              back) ∧
        front.length = (if change.action.creates then 1 else change.columns.length) +
          before.countP (TableCommand.standsAlone change.action.creates) ∧
        IsLiteral sql content) ∧
    (∀ values : List String, ∃ members : List String,
      ColumnType.standardSql (.enum values) = "enum(" ++ commaJoin members ++ ")" ∧
      List.Forall₂ IsLiteral members values ∧
      readEnumeration? (ColumnType.standardSql (.enum values)).toList = some values) := by
  refine ⟨fun value content => Value.HasText.isLiteral, ?comments, fun values => ?enumerations⟩
  case comments =>
    intro client schema change before after content hcommands hcolumns
    obtain ⟨front, back, hresult, hplace⟩ :=
      client.exists_compileTable_of_comment schema hcolumns hcommands
    exact ⟨front, _, back, hresult, hplace, isLiteral_literal content⟩
  case enumerations =>
    refine ⟨values.map literal, rfl, ?_, ColumnType.readEnumeration?_standardSql values⟩
    rw [List.forall₂_map_left_iff, List.forall₂_same]
    exact fun value _ => isLiteral_literal value

/-- A comment with quotes at its ends and inside. -/
def quotedNote : TableChange where
  name := "t"
  action := .alter
  commands := [.dropColumns ["a"], .comment "''it's'"]

theorem literals_readBack_quotedNote :
    Value.HasText (.text "'") "'" ∧ IsLiteral "''''" "'" ∧
    quotedNote.commands = [TableCommand.dropColumns ["a"]] ++ .comment "''it's'" :: [] ∧
    (quotedNote.action.creates = true → quotedNote.columns ≠ []) ∧
    ∃ (front : List Statement) (sql : String) (back : List Statement),
      (({} : Client).compileTable none quotedNote).result =
        .ok (front ++ Statement.ofSql ("comment on table \"T\" is " ++ sql) :: back) ∧
      front.length = 1 ∧ IsLiteral sql "''it's'" := by
  obtain ⟨hvalues, hcomments, -⟩ := literals_readBack
  have hvalue := hvalues (.text "'") "'" (.text "'")
  have hinline : (Value.text "'").inline = "''''" := by decide +kernel
  rw [hinline] at hvalue
  obtain ⟨front, sql, back, hresult, hplace, hliteral⟩ :=
    hcomments {} none quotedNote [.dropColumns ["a"]] [] "''it's'" rfl nofun
  have hspelled : ({} : Client).compilerNaming.wrap none (qualify none quotedNote.name) =
      "\"T\"" := by
    show Naming.folded.wrap none (qualify none "t") = "\"T\""
    decide +kernel
  rw [hspelled] at hresult
  exact ⟨.text "'", hvalue, rfl, nofun, front, sql, back, hresult, hplace, hliteral⟩

end SnowflakeSql
