import Mathlib.Data.List.Forall2
import SnowflakeSql.Client

/-!
# What table changes come to

Every command of a table change is carried out once, in call order, whatever the naming and the
schema.  In a creation the constraints stand in the statement that creates the table, after its
columns, and the other commands have statements of their own after it; in an alteration all of them
do, after the columns that are added.  Commands on indexes have no statement anywhere but a warning
each.  `CarriedOut` says so of a report, with the text of every statement, and
`carriedOut_compileTable` that the report of every table change is of that kind.
-/

namespace SnowflakeSql

open Text

namespace TableCommand

/-- Whether the command asks for a constraint. -/
def isConstraint : TableCommand → Bool
  | primary _ _ | unique _ _ => true
  | _ => false

/-- Whether the command is about an index. -/
def isIndex : TableCommand → Bool
  | index _ _ | dropIndex _ _ => true
  | _ => false

/-- Whether the command has a statement of its own, where `creates` says whether the change creates
the table. -/
def standsAlone (creates : Bool) : TableCommand → Bool
  | dropColumns _ | renameColumn _ _ | comment _ => true
  | primary _ _ | unique _ _ => !creates
  | index _ _ | dropIndex _ _ => false

end TableCommand

namespace TableChange

variable (naming : Naming) (schema : Option String) (change : TableChange)

/-- The name of the table with underscores for dots and hyphens. -/
def underscored : String := change.name.map fun c => if c = '.' ∨ c = '-' then '_' else c

/-- The constraint that a command asks for.  Without a name it is given one in lower case that tells
the table, the columns that are to be unique, and what it is. -/
inductive Constrains : TableCommand → String → Prop
  | primary (columns : List String) (name : Option String) :
    Constrains (.primary columns name)
      ("constraint " ++
        naming.wrap none (name.getD (lowerString (change.underscored ++ "_pkey"))) ++
        " primary key (" ++
        (if columns = [] then "*" else commaJoin (columns.map (naming.wrap none))) ++ ")")
  | unique (columns : List String) (name : Option String) :
    Constrains (.unique columns name)
      ("constraint " ++
        naming.wrap none (name.getD
          (lowerString (change.underscored ++ "_" ++ "_".intercalate columns ++ "_unique"))) ++
        " unique (" ++
        (if columns = [] then "*" else commaJoin (columns.map (naming.wrap none))) ++ ")")

/-- The statement of a command on the table that is spelled so. -/
inductive CarriesOut (table : String) : TableCommand → String → Prop
  | dropColumns (columns : List String) : CarriesOut table (.dropColumns columns)
    ("alter table " ++ table ++ " drop column " ++ commaJoin (columns.map (naming.wrap none)))
  | renameColumn (source target : String) : CarriesOut table (.renameColumn source target)
    ("alter table " ++ table ++ " rename column " ++ naming.wrap none source ++ " to " ++
      naming.wrap none target)
  | constraint {command : TableCommand} {text : String} : Constrains naming change command text →
    CarriesOut table command ("alter table " ++ table ++ " add " ++ text)
  | comment (text : String) : CarriesOut table (.comment text)
    ("comment on table " ++ table ++ " is " ++ literal text)

/-- The report of a change of the table that is spelled so, with every command carried out once. -/
structure CarriedOut (table : String) (report : Report (List Statement)) : Prop where
  /-- A creation needs a column. -/
  fails : change.action.creates = true → change.columns = [] →
    report = { result := .error (.emptyColumns "create table"), warnings := [] }
  /-- A creation has its columns and then its constraints in one statement, and after that the
  statements of the commands that stand alone. -/
  creates : change.action.creates = true → change.columns ≠ [] →
    ∃ constraints texts,
      List.Forall₂ (Constrains naming change) (change.commands.filter TableCommand.isConstraint)
        constraints ∧
      List.Forall₂ (CarriesOut naming change table)
        (change.commands.filter (TableCommand.standsAlone true)) texts ∧
      report.result = .ok ((("create table " ++
        (if change.action = .createIfNotExists then "if not exists " else "") ++ table ++ " (" ++
        commaJoin (change.columns.map (·.sql (naming.wrap none)) ++ constraints) ++ ")") ::
          texts).map .ofSql)
  /-- An alteration adds its columns one by one, and then carries out the commands one by one. -/
  alters : change.action.creates = false →
    ∃ texts,
      List.Forall₂ (CarriesOut naming change table)
        (change.commands.filter (TableCommand.standsAlone false)) texts ∧
      report.result = .ok ((change.columns.map (fun column =>
        "alter table " ++ table ++ " add column " ++ column.sql (naming.wrap none)) ++
          texts).map .ofSql)
  /-- There is one warning for all columns that ask for an index and one for each command on an
  index. -/
  warns : ∀ statements, report.result = .ok statements →
    report.warnings = List.replicate ((if change.columns.any (·.index.isPresent) then 1 else 0) +
      change.commands.countP TableCommand.isIndex) .noIndexes
  /-- No statement has values or is more than its text. -/
  plain : ∀ statements, report.result = .ok statements →
    ∀ statement ∈ statements, statement.method = .raw ∧ statement.binds = []

variable {naming schema change}

/-! ## One command -/

theorem nameBase_eq_underscored (change : TableChange) : change.nameBase = change.underscored := by
  unfold nameBase underscored
  rw [← String.toList_inj, String.toList_map, String.toList_ofList]

theorem columnList_eq_ite (naming : Naming) (columns : List String) :
    naming.columnList none columns =
      if columns = [] then "*" else commaJoin (columns.map (naming.wrap none)) := by
  cases columns with
  | nil => rfl
  | cons column columns => rfl

theorem constraintText_eq {kind : ConstraintKind} {words : String}
    (hwords : words = " " ++ kind.sql ++ " (") (columns : List String) (name : Option String) :
    change.constraintText naming kind columns name =
      "constraint " ++ naming.wrap none (name.getD (change.generatedName kind columns)) ++ words ++
        (if columns = [] then "*" else commaJoin (columns.map (naming.wrap none))) ++ ")" := by
  rw [hwords, ← columnList_eq_ite, ← String.append_assoc, ← String.append_assoc]
  rfl

theorem constraint?_of_constrains {command : TableCommand} {text : String}
    (h : Constrains naming change command text) :
    change.constraint? naming command = some text := by
  cases h with
  | primary columns name =>
    rw [← nameBase_eq_underscored]
    exact congrArg some (constraintText_eq rfl columns name)
  | unique columns name =>
    rw [← nameBase_eq_underscored]
    exact congrArg some (constraintText_eq rfl columns name)

theorem constraint?_of_isConstraint {command : TableCommand} (h : command.isConstraint = true) :
    ∃ text, change.constraint? naming command = some text ∧
      Constrains naming change command text := by
  cases command with
  | primary columns name =>
    exact ⟨_, constraint?_of_constrains (.primary columns name), .primary columns name⟩
  | unique columns name =>
    exact ⟨_, constraint?_of_constrains (.unique columns name), .unique columns name⟩
  | _ => cases h

theorem constraint?_eq_none {command : TableCommand} (h : command.isConstraint = false) :
    change.constraint? naming command = none := by
  cases command with
  | primary | unique => cases h
  | _ => rfl

theorem commandText?_of_constrains {command : TableCommand} {text : String}
    (halters : ¬change.action.creates = true) (h : Constrains naming change command text) :
    change.commandText? naming schema command =
      some ("alter table " ++ naming.wrap none (qualify schema change.name) ++ " add " ++
        text) := by
  have htext := constraint?_of_constrains h
  cases h <;> exact (if_neg halters).trans (congrArg (Option.map _) htext)

theorem commandText?_of_standsAlone {command : TableCommand}
    (h : command.standsAlone change.action.creates = true) :
    ∃ text, change.commandText? naming schema command = some text ∧
      CarriesOut naming change (naming.wrap none (qualify schema change.name)) command text := by
  cases command with
  | dropColumns columns => exact ⟨_, rfl, .dropColumns columns⟩
  | renameColumn source target => exact ⟨_, rfl, .renameColumn source target⟩
  | comment text => exact ⟨_, rfl, .comment text⟩
  | primary columns name =>
    have halters : ¬change.action.creates = true := by simpa [TableCommand.standsAlone] using h
    have hconstrains : Constrains naming change _ _ := .primary columns name
    exact ⟨_, commandText?_of_constrains halters hconstrains, .constraint hconstrains⟩
  | unique columns name =>
    have halters : ¬change.action.creates = true := by simpa [TableCommand.standsAlone] using h
    have hconstrains : Constrains naming change _ _ := .unique columns name
    exact ⟨_, commandText?_of_constrains halters hconstrains, .constraint hconstrains⟩
  | index | dropIndex => cases h

theorem commandText?_eq_none {command : TableCommand}
    (h : command.standsAlone change.action.creates = false) :
    change.commandText? naming schema command = none := by
  cases command with
  | dropColumns | renameColumn | comment => cases h
  | primary | unique =>
    have hcreates : change.action.creates = true := by simpa [TableCommand.standsAlone] using h
    exact if_pos hcreates
  | index | dropIndex => exact ite_self _

theorem commandWarnings_eq_replicate (command : TableCommand) :
    commandWarnings command = List.replicate (if command.isIndex then 1 else 0) .noIndexes := by
  cases command with
  | index => exact warningsOf_index
  | dropIndex => exact warningsOf_dropIndex
  | _ => rfl

/-! ## All commands -/

/-- What is done to the items that count, one by one, is done to the list of them. -/
theorem forall₂_filterMap {α β : Type} {R : α → β → Prop} {counts : α → Bool} {f : α → Option β}
    (hsome : ∀ {a}, counts a = true → ∃ b, f a = some b ∧ R a b)
    (hnone : ∀ {a}, counts a = false → f a = none) (items : List α) :
    List.Forall₂ R (items.filter counts) (items.filterMap f) := by
  induction items with
  | nil => exact .nil
  | cons a items ih =>
    cases h : counts a with
    | true =>
      obtain ⟨b, hb, hrel⟩ := hsome h
      rw [List.filter_cons_of_pos h, List.filterMap_cons_some hb]
      exact .cons hrel ih
    | false =>
      rw [List.filter_cons_of_neg (Bool.eq_false_iff.mp h), List.filterMap_cons_none (hnone h)]
      exact ih

theorem forall₂_constraints (naming : Naming) (change : TableChange) :
    List.Forall₂ (Constrains naming change) (change.commands.filter TableCommand.isConstraint)
      (change.commands.filterMap (change.constraint? naming)) :=
  forall₂_filterMap constraint?_of_isConstraint constraint?_eq_none change.commands

theorem forall₂_commandTexts (naming : Naming) (schema : Option String) (change : TableChange) :
    List.Forall₂ (CarriesOut naming change (naming.wrap none (qualify schema change.name)))
      (change.commands.filter (TableCommand.standsAlone change.action.creates))
      (change.commands.filterMap (change.commandText? naming schema)) :=
  forall₂_filterMap commandText?_of_standsAlone commandText?_eq_none change.commands

theorem flatMap_commandWarnings (commands : List TableCommand) :
    commands.flatMap commandWarnings =
      List.replicate (commands.countP TableCommand.isIndex) .noIndexes := by
  induction commands with
  | nil => rfl
  | cons command commands ih =>
    rw [List.flatMap_cons, commandWarnings_eq_replicate, ih, List.replicate_append_replicate,
      List.countP_cons, Nat.add_comm]

theorem warnings_eq_replicate (change : TableChange) :
    change.warnings = List.replicate ((if change.columns.any (·.index.isPresent) then 1 else 0) +
      change.commands.countP TableCommand.isIndex) .noIndexes := by
  unfold warnings
  rw [flatMap_commandWarnings, ← List.replicate_append_replicate]
  split_ifs
  · rw [warningsOf_index]
    rfl
  · rfl

/-- The statement of a comment stands behind that of the table, or those of the columns that are
added, and those of the commands before it. -/
theorem exists_statements_of_comment (naming : Naming) (schema : Option String)
    {change : TableChange} {before after : List TableCommand} {text : String}
    (h : change.commands = before ++ .comment text :: after) : ∃ front back : List String,
      change.statements naming schema = front ++ ("comment on table " ++
        naming.wrap none (qualify schema change.name) ++ " is " ++ literal text) :: back ∧
      front.length = (if change.action.creates then 1 else change.columns.length) +
        before.countP (TableCommand.standsAlone change.action.creates) := by
  have hlength : (before.filterMap (change.commandText? naming schema)).length =
      before.countP (TableCommand.standsAlone change.action.creates) := by
    rw [List.countP_eq_length_filter]
    exact (forall₂_filterMap commandText?_of_standsAlone commandText?_eq_none
      before).length_eq.symm
  have hcomment : change.commandText? naming schema (.comment text) = some ("comment on table " ++
      naming.wrap none (qualify schema change.name) ++ " is " ++ literal text) := rfl
  unfold statements
  rw [h, List.filterMap_append, List.filterMap_cons_some hcomment, ← List.append_assoc]
  refine ⟨_, _, rfl, ?_⟩
  rw [List.length_append, hlength]
  split_ifs
  · rfl
  · rw [List.length_map]

end TableChange

namespace Client

variable (client : Client) (schema : Option String) {change : TableChange}

theorem compileTable_of_lacksColumns (hcreates : change.action.creates = true)
    (hcolumns : change.columns = []) : client.compileTable schema change =
      { result := .error (.emptyColumns "create table"), warnings := [] } := by
  unfold compileTable
  rw [change.compile_of_lacksColumns _ _ hcreates hcolumns]
  rfl

theorem compileTable_eq_statements (h : change.action.creates = true → change.columns ≠ []) :
    client.compileTable schema change =
      { result := .ok ((change.statements client.compilerNaming schema).map .ofSql)
        warnings := change.warnings } := by
  unfold compileTable
  rw [change.compile_eq_statements _ _ h]
  rfl

/-- A comment has its statement in the place of its command. -/
theorem exists_compileTable_of_comment
    (hcolumns : change.action.creates = true → change.columns ≠ [])
    {before after : List TableCommand} {text : String}
    (hcommands : change.commands = before ++ .comment text :: after) :
    ∃ front back : List Statement,
      (client.compileTable schema change).result =
        .ok (front ++ .ofSql ("comment on table " ++
          client.compilerNaming.wrap none (qualify schema change.name) ++ " is " ++
            literal text) :: back) ∧
      front.length = (if change.action.creates then 1 else change.columns.length) +
        before.countP (TableCommand.standsAlone change.action.creates) := by
  obtain ⟨front, back, htexts, hlength⟩ :=
    TableChange.exists_statements_of_comment client.compilerNaming schema hcommands
  refine ⟨front.map .ofSql, back.map .ofSql, ?_, (List.length_map _).trans hlength⟩
  rw [client.compileTable_eq_statements schema hcolumns, htexts, List.map_append, List.map_cons]

/-- A table change that compiles has the statements of the change. -/
theorem compileTable_of_result_eq_ok {statements : List Statement}
    (h : (client.compileTable schema change).result = .ok statements) :
    statements = (change.statements client.compilerNaming schema).map .ofSql ∧
      (client.compileTable schema change).warnings = change.warnings := by
  by_cases hlacks : change.action.creates = true ∧ change.columns = []
  · rw [compileTable_of_lacksColumns client schema hlacks.1 hlacks.2] at h
    cases h
  · rw [compileTable_eq_statements client schema fun hcreates hcolumns =>
      hlacks ⟨hcreates, hcolumns⟩] at h ⊢
    exact ⟨(Except.ok.inj h).symm, rfl⟩

end Client

/-- The report of a table change carries out every command once. -/
theorem carriedOut_compileTable (client : Client) (schema : Option String) (change : TableChange) :
    change.CarriedOut client.compilerNaming
      (client.compilerNaming.wrap none (qualify schema change.name))
      (client.compileTable schema change) where
  fails := client.compileTable_of_lacksColumns schema
  creates hcreates hcolumns := by
    have hcommands := change.forall₂_commandTexts client.compilerNaming schema
    rw [hcreates] at hcommands
    refine ⟨_, _, change.forall₂_constraints client.compilerNaming, hcommands, ?_⟩
    rw [client.compileTable_eq_statements schema fun _ => hcolumns]
    unfold TableChange.statements
    rw [if_pos hcreates]
    rfl
  alters halters := by
    have hcommands := change.forall₂_commandTexts client.compilerNaming schema
    rw [halters] at hcommands
    refine ⟨_, hcommands, ?_⟩
    rw [client.compileTable_eq_statements schema
      fun hcreates => nomatch halters.symm.trans hcreates]
    unfold TableChange.statements
    rw [halters]
    rfl
  warns statements hstatements := by
    rw [(client.compileTable_of_result_eq_ok schema hstatements).2, change.warnings_eq_replicate]
  plain statements hstatements statement hmem := by
    rw [(client.compileTable_of_result_eq_ok schema hstatements).1] at hmem
    obtain ⟨_, -, rfl⟩ := List.mem_map.mp hmem
    exact ⟨rfl, rfl⟩

end SnowflakeSql
