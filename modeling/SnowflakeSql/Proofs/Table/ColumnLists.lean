import SnowflakeSql.Proofs.Identifier.SelectList
import SnowflakeSql.Proofs.Table.Commands

/-!
# Columns in the clauses of a table change

Three commands of a table change list columns: keys, unique constraints and the dropping of columns.
The clause of a command lists its columns, if it has any, and is read as the items that they mean
(`Lists`).  A command without columns is not refused: its constraint is one on a star, and it drops
nothing at all (`ListedAs`).  `ColumnLists` says so of all clauses that stand in the statements of a
change, wherever they stand, and `columnLists_of_compileTable` that the statements of every change
that compiles are of that kind.
-/

namespace SnowflakeSql

open Text Identifier

/-- The columns that the command lists, if it lists columns. -/
def TableCommand.listed? : TableCommand → Option (List String)
  | dropColumns columns | primary columns _ | unique columns _ => some columns
  | renameColumn _ _ | index _ _ | dropIndex _ _ | comment _ => none

/-- A list of the columns: there is one at least, and they stand in order as they are spelled, with
commas between.  Up to its end, or to the parenthesis behind it, the list is read as the items that
the columns mean. -/
structure Lists (columns : List String) (list : String) : Prop where
  nonempty : columns ≠ []
  text : list = commaJoin (columns.map (Naming.folded.wrap none))
  read : ∀ close ∈ ["", ")"], ∃ items,
    readItems? (list.toList ++ close.toList) = some (items, close.toList) ∧
      List.Forall₂ (fun column item => Item.Denotes column.toList item) columns items

/-- What stands in a clause for the columns of its command. -/
structure ListedAs (constrains : Bool) (columns : List String) (list : String) : Prop where
  lists : columns ≠ [] → Lists columns list
  lacks : columns = [] → list = if constrains then "*" else ""
  /-- A star alone, or nothing, stands for no columns and for one column that means a star. -/
  bare : list = "*" ∨ list = "" ↔
    columns = [] ∨ ∃ column, columns = [column] ∧ Item.Denotes column.toList ⟨[.star], none⟩

namespace TableChange

/-- The clause of a command on the table that is spelled so, with the list in the place of the
columns. -/
inductive ListClause (change : TableChange) (table list : String) : TableCommand → String → Prop
  | primary (columns : List String) (name : Option String) :
    ListClause change table list (.primary columns name)
      ("constraint " ++ Naming.folded.wrap none
        (name.getD (change.generatedName .primaryKey columns)) ++ " " ++
          ConstraintKind.primaryKey.sql ++ " (" ++ list ++ ")")
  | unique (columns : List String) (name : Option String) :
    ListClause change table list (.unique columns name)
      ("constraint " ++ Naming.folded.wrap none
        (name.getD (change.generatedName .unique columns)) ++ " " ++
          ConstraintKind.unique.sql ++ " (" ++ list ++ ")")
  | dropColumns (columns : List String) :
    ListClause change table list (.dropColumns columns)
      ("alter table " ++ table ++ " drop column " ++ list)

/-- The clause of a command that lists columns. -/
def ListsColumns (change : TableChange) (table : String) (command : TableCommand)
    (clause : String) : Prop :=
  ∃ columns list, command.listed? = some columns ∧
    change.ListClause table list command clause ∧ ListedAs command.isConstraint columns list

/-- The statement of a command that has one of its own. -/
inductive Stands (change : TableChange) (table : String) : TableCommand → String → Prop
  | added {command : TableCommand} {clause : String} : command.isConstraint = true →
    change.ListsColumns table command clause →
    Stands change table command ("alter table " ++ table ++ " add " ++ clause)
  | dropped {columns : List String} {clause : String} :
    change.ListsColumns table (.dropColumns columns) clause →
    Stands change table (.dropColumns columns) clause
  | other {command : TableCommand} (text : String) : command.listed? = none →
    Stands change table command text

/-- The statements of a change of the table that is spelled so, with what each clause lists. -/
structure ColumnLists (change : TableChange) (table : String) (texts : List String) : Prop where
  /-- In a creation the clauses of the constraints stand behind the columns. -/
  creates : change.action.creates = true → ∃ clauses alone,
    List.Forall₂ (change.ListsColumns table) (change.commands.filter TableCommand.isConstraint)
      clauses ∧
    List.Forall₂ (change.Stands table) (change.commands.filter (TableCommand.standsAlone true))
      alone ∧
    texts = ("create table " ++
      (if change.action = .createIfNotExists then "if not exists " else "") ++ table ++ " (" ++
      commaJoin (change.columns.map (·.sql (Naming.folded.wrap none)) ++ clauses) ++ ")") :: alone
  /-- In an alteration all clauses stand in statements of their own. -/
  alters : change.action.creates = false → ∃ alone,
    List.Forall₂ (change.Stands table) (change.commands.filter (TableCommand.standsAlone false))
      alone ∧
    texts = change.columns.map (fun column =>
      "alter table " ++ table ++ " add column " ++ column.sql (Naming.folded.wrap none)) ++ alone

end TableChange

/-! ## One list -/

theorem readItem?_nil : readItem? [] = none := by
  unfold readItem?
  rw [readPath?]
  rfl

theorem readItems?_nil : readItems? [] = none := by
  rw [readItems?]
  split
  · rfl
  · next h => cases readItem?_nil.symm.trans h
  · next h => cases readItem?_nil.symm.trans h

theorem readItems?_star : readItems? ['*'] = some ([⟨[.star], none⟩], []) :=
  readItems?_of_end (readItem?_eq_some_nil_iff.mpr ⟨List.cons_ne_nil _ _, rfl⟩) nofun

variable {columns : List String}

theorem readItems?_commaJoin (hne : columns ≠ []) {close : String} (hclose : close ∈ ["", ")"]) :
    readItems? ((commaJoin (columns.map (Naming.folded.wrap none))).toList ++ close.toList) =
      some (columns.map fun column => Item.ofText column.toList, close.toList) := by
  simp only [List.mem_cons, List.not_mem_nil, or_false] at hclose
  rcases hclose with rfl | rfl
  · exact readItems?_columns hne none _ nofun nofun nofun rfl
  · exact readItems?_columns hne none _ (by decide) (by decide) (by decide) rfl

theorem lists_commaJoin (hne : columns ≠ []) :
    Lists columns (commaJoin (columns.map (Naming.folded.wrap none))) where
  nonempty := hne
  text := rfl
  read close hclose := by
    refine ⟨_, readItems?_commaJoin hne hclose, ?_⟩
    rw [List.forall₂_map_right_iff, List.forall₂_same]
    exact fun column _ => denotes_iff.mpr rfl

/-- A list of columns is a star alone, or nothing, only if its one column means a star. -/
theorem commaJoin_bare_iff (hne : columns ≠ []) :
    commaJoin (columns.map (Naming.folded.wrap none)) = "*" ∨
        commaJoin (columns.map (Naming.folded.wrap none)) = "" ↔
      ∃ column, columns = [column] ∧ Item.Denotes column.toList ⟨[.star], none⟩ := by
  have hclose : "" ∈ ["", ")"] := by simp
  have hread := readItems?_commaJoin hne hclose
  constructor
  · rintro (hstar | hempty)
    · rw [hstar] at hread
      have hitems := Option.some.inj (readItems?_star.symm.trans hread)
      obtain ⟨column, hcolumn, hmeant⟩ :=
        List.map_eq_singleton_iff.mp (Prod.ext_iff.mp hitems).1.symm
      exact ⟨column, hcolumn, denotes_iff.mpr hmeant.symm⟩
    · rw [hempty] at hread
      cases readItems?_nil.symm.trans hread
  · rintro ⟨column, rfl, hstar⟩
    left
    show commaJoin [Naming.folded.wrap none column] = "*"
    rw [wrap_eq_spelled, ← denotes_iff.mp hstar]
    rfl

/-- What stands for the columns is told by what stands for some and what stands for none. -/
theorem listedAs_of_eq {constrains : Bool} {list : String}
    (hsome : columns ≠ [] → list = commaJoin (columns.map (Naming.folded.wrap none)))
    (hnone : columns = [] → list = if constrains then "*" else "") :
    ListedAs constrains columns list where
  lists hne := by
    rw [hsome hne]
    exact lists_commaJoin hne
  lacks := hnone
  bare := by
    by_cases hnil : columns = []
    · refine iff_of_true ?_ (.inl hnil)
      rw [hnone hnil]
      cases constrains with
      | true => exact .inl rfl
      | false => exact .inr rfl
    · rw [hsome hnil, commaJoin_bare_iff hnil]
      exact (or_iff_right hnil).symm

theorem listedAs_columnList (columns : List String) :
    ListedAs true columns (Naming.folded.columnList none columns) := by
  refine listedAs_of_eq (Naming.columnList_of_ne_nil _ _) fun hnil => ?_
  rw [hnil]
  rfl

theorem listedAs_commaJoin (columns : List String) :
    ListedAs false columns (commaJoin (columns.map (Naming.folded.wrap none))) := by
  refine listedAs_of_eq (fun _ => rfl) fun hnil => ?_
  rw [hnil]
  rfl

/-! ## One command -/

namespace TableChange

variable {change : TableChange} {command : TableCommand} {text : String}

theorem listsColumns_of_constrains (table : String)
    (h : Constrains Naming.folded change command text) :
    command.isConstraint = true ∧ change.ListsColumns table command text := by
  have htext := constraint?_of_constrains h
  cases h with
  | primary columns name =>
    refine ⟨rfl, columns, _, rfl, ?_, listedAs_columnList columns⟩
    rw [← Option.some.inj htext]
    exact .primary columns name
  | unique columns name =>
    refine ⟨rfl, columns, _, rfl, ?_, listedAs_columnList columns⟩
    rw [← Option.some.inj htext]
    exact .unique columns name

theorem stands_of_carriesOut {table : String}
    (h : CarriesOut Naming.folded change table command text) :
    change.Stands table command text := by
  cases h with
  | dropColumns columns =>
    exact .dropped ⟨columns, _, rfl, .dropColumns columns, listedAs_commaJoin columns⟩
  | renameColumn source target => exact .other _ rfl
  | constraint hconstrains =>
    obtain ⟨hconstraint, hlists⟩ := listsColumns_of_constrains table hconstrains
    exact .added hconstraint hlists
  | comment text => exact .other _ rfl

end TableChange

/-- The statements of a table change list the columns of each command in its clause. -/
theorem columnLists_of_compileTable {client : Client} (hnaming : client.config.naming = none)
    {schema : Option String} {change : TableChange} {statements : List Statement}
    (h : (client.compileTable schema change).result = .ok statements) :
    change.ColumnLists (Naming.folded.wrap none (qualify schema change.name))
      (statements.map Statement.sql) := by
  have hfolded : client.compilerNaming = Naming.folded := by
    unfold Client.compilerNaming
    rw [hnaming]
    rfl
  have htexts : statements.map Statement.sql = change.statements Naming.folded schema := by
    rw [(client.compileTable_of_result_eq_ok schema h).1, hfolded, List.map_map]
    exact List.map_id _
  have hclauses := (change.forall₂_constraints Naming.folded).imp fun _ _ hconstrains =>
    (TableChange.listsColumns_of_constrains
      (Naming.folded.wrap none (qualify schema change.name)) hconstrains).2
  have halone := (change.forall₂_commandTexts Naming.folded schema).imp fun _ _ =>
    TableChange.stands_of_carriesOut
  rw [htexts]
  unfold TableChange.statements
  constructor
  · intro hcreates
    rw [hcreates] at halone
    refine ⟨_, _, hclauses, halone, ?_⟩
    rw [if_pos hcreates]
    rfl
  · intro halters
    rw [halters] at halone
    refine ⟨_, halone, ?_⟩
    rw [halters]
    rfl

/-- Commands with columns and without. -/
def emptyLists : TableChange where
  name := "t"
  action := .alter
  commands := [.primary [] none, .unique ["a, b", "c"] (some "u"), .dropColumns []]

/-- A key without columns is one on a star, and dropping no columns has no list. -/
theorem columnLists_emptyLists : ({} : Client).config.naming = none ∧
    ∃ statements, (({} : Client).compileTable none emptyLists).result = .ok statements ∧
      statements.map Statement.sql = [
        "alter table \"T\" add constraint \"T_PKEY\" primary key (*)",
        "alter table \"T\" add constraint \"U\" unique (\"A, B\", \"C\")",
        "alter table \"T\" drop column "] ∧
      emptyLists.ColumnLists "\"T\"" (statements.map Statement.sql) := by
  have hcreates : emptyLists.action.creates = true → emptyLists.columns ≠ [] := nofun
  have hcompile := ({} : Client).compileTable_eq_statements none hcreates
  have hresult := congrArg Report.result hcompile
  have hlists := columnLists_of_compileTable rfl hresult
  have htable : Naming.folded.wrap none (qualify none emptyLists.name) = "\"T\"" := by
    decide +kernel
  rw [htable] at hlists
  exact ⟨rfl, _, hresult, by decide +kernel, hlists⟩

end SnowflakeSql
