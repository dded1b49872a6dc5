import SnowflakeSql.Proofs.Identifier.Reading
import SnowflakeSql.Proofs.Query.Compiled
import SnowflakeSql.Schema

/-!
# How statements and the catalogue name a table

A table is named twice over: the statements on it spell it as an identifier (`OnTable`), and the
questions to the catalogue bind the names it is stored under (`LooksUp`, `storedPath`).
`NamedAs schema table spelled asked` says which names the one and the other come to, for every
statement on the table, and `namedAs_of_wrap` finds both from the spelling of the table alone.
Changes of a table are given the schema and the table apart, and queries the full name that the two
make up (`FullName`).
-/

namespace SnowflakeSql

open Text Identifier

/-- The full name of a table in a schema.  A table with a dot names its schema itself. -/
inductive FullName : Option String → String → String → Prop
  | bare (table : String) : FullName none table table
  | within (schema : String) {table : String} : '.' ∉ table.toList →
    FullName (some schema) table (schema ++ "." ++ table)
  | dotted (schema : String) {table : String} : '.' ∈ table.toList →
    FullName (some schema) table table

/-- The statement asks a view of the catalogue for the table of the path, in its schema or else
in the current one, and for a column if one is given. -/
def LooksUp (view : String) (column : Option String) (statement : Statement) :
    (path : List String) → Prop
  | [table] =>
    statement.sql = "select * from information_schema." ++ view ++ " where table_name = ?" ++
      (if column.isSome then " and column_name = ?" else "") ++
      " and table_schema = current_schema()" ∧
    statement.binds = (table :: column.toList).map Value.text
  | [schema, table] =>
    statement.sql = "select * from information_schema." ++ view ++ " where table_name = ?" ++
      (if column.isSome then " and column_name = ?" else "") ++ " and table_schema = ?" ∧
    statement.binds = (table :: column.toList ++ [schema]).map Value.text
  | _ => False

/-- How statements on a table spell it, read back, and what the questions about it ask for. -/
structure NamedAs (schema : Option String) (table : String) (spelled asked : List String) :
    Prop where
  change : ∀ change : TableChange, change.name = table →
    (change.action.creates && change.columns.isEmpty) = false →
    ∃ statements, (SchemaScript.compileCommand .folded schema (.table change)).result =
      .ok statements ∧
      ∀ statement ∈ statements, firstPath? statement.sql = some (spelled.map .name)
  dropTable : ∃ statement,
    SchemaScript.compileCommand .folded schema (.dropTable table) = .ok [statement] ∧
      firstPath? statement.sql = some (spelled.map .name)
  dropTableIfExists : ∃ statement,
    SchemaScript.compileCommand .folded schema (.dropTableIfExists table) = .ok [statement] ∧
      firstPath? statement.sql = some (spelled.map .name)
  renameTable : ∀ target, ∃ statement,
    SchemaScript.compileCommand .folded schema (.renameTable table target) = .ok [statement] ∧
      firstPath? statement.sql = some (spelled.map .name)
  select : ∀ (query : Query) (name : String), FullName schema table name →
    query.method = .select ∨ query.method = .first ∨ query.method = .pluck →
    query.table = some name → query.returning = [] →
    ∃ statement rest, query.compile .folded = .ok statement ∧
      statement.sql = "select " ++ Naming.folded.columnList query.context query.columns ++
        " from " ++ rest ∧
      (readPath? rest.toList).map Prod.fst = some (spelled.map .name)
  hasTable : ∃ statement,
    SchemaScript.compileCommand .folded schema (.hasTable table) = .ok [statement] ∧
      LooksUp "tables" none statement asked
  hasColumn : ∀ column, ∃ statement,
    SchemaScript.compileCommand .folded schema (.hasColumn table column) = .ok [statement] ∧
      LooksUp "columns" (some (storedName column)) statement asked
  columnInfo : ∀ (query : Query) (name : String), FullName schema table name →
    query.method = .columnInfo → query.table = some name → query.returning = [] →
    ∃ statement, query.compile .folded = .ok statement ∧ LooksUp "columns" none statement asked

/-- A table has one full name in a schema. -/
theorem fullName_iff {schema : Option String} {table name : String} :
    FullName schema table name ↔ name = qualify schema table := by
  constructor
  · intro h
    cases h with
    | bare => rfl
    | within schema hdot => exact (if_neg hdot).symm
    | dotted schema hdot => exact (if_pos hdot).symm
  · rintro rfl
    cases schema with
    | none => exact .bare table
    | some schema =>
      by_cases hdot : '.' ∈ table.toList
      · rw [show qualify (some schema) table = table from if_pos hdot]
        exact .dotted schema hdot
      · rw [show qualify (some schema) table = schema ++ "." ++ table from if_neg hdot]
        exact .within schema hdot

/-! ## What is asked -/

/-- The names that a table and its schema are stored under. -/
def storedPath (name : String) : List String :=
  match splitQualified name with
  | (some schema, table) => [storedName schema, storedName table]
  | (none, table) => [storedName table]

theorem splitQualified_of_not_mem {name : String} (h : '.' ∉ name.toList) :
    splitQualified name = (none, name) := by
  unfold splitQualified
  rw [splitLast?_of_not_mem h]

theorem splitQualified_of_eq {name : String} {schema table : List Char}
    (h : name.toList = schema ++ '.' :: table) (hdot : '.' ∉ table) :
    splitQualified name = (some (String.ofList schema), String.ofList table) := by
  unfold splitQualified
  rw [h, splitLast?_append_mark schema hdot]

theorem storedPath_eq_cons (name : String) : ∃ first rest, storedPath name = first :: rest := by
  unfold storedPath
  split <;> exact ⟨_, _, rfl⟩

theorem looksUp_lookup {statement : Statement} {view name : String} (column : Option String)
    (hsql : statement.sql = (Catalogue.lookup view name column).sql)
    (hbinds : statement.binds = (Catalogue.lookup view name column).binds) :
    LooksUp view (column.map storedName) statement (storedPath name) := by
  unfold Catalogue.lookup at hsql hbinds
  unfold storedPath
  generalize splitQualified name = parts at hsql hbinds ⊢
  obtain ⟨_ | schema, table⟩ := parts <;> cases column
  all_goals
    refine ⟨hsql.trans ?_, hbinds.trans ?_⟩
    · simp [Template.sql, Piece.sql, Catalogue.nameIs, Value.placeholder, String.join_cons,
        String.append_assoc]
    · simp [Template.binds, Piece.value?, Catalogue.nameIs, List.filterMap_cons]

theorem looksUp_existsStatement (schema : Option String) (view table : String)
    (column : Option String) :
    LooksUp view (column.map storedName) (SchemaScript.existsStatement schema view table column)
      (storedPath (qualify schema table)) := by
  apply looksUp_lookup column
  · rfl
  · rfl

theorem looksUp_columnInfo {query : Query} {name : String} (hmethod : query.method = .columnInfo)
    (htable : query.table = some name) (hreturning : query.returning = []) :
    ∃ statement, query.compile .folded = .ok statement ∧
      LooksUp "columns" none statement (storedPath name) := by
  have hnotRaw : query.method ≠ .raw := by rw [hmethod]; decide
  have hupdate : query.method = .update → query.assignments ≠ [] := by
    intro hm
    cases hmethod.symm.trans hm
  refine ⟨_, (Query.compile_eq_ok_iff hnotRaw).mpr ⟨hreturning, name, htable, hupdate, rfl⟩, ?_⟩
  have htemplate : query.templateOn .folded name = Catalogue.lookup "columns" name none := by
    unfold Query.templateOn
    rw [hmethod]
  exact looksUp_lookup none (congrArg Template.sql htemplate) (congrArg Template.binds htemplate)

/-! ## Statements on a table -/

/-- The text names the table after words without quotes, and goes on after a blank. -/
def OnTable (table sql : String) : Prop :=
  ∃ lead tail, sql = lead ++ table ++ tail ∧ '"' ∉ lead.toList ∧ tail.toList.head? = some ' '

theorem onTable_words {lead words table : String} (hlead : '"' ∉ lead.toList)
    (hwords : words.toList.head? = some ' ') : OnTable table (lead ++ table ++ words) :=
  ⟨lead, words, rfl, hlead, hwords⟩

theorem OnTable.append {table sql : String} (h : OnTable table sql) (rest : String) :
    OnTable table (sql ++ rest) := by
  obtain ⟨lead, tail, rfl, hlead, htail⟩ := h
  refine ⟨lead, tail ++ rest, String.append_assoc, hlead, ?_⟩
  rw [String.toList_append, List.head?_append, htail]
  rfl

namespace TableChange

variable {naming : Naming} {schema : Option String} {change : TableChange}

theorem onTable_createText :
    OnTable (change.tableText naming schema) (change.createText naming schema) := by
  have hlead : '"' ∉
      ("create table " ++ if change.action = .createIfNotExists then "if not exists " else
        "").toList := by
    split_ifs <;> decide
  exact ((onTable_words hlead (by decide)).append _).append _

theorem onTable_addColumnText (column : Column) :
    OnTable (change.tableText naming schema) (change.addColumnText naming schema column) :=
  (onTable_words (by decide) (by decide)).append _

theorem onTable_commandText? {command : TableCommand} {sql : String}
    (h : change.commandText? naming schema command = some sql) :
    OnTable (change.tableText naming schema) sql := by
  have hconstraint : ∀ text,
      OnTable (change.tableText naming schema)
        ("alter table " ++ change.tableText naming schema ++ " add " ++ text) :=
    fun text => (onTable_words (by decide) (by decide)).append text
  unfold commandText? at h
  split at h
  · rw [← Option.some.inj h]
    exact (onTable_words (by decide) (by decide)).append _
  · rw [← Option.some.inj h]
    exact (((onTable_words (by decide) (by decide)).append _).append _).append _
  · rw [← Option.some.inj h]
    exact (onTable_words (by decide) (by decide)).append _
  · split_ifs at h
    obtain ⟨text, -, rfl⟩ := Option.map_eq_some_iff.mp h
    exact hconstraint text

/-- All statements of a table change are on its table. -/
theorem onTable_of_mem_statements {sql : String} (h : sql ∈ change.statements naming schema) :
    OnTable (change.tableText naming schema) sql := by
  unfold statements at h
  rcases List.mem_append.mp h with hmain | hcommand
  · split_ifs at hmain
    · rw [List.mem_singleton.mp hmain]
      exact onTable_createText
    · obtain ⟨column, -, rfl⟩ := List.mem_map.mp hmain
      exact onTable_addColumnText column
  · obtain ⟨command, -, hsql⟩ := List.mem_filterMap.mp hcommand
    exact onTable_commandText? hsql

end TableChange

/-! ## Selections -/

/-- The text is empty or goes on after a blank. -/
def Apart (text : String) : Prop := ∀ c, text.toList.head? = some c → c = ' '

theorem apart_empty : Apart "" := fun _ h => nomatch h

theorem apart_of_head {text : String} (h : text.toList.head? = some ' ') : Apart text := by
  intro c hc
  exact (Option.some.inj (h.symm.trans hc)).symm

theorem Apart.append {text text' : String} (h : Apart text) (h' : Apart text') :
    Apart (text ++ text') := by
  intro c hc
  rw [String.toList_append, List.head?_append] at hc
  cases htext : text.toList.head? with
  | none => rw [htext] at hc; exact h' c hc
  | some d => rw [htext] at hc; exact Option.some.inj hc ▸ h d htext

theorem apart_words {words : String} (h : words.toList.head? = some ' ') (rest : String) :
    Apart (words ++ rest) := by
  refine apart_of_head ?_
  rw [String.toList_append, List.head?_append, h]
  rfl

theorem readPath?_of_apart {segments : List Segment} (hne : segments ≠ []) {rest : String}
    (h : Apart rest) :
    (readPath? (spelledPath segments ++ rest).toList).map Prod.fst = some segments := by
  have hhead : ∀ c : Char, c ≠ ' ' → rest.toList.head? ≠ some c := fun c hc hhead => hc (h c hhead)
  rw [String.toList_append,
    readPath?_spelledPath hne (hhead '"' (by decide)) (hhead '.' (by decide))]
  rfl

namespace Query

variable {naming : Naming} {query : Query}

theorem apart_whereTemplate : Apart (query.whereTemplate naming).sql := by
  unfold whereTemplate
  split_ifs
  · exact apart_empty
  · rw [Template.sql_cons]
    exact apart_words (by decide) _

theorem apart_orderText : Apart (query.orderText naming) := by
  unfold orderText
  split_ifs
  · exact apart_empty
  · exact apart_words (by decide) _

theorem apart_windowText (limit : Option Nat) : Apart (query.windowText limit) := by
  unfold windowText
  refine Apart.append ?_ ?_
  · cases limit with
    | none => exact apart_empty
    | some n => exact apart_words (by decide) _
  · split
    · exact apart_words (by decide) _
    · exact apart_empty

theorem sql_selectTemplate (naming : Naming) (query : Query) (limit : Option Nat) (table : String) :
    ∃ rest, Apart rest ∧ (query.selectTemplate naming limit table).sql =
      "select " ++ naming.columnList query.context query.columns ++ " from " ++
        (query.spell naming table ++ rest) := by
  refine ⟨(query.whereTemplate naming).sql ++ (query.orderText naming ++ query.windowText limit),
    apart_whereTemplate.append (apart_orderText.append (apart_windowText limit)), ?_⟩
  unfold selectTemplate
  rw [List.cons_append]
  simp [Template.sql, Piece.sql, String.join_append, String.append_assoc]

end Query

/-! ## Both names of a table -/

theorem firstPath?_of_onTable {first table sql : String} {rest : List String}
    (htable : table = spelledPath ((first :: rest).map .name)) (hsql : OnTable table sql) :
    firstPath? sql = some ((first :: rest).map .name) := by
  obtain ⟨lead, tail, rfl, hlead, htail⟩ := hsql
  rw [htable, List.map_cons]
  refine firstPath?_spelledPath first _ hlead ?_ ?_ <;> rw [htail] <;> decide

theorem firstPath?_of_end {first table lead : String} {rest : List String}
    (htable : table = spelledPath ((first :: rest).map .name)) (hlead : '"' ∉ lead.toList) :
    firstPath? (lead ++ table) = some ((first :: rest).map .name) := by
  have hread : firstPath? (lead ++ spelledPath ((first :: rest).map .name) ++ "") = _ :=
    firstPath?_spelledPath first _ hlead (by decide) (by decide)
  rwa [String.append_empty, ← htable] at hread

theorem result_compileCommand_table (schema : Option String) {change : TableChange}
    (h : (change.action.creates && change.columns.isEmpty) = false) :
    (SchemaScript.compileCommand .folded schema (.table change)).result =
      .ok ((change.statements .folded schema).map .ofSql) := by
  unfold SchemaScript.compileCommand TableChange.compile
  dsimp only
  rw [h]
  rfl

theorem readPath?_select {query : Query} {name first : String} {rest : List String}
    (hname : Naming.folded.wrap none name = spelledPath ((first :: rest).map .name))
    (hmethod : query.method = .select ∨ query.method = .first ∨ query.method = .pluck)
    (htable : query.table = some name) (hreturning : query.returning = []) :
    ∃ statement tail, query.compile .folded = .ok statement ∧
      statement.sql = "select " ++ Naming.folded.columnList query.context query.columns ++
        " from " ++ tail ∧
      (readPath? tail.toList).map Prod.fst = some ((first :: rest).map .name) := by
  obtain ⟨limit, htemplate⟩ : ∃ limit, query.templateOn .folded name =
      query.selectTemplate .folded limit name := by
    unfold Query.templateOn
    rcases hmethod with h | h | h <;> rw [h] <;> exact ⟨_, rfl⟩
  have hnotRaw : query.method ≠ .raw := by
    rcases hmethod with h | h | h <;> rw [h] <;> decide
  have hupdate : query.method = .update → query.assignments ≠ [] := by
    rcases hmethod with h | h | h <;> rw [h] <;> exact nofun
  obtain ⟨tail, hapart, hsql⟩ := Query.sql_selectTemplate .folded query limit name
  refine ⟨_, _, (Query.compile_eq_ok_iff hnotRaw).mpr ⟨hreturning, name, htable, hupdate, rfl⟩,
    (congrArg Template.sql htemplate).trans hsql, ?_⟩
  have hspell : query.spell .folded name = spelledPath ((first :: rest).map .name) := hname
  rw [hspell]
  exact readPath?_of_apart (List.cons_ne_nil _ _) hapart

/-- However a table is spelled, all statements on it spell it so. -/
theorem namedAs_of_wrap {schema : Option String} {table first : String} {rest : List String}
    (h : Naming.folded.wrap none (qualify schema table) =
      spelledPath ((first :: rest).map .name)) :
    NamedAs schema table (first :: rest) (storedPath (qualify schema table)) := by
  refine ⟨?_, ?_, ?_, ?_, ?_, ?_, ?_, ?_⟩
  · rintro change rfl hcreates
    refine ⟨_, result_compileCommand_table schema hcreates, fun statement hstatement => ?_⟩
    obtain ⟨sql, hsql, rfl⟩ := List.mem_map.mp hstatement
    exact firstPath?_of_onTable h (TableChange.onTable_of_mem_statements hsql)
  · exact ⟨_, rfl, firstPath?_of_end h (by decide)⟩
  · exact ⟨_, rfl, firstPath?_of_end h (by decide)⟩
  · intro target
    exact ⟨_, rfl, firstPath?_of_onTable h ((onTable_words (by decide) (by decide)).append _)⟩
  · intro query name hname hmethod htable hreturning
    rw [← fullName_iff.mp hname] at h
    exact readPath?_select h hmethod htable hreturning
  · exact ⟨_, rfl, looksUp_existsStatement schema "tables" table none⟩
  · intro column
    have hlooksUp := looksUp_existsStatement schema "columns" table (some column)
    exact ⟨_, rfl, hlooksUp⟩
  · intro query name hname hmethod htable hreturning
    rw [← fullName_iff.mp hname]
    exact looksUp_columnInfo hmethod htable hreturning

end SnowflakeSql
