import SnowflakeSql.Proofs.Identifier.Agreement
import SnowflakeSql.Proofs.Identifier.SelectList
import SnowflakeSql.Proofs.Query.InsertMatrix

/-!
# The names in an insertion

`insertedItems?` reads the column list off the text of an insertion.  The columns of the query are
told apart by their texts, and the items of the list by what these are spelled as, in capitals and
without the blanks around them.  So for columns that are one unquoted segment each
(`OneSegment`) no item stands in the list twice exactly if no two columns have the same stored
name (`nodup_insertedItems_iff`): rows that write one name in two ways make a list that has it
twice.
-/

namespace SnowflakeSql

open Text Identifier

/-- The name is one segment that is not quoted. -/
structure OneSegment (name : String) : Prop where
  unquoted : (trim name.toList).head? ≠ some '"'
  unaliased : splitAlias? name.toList = none
  undotted : '.' ∉ name.toList

/-- The items of the column list of an insertion, which stands behind the table. -/
def insertedItems? (sql : String) : Option (List Item) :=
  match readItem? (sql.toList.drop "insert into ".length) with
  | some (_, ' ' :: '(' :: rest) => (readItems? rest).map Prod.fst
  | _ => none

/-! ## The item of a column -/

theorem Segment.ofText_inj {text text' : String} : ofText text = ofText text' ↔ text = text' := by
  refine ⟨fun h => ?_, congrArg ofText⟩
  unfold ofText at h
  split_ifs at h with hstar hstar' hstar'
  · rw [hstar, hstar']
  · exact Segment.name.inj h

namespace OneSegment

variable {name name' : String}

theorem ofText_eq (h : OneSegment name) :
    Item.ofText name.toList = ⟨[.ofText (storedName name)], none⟩ := by
  have hsegment : Segment.ofPart name.toList = .ofText (storedName name) := by
    unfold Segment.ofPart storedName Naming.fold
    rw [if_neg h.unquoted, storedChars_of_unquoted h.unquoted]
  unfold Item.ofText
  rw [h.unaliased, splitOn_of_not_mem h.undotted]
  simp only [List.map_cons, List.map_nil, hsegment]

/-- Two columns have the same item if they have the same stored name. -/
theorem ofText_eq_iff (h : OneSegment name) (h' : OneSegment name') :
    Item.ofText name.toList = Item.ofText name'.toList ↔ storedName name = storedName name' := by
  rw [h.ofText_eq, h'.ofText_eq]
  simp [Segment.ofText_inj]

end OneSegment

/-! ## The column list -/

namespace Query

variable {query : Query} {statement : Statement}

/-- The columns of an insertion as the items that they are spelled as. -/
def insertItems (query : Query) : List Item :=
  query.insertColumns.map fun column => .ofText column.toList

/-- A row has a value under the name. -/
def Names (query : Query) (name : String) : Prop :=
  ∃ row ∈ query.rows, name ∈ row.map Prod.fst

theorem map_spelled_insertItems :
    query.insertItems.map Item.spelled = query.insertColumns.map (query.spell .folded) :=
  map_spelled_ofText query.context query.insertColumns

theorem insertedItems?_insertTemplate (table : String) (h : query.insertColumns ≠ []) :
    insertedItems? (query.insertTemplate .folded table).sql = some query.insertItems := by
  have htable : query.spell .folded table = (Item.ofText table.toList).spelled :=
    wrap_eq_spelled query.context table
  have hdrop : (query.insertTemplate .folded table).sql.toList.drop "insert into ".length =
      (Item.ofText table.toList).spelled.toList ++
        ' ' :: '(' :: ((commaJoin (query.insertColumns.map (query.spell .folded))).toList ++
          (") values " ++ commaJoin (query.insertMatrix.map tupleText)).toList) := by
    rw [sql_insertTemplate_of_columns h, htable]
    simp only [String.append_assoc, String.toList_append]
    exact List.drop_left
  have hfirst (rest : List Char) :
      readItem? ((Item.ofText table.toList).spelled.toList ++ ' ' :: '(' :: rest) =
        some (.ofText table.toList, ' ' :: '(' :: rest) :=
    readItem?_spelled (path_ofText_ne_nil _) (by simp) (by simp) (by simp [readLabel?])
  have hread : readItems? ((commaJoin (query.insertColumns.map (query.spell .folded))).toList ++
      (") values " ++ commaJoin (query.insertMatrix.map tupleText)).toList) = some _ :=
    readItems?_columns h query.context _ (by simp) (by simp) (by simp) (by simp [readLabel?])
  unfold insertedItems?
  simp only [hdrop, hfirst, hread, Option.map_some]
  rfl

theorem mem_insertColumns {name : String} : name ∈ query.insertColumns ↔ query.Names name :=
  List.mem_eraseDups.trans List.mem_flatMap

/-- The column list of an insertion has an item for each column, spelled as the column is, and no
two are the same exactly if no two names of the rows are stored as the same name. -/
theorem nodup_insertedItems_iff (hmethod : query.method = .insert)
    (hnames : ∀ name, query.Names name → OneSegment name)
    (hcompile : query.compile .folded = .ok statement) (hsql : statement.isEmpty = false) :
    ∃ items, insertedItems? statement.sql = some items ∧
      items.map Item.spelled = query.insertColumns.map (query.spell .folded) ∧
      (items.Nodup ↔ ∀ name name', query.Names name → query.Names name' →
        storedName name = storedName name' → name = name') := by
  have hraw : query.method ≠ .raw := by
    rw [hmethod]
    exact nofun
  obtain ⟨-, table, -, -, rfl⟩ := (compile_eq_ok_iff hraw).mp hcompile
  rw [templateOn_of_insert hmethod] at hsql ⊢
  have hcolumns : query.insertColumns ≠ [] := by
    intro hnil
    rw [insertTemplate_of_no_columns hnil] at hsql
    cases hsql
  refine ⟨query.insertItems, insertedItems?_insertTemplate table hcolumns,
    map_spelled_insertItems, ?_⟩
  have hinj := List.nodup_map_iff_inj_on (f := fun column : String => Item.ofText column.toList)
    (firstAppearances_eraseDups (query.rows.flatMap fun row => row.map Prod.fst)).nodup
  refine hinj.trans ⟨fun h name name' hname hname' hstored => ?_,
    fun h name hname name' hname' hitem => ?_⟩
  · refine h name (mem_insertColumns.mpr hname) name' (mem_insertColumns.mpr hname') ?_
    exact ((hnames name hname).ofText_eq_iff (hnames name' hname')).mpr hstored
  · have hgiven := mem_insertColumns.mp hname
    have hgiven' := mem_insertColumns.mp hname'
    refine h name name' hgiven hgiven' ?_
    exact ((hnames name hgiven).ofText_eq_iff (hnames name' hgiven')).mp hitem

/-- Two rows that write one name in two ways. -/
def twiceNamed : Query := (insert "t").applyAll [.row [("a", .int 1)], .row [("A", .int 2)]]

/-- The column list of that insertion has one name twice. -/
theorem nodup_insertedItems_iff_twiceNamed :
    (∀ name, twiceNamed.Names name → OneSegment name) ∧
    ∃ statement items, twiceNamed.compile .folded = .ok statement ∧ statement.isEmpty = false ∧
      statement.sql = "insert into \"T\" (\"A\", \"A\") values (?, DEFAULT), (DEFAULT, ?)" ∧
      insertedItems? statement.sql = some items ∧ ¬ items.Nodup := by
  have hnames : ∀ name, twiceNamed.Names name → OneSegment name := by
    rintro name ⟨row, hrow, hname⟩
    obtain rfl | rfl : name = "a" ∨ name = "A" := by
      simp only [twiceNamed, insert, applyAll, QueryCall.apply, List.foldl_cons, List.foldl_nil,
        List.nil_append, List.mem_append, List.mem_singleton] at hrow
      rcases hrow with rfl | rfl
      · exact .inl (by simpa using hname)
      · exact .inr (by simpa using hname)
    · exact ⟨by decide, rfl, by decide⟩
    · exact ⟨by decide, rfl, by decide⟩
  have hcompile : twiceNamed.compile .folded =
      .ok (twiceNamed.statementOf (twiceNamed.insertTemplate .folded "t")) := rfl
  have hsql : (twiceNamed.insertTemplate .folded "t").sql =
      "insert into \"T\" (\"A\", \"A\") values (?, DEFAULT), (DEFAULT, ?)" := by
    decide +kernel
  have hblank : (twiceNamed.statementOf
      (twiceNamed.insertTemplate .folded "t")).isEmpty = false := by
    unfold Statement.isEmpty statementOf
    rw [hsql]
    rfl
  obtain ⟨items, hitems, -, hnodup⟩ := nodup_insertedItems_iff rfl hnames hcompile hblank
  refine ⟨hnames, _, items, hcompile, hblank, hsql, hitems, fun h => ?_⟩
  have hsame := hnodup.mp h "a" "A" ⟨_, List.mem_cons_self, List.mem_cons_self⟩
    ⟨_, List.mem_cons_of_mem _ List.mem_cons_self, List.mem_cons_self⟩ (by decide +kernel)
  exact absurd hsame (by decide)

end Query

end SnowflakeSql
