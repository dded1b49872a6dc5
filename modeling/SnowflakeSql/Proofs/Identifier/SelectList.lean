import SnowflakeSql.Proofs.Response.ResultNames

/-!
# Reading select lists

`readItems?` reads the items that stand with commas between them, and `reportedNames?` gives the
names that the backend reports the items of a selection under.  A list of spelled items is read
back item by item (`readItems?_spelled`): a comma in a name does not end it, since names stand
between quotes.  So a selection of columns reports each of them, in order, under the name that it
means (`reportedNames?_select`).
-/

namespace SnowflakeSql

open Text Identifier

theorem length_of_readItem? {cs rest : List Char} {item : Item}
    (h : readItem? cs = some (item, rest)) : rest.length ≤ cs.length := by
  rw [(spelled_of_readItem? h).2, List.length_append]
  exact Nat.le_add_left _ _

/-- Reads items with commas between them, and gives what follows them. -/
def readItems? (cs : List Char) : Option (List Item × List Char) :=
  match _h : readItem? cs with
  | none => none
  | some (item, ',' :: ' ' :: rest) =>
    (readItems? rest).map fun (items, rest) => (item :: items, rest)
  | some (item, rest) => some ([item], rest)
termination_by cs.length
decreasing_by
  have hlength := length_of_readItem? _h
  simp only [List.length_cons] at hlength
  omega

theorem readItems?_of_comma {cs rest : List Char} {item : Item}
    (h : readItem? cs = some (item, ',' :: ' ' :: rest)) :
    readItems? cs = (readItems? rest).map fun (items, rest) => (item :: items, rest) := by
  rw [readItems?]
  split
  · next hnone => cases h.symm.trans hnone
  · next hcomma => cases h.symm.trans hcomma; rfl
  · next hnot hsome =>
    cases h.symm.trans hsome
    exact absurd rfl (hnot _)

theorem readItems?_of_end {cs rest : List Char} {item : Item}
    (h : readItem? cs = some (item, rest)) (hcomma : rest.head? ≠ some ',') :
    readItems? cs = some ([item], rest) := by
  rw [readItems?]
  split
  · next hnone => cases h.symm.trans hnone
  · next hsome => cases h.symm.trans hsome; exact absurd rfl hcomma
  · next hsome => cases h.symm.trans hsome; rfl

/-- Items that are spelled with commas between are read back, up to what ends them. -/
theorem readItems?_spelled {items : List Item} (hne : items ≠ [])
    (hpath : ∀ item ∈ items, item.path ≠ []) (rest : List Char) (hquote : rest.head? ≠ some '"')
    (hdot : rest.head? ≠ some '.') (hcomma : rest.head? ≠ some ',')
    (hlabel : readLabel? rest = none) :
    readItems? ((commaJoin (items.map Item.spelled)).toList ++ rest) = some (items, rest) := by
  induction items with
  | nil => exact absurd rfl hne
  | cons item items ih =>
    obtain ⟨hitem, hitems⟩ := List.forall_mem_cons.mp hpath
    cases items with
    | nil => exact readItems?_of_end (readItem?_spelled hitem hquote hdot hlabel) hcomma
    | cons next items =>
      have htext : (commaJoin ((item :: next :: items).map Item.spelled)).toList ++ rest =
          item.spelled.toList ++
            ',' :: ' ' :: ((commaJoin ((next :: items).map Item.spelled)).toList ++ rest) := by
        simp [String.intercalate_cons_cons]
      rw [htext, readItems?_of_comma (readItem?_spelled hitem (by simp) (by simp) rfl),
        ih (List.cons_ne_nil _ _) hitems]
      rfl

/-- Columns are spelled as the items that they mean. -/
theorem map_spelled_ofText (context : Option Context) (columns : List String) :
    (columns.map fun column => Item.ofText column.toList).map Item.spelled =
      columns.map (Naming.folded.wrap context) := by
  rw [List.map_map]
  exact List.map_congr_left fun column _ => (wrap_eq_spelled context column).symm

/-- A list of columns is read as the items that they mean, up to what ends it. -/
theorem readItems?_columns {columns : List String} (hne : columns ≠ []) (context : Option Context)
    (rest : List Char) (hquote : rest.head? ≠ some '"') (hdot : rest.head? ≠ some '.')
    (hcomma : rest.head? ≠ some ',') (hlabel : readLabel? rest = none) :
    readItems? ((commaJoin (columns.map (Naming.folded.wrap context))).toList ++ rest) =
      some (columns.map fun column => Item.ofText column.toList, rest) := by
  have hitems : (columns.map fun column => Item.ofText column.toList) ≠ [] := fun hnil =>
    hne (List.map_eq_nil_iff.mp hnil)
  have hpath : ∀ item ∈ columns.map fun column => Item.ofText column.toList, item.path ≠ [] := by
    intro item hitem
    obtain ⟨column, -, rfl⟩ := List.mem_map.mp hitem
    exact path_ofText_ne_nil _
  rw [← map_spelled_ofText]
  exact readItems?_spelled hitems hpath rest hquote hdot hcomma hlabel

/-- The names that the items of a selection are reported under, behind the word for it. -/
def reportedNames? (sql : String) : Option (List (Option String)) :=
  (readItems? (sql.toList.drop "select ".length)).map fun read => read.1.map Item.resultName?

/-- A selection of columns reports each of them, in order, under the name that it means. -/
theorem reportedNames?_select {query : Query} (hmethod : query.method = .select)
    (hcolumns : query.columns ≠ []) (table : String) :
    reportedNames? (query.statementOf (query.templateOn .folded table)).sql =
      some (query.columns.map fun column => (Item.ofText column.toList).resultName?) := by
  have htemplate : query.templateOn .folded table =
      query.selectTemplate .folded query.limit table := by
    unfold Query.templateOn
    rw [hmethod]
  obtain ⟨rest, -, hsql⟩ := Query.sql_selectTemplate .folded query query.limit table
  have hdrop : (query.statementOf (query.templateOn .folded table)).sql.toList.drop
      "select ".length =
        (commaJoin (query.columns.map (Naming.folded.wrap query.context))).toList ++
          (" from " ++ (query.spell .folded table ++ rest)).toList := by
    show (query.templateOn .folded table).sql.toList.drop _ = _
    rw [htemplate, hsql, Naming.columnList_of_ne_nil _ _ hcolumns, String.append_assoc,
      String.append_assoc, String.toList_append, String.toList_append]
    exact List.drop_left
  have hread := readItems?_columns hcolumns query.context
    (" from " ++ (query.spell .folded table ++ rest)).toList (by simp) (by simp) (by simp)
    (by simp [readLabel?])
  unfold reportedNames?
  rw [hdrop, hread, Option.map_some, List.map_map]
  rfl

end SnowflakeSql
