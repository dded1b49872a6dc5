import SnowflakeSql.Proofs.Identifier.TableNames

/-!
# Statements and the catalogue mean the same table

For a table with a full name without quotes, aliases and stars, and with at most one dot
(`PlainTable`), what the statements on it spell and what the questions about it ask for is the same
path: the parts of the full name in capitals (`storedParts`).  A column is created under the name
that it is later asked for by, which is its own in capitals (`namedAs_of_plainTable`).
-/

namespace SnowflakeSql

open Text Identifier

/-- The name of a table, perhaps with its schema before a dot, without quotes. -/
structure PlainTable (name : String) : Prop where
  unquoted : '"' ∉ name.toList
  unaliased : splitAlias? name.toList = none
  dots : name.toList.count '.' ≤ 1
  named : ∀ part ∈ splitOn '.' name.toList, trim part ≠ ['*']

/-- A name without dots and quotes, as of a column. -/
structure PlainName (name : String) : Prop where
  unquoted : '"' ∉ name.toList
  unaliased : splitAlias? name.toList = none
  undotted : '.' ∉ name.toList
  named : trim name.toList ≠ ['*']

/-- What is stored for a part of a name without quotes: the part in capitals, without the blanks
around it. -/
def storedPart (cs : List Char) : String := String.ofList (upper (trim cs))

/-- What is stored for the parts of the name between its dots. -/
def storedParts (name : String) : List String := (splitOn '.' name.toList).map storedPart

/-- A creation, up to the definition of the column that comes after the ones given. -/
def createdBefore (schema : Option String) (change : TableChange) (before : List Column) :
    String :=
  "create table " ++ (if change.action = .createIfNotExists then "if not exists " else "") ++
    change.tableText .folded schema ++ " (" ++
    String.join (before.map fun column => column.sql (TableChange.spell .folded) ++ ", ")

/-- Whatever creates the table, the definition of the column reads as the stored name. -/
def CreatedAs (schema : Option String) (table column stored : String) : Prop :=
  ∀ (change : TableChange) (before after : List Column) (created : Column),
    change.name = table → change.action.creates = true →
    change.columns = before ++ created :: after → created.name = column →
    ∃ rest statements, (SchemaScript.compileCommand .folded schema (.table change)).result =
      .ok (.ofSql (createdBefore schema change before ++ rest) :: statements) ∧
      (readPath? rest.toList).map Prod.fst = some [.name stored]

/-! ## Parts of a plain name -/

theorem mem_of_mem_trim {c : Char} {cs : List Char} (h : c ∈ trim cs) : c ∈ cs := by
  unfold trim trimEnd at h
  have hend := (List.dropWhile_suffix isBlank).subset (List.mem_reverse.mp h)
  exact (List.dropWhile_suffix isBlank).subset (List.mem_reverse.mp hend)

theorem fold_of_not_mem {cs : List Char} (h : '"' ∉ cs) : Naming.fold cs = upper cs := by
  refine if_neg fun hhead => h ?_
  exact List.mem_of_mem_head? (Option.mem_def.mpr hhead)

theorem storedChars_of_unquoted {cs : List Char} (h : (trim cs).head? ≠ some '"') :
    storedChars cs = upper (trim cs) := by
  have hunquoted : unquoted? (trim cs) = none := by
    unfold unquoted?
    split
    · next hcs => exact absurd (congrArg List.head? hcs) h
    · rfl
  unfold storedChars
  rw [hunquoted]

theorem storedChars_of_not_mem {cs : List Char} (h : '"' ∉ cs) :
    storedChars cs = upper (trim cs) := by
  refine storedChars_of_unquoted fun hhead => h (mem_of_mem_trim ?_)
  exact List.mem_of_mem_head? (Option.mem_def.mpr hhead)

theorem storedName_ofList {cs : List Char} (h : '"' ∉ cs) :
    storedName (String.ofList cs) = storedPart cs := by
  unfold storedName storedPart
  rw [String.toList_ofList, storedChars_of_not_mem h]

theorem storedName_of_not_mem {name : String} (h : '"' ∉ name.toList) :
    storedName name = storedPart name.toList := by
  have hstored := storedName_ofList h
  rwa [String.ofList_toList] at hstored

/-- A part without quotes is spelled as the name it is stored under. -/
theorem ofPart_eq_name {part : List Char} (hquote : '"' ∉ part) (hstar : trim part ≠ ['*']) :
    Segment.ofPart part = .name (String.ofList (storedChars part)) := by
  have htrim : '"' ∉ trim part := fun hmem => hquote (mem_of_mem_trim hmem)
  unfold Segment.ofPart Segment.ofText
  rw [fold_of_not_mem htrim, storedChars_of_not_mem hquote]
  refine if_neg fun htext => hstar (upper_eq_star ?_)
  have hchars := congrArg String.toList htext
  rwa [String.toList_ofList] at hchars

/-- A name with at most one dot is one part, or a schema and a table. -/
theorem cases_of_count_dot_le_one {cs : List Char} (h : cs.count '.' ≤ 1) :
    '.' ∉ cs ∨ ∃ schema table, cs = schema ++ '.' :: table ∧ '.' ∉ schema ∧ '.' ∉ table := by
  by_cases hdot : '.' ∈ cs
  · obtain ⟨schema, table, hcs, hschema⟩ := List.eq_append_cons_of_mem hdot
    refine .inr ⟨schema, table, hcs, hschema, ?_⟩
    rw [hcs, List.count_append, List.count_cons_self] at h
    exact List.count_eq_zero.mp (by omega)
  · exact .inl hdot

/-- The segments of a plain table are its parts in capitals. -/
theorem map_ofPart_splitOn {name : String} (h : PlainTable name) :
    (splitOn '.' name.toList).map Segment.ofPart = (storedParts name).map .name := by
  unfold storedParts
  rw [List.map_map]
  refine List.map_congr_left fun part hpart => ?_
  have hquote : '"' ∉ part := fun hmem =>
    h.unquoted ((sublist_of_mem_splitOn hpart).1.subset hmem)
  rw [ofPart_eq_name hquote (h.named part hpart), storedChars_of_not_mem hquote]
  rfl

/-- The catalogue is asked for the same parts. -/
theorem storedPath_of_plainTable {name : String} (h : PlainTable name) :
    storedPath name = storedParts name := by
  have hquote := h.unquoted
  unfold storedPath storedParts
  rcases cases_of_count_dot_le_one h.dots with hdot | ⟨schema, table, hname, hschema, htable⟩
  · rw [splitQualified_of_not_mem hdot, splitOn_of_not_mem hdot]
    exact congrArg (fun part => [part]) (storedName_of_not_mem hquote)
  · rw [hname, List.mem_append, List.mem_cons, not_or, not_or] at hquote
    rw [splitQualified_of_eq hname htable, hname, splitOn_append_mark hschema,
      splitOn_of_not_mem htable]
    exact congrArg₂ (fun first last => [first, last]) (storedName_ofList hquote.1)
      (storedName_ofList hquote.2.2)

theorem wrap_of_plainTable {name : String} (h : PlainTable name) :
    Naming.folded.wrap none name = spelledPath ((storedParts name).map .name) := by
  rw [wrap_eq_spelledPath none h.unaliased, map_ofPart_splitOn h]

theorem wrap_of_plainName {name : String} (h : PlainName name) :
    Naming.folded.wrap none name = spelledPath [.name (storedName name)] := by
  rw [wrap_eq_spelledPath none h.unaliased, splitOn_of_not_mem h.undotted]
  exact congrArg (fun segment => spelledPath [segment]) (ofPart_eq_name h.unquoted h.named)

/-! ## Created columns -/

theorem commaJoin_cons (part : String) (parts : List String) :
    ∃ rest, commaJoin (part :: parts) = part ++ rest :=
  ⟨_, intercalate_cons ", " part parts⟩

theorem commaJoin_append_cons (before : List String) (part : String) (parts : List String) :
    commaJoin (before ++ part :: parts) =
      String.join (before.map (· ++ ", ")) ++ commaJoin (part :: parts) := by
  induction before with
  | nil => simp
  | cons first before ih =>
    have hcons : ∃ next rest, before ++ part :: parts = next :: rest := by
      cases before with
      | nil => exact ⟨_, _, rfl⟩
      | cons next before => exact ⟨_, _, rfl⟩
    obtain ⟨next, rest, hrest⟩ := hcons
    have hjoin : commaJoin (first :: before ++ part :: parts) =
        first ++ ", " ++ commaJoin (before ++ part :: parts) := by
      rw [List.cons_append, hrest]
      exact String.intercalate_cons_cons
    rw [hjoin, ih, List.map_cons, String.join_cons]
    simp only [String.append_assoc]

/-- The definition of a column begins with the name it is stored under. -/
theorem readPath?_columnSql {column : Column} (h : PlainName column.name) (rest : String) :
    (readPath? (column.sql (TableChange.spell .folded) ++ rest).toList).map Prod.fst =
      some [.name (storedName column.name)] := by
  have htext : (column.sql (TableChange.spell .folded) ++ rest).toList =
      (spelledPath [.name (storedName column.name)]).toList ++
        ' ' :: (" ".intercalate (column.type.sql :: column.modifiers) ++ rest).toList := by
    have hspell : TableChange.spell .folded column.name = _ := wrap_of_plainName h
    unfold Column.sql Column.definition
    rw [String.intercalate_cons_cons, hspell]
    simp
  rw [htext, readPath?_spelledPath (List.cons_ne_nil _ _) (by simp) (by simp)]
  rfl

/-- A creation has the definition of every column in its place. -/
theorem createText_eq (schema : Option String) {change : TableChange}
    {before after : List Column} {created : Column}
    (h : change.columns = before ++ created :: after) :
    ∃ rest, change.createText .folded schema = createdBefore schema change before ++
      (created.sql (TableChange.spell .folded) ++ rest) := by
  have hdefinitions : change.definitions .folded =
      before.map (·.sql (TableChange.spell .folded)) ++
        created.sql (TableChange.spell .folded) ::
          (after.map (·.sql (TableChange.spell .folded)) ++
            change.commands.filterMap (change.constraint? .folded)) := by
    unfold TableChange.definitions
    rw [h, List.map_append, List.map_cons, List.append_assoc, List.cons_append]
  obtain ⟨rest, hrest⟩ := commaJoin_cons (created.sql (TableChange.spell .folded))
    (after.map (·.sql (TableChange.spell .folded)) ++
      change.commands.filterMap (change.constraint? .folded))
  refine ⟨rest ++ ")", ?_⟩
  unfold TableChange.createText createdBefore
  rw [hdefinitions, commaJoin_append_cons, hrest, List.map_map]
  simp only [String.append_assoc]
  rfl

theorem createdAs_of_plainName (schema : Option String) (table : String) {column : String}
    (h : PlainName column) : CreatedAs schema table column (storedName column) := by
  rintro change before after created rfl hcreates hcolumns rfl
  obtain ⟨rest, hcreate⟩ := createText_eq schema hcolumns
  have hsome : (change.action.creates && change.columns.isEmpty) = false := by
    rw [hcolumns]
    cases before <;> exact Bool.and_false _
  have hstatements : change.statements .folded schema =
      change.createText .folded schema ::
        change.commands.filterMap (change.commandText? .folded schema) := by
    unfold TableChange.statements
    rw [hcreates]
    rfl
  have hresult := result_compileCommand_table schema hsome
  rw [hstatements, hcreate, List.map_cons] at hresult
  exact ⟨_, _, hresult, readPath?_columnSql h rest⟩

/-! ## One table -/

/-- Statements on a plain table and questions about it mean the same table and columns: those of
the parts of its full name and of the columns' names in capitals. -/
theorem namedAs_of_plainTable {schema : Option String} {table name : String}
    (hname : FullName schema table name) (h : PlainTable name) :
    NamedAs schema table (storedParts name) (storedParts name) ∧
      ∀ column, PlainName column → CreatedAs schema table column (storedName column) ∧
        storedName column = storedPart column.toList := by
  refine ⟨?_, fun column hcolumn =>
    ⟨createdAs_of_plainName schema table hcolumn, storedName_of_not_mem hcolumn.unquoted⟩⟩
  obtain ⟨first, rest, hparts⟩ : ∃ first rest, storedParts name = first :: rest := by
    rw [← storedPath_of_plainTable h]
    exact storedPath_eq_cons name
  have hwrap := wrap_of_plainTable h
  have hstored := storedPath_of_plainTable h
  rw [fullName_iff.mp hname] at hwrap hstored hparts ⊢
  rw [hparts] at hwrap hstored ⊢
  have hnamed := namedAs_of_wrap hwrap
  rwa [hstored] at hnamed

theorem namedAs_of_plainTable_sales :
    FullName (some "Sales ") " großeOrders" "Sales . großeOrders" ∧
      PlainTable "Sales . großeOrders" ∧ PlainName "ﬁrst *" ∧
      NamedAs (some "Sales ") " großeOrders" ["SALES", "GROSSEORDERS"] ["SALES", "GROSSEORDERS"] ∧
      CreatedAs (some "Sales ") " großeOrders" "ﬁrst *" "FIRST *" := by
  have hname : FullName (some "Sales ") " großeOrders" "Sales . großeOrders" :=
    .within "Sales " (by decide)
  have htable : PlainTable "Sales . großeOrders" := by
    constructor <;> decide +kernel
  have hcolumn : PlainName "ﬁrst *" := by
    constructor <;> decide +kernel
  have hparts : storedParts "Sales . großeOrders" = ["SALES", "GROSSEORDERS"] := by decide +kernel
  have hfirst : storedPart "ﬁrst *".toList = "FIRST *" := by decide +kernel
  obtain ⟨hnamed, hcreated⟩ := namedAs_of_plainTable hname htable
  obtain ⟨hcolumnNamed, hstored⟩ := hcreated _ hcolumn
  rw [hparts] at hnamed
  rw [hstored, hfirst] at hcolumnNamed
  exact ⟨hname, htable, hcolumn, hnamed, hcolumnNamed⟩

end SnowflakeSql
