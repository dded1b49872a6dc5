import SnowflakeSql.Proofs.Response.Returned
import SnowflakeSql.Proofs.Response.Tidied

/-!
# What column info returns

The declarations of the columns of a table are an object with one entry for each column.  As
tidying takes what stands under `rows` in an object for rows, it drops the entry of a column of
that name, and that is all that column info loses: `FieldsKept` says so of objects in general
and of the columns of every table.
-/

namespace SnowflakeSql

open Text

namespace Catalogue

/-- The catalogue rows name their columns, in order. -/
def NamesColumns (rows : List Json) (names : List String) : Prop :=
  rows.map (fieldText? · "COLUMN_NAME") = names.map some

/-- The entries of named rows, in order. -/
def entries (rows : List Json) (names : List String) : List (String × Json) :=
  (names.map lowerString).zip (rows.map declaration)

variable {rows : List Json} {names : List String}

theorem NamesColumns.length_eq (h : NamesColumns rows names) : rows.length = names.length := by
  simpa using congrArg List.length h

theorem NamesColumns.columnMap_eq (h : NamesColumns rows names) :
    columnMap rows = .ofList (entries rows names) := by
  unfold columnMap entries
  refine congrArg Fields.ofList ?_
  induction rows generalizing names with
  | nil =>
    cases names with
    | nil => rfl
    | cons name names => cases h
  | cons row rows ih =>
    cases names with
    | nil => cases h
    | cons name names =>
      have hrow : fieldText? row "COLUMN_NAME" = some name := (List.cons.inj h).1
      rw [List.filterMap_cons, hrow, ih (List.cons.inj h).2]
      rfl

theorem NamesColumns.keys_entries (h : NamesColumns rows names) :
    Fields.keys (entries rows names) = names.map lowerString := by
  unfold Fields.keys entries
  refine List.map_fst_zip ?_
  simp [h.length_eq]

/-- A declaration is an object with nothing under `rows`. -/
theorem exists_declaration_eq (row : Json) :
    ∃ fields : Fields Json, declaration row = .obj fields ∧ "rows" ∉ fields.keys := by
  refine ⟨_, rfl, ?_⟩
  rw [Fields.mem_keys_ofList]
  simp [Fields.keys]

theorem exists_declaration_of_get? {name : String} {value : Json}
    (h : (columnMap rows).get? name = some value) : ∃ row, value = declaration row := by
  unfold columnMap at h
  rw [Fields.get?_ofList] at h
  have hmem := List.mem_reverse.mp (Fields.mem_of_get? h)
  obtain ⟨row, -, hrow⟩ := List.mem_filterMap.mp hmem
  obtain ⟨column, _, hentry⟩ := Option.map_eq_some_iff.mp hrow
  exact ⟨row, (congrArg Prod.snd hentry).symm⟩

theorem tidy_declaration (row : Json) :
    (Outcome.value (declaration row)).tidy = .value (declaration row) := by
  obtain ⟨fields, hfields, hrows⟩ := exists_declaration_eq row
  have hnone := Fields.get?_eq_none_iff.mpr hrows
  rw [hfields]
  unfold Outcome.tidy
  dsimp only
  rw [tidyFields_of_no_arr (by simp [hnone]), Fields.erase_eq_self_iff.mpr hrows]

/-- Of the columns of a table nothing but an entry of the name `rows` is dropped. -/
theorem tidy_columnMap (rows : List Json) :
    (Outcome.value (.obj (columnMap rows))).tidy =
      .value (.obj ((columnMap rows).erase "rows")) := by
  unfold Outcome.tidy
  dsimp only
  rw [tidyFields_of_no_arr fun value hvalue => ?_]
  obtain ⟨row, rfl⟩ := exists_declaration_of_get? hvalue
  rfl

theorem tidy_entry (rows : List Json) (name : String) :
    (Outcome.value (((columnMap rows).get? name).getD .null)).tidy =
      .value (((columnMap rows).get? name).getD .null) := by
  cases hentry : (columnMap rows).get? name with
  | none => rfl
  | some value =>
    obtain ⟨row, rfl⟩ := exists_declaration_of_get? hentry
    exact tidy_declaration row

end Catalogue

/-- What tidying keeps of an object, and what column info returns of the columns of a table. -/
structure FieldsKept (client : Client) : Prop where
  tidied : ∀ (fields : Fields Json) (context : Option Context), fields.Sorted →
    ∃ kept : Fields Json, client.finish (.value (.obj fields)) context = .value (.obj kept) ∧
      kept.Sorted ∧
      (∀ key, kept.get? key =
        ((fields.get? key).filter (Json.staysUnder key)).map (Json.tidyUnder key)) ∧
      ((∀ key, kept.get? key = (fields.get? key).map (Json.tidyUnder key)) ↔
        ∀ value, fields.get? "rows" = some value → value.arr?.isSome)
  columns : ∀ (query : Query) (table : String) (rows : Option (List Json)) (names : List String),
    query.method = .columnInfo → query.returning = [] → query.table = some table →
    Catalogue.NamesColumns (rows.getD []) names → (names.map lowerString).Nodup →
    ∃ (statement : Statement) (columns : Fields Json),
      client.compileQuery query = .ok statement ∧ columns.Sorted ∧
      columns.Perm (Catalogue.entries (rows.getD []) names) ∧
      (query.columns.head? = none →
        client.Returns statement rows (.value (.obj (columns.erase "rows")))) ∧
      (∀ column, query.columns.head? = some column →
        client.Returns statement rows
          (.value ((columns.get? (lowerString column)).getD .null))) ∧
      (columns.erase "rows" = columns ↔ "rows" ∉ names.map lowerString)

variable {client : Client}

theorem fieldsKept_of_tidying (hkind : client.kind = .snowflake)
    (hrule : client.config.rule = none) : FieldsKept client where
  tidied fields context hsorted :=
    ⟨tidyFields fields, Client.finish_eq_tidy hkind hrule _ context, sorted_tidyFields hsorted,
      get?_tidyFields fields, get?_tidyFields_eq_map_iff fields⟩
  columns query table rows names hmethod hreturning htable hnames hdistinct := by
    have hreads : query.method.reads = true := by rw [hmethod]; rfl
    obtain ⟨statement, hcompile, hstatement, hreturns⟩ :=
      Client.exists_returns hkind hrule hreads hreturning htable
    have houtput : statement.output = some (Catalogue.columnInfo query.columns.head?) := by
      rw [hstatement]
      exact if_pos hmethod
    have hshape : ∀ info, statement.shape (some { rows := rows, statement := some info }) =
        Catalogue.columnInfo query.columns.head? { rows := rows } := fun info =>
      Statement.shape_of_output houtput _
    have hmap := hnames.columnMap_eq
    have hkeys : (Fields.keys (Catalogue.entries (rows.getD []) names)).Nodup := by
      rwa [hnames.keys_entries]
    refine ⟨statement, Catalogue.columnMap (rows.getD []), hcompile, Fields.sorted_ofList _,
      hmap ▸ Fields.perm_ofList hkeys, fun hall => ?_, fun column hone => ?_, ?_⟩
    · have hreturned := hreturns rows _ hshape
      rw [hall] at hreturned
      exact Catalogue.tidy_columnMap (rows.getD []) ▸ hreturned
    · have hreturned := hreturns rows _ hshape
      rw [hone] at hreturned
      exact Catalogue.tidy_entry (rows.getD []) _ ▸ hreturned
    · -- Nothing is dropped if and only if no column is called `rows` in lower case.
      rw [Fields.erase_eq_self_iff, hmap, Fields.mem_keys_ofList, hnames.keys_entries]

/-- The catalogue rows of a table with the columns `ID` and `ROWS`. -/
def idAndRows : List Json := ["ID", "ROWS"].map fun name => .obj [("COLUMN_NAME", .str name)]

/-- Column info loses the second column of that table. -/
theorem fieldsKept_idAndRows :
    ∃ (statement : Statement) (columns : Fields Json),
      ({} : Client).compileQuery (.columnInfo "t" none) = .ok statement ∧
      columns.Perm (Catalogue.entries idAndRows ["ID", "ROWS"]) ∧
      ({} : Client).Returns statement (some idAndRows) (.value (.obj (columns.erase "rows"))) ∧
      columns.erase "rows" ≠ columns := by
  obtain ⟨statement, columns, hcompile, -, hperm, hall, -, hcomplete⟩ :=
    (@fieldsKept_of_tidying {} rfl rfl).columns (.columnInfo "t" none) "t" (some idAndRows)
      ["ID", "ROWS"] rfl rfl rfl rfl (by decide +kernel)
  refine ⟨statement, columns, hcompile, hperm, hall rfl, fun h => hcomplete.mp h ?_⟩
  decide +kernel

end SnowflakeSql
