import Mathlib.Data.List.Forall2
import SnowflakeSql.Proofs.Json.Loose
import SnowflakeSql.Query.Catalogue
import SnowflakeSql.Response.Shape

/-!
# Column names in another case

A response may have its column names in any case, each row in its own, and writing them in another
case changes the order of the fields.  As long as no row has two names that are equal but for the
case of the letters A to Z, nothing that is read out of its rows changes with that: not the
declarations of columns, not one of their five fields, and not the values of a plucked column
(`readAlike_of_recased`).
-/

namespace SnowflakeSql

open Text

/-- The row with the case of its keys changed; what is no object stays as it is. -/
inductive Json.Recased : Json → Json → Prop
  | object {fields fields' : Fields Json} : fields.Recased fields' →
    Recased (.obj fields) (.obj fields')
  | other {json : Json} : json.obj? = none → Recased json json

/-- If the row is an object, no two of its keys are equal but for case. -/
def Json.Apart (row : Json) : Prop := ∀ fields, row = .obj fields → Fields.Apart fields

/-- The response with the case of the keys changed in each of its rows. -/
def Response.Recased (response response' : Response) : Prop :=
  Option.Rel (List.Forall₂ Json.Recased) response.rows response'.rows

variable {rows rows' : List Json} {response response' : Response}

namespace Json

variable {row row' : Json}

theorem Recased.getLoose?_eq (h : row.Recased row') (hapart : row.Apart) (key : String) :
    row'.getLoose? key = row.getLoose? key := by
  cases h with
  | object hfields => exact hfields.getLoose?_eq (hapart _ rfl) key
  | other _ => rfl

theorem Recased.fieldText?_eq (h : row.Recased row') (hapart : row.Apart) (key : String) :
    Catalogue.fieldText? row' key = Catalogue.fieldText? row key := by
  unfold Catalogue.fieldText?
  rw [h.getLoose?_eq hapart]

theorem Recased.declaration_eq (h : row.Recased row') (hapart : row.Apart) :
    Catalogue.declaration row' = Catalogue.declaration row := by
  unfold Catalogue.declaration
  rw [h.getLoose?_eq hapart, h.getLoose?_eq hapart, h.fieldText?_eq hapart, h.fieldText?_eq hapart]

theorem Recased.pluckValue_eq (h : row.Recased row') (hapart : row.Apart) (column : String) :
    pluckValue column row' = pluckValue column row := by
  unfold pluckValue
  rw [h.getLoose?_eq hapart]

end Json

/-- What does not change for a row does not change for rows. -/
theorem map_eq_of_recased {α : Type} {f : Json → α} (hrows : List.Forall₂ Json.Recased rows rows')
    (hapart : ∀ row ∈ rows, row.Apart)
    (hf : ∀ {row row' : Json}, row.Recased row' → row.Apart → f row' = f row) :
    rows'.map f = rows.map f := by
  induction hrows with
  | nil => rfl
  | cons hrow _ ih =>
    obtain ⟨hfirst, hrest⟩ := List.forall_mem_cons.mp hapart
    rw [List.map_cons, List.map_cons, hf hrow hfirst, ih hrest]

theorem columnMap_eq_of_recased (hrows : List.Forall₂ Json.Recased rows rows')
    (hapart : ∀ row ∈ rows, row.Apart) : Catalogue.columnMap rows' = Catalogue.columnMap rows := by
  have hentries := map_eq_of_recased (f := fun row =>
    (Catalogue.fieldText? row "COLUMN_NAME").map fun name =>
      (lowerString name, Catalogue.declaration row)) hrows hapart fun hrow hapart => by
    rw [hrow.fieldText?_eq hapart, hrow.declaration_eq hapart]
  have hsomes := congrArg (List.filterMap id) hentries
  rw [List.filterMap_map, List.filterMap_map] at hsomes
  exact congrArg Fields.ofList hsomes

theorem Response.Recased.forall₂ (h : response.Recased response') :
    List.Forall₂ Json.Recased (response.rows.getD []) (response'.rows.getD []) := by
  obtain ⟨_, _⟩ := response
  obtain ⟨_, _⟩ := response'
  cases h with
  | none => exact .nil
  | some hrows => exact hrows

/-- A response and the same response with the case of the keys of its rows changed give the same
declarations of columns and the same values of a column, where no row has two keys that are equal
but for case.  What is read of a row is then the one value whose key is equal but for case. -/
theorem readAlike_of_recased (hrecased : response.Recased response')
    (hapart : ∀ row ∈ response.rows.getD [], row.Apart) :
    (∀ column, Catalogue.columnInfo column response' = Catalogue.columnInfo column response) ∧
      (∀ statement : Statement, statement.method = .pluck → statement.output = none →
        statement.shape (some response') = statement.shape (some response)) ∧
      ∀ fields : Fields Json, .obj fields ∈ response.rows.getD [] → ∀ key value,
        (Json.obj fields).getLoose? key = some value ↔
          ∃ f ∈ fields, equalIgnoringCase f.1 key = true ∧ f.2 = value := by
  have hrows := hrecased.forall₂
  refine ⟨fun column => ?_, fun statement hmethod houtput => ?_, fun fields hfields key value => ?_⟩
  · unfold Catalogue.columnInfo
    rw [columnMap_eq_of_recased hrows hapart]
  · have hvalues := map_eq_of_recased (f := pluckValue (statement.pluck.getD "")) hrows hapart
      fun hrow hapart => hrow.pluckValue_eq hapart _
    unfold Statement.shape Statement.shapeByMethod
    rw [houtput, hmethod]
    exact congrArg Outcome.rows hvalues
  · exact (hapart _ hfields fields rfl).getLoose?_eq_some_iff

/-- A catalogue row with its names in capitals. -/
def inCapitals : Fields Json :=
  [("COLUMN_NAME", .str "ID"), ("DATA_TYPE", .str "NUMBER"), ("IS_NULLABLE", .str "YES")]

/-- The same row with its names in several cases, which orders them otherwise. -/
def inSeveralCases : Fields Json :=
  [("Data_Type", .str "NUMBER"), ("IS_NULLABLE", .str "YES"), ("column_name", .str "ID")]

theorem recased_inCapitals : inCapitals.Recased inSeveralCases := by
  refine ⟨fun key => if key = "COLUMN_NAME" then "column_name" else
    if key = "DATA_TYPE" then "Data_Type" else key, fun key => ?_, ?_⟩
  · dsimp only
    split_ifs with hname htype
    · exact hname ▸ rfl
    · exact htype ▸ rfl
    · exact equalIgnoringCase_refl key
  · exact @List.perm_append_comm _ (inSeveralCases.take 2) (inSeveralCases.drop 2)

/-- Both rows declare one column, and a pluck of the types gives one list. -/
theorem readAlike_of_recased_inCapitals :
    Fields.Apart inCapitals ∧
      Catalogue.columnInfo none { rows := some [.obj inSeveralCases] } =
        Catalogue.columnInfo none { rows := some [.obj inCapitals] } ∧
      ({ sql := "select", method := .pluck, pluck := some "data_type" } : Statement).shape
        (some { rows := some [.obj inSeveralCases] }) = .rows [.str "NUMBER"] := by
  have hapart : Fields.Apart inCapitals := by
    unfold Fields.Apart
    decide
  have hrecased : Response.Recased { rows := some [.obj inCapitals] }
      { rows := some [.obj inSeveralCases] } :=
    .some (.cons (.object recased_inCapitals) .nil)
  obtain ⟨hinfo, hpluck, -⟩ := readAlike_of_recased hrecased fun row hrow fields hfields => by
    cases List.mem_singleton.mp hrow
    cases hfields
    exact hapart
  have htypes := hpluck { sql := "select", method := .pluck, pluck := some "data_type" } rfl rfl
  exact ⟨hapart, hinfo none, htypes.trans rfl⟩

end SnowflakeSql
