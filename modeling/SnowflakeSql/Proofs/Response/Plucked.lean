import SnowflakeSql.Proofs.Json.Loose
import SnowflakeSql.Proofs.Response.Returned
import SnowflakeSql.Proofs.Response.Tidied

/-!
# What plucking returns

Plucking takes one value of each row, and the last step gives these values lower-case keys as if
they were rows: a value comes back as it was taken exactly if it is no object, or one whose keys
are in lower case (`plucked_verbatim_iff`).

A selection of the same rows has them under keys in lower case.  Both ways to read a column see
the fields whose keys are its name in lower case, but of several of them plucking takes the one
spelled like the column, or else the first that is equal but for the case of the letters A to Z,
and selecting keeps the last (`plucked_beside_selected`).
-/

namespace SnowflakeSql

open Text

namespace Fields

variable {α : Type}

theorem find?_namedLower (fields : Fields α) {name : String} {p : String × α → Bool}
    (h : ∀ f, p f = true → lowerString f.1 = name) :
    (fields.namedLower name).find? p = fields.find? p := by
  unfold namedLower
  rw [List.find?_filter]
  congr 1
  funext f
  by_cases hf : p f = true
  · simp [hf, h f hf]
  · simp [hf]

/-- The value of a column is among the values under its name in lower case. -/
theorem getLoose?_namedLower (fields : Fields α) (column : String) :
    (fields.namedLower (lowerString column)).getLoose? column = fields.getLoose? column := by
  unfold getLoose?
  rw [get?_eq_find?, get?_eq_find?, find?_namedLower fields fun f hf => ?_,
    find?_namedLower fields fun f hf => ?_]
  · exact lowerString_eq_of_equalIgnoringCase hf
  · rw [of_decide_eq_true hf]

/-- A value under a single key is read loosely if that key is equal but for ASCII case. -/
theorem getLoose?_singleton (f : String × α) (column : String) :
    getLoose? [f] column = if equalIgnoringCase f.1 column then some f.2 else none := by
  unfold getLoose? get? get?
  by_cases hkey : f.1 = column
  · subst hkey
    simp [equalIgnoringCase_refl]
  · cases hcase : equalIgnoringCase f.1 column <;> simp [hkey, hcase]

end Fields

/-! ## Values as they were taken -/

theorem wellFormed_pluckValue {row : Json} (h : row.WellFormed) (column : String) :
    (pluckValue column row).WellFormed := by
  unfold pluckValue
  cases hvalue : row.getLoose? column with
  | none => exact .null
  | some value =>
    cases h with
    | obj _ hfields =>
      obtain ⟨f, hf, -, rfl⟩ := Fields.exists_mem_of_getLoose? hvalue
      exact hfields f hf
    | _ => cases hvalue

/-- A document is a row that stays as it is, or no row. -/
theorem lowerKeys_eq_self_iff {value : Json} (h : value.WellFormed) :
    value.lowerKeys = value ↔
      ∀ fields, value = .obj fields → ∀ f ∈ fields, lowerString f.1 = f.1 := by
  cases h with
  | obj hsorted _ =>
    rw [Json.lowerKeys_obj_eq_iff hsorted]
    refine ⟨fun hlower fields hfields => ?_, fun hlower => hlower _ rfl⟩
    cases hfields
    exact hlower
  | _ => exact ⟨fun _ _ hfields => Json.noConfusion hfields, fun _ => rfl⟩

variable {client : Client} {query : Query} {table : String}

/-- A pluck returns one value for each row, in order, as it was taken, except that the keys of
an object come in lower case. -/
theorem plucked_verbatim_iff (hkind : client.kind = .snowflake)
    (hrule : client.config.rule = none) (hmethod : query.method = .pluck)
    (hreturning : query.returning = []) (htable : query.table = some table)
    (rows : Option (List Json)) (hrows : ∀ row ∈ rows.getD [], row.WellFormed) :
    ∃ (statement : Statement) (taken : List Json),
      client.compileQuery query = .ok statement ∧
      (∀ info, statement.shape (some { rows := rows, statement := some info }) = .rows taken) ∧
      taken = (rows.getD []).map (pluckValue (query.columns.head?.getD "")) ∧
      client.Returns statement rows (.rows (taken.map Json.lowerKeys)) ∧
      ∀ value ∈ taken, value.lowerKeys = value ↔
        ∀ fields, value = .obj fields → ∀ f ∈ fields, lowerString f.1 = f.1 := by
  have hreads : query.method.reads = true := by rw [hmethod]; rfl
  obtain ⟨statement, hcompile, rfl, hreturns⟩ :=
    Client.exists_returns hkind hrule hreads hreturning htable
  have hshape := fun info : StatementInfo => Query.shape_pluck hmethod
    (query.templateOn client.compilerNaming table) rows (some info)
  refine ⟨_, _, hcompile, hshape, rfl, hreturns rows _ hshape, fun value hvalue => ?_⟩
  obtain ⟨row, hrow, rfl⟩ := List.mem_map.mp hvalue
  exact lowerKeys_eq_self_iff (wellFormed_pluckValue (hrows row hrow) _)

/-- A row with a document in it. -/
def documentRow : Json := .obj [("DATA", .obj [("Key", .int 1)])]

theorem wellFormed_documentRow : documentRow.WellFormed := by
  refine .obj (List.pairwise_singleton _ _) fun f hf => ?_
  rw [List.mem_singleton.mp hf]
  refine .obj (List.pairwise_singleton _ _) fun g hg => ?_
  rw [List.mem_singleton.mp hg]
  exact .int 1

/-- The document that is plucked from that row comes back with another key. -/
theorem plucked_verbatim_iff_documentRow :
    ∃ statement, ({} : Client).compileQuery (.pluck "t" "data") = .ok statement ∧
      ({} : Client).Returns statement (some [documentRow]) (.rows [.obj [("key", .int 1)]]) := by
  obtain ⟨statement, taken, hcompile, -, rfl, hreturns, -⟩ :=
    @plucked_verbatim_iff {} (.pluck "t" "data") "t" rfl rfl rfl rfl rfl (some [documentRow])
      fun row hrow => List.mem_singleton.mp hrow ▸ wellFormed_documentRow
  have htaken : pluckValue "data" documentRow = .obj [("Key", .int 1)] := rfl
  refine ⟨statement, hcompile, ?_⟩
  have hkey : lowerString "Key" = "key" := by decide +kernel
  have hlower := Json.lowerKeys_singleton hkey (.int 1)
  rw [← hlower, ← htaken]
  exact hreturns

/-! ## Plucking beside selecting -/

/-- Plucking looks at nothing but the fields whose keys are the column in lower case. -/
theorem pluckValue_obj (column : String) (fields : Fields Json) :
    pluckValue column (.obj fields) =
      ((fields.namedLower (lowerString column)).getLoose? column).getD .null := by
  rw [Fields.getLoose?_namedLower]
  rfl

/-- The value of a column in a row whose keys are in lower case, null if it is not there. -/
def Json.valueOf (column : String) (row : Json) : Json := (row.get? (lowerString column)).getD .null

theorem valueOf_lowerKeys (column : String) (fields : Fields Json) :
    (Json.obj fields).lowerKeys.valueOf column =
      ((fields.namedLower (lowerString column)).getLast?.map Prod.snd).getD .null := by
  unfold Json.valueOf
  rw [Json.get?_lowerKeys]

/-- The row spells the column in one way at most. -/
def SpelledOnce (column : String) (fields : Fields Json) : Prop :=
  (fields.namedLower (lowerString column)).length ≤ 1

theorem pluckValue_eq_valueOf_iff {column : String} {fields : Fields Json}
    (h : SpelledOnce column fields) :
    pluckValue column (.obj fields) = (Json.obj fields).lowerKeys.valueOf column ↔
      ∀ f ∈ fields.namedLower (lowerString column),
        equalIgnoringCase f.1 column = true ∨ f.2 = .null := by
  unfold SpelledOnce at h
  rw [pluckValue_obj, valueOf_lowerKeys]
  generalize fields.namedLower (lowerString column) = named at h ⊢
  cases named with
  | nil => simp [Fields.getLoose?, Fields.get?]
  | cons f others =>
    obtain rfl : others = [] := by simpa using h
    rw [Fields.getLoose?_singleton]
    -- Selecting finds the one field in any case, plucking only if A to Z make the difference.
    cases hcase : equalIgnoringCase f.1 column with
    | true => simp [hcase]
    | false =>
      simp only [hcase, List.mem_singleton, forall_eq]
      exact ⟨fun hnull => .inr hnull.symm,
        fun hnull => (hnull.resolve_left Bool.false_ne_true).symm⟩

theorem lowerKeys_pluckValue {row : Json} {column : String}
    (h : ∃ fields, row = .obj fields ∧ ∀ f ∈ fields, f.2.obj? = none) :
    (pluckValue column row).lowerKeys = pluckValue column row := by
  obtain ⟨fields, rfl, hplain⟩ := h
  unfold pluckValue
  cases hvalue : (Json.obj fields).getLoose? column with
  | none => rfl
  | some value =>
    obtain ⟨f, hf, -, rfl⟩ := Fields.exists_mem_of_getLoose? hvalue
    exact Json.lowerKeys_eq_self (hplain f hf)

/-- Plucking a column and selecting the same rows, without objects in them.  Where a row spells
the column in one way, both give the same value unless that way differs from the column in more
than the case of the letters A to Z; where it spells it in several, plucking takes the column's
own spelling or the first that differs in nothing else, and selecting keeps the last of all. -/
theorem plucked_beside_selected (hkind : client.kind = .snowflake)
    (hrule : client.config.rule = none) (table column : String) (rows : Option (List Json))
    (hrows : ∀ row ∈ rows.getD [], ∃ fields, row = .obj fields ∧ ∀ f ∈ fields, f.2.obj? = none) :
    ∃ (plucking selecting : Statement) (values items : List Json),
      client.compileQuery (.pluck table column) = .ok plucking ∧
      client.compileQuery (.select table) = .ok selecting ∧
      client.Returns plucking rows (.rows values) ∧
      client.Returns selecting rows (.rows items) ∧
      values = (rows.getD []).map (pluckValue column) ∧
      items = (rows.getD []).map Json.lowerKeys ∧
      ∀ fields : Fields Json, Json.obj fields ∈ rows.getD [] →
        pluckValue column (.obj fields) =
          ((fields.namedLower (lowerString column)).getLoose? column).getD .null ∧
        (Json.obj fields).lowerKeys.valueOf column =
          ((fields.namedLower (lowerString column)).getLast?.map Prod.snd).getD .null ∧
        (SpelledOnce column fields →
          (pluckValue column (.obj fields) = (Json.obj fields).lowerKeys.valueOf column ↔
            ∀ f ∈ fields.namedLower (lowerString column),
              equalIgnoringCase f.1 column = true ∨ f.2 = .null)) := by
  obtain ⟨plucking, hpluck, rfl, hplucks⟩ :=
    @Client.exists_returns client (.pluck table column) table hkind hrule rfl rfl rfl
  obtain ⟨selecting, hselect, rfl, hselects⟩ :=
    @Client.exists_returns client (.select table) table hkind hrule rfl rfl rfl
  have htaken := hplucks rows _ fun info => Query.shape_pluck rfl _ rows (some info)
  have hitems := hselects rows _ fun info => Query.shape_select rfl _ rows (some info)
  have hplain : ((rows.getD []).map (pluckValue column)).map Json.lowerKeys =
      (rows.getD []).map (pluckValue column) := by
    rw [List.map_map]
    exact List.map_congr_left fun row hrow => lowerKeys_pluckValue (hrows row hrow)
  refine ⟨_, _, _, _, hpluck, hselect, ?_, hitems, rfl, rfl, fun fields _ => ?_⟩
  · rw [← hplain]
    exact htaken
  · exact ⟨pluckValue_obj column fields, valueOf_lowerKeys column fields,
      pluckValue_eq_valueOf_iff⟩

/-- A row whose column is spelled with a capital beyond A to Z. -/
def umlautRow : Json := .obj [("Ä", .int 1)]

/-- Plucking finds nothing in that row where selecting has the value. -/
theorem plucked_beside_selected_umlautRow :
    ∃ plucking selecting, ({} : Client).compileQuery (.pluck "t" "ä") = .ok plucking ∧
      ({} : Client).compileQuery (.select "t") = .ok selecting ∧
      ({} : Client).Returns plucking (some [umlautRow]) (.rows [.null]) ∧
      ({} : Client).Returns selecting (some [umlautRow]) (.rows [.obj [("ä", .int 1)]]) := by
  obtain ⟨plucking, selecting, values, items, hpluck, hselect, hvalues, hitems, rfl, rfl, -⟩ :=
    @plucked_beside_selected {} rfl rfl "t" "ä" (some [umlautRow]) fun row hrow =>
      ⟨_, List.mem_singleton.mp hrow, fun f hf => List.mem_singleton.mp hf ▸ rfl⟩
  have hlower := Json.lowerKeys_singleton (show lowerString "Ä" = "ä" by decide +kernel) (.int 1)
  refine ⟨plucking, selecting, hpluck, hselect, hvalues, ?_⟩
  rw [← hlower]
  exact hitems

end SnowflakeSql
