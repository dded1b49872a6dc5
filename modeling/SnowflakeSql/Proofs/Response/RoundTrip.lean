import SnowflakeSql.Proofs.Identifier.SelectList
import SnowflakeSql.Proofs.Response.Tidied

/-!
# Column names there and back

A column named in lower case is asked for in capitals, and what comes back in capitals is put in
lower case again.  On ASCII text that is the name one started from (`lower_upper_of_ascii`), so
distinct columns are reported under distinct names and get their own back.  `rowsKept_of_select`
says so of a whole selection: each row that the backend reports comes back with the names of the
caller and the values as they were.
-/

namespace SnowflakeSql

open Text Identifier

/-! ## Lower case and capitals -/

/-- Whether all characters of a text are ASCII. -/
def isAscii (cs : List Char) : Bool := cs.all fun c => c.toNat < 128

/-- Only the small letters of ASCII have capitals. -/
theorem upperChar_of_ascii {c : Char} (h : c.toNat < 128)
    (hletter : ¬(97 ≤ c.toNat ∧ c.toNat ≤ 122)) : upperChar c = [c] := by
  have hexpansions : ∀ entry ∈ upperExpansions, 128 ≤ entry.1 := by decide +kernel
  have hruns : ∀ run ∈ upperRuns, 97 ≤ run.first ∧ (run.last ≤ 122 ∨ 128 ≤ run.first) := by
    decide +kernel
  have hlookup : upperExpansions.lookup c.toNat = none := by
    cases hcodes : upperExpansions.lookup c.toNat with
    | none => rfl
    | some codes =>
      have hle := hexpansions _ (mem_upperExpansions_of_lookup hcodes)
      dsimp only at hle
      omega
  have himage : ∀ run ∈ upperRuns, run.image? c.toNat = none := by
    intro run hrun
    have hrun := hruns run hrun
    unfold CaseRun.image?
    refine if_neg fun hin => ?_
    omega
  unfold upperChar mapByRuns
  rw [hlookup, List.findSome?_eq_none_iff.mpr himage]

/-- The capital of an ASCII character is the same letter. -/
theorem map_foldAscii_upperChar {c : Char} (h : c.toNat < 128) :
    (upperChar c).map foldAscii = [foldAscii c] := by
  by_cases hletter : 97 ≤ c.toNat ∧ c.toNat ≤ 122
  · have hletters : ∀ k : Fin 26,
        (upperChar (Char.ofNat (97 + k))).map foldAscii = [foldAscii (Char.ofNat (97 + k))] := by
      decide +kernel
    have hchar := hletters ⟨c.toNat - 97, by omega⟩
    dsimp only at hchar
    rwa [Nat.add_sub_cancel' hletter.1, Char.ofNat_toNat] at hchar
  · rw [upperChar_of_ascii h hletter]
    rfl

/-- Capitals of ASCII text are no other letters. -/
theorem map_foldAscii_upper {cs : List Char} (h : isAscii cs = true) :
    (upper cs).map foldAscii = cs.map foldAscii := by
  induction cs with
  | nil => rfl
  | cons c cs ih =>
    obtain ⟨hc, hcs⟩ : c.toNat < 128 ∧ isAscii cs = true := by
      simpa [isAscii] using h
    have happend : upper (c :: cs) = upperChar c ++ upper cs := rfl
    rw [happend, List.map_append, map_foldAscii_upperChar hc, ih hcs]
    rfl

theorem lower_upper_of_ascii {cs : List Char} (h : isAscii cs = true) :
    lower (upper cs) = lower cs := by
  rw [← lower_map_foldAscii (upper cs), map_foldAscii_upper h, lower_map_foldAscii]

/-- A plain column name in lower case. -/
structure LowerName (name : String) : Prop where
  plain : PlainName name
  ascii : isAscii name.toList = true
  trimmed : trim name.toList = name.toList
  lower : lowerString name = name

namespace LowerName

variable {name : String}

theorem lowerString_upperString (h : LowerName name) :
    lowerString (upperString name) = name := by
  unfold upperString
  have hlower := h.lower
  unfold lowerString at hlower ⊢
  rw [String.toList_ofList, lower_upper_of_ascii h.ascii, hlower]

/-- The backend reports the column under its name in capitals. -/
theorem resultName?_ofText (h : LowerName name) :
    (Item.ofText name.toList).resultName? = some (upperString name) := by
  have hsegment : Segment.ofPart name.toList = .name (upperString name) := by
    rw [ofPart_eq_name h.plain.unquoted h.plain.named, storedChars_of_not_mem h.plain.unquoted,
      h.trimmed]
    rfl
  have hitem : Item.ofText name.toList = ⟨[.name (upperString name)], none⟩ := by
    unfold Item.ofText
    rw [h.plain.unaliased, splitOn_of_not_mem h.plain.undotted]
    simp only [List.map_cons, List.map_nil, hsegment]
  rw [hitem]
  rfl

end LowerName

theorem map_lowerString_upperString {names : List String}
    (hlower : ∀ name ∈ names, LowerName name) :
    (names.map upperString).map lowerString = names := by
  rw [List.map_map]
  exact (List.map_congr_left fun name hname => (hlower name hname).lowerString_upperString).trans
    (List.map_id names)

/-- Names in lower case are told apart by their capitals. -/
theorem nodup_map_upperString {names : List String} (hnodup : names.Nodup)
    (hlower : ∀ name ∈ names, LowerName name) : (names.map upperString).Nodup := by
  refine List.Nodup.of_map lowerString ?_
  rwa [map_lowerString_upperString hlower]

/-! ## Rows -/

/-- What a row comes back as: an object that has just the names for keys, with the value under
each of them that the row has under the key reported for it. -/
structure RowKept (names reported : List String) (row back : Fields Json) : Prop where
  sorted : back.Sorted
  keys : back.keys.Perm names
  values : List.Forall₂ (fun name key => back.get? name = row.get? key) names reported

/-- A row with lower-case keys has the names back that its keys are the capitals of. -/
theorem rowKept_lowerKeys {names : List String} (hnodup : names.Nodup)
    (hlower : ∀ name ∈ names, LowerName name) {row : Fields Json} (hsorted : row.Sorted)
    (hkeys : row.keys.Perm (names.map upperString)) :
    ∃ back, (Json.obj row).lowerKeys = .obj back ∧
      RowKept names (names.map upperString) row back := by
  have hpairs : (Fields.keys (row.map fun f => (lowerString f.1, f.2))).Perm names := by
    have hperm := hkeys.map lowerString
    rw [map_lowerString_upperString hlower] at hperm
    unfold Fields.keys at hperm ⊢
    rw [List.map_map] at hperm ⊢
    exact hperm
  have hpairsNodup := hpairs.nodup_iff.mpr hnodup
  refine ⟨_, rfl, Fields.sorted_ofList _, ?_, ?_⟩
  · exact ((Fields.perm_ofList hpairsNodup).map Prod.fst).trans hpairs
  · rw [List.forall₂_map_right_iff, List.forall₂_same]
    intro name hname
    have hkey : upperString name ∈ row.keys := hkeys.mem_iff.mpr (List.mem_map_of_mem hname)
    obtain ⟨⟨key, value⟩, hfield, hfst⟩ := List.mem_map.mp hkey
    have hfst : key = upperString name := hfst
    subst hfst
    rw [Fields.get?_ofList_of_nodup hpairsNodup,
      (Fields.get?_eq_some_iff hsorted.nodup_keys).mpr hfield]
    refine (Fields.get?_eq_some_iff hpairsNodup).mpr (List.mem_map.mpr ⟨_, hfield, ?_⟩)
    exact congrArg (·, value) (hlower name hname).lowerString_upperString

theorem exists_rowsKept {names : List String} (hnodup : names.Nodup)
    (hlower : ∀ name ∈ names, LowerName name) {rows : List (Fields Json)}
    (hrows : ∀ row ∈ rows, row.Sorted ∧ row.keys.Perm (names.map upperString)) :
    ∃ back : List (Fields Json),
      (rows.map Json.obj).map Json.lowerKeys = back.map .obj ∧
      List.Forall₂ (RowKept names (names.map upperString)) rows back := by
  induction rows with
  | nil => exact ⟨[], rfl, .nil⟩
  | cons row rows ih =>
    obtain ⟨⟨hsorted, hkeys⟩, hrows⟩ := List.forall_mem_cons.mp hrows
    obtain ⟨back, hback, hkept⟩ := rowKept_lowerKeys hnodup hlower hsorted hkeys
    obtain ⟨backs, hbacks, hkepts⟩ := ih hrows
    refine ⟨back :: backs, ?_, .cons hkept hkepts⟩
    rw [List.map_cons, List.map_cons, hback, hbacks]
    rfl

/-! ## Selections -/

variable {client : Client} {query : Query} {table : String}

/-- Distinct columns named in lower case are reported under distinct names, and each row that has
just these for keys comes back, in its place, with the columns for keys and the same values. -/
theorem rowsKept_of_select (hkind : client.kind = .snowflake)
    (hrule : client.config.rule = none) (hnaming : client.config.naming = none)
    (hmethod : query.method = .select) (hreturning : query.returning = [])
    (htable : query.table = some table) (hcolumns : query.columns ≠ [])
    (hnodup : query.columns.Nodup) (hlower : ∀ column ∈ query.columns, LowerName column) :
    ∃ (statement : Statement) (reported : List String),
      client.compileQuery query = .ok statement ∧
      reportedNames? statement.sql = some (reported.map some) ∧
      reported.length = query.columns.length ∧ reported.Nodup ∧
      ∀ rows : List (Fields Json), (∀ row ∈ rows, row.Sorted ∧ row.keys.Perm reported) →
        ∃ back : List (Fields Json),
          client.Returns statement (some (rows.map .obj)) (.rows (back.map .obj)) ∧
          List.Forall₂ (RowKept query.columns reported) rows back := by
  have hreads : query.method.reads = true := by rw [hmethod]; rfl
  have hfolded : client.compilerNaming = .folded := by
    unfold Client.compilerNaming
    rw [hnaming]
    rfl
  obtain ⟨statement, hcompile, rfl, hreturns⟩ :=
    Client.exists_returns hkind hrule hreads hreturning htable
  rw [hfolded] at hcompile hreturns
  refine ⟨_, query.columns.map upperString, hcompile, ?_, List.length_map _,
    nodup_map_upperString hnodup hlower, fun rows hrows => ?_⟩
  · rw [reportedNames?_select hmethod hcolumns, List.map_map]
    exact congrArg some (List.map_congr_left fun column hcolumn =>
      (hlower column hcolumn).resultName?_ofText)
  · obtain ⟨back, hback, hkept⟩ := exists_rowsKept hnodup hlower hrows
    have hall := hreturns (some (rows.map .obj)) _ fun info =>
      Query.shape_select hmethod _ (some (rows.map .obj)) (some info)
    refine ⟨back, ?_, hkept⟩
    rw [← hback]
    exact hall

/-- A selection of two columns. -/
def idAndProfile : Query := (Query.select "t").applyAll [.columns ["profile", "id"]]

/-- A row as the backend reports it, with an object that has capitals in its own keys. -/
def profileRow : Fields Json := [("ID", .int 7), ("PROFILE", .obj [("First Name", .str "Ann")])]

/-- The columns come back in lower case, the object with its keys as they are. -/
theorem rowsKept_of_select_idAndProfile :
    ∃ (statement : Statement) (back : Fields Json),
      ({} : Client).compileQuery idAndProfile = .ok statement ∧
      ({} : Client).Returns statement (some [.obj profileRow]) (.rows [.obj back]) ∧
      back.keys.Perm ["profile", "id"] ∧
      back.get? "profile" = some (.obj [("First Name", .str "Ann")]) := by
  have hlower : ∀ column ∈ idAndProfile.columns, LowerName column := by
    intro column hcolumn
    obtain rfl | rfl : column = "profile" ∨ column = "id" := by
      simpa [idAndProfile, Query.applyAll, QueryCall.apply] using hcolumn
    · exact ⟨⟨by decide, rfl, by decide, by decide⟩, by decide, rfl, by decide +kernel⟩
    · exact ⟨⟨by decide, rfl, by decide, by decide⟩, by decide, rfl, by decide +kernel⟩
  obtain ⟨statement, reported, hcompile, hreported, -, -, hrows⟩ :=
    @rowsKept_of_select {} idAndProfile "t" rfl rfl rfl rfl rfl rfl (by decide) (by decide) hlower
  have hstatement : idAndProfile.statementOf (idAndProfile.templateOn .folded "t") = statement :=
    Except.ok.inj hcompile
  have hnames : (idAndProfile.columns.map fun column => (Item.ofText column.toList).resultName?) =
      ["PROFILE", "ID"].map some := by
    decide +kernel
  rw [← hstatement, reportedNames?_select rfl (by decide), hnames] at hreported
  have hsame : ["PROFILE", "ID"] = reported :=
    List.map_injective_iff.mpr (fun _ _ => Option.some.inj) (Option.some.inj hreported)
  subst hsame
  have hrow : ∀ row ∈ [profileRow], row.Sorted ∧ row.keys.Perm ["PROFILE", "ID"] := by
    intro row hmem
    rw [List.mem_singleton.mp hmem]
    exact ⟨List.pairwise_pair.mpr (by decide), List.Perm.swap _ _ _⟩
  obtain ⟨backs, hreturns, hkept⟩ := hrows [profileRow] hrow
  obtain ⟨back, rest, hback, hrest, rfl⟩ := List.forall₂_cons_left_iff.mp hkept
  rw [List.forall₂_nil_left_iff.mp hrest] at hreturns
  refine ⟨statement, back, hcompile, hreturns, hback.keys, ?_⟩
  obtain ⟨hprofile, -⟩ := List.forall₂_cons.mp hback.values
  rw [hprofile]
  simp [profileRow, Fields.get?]

end SnowflakeSql
