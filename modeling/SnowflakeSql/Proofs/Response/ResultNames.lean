import SnowflakeSql.Proofs.Identifier.Agreement
import SnowflakeSql.Proofs.Identifier.Items
import SnowflakeSql.Proofs.Response.Plucked

/-!
# Plucking a path or a labelled column

The backend reports a selected item under its label, or under the last name of its path
(`Item.resultName?`).  A pluck looks for the column as it was given, with its dots and its
label: a text with more dots and blanks than that name (`breaks_resultName?_lt`).  So for a path of
several parts, or a column with a label, it never sees the value that was reported, and gives what
is found in the rest of the row (`plucked_beside_reported`), which is null in a row of just that
item.
-/

namespace SnowflakeSql

open Text Identifier

/-! ## The name of a result -/

/-- The name of a segment; a star has none. -/
def Segment.name? : Segment → Option String
  | star => none
  | name text => some text

/-- The name that the backend reports an item under. -/
def Item.resultName? (item : Item) : Option String :=
  match item.label with
  | some label => label.name?
  | none => item.path.getLast?.bind Segment.name?

/-- The first item that a statement selects, behind the word for it. -/
def selectedItem? (sql : String) : Option Item :=
  (readItem? (sql.toList.drop "select ".length)).map Prod.fst

theorem selectedItem?_spelled {item : Item} (hne : item.path ≠ []) (rest : String) :
    selectedItem? ("select " ++ item.spelled ++ " from " ++ rest) = some item := by
  have hsql : ("select " ++ item.spelled ++ " from " ++ rest).toList.drop "select ".length =
      item.spelled.toList ++ (" from ".toList ++ rest.toList) := by
    rw [String.toList_append, String.toList_append, String.toList_append, List.append_assoc,
      List.append_assoc]
    exact List.drop_left
  unfold selectedItem?
  rw [hsql, readItem?_spelled hne (by simp) (by simp) rfl]
  rfl

/-! ## Its breaks -/

/-- The dot and the blanks: the characters that an identifier is taken apart at. -/
def breakRanges : Ranges := (46, 46) :: blankRanges

/-- How many of its characters an identifier could be taken apart at. -/
def breaks (cs : List Char) : Nat := cs.countP breakRanges.contains

theorem breaks_append (cs ds : List Char) : breaks (cs ++ ds) = breaks cs + breaks ds :=
  List.countP_append

theorem breaks_separator_pos {word : List Char} (h : Separator word) : 0 < breaks word := by
  obtain ⟨lead, a, s, trail, rfl, -, -, ⟨hne, hlead⟩, -⟩ := h.spelled
  obtain ⟨b, lead, rfl⟩ := List.exists_cons_of_ne_nil hne
  have hb : isBlank b = true := hlead b List.mem_cons_self
  refine List.countP_pos_iff.mpr ⟨b, List.mem_append_left _ List.mem_cons_self, ?_⟩
  exact (congrArg (_ || ·) hb).trans (Bool.or_true _)

/-- No run leads to a break. -/
theorem upperRuns_miss : (upperRuns.all fun run => decide (0 ≤ (run.first : Int) + run.shift) &&
    breakRanges.all fun range => run.misses ⟨range.1, range.2, 1, 0⟩) = true := by
  decide +kernel

theorem contains_image?_eq_false {run : CaseRun} (hrun : run ∈ upperRuns) {n m : Nat}
    (hm : run.image? n = some m) : breakRanges.contains (Char.ofNat m) = false := by
  have htable := List.all_eq_true.mp upperRuns_miss run hrun
  rw [Bool.and_eq_true, decide_eq_true_eq, List.all_eq_true] at htable
  obtain ⟨hshift, hmisses⟩ := htable
  rcases toNat_ofNat m with hcode | hnull
  · rw [← Bool.not_eq_true, Ranges.contains_iff, hcode]
    rintro ⟨range, hrange, hfirst, hlast⟩
    have hnone := CaseRun.image?_eq_none_of_misses (hmisses range hrange) hshift hm
    unfold CaseRun.image? at hnone
    rw [if_pos ⟨hfirst, hlast, Nat.mod_one _⟩] at hnone
    cases hnone
  · rw [hnull]
    decide

/-- Upper case makes no breaks. -/
theorem breaks_upperChar_le (c : Char) : breaks (upperChar c) ≤ breaks [c] := by
  have htable : ∀ entry ∈ upperExpansions, ∀ code ∈ entry.2,
      breakRanges.contains (Char.ofNat code) = false := by decide +kernel
  unfold upperChar mapByRuns
  split
  · next codes hlookup =>
    have hcodes := htable _ (mem_upperExpansions_of_lookup hlookup)
    have hnone : breaks (codes.map Char.ofNat) = 0 := by
      refine List.countP_eq_zero.mpr fun d hd => ?_
      obtain ⟨code, hcode, rfl⟩ := List.mem_map.mp hd
      rw [hcodes code hcode]
      exact Bool.false_ne_true
    rw [hnone]
    exact Nat.zero_le _
  · split
    · next code hfind =>
      obtain ⟨run, hrun, himage⟩ := List.exists_of_findSome?_eq_some hfind
      have hnone : breaks [Char.ofNat code] = 0 := by
        unfold breaks
        rw [List.countP_singleton, contains_image?_eq_false hrun himage]
        rfl
      rw [hnone]
      exact Nat.zero_le _
    · exact Nat.le_refl _

theorem breaks_upper_le (cs : List Char) : breaks (upper cs) ≤ breaks cs := by
  induction cs with
  | nil => exact Nat.le_refl 0
  | cons c cs ih =>
    calc breaks (upper (c :: cs))
        = breaks (upperChar c) + breaks (upper cs) := breaks_append _ _
      _ ≤ breaks [c] + breaks cs := Nat.add_le_add (breaks_upperChar_le c) ih
      _ = breaks (c :: cs) := (breaks_append [c] cs).symm

theorem trim_sublist (cs : List Char) : (trim cs).Sublist cs := by
  have hend : (trim cs).reverse.Sublist (cs.dropWhile isBlank).reverse := by
    unfold trim trimEnd
    rw [List.reverse_reverse]
    exact List.dropWhile_sublist isBlank
  exact (List.reverse_sublist.mp hend).trans (List.dropWhile_sublist isBlank)

theorem breaks_name_ofPart_le {part : List Char} {name : String}
    (hname : (Segment.ofPart part).name? = some name) : breaks name.toList ≤ breaks part := by
  have hfold : breaks (Naming.fold (trim part)) ≤ breaks (trim part) := by
    unfold Naming.fold
    split_ifs
    · exact Nat.le_refl _
    · exact breaks_upper_le _
  unfold Segment.ofPart Segment.ofText at hname
  split_ifs at hname with hstar
  · cases hname
  · cases hname
    rw [String.toList_ofList]
    exact Nat.le_trans hfold (trim_sublist part).countP_le

theorem breaks_lt_of_mem_splitOn {cs part : List Char} (hdot : '.' ∈ cs)
    (h : part ∈ splitOn '.' cs) : breaks part < breaks cs := by
  obtain ⟨hsub, hnot⟩ := sublist_of_mem_splitOn h
  by_contra hle
  have hfilter := hsub.filter breakRanges.contains
  have heq := hfilter.eq_of_length_le (by
    rw [← List.countP_eq_length_filter, ← List.countP_eq_length_filter]
    exact Nat.not_lt.mp hle)
  have hmem : '.' ∈ cs.filter breakRanges.contains := List.mem_filter.mpr ⟨hdot, by decide⟩
  exact hnot (List.mem_of_mem_filter (heq ▸ hmem))

/-- The name of a result has fewer breaks than the path or the labelled column that it is for. -/
theorem breaks_resultName?_lt {cs : List Char} (hpath : '.' ∈ cs ∨ (splitAlias? cs).isSome)
    {name : String} (hname : (Item.ofText cs).resultName? = some name) :
    breaks name.toList < breaks cs := by
  unfold Item.ofText at hname
  split at hname
  · next before after hsplit =>
    obtain ⟨word, hword, hcut⟩ := (leftmostSplit_of_splitAlias? hsplit).cut
    have hle := breaks_name_ofPart_le hname
    have hpos := breaks_separator_pos hword
    rw [hcut, breaks_append, breaks_append]
    omega
  · next hsplit =>
    have hdot : '.' ∈ cs := hpath.resolve_right (by rw [hsplit]; exact Bool.false_ne_true)
    obtain ⟨segment, hlast, hsegment⟩ := Option.bind_eq_some_iff.mp hname
    obtain ⟨part, hpart, rfl⟩ := List.mem_map.mp (List.mem_of_getLast? hlast)
    exact Nat.lt_of_le_of_lt (breaks_name_ofPart_le hsegment) (breaks_lt_of_mem_splitOn hdot hpart)

/-! ## What is found under it -/

theorem breaks_map_foldAscii (cs : List Char) : breaks (cs.map foldAscii) = breaks cs := by
  have hfold (c : Char) : breakRanges.contains (foldAscii c) = breakRanges.contains c :=
    foldAscii_rel (P := fun c d => breakRanges.contains d = breakRanges.contains c)
      (fun _ => rfl) (by decide +kernel) c
  unfold breaks
  rw [List.countP_map]
  exact List.countP_congr fun c _ => by rw [Function.comp_apply, hfold]

theorem breaks_eq_of_equalIgnoringCase {s t : String} (h : equalIgnoringCase s t = true) :
    breaks s.toList = breaks t.toList := by
  rw [← breaks_map_foldAscii, eq_of_beq h, breaks_map_foldAscii]

namespace Fields

variable {α : Type}

/-- A field whose key is another one is never read. -/
theorem getLoose?_erase (fields : Fields α) {name column : String}
    (h : equalIgnoringCase name column = false) :
    (fields.erase name).getLoose? column = fields.getLoose? column := by
  have hne : name ≠ column := by
    rintro rfl
    rw [equalIgnoringCase_refl] at h
    cases h
  unfold getLoose?
  rw [get?_erase, if_neg hne]
  cases fields.get? column with
  | some value => rfl
  | none =>
    dsimp only
    unfold erase
    rw [List.find?_filter]
    congr 2
    funext f
    by_cases hf : f.1 = name <;> simp [hf, h]

end Fields

/-! ## Plucking it -/

theorem sql_pluck {query : Query} {column : String} (hcolumns : query.columns = [column])
    (hmethod : query.method = .pluck) (table : String) :
    ∃ rest, (query.statementOf (query.templateOn .folded table)).sql =
      "select " ++ (Item.ofText column.toList).spelled ++ " from " ++ rest := by
  have htemplate : query.templateOn .folded table =
      query.selectTemplate .folded query.limit table := by
    unfold Query.templateOn
    rw [hmethod]
  obtain ⟨tail, -, hsql⟩ := Query.sql_selectTemplate .folded query query.limit table
  have hlist : Naming.columnList .folded query.context query.columns =
      (Item.ofText column.toList).spelled := by
    rw [hcolumns, ← wrap_eq_spelled query.context]
    rfl
  refine ⟨query.spell .folded table ++ tail, ?_⟩
  rw [← hlist, ← hsql, ← htemplate]
  rfl

variable {client : Client} {query : Query} {table column : String}

/-- Plucking a path or a labelled column never gives what the backend reports under the name of
the selected item, but what the rest of the row has under the column as it was given. -/
theorem plucked_beside_reported (hkind : client.kind = .snowflake)
    (hrule : client.config.rule = none) (hnaming : client.config.naming = none)
    (hmethod : query.method = .pluck) (hreturning : query.returning = [])
    (htable : query.table = some table) (hcolumns : query.columns = [column])
    (hpath : '.' ∈ column.toList ∨ (splitAlias? column.toList).isSome) :
    ∃ (statement : Statement) (item : Item), client.compileQuery query = .ok statement ∧
      selectedItem? statement.sql = some item ∧ item.Denotes column.toList ∧
      (∀ rows, client.Returns statement rows
        (.rows (((rows.getD []).map (pluckValue column)).map Json.lowerKeys))) ∧
      ∀ name, item.resultName? = some name → ∀ fields : Fields Json,
        pluckValue column (.obj fields) = ((fields.erase name).getLoose? column).getD .null ∧
        ((∀ f ∈ fields, f.1 ≠ name → equalIgnoringCase f.1 column = false) →
          pluckValue column (.obj fields) = .null) := by
  have hreads : query.method.reads = true := by rw [hmethod]; rfl
  have hfolded : client.compilerNaming = .folded := by
    unfold Client.compilerNaming
    rw [hnaming]
    rfl
  obtain ⟨statement, hcompile, rfl, hreturns⟩ :=
    Client.exists_returns hkind hrule hreads hreturning htable
  rw [hfolded] at hcompile hreturns
  obtain ⟨rest, hsql⟩ := sql_pluck hcolumns hmethod table
  have hhead : query.columns.head?.getD "" = column := by rw [hcolumns]; rfl
  refine ⟨_, .ofText column.toList, hcompile, ?_, denotes_iff.mpr rfl, fun rows => ?_,
    fun name hname fields => ?_⟩
  · rw [hsql]
    exact selectedItem?_spelled (path_ofText_ne_nil _) rest
  · have htaken := hreturns rows _ fun info => Query.shape_pluck hmethod _ rows (some info)
    rw [hhead] at htaken
    exact htaken
  · have hother : equalIgnoringCase name column = false := by
      by_contra hsame
      rw [Bool.not_eq_false] at hsame
      exact absurd (breaks_eq_of_equalIgnoringCase hsame)
        (Nat.ne_of_lt (breaks_resultName?_lt hpath hname))
    refine ⟨congrArg (·.getD .null) (Fields.getLoose?_erase fields hother).symm, fun hkeys => ?_⟩
    have hnone : fields.getLoose? column = none := Fields.getLoose?_eq_none_iff.mpr fun f hf => by
      by_cases hf' : f.1 = name
      · rw [hf', hother]
      · exact hkeys f hf hf'
    exact congrArg (·.getD .null) hnone

/-- A row as the backend reports it for the path. -/
def reportedRow : Json := .obj [("NAME", .str "Ann")]

/-- The name is selected and reported, and plucking it gives null. -/
theorem plucked_beside_reported_name :
    ∃ statement item, ({} : Client).compileQuery (.pluck "t" "u.name") = .ok statement ∧
      selectedItem? statement.sql = some item ∧ item.resultName? = some "NAME" ∧
      ({} : Client).Returns statement (some [reportedRow]) (.rows [.null]) := by
  obtain ⟨statement, item, hcompile, hitem, hdenotes, hreturns, hplucked⟩ :=
    @plucked_beside_reported {} (.pluck "t" "u.name") "t" "u.name" rfl rfl rfl rfl rfl rfl rfl
      (.inl (by decide))
  have hname : item.resultName? = some "NAME" := by
    rw [denotes_iff.mp hdenotes]
    rfl
  refine ⟨statement, item, hcompile, hitem, hname, ?_⟩
  have hnull := (hplucked "NAME" hname [("NAME", .str "Ann")]).2 fun f hf hne =>
    absurd (congrArg Prod.fst (List.mem_singleton.mp hf)) hne
  have hone := hreturns (some [reportedRow])
  change Client.Returns _ _ _ (.rows [(pluckValue "u.name" reportedRow).lowerKeys]) at hone
  rwa [show pluckValue "u.name" reportedRow = .null from hnull] at hone

end SnowflakeSql
