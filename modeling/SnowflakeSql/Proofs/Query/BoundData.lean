import Mathlib.Data.List.Basic
import SnowflakeSql.Proofs.Placeholder.Rendering
import SnowflakeSql.Proofs.Query.Compiled

/-!
# Text and bound data

Two queries have the same form (`Query.form`) if they differ in nothing but the values of their
conditions, rows and assignments.  Then neither compiles, for one and the same reason, or both
compile to statements that differ in nothing but their binds (`compile_of_form_eq`): no clause
writes a value into the text or looks at one to decide what to write.

Where the binds come from is a matter of the form as well.  `Query.places` names the place of
each of them, in order, and `Query.valueAt?` reads a place.
-/

namespace SnowflakeSql

/-! ## The form of a query -/

/-- The condition with its values left out. -/
def Condition.form : Condition → Condition
  | .compare column operator _ => .compare column operator .null
  | .oneOf column values => .oneOf column (values.map fun _ => .null)
  | .isNull column negated => .isNull column negated

/-- The columns of a row with the values left out. -/
def rowForm (row : InsertRow) : InsertRow := row.map fun entry => (entry.1, .null)

/-- The query with the values of its conditions, rows and assignments left out. -/
def Query.form (query : Query) : Query :=
  { query with
    conditions := query.conditions.map Condition.form
    rows := query.rows.map rowForm
    assignments := rowForm query.assignments }

/-- A place of a query that a value is bound from. -/
inductive Place where
  /-- The value with the number in the condition at the position. -/
  | condition (position number : Nat)
  /-- The entry with the number in the row at the position. -/
  | row (position number : Nat)
  | assignment (position : Nat)
  /-- The stored name of the table, and of its schema. -/
  | table
  | schema
  deriving DecidableEq, Repr

namespace Query

/-- The value at a place of the query. -/
def valueAt? (query : Query) : Place → Option Value
  | .condition position number => query.conditions[position]?.bind fun condition =>
    (Placeholder.conditionValues condition)[number]?
  | .row position number => query.rows[position]?.bind fun row => row[number]?.map Prod.snd
  | .assignment position => query.assignments[position]?.map Prod.snd
  | .table => query.table.map fun table => .text (storedName (splitQualified table).2)
  | .schema => query.table.bind fun table => (splitQualified table).1.map fun schema =>
    .text (storedName schema)

/-- The places of the values in the conditions. -/
def conditionPlaces (query : Query) : List Place :=
  query.conditions.zipIdx.flatMap fun entry =>
    (List.range (Placeholder.conditionValues entry.1).length).map (.condition entry.2)

/-- The places of the values to insert: in each row the first entry of every column. -/
def rowPlaces (query : Query) : List Place :=
  query.rows.zipIdx.flatMap fun entry => query.insertColumns.filterMap fun column =>
    (entry.1.findIdx? fun named => named.1 = column).map (.row entry.2)

/-- The places of the assigned values. -/
def assignmentPlaces (query : Query) : List Place :=
  (List.range query.assignments.length).map .assignment

/-- The places of the values that are bound, in the order of the placeholders. -/
def places (query : Query) : List Place :=
  match query.method with
  | .raw | .truncate => []
  | .select | .pluck | .first | .delete => query.conditionPlaces
  | .insert => query.rowPlaces
  | .update => query.assignmentPlaces ++ query.conditionPlaces
  | .columnInfo => (query.table.map fun table =>
      .table :: ((splitQualified table).1.map fun _ => Place.schema).toList).getD []

end Query

/-! ## Text and values of templates -/

namespace Template

theorem sql_joinWith (separator : String) : ∀ ts : List Template,
    sql (joinWith separator ts) = separator.intercalate (ts.map sql)
  | [] => rfl
  | [t] => by simp [joinWith_singleton]
  | t :: u :: ts => by
    rw [joinWith_cons_cons, sql_append, sql_cons, sql_joinWith separator (u :: ts)]
    simp only [List.map_cons, String.intercalate_cons_cons, String.append_assoc]
    rfl

theorem binds_joinWith (separator : String) : ∀ ts : List Template,
    binds (joinWith separator ts) = ts.flatMap binds
  | [] => rfl
  | [t] => by simp [joinWith_singleton]
  | t :: u :: ts => by
    rw [joinWith_cons_cons, binds_append, binds_text_cons, binds_joinWith separator (u :: ts)]
    rfl

end Template

namespace Query

variable {naming : Naming} {query : Query}

/-! ## The text depends on the form alone -/

theorem sql_conditionTemplate_form (condition : Condition) :
    (query.conditionTemplate naming condition.form).sql =
      (query.conditionTemplate naming condition).sql := by
  cases condition with
  | compare column operator value => rfl
  | oneOf column values =>
    cases values with
    | nil => rfl
    | cons v vs =>
      have hlist : (v :: vs).map (fun _ => Value.null) = .null :: vs.map fun _ => .null := rfl
      simp only [Condition.form, hlist, conditionTemplate, Template.sql_cons, Template.sql_append,
        Template.sql_joinWith, List.map_map, List.map_cons]
      rfl
  | isNull column negated => rfl

theorem sql_whereTemplate_form :
    (query.form.whereTemplate naming).sql = (query.whereTemplate naming).sql := by
  have hempty : query.form.conditions.isEmpty = query.conditions.isEmpty := List.isEmpty_map
  have hconditions : (query.form.conditions.map (query.form.conditionTemplate naming)).map
      Template.sql = (query.conditions.map (query.conditionTemplate naming)).map Template.sql := by
    rw [List.map_map, List.map_map]
    exact (List.map_map ..).trans (List.map_congr_left fun condition _ =>
      sql_conditionTemplate_form condition)
  unfold whereTemplate
  rw [hempty]
  split_ifs
  · rfl
  · rw [Template.sql_cons, Template.sql_cons, Template.sql_joinWith, Template.sql_joinWith,
      hconditions]

theorem sql_selectTemplate_form (limit : Option Nat) (table : String) :
    (query.form.selectTemplate naming limit table).sql =
      (query.selectTemplate naming limit table).sql := by
  unfold selectTemplate
  simp only [Template.sql_append, Template.sql_cons, sql_whereTemplate_form]
  rfl

theorem insertColumns_form : query.form.insertColumns = query.insertColumns := by
  have hnames (row : InsertRow) : (rowForm row).map Prod.fst = row.map Prod.fst :=
    List.map_map ..
  unfold insertColumns form
  rw [List.flatMap_map]
  simp only [hnames]

theorem lookup_rowForm (row : InsertRow) (column : String) :
    (rowForm row).lookup column = (row.lookup column).map fun _ => .null := by
  induction row with
  | nil => rfl
  | cons entry row ih =>
    show ((entry.1, Value.null) :: rowForm row).lookup column = _
    rw [List.lookup_cons, List.lookup_cons, ih]
    split <;> rfl

theorem sql_insertTuple_form (columns : List String) (row : InsertRow) :
    (insertTuple columns (rowForm row)).sql = (insertTuple columns row).sql := by
  have hslot (column : String) : (insertSlot (rowForm row) column).sql =
      (insertSlot row column).sql := by
    unfold insertSlot
    rw [lookup_rowForm]
    cases row.lookup column <;> rfl
  unfold insertTuple
  simp only [Template.sql_cons, Template.sql_append, Template.sql_joinWith, List.map_map,
    Function.comp_def, hslot]

theorem sql_insertTemplate_form (table : String) :
    (query.form.insertTemplate naming table).sql = (query.insertTemplate naming table).sql := by
  have hrows : (query.form.rows.map (insertTuple query.insertColumns)).map Template.sql =
      (query.rows.map (insertTuple query.insertColumns)).map Template.sql := by
    rw [List.map_map, List.map_map]
    exact (List.map_map ..).trans (List.map_congr_left fun row _ => sql_insertTuple_form _ row)
  unfold insertTemplate
  rw [insertColumns_form]
  dsimp only
  split_ifs
  · rfl
  · rw [Template.sql_cons, Template.sql_cons, Template.sql_joinWith, Template.sql_joinWith, hrows]
    rfl

theorem sql_updateTemplate_form (table : String) :
    (query.form.updateTemplate naming table).sql = (query.updateTemplate naming table).sql := by
  have hset : (query.form.assignments.map (query.form.assignmentTemplate naming)).map
      Template.sql = (query.assignments.map (query.assignmentTemplate naming)).map
      Template.sql := by
    rw [List.map_map, List.map_map]
    exact List.map_map ..
  unfold updateTemplate
  simp only [Template.sql_cons, Template.sql_append, Template.sql_joinWith, hset,
    sql_whereTemplate_form]
  rfl

theorem sql_deleteTemplate_form (table : String) :
    (query.form.deleteTemplate naming table).sql = (query.deleteTemplate naming table).sql := by
  unfold deleteTemplate
  rw [Template.sql_cons, Template.sql_cons, sql_whereTemplate_form]
  rfl

/-- No clause writes a value into the text. -/
theorem sql_templateOn_form (table : String) :
    (query.form.templateOn naming table).sql = (query.templateOn naming table).sql := by
  have hmethod : query.form.method = query.method := rfl
  unfold templateOn
  rw [hmethod]
  cases query.method with
  | raw | truncate | columnInfo => rfl
  | select | pluck => exact sql_selectTemplate_form query.limit table
  | first => exact sql_selectTemplate_form (some 1) table
  | insert => exact sql_insertTemplate_form table
  | update => exact sql_updateTemplate_form table
  | delete => exact sql_deleteTemplate_form table

/-! ## The values depend on the places -/

theorem binds_conditionTemplate (condition : Condition) :
    (query.conditionTemplate naming condition).binds =
      Placeholder.conditionValues condition := by
  cases condition with
  | compare column operator value => rfl
  | oneOf column values =>
    cases values with
    | nil => rfl
    | cons v vs =>
      rw [conditionTemplate, Template.binds_text_cons, Template.binds_append,
        Template.binds_joinWith, List.flatMap_map, Template.binds_text_cons,
        Template.binds_nil, List.append_nil]
      exact List.flatMap_singleton' _
  | isNull column negated => rfl

theorem binds_whereTemplate :
    (query.whereTemplate naming).binds =
      query.conditions.flatMap Placeholder.conditionValues := by
  unfold whereTemplate
  split_ifs with hempty
  · rw [List.isEmpty_iff.mp hempty]
    rfl
  · rw [Template.binds_text_cons, Template.binds_joinWith, List.flatMap_map]
    simp only [binds_conditionTemplate]

theorem binds_selectTemplate (limit : Option Nat) (table : String) :
    (query.selectTemplate naming limit table).binds =
      query.conditions.flatMap Placeholder.conditionValues := by
  unfold selectTemplate
  rw [Template.binds_append]
  exact (List.append_nil _).trans binds_whereTemplate

theorem binds_insertTuple (row : InsertRow) :
    (insertTuple query.insertColumns row).binds =
      query.insertColumns.filterMap (Placeholder.firstValue? row) := by
  have hslot (column : String) :
      (insertSlot row column).binds = (Placeholder.firstValue? row column).toList := by
    unfold insertSlot
    rw [Placeholder.lookup_eq_firstValue?]
    cases Placeholder.firstValue? row column <;> rfl
  rw [insertTuple, Template.binds_text_cons, Template.binds_append, Template.binds_joinWith,
    List.flatMap_map, List.filterMap_eq_flatMap_toList, Template.binds_text_cons,
    Template.binds_nil, List.append_nil]
  simp only [hslot]

theorem binds_insertTemplate (table : String) :
    (query.insertTemplate naming table).binds =
      query.rows.flatMap fun row =>
        query.insertColumns.filterMap (Placeholder.firstValue? row) := by
  unfold insertTemplate
  dsimp only
  split_ifs with hempty
  · simp [List.isEmpty_iff.mp hempty, Template.binds]
  · rw [Template.binds_text_cons, Template.binds_joinWith, List.flatMap_map]
    simp only [binds_insertTuple]

theorem binds_updateTemplate (table : String) :
    (query.updateTemplate naming table).binds =
      query.assignments.map Prod.snd ++
        query.conditions.flatMap Placeholder.conditionValues := by
  rw [updateTemplate, Template.binds_text_cons, Template.binds_append, Template.binds_joinWith,
    List.flatMap_map, binds_whereTemplate, List.map_eq_flatMap]
  rfl

theorem binds_lookup_columns (table : String) :
    (Catalogue.lookup "columns" table none).binds =
      .text (storedName (splitQualified table).2) ::
        ((splitQualified table).1.map fun schema => Value.text (storedName schema)).toList := by
  unfold Catalogue.lookup
  rcases splitQualified table with ⟨_ | schema, name⟩ <;> rfl

/-- Whatever the naming, the values of a template are the bound values of the query. -/
theorem binds_templateOn {table : String} (htable : query.table = some table) :
    (query.templateOn naming table).binds = Placeholder.boundValues query := by
  unfold templateOn Placeholder.boundValues
  cases query.method with
  | raw | truncate => rfl
  | select | pluck => exact binds_selectTemplate query.limit table
  | first => exact binds_selectTemplate (some 1) table
  | insert => exact binds_insertTemplate table
  | update => exact binds_updateTemplate table
  | delete => exact binds_whereTemplate
  | columnInfo =>
    rw [htable]
    exact binds_lookup_columns table

/-- A list read item by item, each at its own position. -/
theorem map_flatMap_zipIdx {α β γ : Type} {xs : List α} {f : α × Nat → List β}
    {g : α → List γ} {read : β → Option γ}
    (h : ∀ n x, xs[n]? = some x → (f (x, n)).map read = (g x).map some) :
    (xs.zipIdx.flatMap f).map read = (xs.flatMap g).map some := by
  have hone : ∀ entry ∈ xs.zipIdx, (f entry).map read = (g entry.1).map some := fun entry hentry =>
    h entry.2 entry.1 (List.mem_zipIdx_iff_getElem?.mp hentry)
  have hfst : xs.zipIdx.map Prod.fst = xs := List.zipIdx_map_fst 0 xs
  calc (xs.zipIdx.flatMap f).map read
      = xs.zipIdx.flatMap fun entry => (f entry).map read := List.map_flatMap ..
    _ = xs.zipIdx.flatMap fun entry => (g entry.1).map some := List.flatMap_congr hone
    _ = (xs.zipIdx.map Prod.fst).flatMap fun x => (g x).map some := by rw [List.flatMap_map]
    _ = (xs.flatMap g).map some := by rw [hfst, List.map_flatMap]

/-- A list read by the positions of its items. -/
theorem map_range_length {α β : Type} {xs : List α} {f : Nat → β} {read : β → Option α}
    (h : ∀ n, read (f n) = xs[n]?) :
    ((List.range xs.length).map f).map read = xs.map some := by
  refine List.ext_getElem (by simp) fun n hn _ => ?_
  have hlt : n < xs.length := by simpa using hn
  simp [h, hlt]

theorem valueAt?_conditionPlaces :
    query.conditionPlaces.map query.valueAt? =
      (query.conditions.flatMap Placeholder.conditionValues).map some := by
  refine map_flatMap_zipIdx fun position condition hcondition => ?_
  exact map_range_length fun number => congrArg (Option.bind · _) hcondition

theorem valueAt?_assignmentPlaces :
    query.assignmentPlaces.map query.valueAt? = (query.assignments.map Prod.snd).map some := by
  have hlength : query.assignments.length = (query.assignments.map Prod.snd).length :=
    (List.length_map _).symm
  unfold assignmentPlaces
  rw [hlength]
  exact map_range_length fun position => List.getElem?_map.symm

/-- The number of the first entry of a column leads to the first value of the column. -/
theorem getElem?_findIdx? (row : InsertRow) (column : String) :
    (row.findIdx? fun entry => entry.1 = column).map (fun n => row[n]?.map Prod.snd) =
      (Placeholder.firstValue? row column).map some := by
  unfold Placeholder.firstValue?
  cases hfind : row.findIdx? fun entry => entry.1 = column with
  | none =>
    have hnone : row.find? (fun entry => entry.1 = column) = none :=
      List.find?_eq_none.mpr fun entry hentry => by
        simpa using List.findIdx?_eq_none_iff.mp hfind entry hentry
    rw [hnone]
    rfl
  | some n =>
    obtain ⟨hn, hentry, hbefore⟩ := List.findIdx?_eq_some_iff_getElem.mp hfind
    have hsome : row.find? (fun entry => entry.1 = column) = some row[n] :=
      List.find?_eq_some_iff_getElem.mpr ⟨hentry, n, hn, rfl, fun j hj => by
        simpa using hbefore j hj⟩
    rw [hsome, Option.map_some, List.getElem?_eq_getElem hn]
    rfl

theorem valueAt?_rowPlaces :
    query.rowPlaces.map query.valueAt? =
      (query.rows.flatMap fun row =>
        query.insertColumns.filterMap (Placeholder.firstValue? row)).map some := by
  refine map_flatMap_zipIdx fun position row hrow => ?_
  have hread : query.valueAt? ∘ Place.row position = fun n => row[n]?.map Prod.snd := by
    funext n
    exact congrArg (Option.bind · _) hrow
  rw [List.map_filterMap, List.map_filterMap]
  refine congrArg (List.filterMap · _) (funext fun column => ?_)
  rw [Option.map_map, hread, getElem?_findIdx?]

/-- The places of a query are where its bound values are. -/
theorem valueAt?_places :
    query.places.map query.valueAt? = (Placeholder.boundValues query).map some := by
  unfold places Placeholder.boundValues
  cases query.method with
  | raw | truncate => rfl
  | select | pluck | first | delete => exact valueAt?_conditionPlaces
  | insert => exact valueAt?_rowPlaces
  | update =>
    rw [List.map_append, valueAt?_assignmentPlaces, valueAt?_conditionPlaces, ← List.map_append]
  | columnInfo =>
    cases htable : query.table with
    | none => rfl
    | some table =>
      cases hschema : (splitQualified table).1 <;> simp [valueAt?, htable, hschema]

/-! ## Two queries of one form -/

theorem conditionValues_form_length (condition : Condition) :
    (Placeholder.conditionValues condition.form).length =
      (Placeholder.conditionValues condition).length := by
  cases condition with
  | compare | isNull => rfl
  | oneOf column values => exact List.length_map _

theorem conditionPlaces_form : query.form.conditionPlaces = query.conditionPlaces := by
  unfold conditionPlaces form
  rw [List.zipIdx_map, List.flatMap_map]
  simp only [Prod.map, conditionValues_form_length, id]

theorem rowPlaces_form : query.form.rowPlaces = query.rowPlaces := by
  have hnamed (row : InsertRow) (column : String) :
      ((rowForm row).findIdx? fun named => named.1 = column) =
        row.findIdx? fun named => named.1 = column := List.findIdx?_map ..
  unfold rowPlaces
  rw [insertColumns_form]
  unfold form
  rw [List.zipIdx_map, List.flatMap_map]
  simp only [Prod.map, hnamed, id]

/-- Where values are bound from is a matter of the form. -/
theorem places_form : query.form.places = query.places := by
  have hmethod : query.form.method = query.method := rfl
  have hassignments : query.form.assignmentPlaces = query.assignmentPlaces := by
    unfold assignmentPlaces form rowForm
    rw [List.length_map]
  unfold places
  rw [hmethod, conditionPlaces_form, rowPlaces_form, hassignments]
  rfl

/-- A statement without its binds. -/
def unbound (statement : Statement) : Statement := { statement with binds := [] }

/-- What becomes of a query is a matter of the form, but for the binds. -/
theorem compile_form (hmethod : query.method ≠ .raw) :
    (query.form.compile naming).map unbound = (query.compile naming).map unbound := by
  have hassignments : query.form.assignments = [] ↔ query.assignments = [] := List.map_eq_nil_iff
  have hstatement (table : String) :
      unbound (query.form.statementOf (query.form.templateOn naming table)) =
        unbound (query.statementOf (query.templateOn naming table)) := by
    unfold unbound statementOf
    dsimp only
    rw [sql_templateOn_form]
    rfl
  have hmethod' : query.form.method ≠ .raw := hmethod
  rw [compile_eq_compiled hmethod, compile_eq_compiled hmethod']
  have hreturning : query.form.returning = query.returning := rfl
  have htable : query.form.table = query.table := rfl
  have hkind : query.form.method = query.method := rfl
  unfold compiled
  simp only [hreturning, htable, hkind, hassignments]
  cases query.table with
  | none => rfl
  | some table =>
    dsimp only
    split_ifs
    · rfl
    · rfl
    · exact congrArg Except.ok (hstatement table)

/-- The binds of a compiled query are the values at its places. -/
theorem binds_of_compile (hmethod : query.method ≠ .raw) {statement : Statement}
    (h : query.compile naming = .ok statement) :
    statement.binds.map some = query.places.map query.valueAt? := by
  obtain ⟨-, table, htable, -, rfl⟩ := (compile_eq_ok_iff hmethod).mp h
  rw [valueAt?_places, ← binds_templateOn htable]
  rfl

/-- Queries of one form fail for the same reason, or compile to statements that differ in nothing
but their binds.  These are the values that the queries have at the same places, in the same
order. -/
theorem compile_of_form_eq (naming : Naming) {query query' : Query}
    (hmethod : query.method ≠ .raw) (hform : query.form = query'.form) :
    (∃ error, query.compile naming = .error error ∧ query'.compile naming = .error error) ∨
    ∃ statement statement' : Statement,
      query.compile naming = .ok statement ∧ query'.compile naming = .ok statement' ∧
      statement' = { statement with binds := statement'.binds } ∧
      statement'.binds.length = statement.binds.length ∧
      query'.places = query.places ∧
      statement.binds.map some = query.places.map query.valueAt? ∧
      statement'.binds.map some = query'.places.map query'.valueAt? := by
  have hmethod' : query'.method ≠ .raw := by
    have hsame : query.form.method = query'.form.method := congrArg Query.method hform
    exact fun h => hmethod (hsame.trans h)
  have hplaces : query'.places = query.places := by
    rw [← places_form, ← hform, places_form]
  have hmap : (query.compile naming).map unbound = (query'.compile naming).map unbound := by
    rw [← compile_form hmethod, hform, compile_form hmethod']
  cases hq : query.compile naming with
  | error error =>
    cases hq' : query'.compile naming with
    | error error' =>
      rw [hq, hq'] at hmap
      cases hmap
      exact .inl ⟨error, rfl, rfl⟩
    | ok statement' =>
      rw [hq, hq'] at hmap
      cases hmap
  | ok statement =>
    cases hq' : query'.compile naming with
    | error error' =>
      rw [hq, hq'] at hmap
      cases hmap
    | ok statement' =>
      rw [hq, hq'] at hmap
      have hunbound : unbound statement = unbound statement' := Except.ok.inj hmap
      have hbinds := binds_of_compile hmethod hq
      have hbinds' := binds_of_compile hmethod' hq'
      have hlength : statement'.binds.length = statement.binds.length := by
        have h := congrArg List.length hbinds
        have h' := congrArg List.length hbinds'
        rw [hplaces] at h'
        simp only [List.length_map] at h h'
        omega
      refine .inr ⟨statement, statement', rfl, rfl, ?_, hlength, hplaces, hbinds, hbinds'⟩
      exact congrArg (fun s : Statement => { s with binds := statement'.binds }) hunbound.symm

/-- An update with an assignment and a list of values. -/
def namedUpdate (name : Value) (first second : Value) : Query :=
  (Query.update "t").applyAll [.set "name" name, .condition (.oneOf "id" [first, second])]

/-- No value of that update is special: a null and a text with quotes give the same text. -/
theorem compile_of_form_eq_namedUpdate :
    ∃ statement statement' : Statement,
      (namedUpdate .null (.int 1) (.int 2)).compile .folded = .ok statement ∧
      (namedUpdate (.text "'; --") .null (.bool true)).compile .folded = .ok statement' ∧
      statement'.sql = statement.sql ∧
      statement.sql = "update \"T\" set \"NAME\" = ? where \"ID\" in (?, ?)" ∧
      statement'.binds.length = 3 := by
  have hcompile : (namedUpdate .null (.int 1) (.int 2)).compile .folded =
      .ok ((namedUpdate .null (.int 1) (.int 2)).statementOf
        ((namedUpdate .null (.int 1) (.int 2)).templateOn .folded "t")) := rfl
  have hmethod : (namedUpdate .null (.int 1) (.int 2)).method ≠ .raw := nofun
  have hform : (namedUpdate .null (.int 1) (.int 2)).form =
      (namedUpdate (.text "'; --") .null (.bool true)).form := rfl
  obtain ⟨error, herror, -⟩ | ⟨statement, statement', hfirst, hsecond, hsame, hlength, -⟩ :=
    compile_of_form_eq .folded hmethod hform
  · rw [hcompile] at herror
    cases herror
  · refine ⟨statement, statement', hfirst, hsecond, by rw [hsame], ?_, ?_⟩
    · rw [hcompile] at hfirst
      cases hfirst
      decide +kernel
    · rw [hlength]
      rw [hcompile] at hfirst
      cases hfirst
      rfl

end Query

end SnowflakeSql
