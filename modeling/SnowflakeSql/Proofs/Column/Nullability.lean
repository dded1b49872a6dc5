import Mathlib.Algebra.GroupWithZero.Nat
import SnowflakeSql.Column.Definition
import SnowflakeSql.Proofs.Column.Erasure
import SnowflakeSql.Proofs.Text.Phrases

/-!
# What a column says of nulls

The parts of a column's definition that are not the caller's own texts are its type and the
modifiers other than the default, the comment and the collation (`Column.fixedParts`).  For a
column of the builder of the dialect they say once that the column is a primary key, if it is
counted, and never otherwise (`phrases_build`).  Whether nulls are allowed is said by the type of a
counted column and, if a call says so, by a modifier: a counted column that is told so by a call
says it twice.
-/

namespace SnowflakeSql

open Text

namespace Column

/-- Whether the modifier is the default, the comment or the collation. -/
def isFree (modifier : String) : Bool :=
  ["default ", "comment ", "collate "].any fun word => word.toList.isPrefixOf modifier.toList

/-- The type of the column and the modifiers that are not texts of the caller. -/
def fixedParts (column : Column) : List String :=
  column.type.sql :: column.modifiers.filter fun modifier => !isFree modifier

/-- How often the fixed parts of the column have the phrase in all. -/
def mentions (column : Column) (phrase : String) : Nat :=
  (column.fixedParts.map (occurrences phrase)).sum

end Column

/-! ## Types -/

namespace ColumnType

theorem not_mem_scaled {c : Char} (hdigit : c.isDigit = false) (hmarks : c ∉ ['(', ',', ' ', ')'])
    {word : String} (hword : c ∉ word.toList) (precision scale : Option Nat) :
    c ∉ (scaled word precision scale).toList := by
  simp only [List.mem_cons, List.not_mem_nil, or_false, not_or] at hmarks
  simp only [scaled, String.toList_append, List.mem_append, hword, not_mem_toString hdigit]
  simp [hmarks]

theorem not_mem_sized {c : Char} (hdigit : c.isDigit = false) {word : String}
    (hword : c ∉ word.toList) (hclose : c ≠ ')') (length : Nat) :
    c ∉ (word ++ toString length ++ ")").toList := by
  simp only [String.toList_append, List.mem_append, hword, not_mem_toString hdigit]
  simp [hclose]

/-- The text says nothing of nulls and of keys. -/
def SaysNothing (text : String) : Prop :=
  occurrences "null" text = 0 ∧ occurrences "primary key" text = 0

instance (text : String) : Decidable (SaysNothing text) :=
  inferInstanceAs (Decidable (_ ∧ _))

theorem saysNothing_of_not_mem {text : String} (hu : 'u' ∉ text.toList) (hk : 'k' ∉ text.toList) :
    SaysNothing text :=
  ⟨occurrences_eq_zero (by decide) hu, occurrences_eq_zero (by decide) hk⟩

theorem saysNothing_scaled {word : String} (hu : 'u' ∉ word.toList) (hk : 'k' ∉ word.toList)
    (precision scale : Option Nat) : SaysNothing (scaled word precision scale) :=
  saysNothing_of_not_mem (not_mem_scaled rfl (by decide) hu precision scale)
    (not_mem_scaled rfl (by decide) hk precision scale)

theorem saysNothing_sized {word : String} (hu : 'u' ∉ word.toList) (hk : 'k' ∉ word.toList)
    (length : Nat) : SaysNothing (word ++ toString length ++ ")") :=
  saysNothing_of_not_mem (not_mem_sized rfl hu (by decide) length)
    (not_mem_sized rfl hk (by decide) length)

/-- Only counted keys say something in the type. -/
theorem saysNothing_sql {type : ColumnType} (hcounted : type.isCounted = false)
    (hspecific : ∀ sql, type ≠ .specific sql) : SaysNothing type.sql := by
  have hdouble : SaysNothing "double" := by decide +kernel
  have hdecimal : SaysNothing "decimal" := by decide +kernel
  have hblob : SaysNothing "blob" := by decide +kernel
  have hvarchar : SaysNothing "varchar" := by decide +kernel
  cases type with
  | increments | bigIncrements => cases hcounted
  | float precision scale => exact saysNothing_scaled (by decide) (by decide) precision scale
  | double precision scale =>
    cases precision with
    | none => exact hdouble
    | some precision => exact saysNothing_scaled (by decide) (by decide) (some precision) scale
  | decimal precision scale =>
    cases precision with
    | none => exact hdecimal
    | some precision => exact saysNothing_scaled (by decide) (by decide) (some precision) scale
  | string length => exact saysNothing_sized (by decide) (by decide) (length.getD 255)
  | binary length =>
    cases length with
    | none => exact hblob
    | some length => exact saysNothing_sized (by decide) (by decide) length
  | enum values => exact hvarchar
  | specific sql => exact absurd rfl (hspecific sql)
  | _ => decide +kernel

theorem occurrences_sql {type : ColumnType} (hspecific : ∀ sql, type ≠ .specific sql) :
    occurrences "null" type.sql = (if type.isCounted then 1 else 0) ∧
      occurrences "primary key" type.sql = (if type.isCounted then 1 else 0) := by
  cases h : type.isCounted with
  | true =>
    cases type with
    | increments | bigIncrements => exact ⟨by decide +kernel, by decide +kernel⟩
    | _ => cases h
  | false => exact saysNothing_sql h hspecific

end ColumnType

/-! ## Modifiers -/

namespace Column

theorem isFree_append {lead : String} (h : isFree lead = true) (text : String) :
    isFree (lead ++ text) = true := by
  obtain ⟨word, hword, hlead⟩ := List.any_eq_true.mp h
  refine List.any_eq_true.mpr ⟨word, hword, ?_⟩
  rw [List.isPrefixOf_iff_prefix] at hlead ⊢
  rw [String.toList_append]
  exact hlead.trans (List.prefix_append _ _)

/-- What the modifiers say of nulls. -/
def nullabilityWords : Option Bool → List String
  | some false => ["not null"]
  | some true => ["null"]
  | none => []

/-- Of one modifier nothing is kept if it is free. -/
theorem filter_singleton_of_isFree {modifier : String} (h : isFree modifier = true) :
    ([modifier].filter fun modifier => !isFree modifier) = [] := by
  simp [h]

/-- Without the caller's texts the modifiers are words for nulls, values and keys. -/
theorem filter_modifiers (column : Column) :
    (column.modifiers.filter fun modifier => !isFree modifier) =
      nullabilityWords column.nullable ++ (if column.unique then ["unique"] else []) ++
        (if column.primary.isPresent && !column.type.isCounted then ["primary key"] else []) := by
  have hparts : (column.modifiers.filter fun modifier => !isFree modifier) =
      nullabilityWords column.nullable ++ [] ++ (if column.unique then ["unique"] else []) ++
        (if column.primary.isPresent && !column.type.isCounted then ["primary key"] else []) ++
          [] ++ [] := by
    unfold modifiers
    simp only [List.filter_append]
    refine congrArg₂ _ (congrArg₂ _ (congrArg₂ _ (congrArg₂ _ (congrArg₂ _ ?nullable ?default)
      ?unique) ?primary) ?comment) ?collation
    case nullable => rcases column.nullable with - | - | - <;> decide +kernel
    case default =>
      cases column.default with
      | none => rfl
      | some default => exact filter_singleton_of_isFree (isFree_append (by decide +kernel) _)
    case unique => split_ifs <;> decide +kernel
    case primary => split_ifs <;> decide +kernel
    case comment =>
      cases column.comment with
      | none => rfl
      | some comment => exact filter_singleton_of_isFree (isFree_append (by decide +kernel) _)
    case collation =>
      cases column.collation with
      | none => rfl
      | some collation =>
        exact filter_singleton_of_isFree (isFree_append (isFree_append (by decide +kernel) _) _)
  simpa using hparts

/-- A column without a key of its own mentions what its type and its word for nulls mention. -/
theorem mentions_of_no_primary {column : Column} (h : column.primary = .absent) {phrase : String}
    (hunique : occurrences phrase "unique" = 0) :
    column.mentions phrase = occurrences phrase column.type.sql +
      ((nullabilityWords column.nullable).map (occurrences phrase)).sum := by
  have hkey : (column.primary.isPresent && !column.type.isCounted) = false := by
    rw [h]
    rfl
  unfold mentions fixedParts
  rw [filter_modifiers, hkey]
  cases column.unique <;> simp [hunique]

theorem sum_nullabilityWords (nullable : Option Bool) :
    ((nullabilityWords nullable).map (occurrences "null")).sum =
        (if nullable.isSome then 1 else 0) ∧
      ((nullabilityWords nullable).map (occurrences "primary key")).sum = 0 := by
  rcases nullable with - | - | - <;> exact ⟨by decide +kernel, by decide +kernel⟩

end Column

/-! ## Columns that are built -/

theorem ColumnBuilder.isSome_nullable_build (name : String) (type : ColumnType)
    (calls : List ColumnCall) : (snowflake.build name type calls).1.nullable.isSome =
      calls.any fun call => call.nullability?.isSome := by
  rw [nullable_build, Bool.eq_iff_iff, List.getLast?_isSome, List.any_eq_true]
  simp [List.filterMap_eq_nil_iff, Option.isSome_iff_ne_none]

/-- A column says that it is a key if it is counted.  It says something of nulls once for its type,
if that is counted, and once more if a call does: more than once exactly if both are so. -/
theorem phrases_build (name : String) {type : ColumnType}
    (hspecific : ∀ sql, type ≠ .specific sql) (calls : List ColumnCall) :
    let column := (ColumnBuilder.snowflake.build name type calls).1
    column.mentions "primary key" = (if type.isCounted then 1 else 0) ∧
    column.mentions "null" = (if type.isCounted then 1 else 0) +
      (if calls.any fun call => call.nullability?.isSome then 1 else 0) ∧
    (column.mentions "null" ≤ 1 ↔
      (type.isCounted = true → ∀ call ∈ calls, call.nullability? = none)) := by
  intro column
  have hprimary : column.primary = .absent := ColumnBuilder.primary_build name type calls
  have htype : column.type = type := ColumnBuilder.type_build name type calls
  have hsome : column.nullable.isSome = calls.any fun call => call.nullability?.isSome :=
    ColumnBuilder.isSome_nullable_build name type calls
  obtain ⟨hnull, hkey⟩ := ColumnType.occurrences_sql hspecific
  obtain ⟨hnulls, hkeys⟩ := Column.sum_nullabilityWords column.nullable
  have hmentions : column.mentions "null" = (if type.isCounted then 1 else 0) +
      (if calls.any fun call => call.nullability?.isSome then 1 else 0) := by
    rw [Column.mentions_of_no_primary hprimary (by decide +kernel), htype, hnull, hnulls, hsome]
  refine ⟨?_, hmentions, ?_⟩
  · rw [Column.mentions_of_no_primary hprimary (by decide +kernel), htype, hkey, hkeys,
      Nat.add_zero]
  · rw [hmentions]
    have hany : (calls.any fun call => call.nullability?.isSome) = false ↔
        ∀ call ∈ calls, call.nullability? = none := by
      simp
    rw [← hany]
    cases type.isCounted <;> cases calls.any fun call => call.nullability?.isSome <;> simp

/-- A counted column that is made a key says twice that it is not null. -/
theorem phrases_build_keyedCounter : (∀ sql, ColumnType.increments ≠ .specific sql) ∧
    let column := (ColumnBuilder.snowflake.build "id" .increments [.primary none]).1
    column.sql (Naming.folded.wrap none) =
        "\"ID\" int not null autoincrement primary key not null" ∧
      column.mentions "primary key" = 1 ∧ column.mentions "null" = 2 := by
  have hspecific : ∀ sql, ColumnType.increments ≠ .specific sql := nofun
  obtain ⟨hkey, hnull, -⟩ := phrases_build "id" hspecific [.primary none]
  exact ⟨hspecific, by decide +kernel, hkey, hnull⟩

end SnowflakeSql
