import SnowflakeSql.Number.Binary64

/-!
# JSON values

`Json` is a JSON document whose numbers are integers or binary numbers.  The fields of an
object are kept in ascending order of their keys, by code point, each key once
(`Fields.Sorted`); `Fields.insert` replaces the value of a key that is there already, so the
last of several equal keys counts.
-/

namespace SnowflakeSql

/-- Values under keys, in ascending order of the keys. -/
abbrev Fields (α : Type) := List (String × α)

namespace Fields

variable {α : Type}

/-- Whether every key is less than the keys after it. -/
def Sorted (fields : Fields α) : Prop := fields.Pairwise fun a b => a.1 < b.1

/-- The keys, in order. -/
def keys (fields : Fields α) : List String := fields.map Prod.fst

/-- The value under the key. -/
def get? (fields : Fields α) (key : String) : Option α :=
  match fields with
  | [] => none
  | (k, v) :: rest => if k = key then some v else get? rest key

/-- Puts the value under the key, in place of an older one. -/
def insert (key : String) (value : α) : Fields α → Fields α
  | [] => [(key, value)]
  | (k, v) :: rest =>
    if key = k then (key, value) :: rest
    else if key < k then (key, value) :: (k, v) :: rest
    else (k, v) :: insert key value rest

/-- The fields without the key. -/
def erase (key : String) (fields : Fields α) : Fields α := fields.filter fun f => f.1 ≠ key

/-- The fields of a list of pairs; of equal keys the last one counts. -/
def ofList (pairs : List (String × α)) : Fields α :=
  pairs.foldl (fun fields pair => fields.insert pair.1 pair.2) []

theorem get?_insert (fields : Fields α) (key other : String) (value : α) :
    (fields.insert key value).get? other =
      if key = other then some value else fields.get? other := by
  induction fields with
  | nil => simp [insert, get?]
  | cons f rest ih =>
    obtain ⟨k, v⟩ := f
    simp only [insert]
    split
    · next h => subst h; by_cases ho : key = other <;> simp [get?, ho]
    · next h =>
      split
      · by_cases ho : key = other <;> simp [get?, ho]
      · by_cases ho : key = other
        · subst ho; simp [get?, ih, Ne.symm h]
        · simp [get?, ih, ho]

theorem get?_erase (fields : Fields α) (key other : String) :
    (fields.erase key).get? other = if key = other then none else fields.get? other := by
  induction fields with
  | nil => simp [erase, get?]
  | cons f rest ih =>
    obtain ⟨k, v⟩ := f
    simp only [erase] at ih
    by_cases hk : k = key
    · by_cases ho : key = other <;> simp_all [erase, get?]
    · by_cases ho : key = other
      · simp_all [erase, get?]
      · simp_all [erase, get?]

end Fields

/-- A JSON document. -/
inductive Json where
  | null
  | bool (value : Bool)
  | int (value : Int)
  | float (value : Binary64)
  | str (value : String)
  | arr (items : List Json)
  | obj (fields : List (String × Json))
  deriving Inhabited

namespace Json

/-- The binary number, or null for an infinity and for what is no number. -/
def ofBinary64 (x : Binary64) : Json := if x.isFinite then .float x else .null

/-- The string, or null. -/
def ofString? : Option String → Json
  | some s => .str s
  | none => .null

/-- The object with the given pairs; of equal keys the last one counts. -/
def ofPairs (pairs : List (String × Json)) : Json := .obj (Fields.ofList pairs)

/-- The string that the document is. -/
def str? : Json → Option String
  | .str s => some s
  | _ => none

/-- The truth value that the document is. -/
def bool? : Json → Option Bool
  | .bool b => some b
  | _ => none

/-- The items of the array that the document is. -/
def arr? : Json → Option (List Json)
  | .arr items => some items
  | _ => none

/-- The fields of the object that the document is. -/
def obj? : Json → Option (Fields Json)
  | .obj fields => some fields
  | _ => none

/-- The value under the key, if the document is an object that has it. -/
def get? (json : Json) (key : String) : Option Json :=
  match json with
  | .obj fields => Fields.get? fields key
  | _ => none

/-- The least integer of 64 bits. -/
def minInt64 : Int := -9223372036854775808

/-- The greatest integer of 64 bits. -/
def maxInt64 : Int := 9223372036854775807

/-- The integer that the document is, if it fits into 64 bits with a sign. -/
def int64? : Json → Option Int
  | .int n => if minInt64 ≤ n ∧ n ≤ maxInt64 then some n else none
  | _ => none

end Json

end SnowflakeSql
