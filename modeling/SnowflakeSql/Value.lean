import SnowflakeSql.Calendar
import SnowflakeSql.Json.Printer
import SnowflakeSql.Text.Quoted

/-!
# Values

A `Value` is what a column or a parameter can hold.  It has two spellings: `Value.inline` is
SQL text, used where no parameter can stand (the default of a column), and `Value.bind` is the
JSON document that is sent for a parameter.  Text, dates, timestamps and documents are inline
literals between single quotes; bytes are written in hexadecimal.  `ToValue` says which types
turn into values.
-/

namespace SnowflakeSql

/-- A value of a column or a parameter. -/
inductive Value where
  | null
  | bool (value : Bool)
  | int (value : Int64)
  | float (value : Binary64)
  | text (value : String)
  | blob (bytes : List UInt8)
  | date (value : Date)
  | timestamp (value : Timestamp)
  | json (value : Json)
  deriving Inhabited

/-- A digit of a hexadecimal number, in capitals. -/
def hexCapital (n : Nat) : Char := if n < 10 then Char.ofNat (48 + n) else Char.ofNat (55 + n)

/-- The two hexadecimal digits of a byte. -/
def byteText (b : UInt8) : List Char := [hexCapital (b.toNat / 16), hexCapital (b.toNat % 16)]

/-- The hexadecimal digits of bytes. -/
def hexText (bytes : List UInt8) : String := String.ofList (bytes.flatMap byteText)

namespace Value

/-- Inline numbers never have an exponent, and whole ones no point. -/
def numberStyle : NumberStyle where
  isPlain _ := true
  wholePoint := false
  exponentPlus := false
  tieUp := true

/-- The SQL text of a value. -/
def inline : Value → String
  | null => "NULL"
  | bool true => "TRUE"
  | bool false => "FALSE"
  | int n => toString n.toInt
  | float x => numberStyle.write x
  | text s => Text.literal s
  | blob bytes => "X'" ++ hexText bytes ++ "'"
  | date d => Text.literal d.text
  | timestamp t => Text.literal t.text
  | json j => Text.literal j.text

/-- The document that is sent for a parameter. -/
def bind : Value → Json
  | null => .null
  | bool b => .bool b
  | int n => .int n.toInt
  | float x => .ofBinary64 x
  | text s => .str s
  | blob bytes => .str (hexText bytes)
  | date d => .str d.text
  | timestamp t => .str t.text
  | json j => .str j.text

/-- What stands in SQL text for a parameter. -/
def placeholder : String := "?"

end Value

/-- Types whose members turn into values. -/
class ToValue (α : Type) where
  /-- The value of a member. -/
  toValue : α → Value

export ToValue (toValue)

instance : ToValue Value := ⟨id⟩
instance : ToValue Bool := ⟨.bool⟩
instance : ToValue Int64 := ⟨.int⟩
instance : ToValue Int32 := ⟨fun n => .int n.toInt64⟩
instance : ToValue UInt32 := ⟨fun n => .int (Int64.ofNat n.toNat)⟩
instance : ToValue Binary64 := ⟨.float⟩
instance : ToValue String := ⟨.text⟩
instance : ToValue (List UInt8) := ⟨.blob⟩
instance : ToValue Date := ⟨.date⟩
instance : ToValue Timestamp := ⟨.timestamp⟩
instance : ToValue Json := ⟨.json⟩

/-- What is absent is null. -/
instance {α : Type} [ToValue α] : ToValue (Option α) := ⟨fun x => x.elim .null toValue⟩

example : (Value.blob [0xAB, 1]).inline = "X'AB01'" := by decide +kernel

example : (Value.text "O'Brien").inline = "'O''Brien'" := by decide +kernel

end SnowflakeSql
