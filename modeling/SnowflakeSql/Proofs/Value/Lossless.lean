import SnowflakeSql.Proofs.Value.Moments
import SnowflakeSql.Value

/-!
# Binds without loss

Dates, timestamps and bytes are bound as texts.  A reader of each kind gives the value back from its
text (`Date.read?`, `Timestamp.read?`, `readHex?`), so no two values of one kind are bound as the
same text.  None of the texts has a quote, and so the inline value is the text as it stands between
quotes, behind an X if it is bytes (`Value.BoundAs`).  `binds_readBack` says so of all of them.
-/

namespace SnowflakeSql

open Text

/-! ## Bytes -/

/-- What a hexadecimal digit stands for; letters are in capitals. -/
def hexValue? (c : Char) : Option Nat :=
  if '0' ≤ c ∧ c ≤ '9' then some (c.toNat - 48)
  else if 'A' ≤ c ∧ c ≤ 'F' then some (c.toNat - 55)
  else none

/-- Reads a whole text as bytes, two digits each with the greater half first. -/
def readHex? : List Char → Option (List UInt8)
  | [] => some []
  | [_] => none
  | high :: low :: rest => do
    let high ← hexValue? high
    let low ← hexValue? low
    let bytes ← readHex? rest
    return UInt8.ofNat (16 * high + low) :: bytes

theorem hexValue?_hexCapital : ∀ n < 16, hexValue? (hexCapital n) = some n := by decide

theorem hexCapital_ne_quote : ∀ n < 16, hexCapital n ≠ '\'' := by decide

theorem halves_lt (b : UInt8) : b.toNat / 16 < 16 ∧ b.toNat % 16 < 16 := by
  have hbyte := b.toNat_lt
  omega

theorem ofNat_halves (b : UInt8) : UInt8.ofNat (16 * (b.toNat / 16) + b.toNat % 16) = b := by
  rw [Nat.div_add_mod, UInt8.ofNat_toNat]

theorem readHex?_byteText (b : UInt8) (cs : List Char) :
    readHex? (byteText b ++ cs) = (readHex? cs).map (b :: ·) := by
  obtain ⟨hhigh, hlow⟩ := halves_lt b
  show (do
    let high ← hexValue? (hexCapital (b.toNat / 16))
    let low ← hexValue? (hexCapital (b.toNat % 16))
    let bytes ← readHex? cs
    return UInt8.ofNat (16 * high + low) :: bytes) = _
  rw [hexValue?_hexCapital _ hhigh, hexValue?_hexCapital _ hlow]
  simp only [Option.bind_eq_bind, Option.bind_some, ofNat_halves]
  cases readHex? cs <;> rfl

theorem readHex?_hexText (bytes : List UInt8) : readHex? (hexText bytes).toList = some bytes := by
  unfold hexText
  rw [String.toList_ofList]
  induction bytes with
  | nil => rfl
  | cons b bytes ih =>
    rw [List.flatMap_cons, readHex?_byteText, ih, Option.map_some]

/-! ## Texts without quotes -/

theorem quote_not_mem_hexText (bytes : List UInt8) : '\'' ∉ (hexText bytes).toList := by
  unfold hexText
  rw [String.toList_ofList, List.mem_flatMap]
  rintro ⟨b, -, hquote⟩
  obtain ⟨hhigh, hlow⟩ := halves_lt b
  rw [byteText, List.mem_cons, List.mem_singleton] at hquote
  rcases hquote with h | h
  · exact hexCapital_ne_quote _ hhigh h.symm
  · exact hexCapital_ne_quote _ hlow h.symm

theorem quote_not_mem_padded (width n : Nat) : '\'' ∉ (padded width n).toList := fun h =>
  absurd (isDigit_of_mem_padded h) (by decide)

theorem Date.quote_not_mem_text (d : Date) : '\'' ∉ d.text.toList := by
  have hyear : '\'' ∉ (yearText d.year).toList := by
    unfold yearText
    split_ifs <;> simp [quote_not_mem_padded]
  simp [text, hyear, quote_not_mem_padded]

theorem Timestamp.quote_not_mem_text (t : Timestamp) : '\'' ∉ t.text.toList := by
  have hfraction : '\'' ∉ (fractionText t.shownNano).toList := by
    unfold fractionText
    split_ifs <;> simp [quote_not_mem_padded]
  simp [text, textWith, clockText, t.date.quote_not_mem_text, hfraction, quote_not_mem_padded]

/-- A text without quotes is a literal as it stands. -/
theorem literal_of_not_mem {text : String} (h : '\'' ∉ text.toList) :
    literal text = "'" ++ text ++ "'" := by
  rw [← String.toList_inj, toList_encloseString, enclose, double_eq_self h]
  simp

/-! ## Values -/

/-- The value is bound as the text.  Inline it is that text between quotes, behind the mark of its
kind, and the text has no quote itself. -/
structure Value.BoundAs (value : Value) (mark text : String) : Prop where
  bind : value.bind = .str text
  inline : value.inline = mark ++ "'" ++ text ++ "'"
  unquoted : '\'' ∉ text.toList

theorem Value.boundAs_date (day : Date) : (Value.date day).BoundAs "" day.text where
  bind := rfl
  inline := (literal_of_not_mem day.quote_not_mem_text).trans (by simp)
  unquoted := day.quote_not_mem_text

theorem Value.boundAs_timestamp (moment : Timestamp) :
    (Value.timestamp moment).BoundAs "" moment.text where
  bind := rfl
  inline := (literal_of_not_mem moment.quote_not_mem_text).trans (by simp)
  unquoted := moment.quote_not_mem_text

theorem Value.boundAs_blob (bytes : List UInt8) :
    (Value.blob bytes).BoundAs "X" (hexText bytes) where
  bind := rfl
  inline := rfl
  unquoted := quote_not_mem_hexText bytes

/-- Values that are read back from the texts that they are bound as are bound as different texts. -/
theorem bind_eq_iff {α : Type} {make : α → Value} {mark : String} {read? : List Char → Option α}
    (h : ∀ x, ∃ text, (make x).BoundAs mark text ∧ read? text.toList = some x) (x y : α) :
    (make x).bind = (make y).bind ↔ x = y := by
  refine ⟨fun heq => ?_, congrArg fun x => (make x).bind⟩
  obtain ⟨text, hx, hreadx⟩ := h x
  obtain ⟨text', hy, hready⟩ := h y
  have htext : text = text' := Json.str.inj (hx.bind.symm.trans (heq.trans hy.bind))
  exact Option.some.inj (hreadx.symm.trans (htext ▸ hready))

/-- Every date, every timestamp and all bytes are read back from the text that they are bound as,
which is also the inline value between its quotes.  So different values of one kind are bound as
different texts. -/
theorem binds_readBack :
    (∀ day : Date, ∃ text,
      (Value.date day).BoundAs "" text ∧ Date.read? text.toList = some day) ∧
    (∀ moment : Timestamp, ∃ text,
      (Value.timestamp moment).BoundAs "" text ∧ Timestamp.read? text.toList = some moment) ∧
    (∀ bytes : List UInt8, ∃ text,
      (Value.blob bytes).BoundAs "X" text ∧ readHex? text.toList = some bytes) ∧
    (∀ day day' : Date, (Value.date day).bind = (Value.date day').bind ↔ day = day') ∧
    (∀ moment moment' : Timestamp,
      (Value.timestamp moment).bind = (Value.timestamp moment').bind ↔ moment = moment') ∧
    ∀ bytes bytes' : List UInt8,
      (Value.blob bytes).bind = (Value.blob bytes').bind ↔ bytes = bytes' := by
  have hdates : ∀ day : Date, ∃ text,
      (Value.date day).BoundAs "" text ∧ Date.read? text.toList = some day := fun day =>
    ⟨_, Value.boundAs_date day, day.read?_text⟩
  have hmoments : ∀ moment : Timestamp, ∃ text,
      (Value.timestamp moment).BoundAs "" text ∧ Timestamp.read? text.toList = some moment :=
    fun moment => ⟨_, Value.boundAs_timestamp moment, moment.read?_text⟩
  have hbytes : ∀ bytes : List UInt8, ∃ text,
      (Value.blob bytes).BoundAs "X" text ∧ readHex? text.toList = some bytes := fun bytes =>
    ⟨_, Value.boundAs_blob bytes, readHex?_hexText bytes⟩
  exact ⟨hdates, hmoments, hbytes, bind_eq_iff hdates, bind_eq_iff hmoments, bind_eq_iff hbytes⟩

end SnowflakeSql
