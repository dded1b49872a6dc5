import SnowflakeSql.Calendar
import SnowflakeSql.Number.Reading
import SnowflakeSql.Proofs.Text.Runs

/-!
# Reading dates and timestamps

`Date.read?` and `Timestamp.read?` read a date and a timestamp from a text: numbers in decimal
digits with marks between them, a sign before the year or none, and a fraction of the second that
is filled up with zeros to nine digits.  Second 60 is the second second of a minute's last one.
They are stated on their own, without the functions that write, and give back every date and every
timestamp that is written (`Date.read?_text`, `Timestamp.read?_text`).
-/

namespace SnowflakeSql

open Text

/-! ## Numbers -/

namespace Text

/-- Reads a number of one digit or more, and gives what follows it. -/
def readNumber? (cs : List Char) : Option (Nat × List Char) :=
  let (digits, rest) := readDigits cs
  if digits.isEmpty then none else some (digitsValue digits, rest)

/-- Reads a mark and the number behind it. -/
def readMarked? (mark : Char) : List Char → Option (Nat × List Char)
  | c :: cs => if c = mark then readNumber? cs else none
  | [] => none

/-- Whether a number ends before the text. -/
def EndsNumber (rest : List Char) : Prop := ∀ c ∈ rest.head?, c.isDigit = false

theorem endsNumber_nil : EndsNumber [] := nofun

theorem endsNumber_cons {c : Char} (h : c.isDigit = false) (cs : List Char) :
    EndsNumber (c :: cs) := fun _ hd => Option.some.inj hd ▸ h

theorem digitsValue_eq (cs : List Char) : digitsValue cs = Nat.ofDigitChars 10 cs 0 := rfl

theorem readDigits_append {digits rest : List Char} (h : ∀ c ∈ digits, c.isDigit = true)
    (hrest : EndsNumber rest) : readDigits (digits ++ rest) = (digits, rest) :=
  Prod.ext (takeWhile_run h hrest) (dropWhile_run h hrest)

end Text

theorem toList_padded (width n : Nat) : (padded width n).toList =
    List.replicate (width - (Nat.toDigits 10 n).length) '0' ++ Nat.toDigits 10 n :=
  String.toList_ofList

theorem isDigit_of_mem_padded {width n : Nat} {c : Char} (h : c ∈ (padded width n).toList) :
    c.isDigit = true := by
  rw [toList_padded, List.mem_append] at h
  rcases h with hzero | hdigit
  · rw [List.eq_of_mem_replicate hzero]
    rfl
  · exact Nat.isDigit_of_mem_toDigits (by decide) (by decide) hdigit

theorem padded_ne_nil (width n : Nat) : (padded width n).toList ≠ [] := by
  rw [toList_padded]
  exact List.append_ne_nil_of_right_ne_nil _ Nat.toDigits_ne_nil

theorem digitsValue_padded (width n : Nat) : digitsValue (padded width n).toList = n := by
  rw [toList_padded, digitsValue_eq, Nat.ofDigitChars_append, Nat.ofDigitChars_replicate_zero,
    Nat.mul_zero, Nat.ofDigitChars_ten_toDigits]

/-- A number that fits has exactly the digits that it is filled up to. -/
theorem length_padded {width n : Nat} (hwidth : 0 < width) (h : n < Nat.pow 10 width) :
    (padded width n).toList.length = width := by
  have hlength : (Nat.toDigits 10 n).length ≤ width :=
    (Nat.length_toDigits_le_iff (by decide) hwidth).mpr h
  rw [toList_padded, List.length_append, List.length_replicate]
  omega

theorem readNumber?_padded (width n : Nat) {rest : List Char} (hrest : EndsNumber rest) :
    readNumber? ((padded width n).toList ++ rest) = some (n, rest) := by
  have hdigits : ∀ c ∈ (padded width n).toList, c.isDigit = true := fun _ => isDigit_of_mem_padded
  have hread := readDigits_append hdigits hrest
  have hne : (padded width n).toList.isEmpty = false :=
    List.isEmpty_eq_false_iff.mpr (padded_ne_nil width n)
  unfold readNumber?
  rw [hread]
  dsimp only
  rw [hne, digitsValue_padded]
  rfl

theorem readMarked?_padded (mark : Char) (width n : Nat) {rest : List Char}
    (hrest : EndsNumber rest) :
    readMarked? mark (mark :: ((padded width n).toList ++ rest)) = some (n, rest) := by
  have hmark : readMarked? mark (mark :: ((padded width n).toList ++ rest)) =
      readNumber? ((padded width n).toList ++ rest) := if_pos rfl
  rw [hmark]
  exact readNumber?_padded width n hrest

/-! ## Dates -/

/-- Reads a year, with its sign if it has one, and gives what follows it. -/
def Date.readYear? (cs : List Char) : Option (Int × List Char) :=
  let (negative, cs) := readSign cs
  (readNumber? cs).map fun (n, rest) => (if negative then -(n : Int) else n, rest)

/-- Reads a date, if there is one of that name, and gives what follows it. -/
def Date.readFront? (cs : List Char) : Option (Date × List Char) := do
  let (year, cs) ← Date.readYear? cs
  let (month, cs) ← readMarked? '-' cs
  let (day, cs) ← readMarked? '-' cs
  let date ← Date.ofParts? year month day
  return (date, cs)

/-- Reads a whole text as a date. -/
def Date.read? (cs : List Char) : Option Date := do
  let (date, cs) ← Date.readFront? cs
  if cs.isEmpty then some date else none

theorem readSign_of_isDigit {cs : List Char} (h : ∀ c ∈ cs.head?, c.isDigit = true) :
    readSign cs = (false, cs) := by
  unfold readSign
  split
  · exact absurd (h '-' rfl) (by decide)
  · exact absurd (h '+' rfl) (by decide)
  · rfl

theorem readSign_padded (width n : Nat) (rest : List Char) :
    readSign ((padded width n).toList ++ rest) = (false, (padded width n).toList ++ rest) := by
  obtain ⟨c, cs, hcs⟩ := List.exists_cons_of_ne_nil (padded_ne_nil width n)
  rw [hcs, List.cons_append]
  refine readSign_of_isDigit fun d hd => ?_
  cases hd
  exact isDigit_of_mem_padded (hcs ▸ List.mem_cons_self)

theorem Date.readYear?_of_readSign {cs digits rest : List Char} {negative : Bool} {n : Nat}
    (hsign : readSign cs = (negative, digits)) (hnumber : readNumber? digits = some (n, rest)) :
    readYear? cs = some (if negative then -(n : Int) else n, rest) := by
  unfold readYear?
  rw [hsign]
  exact congrArg (Option.map _) hnumber

theorem Date.readYear?_yearText (year : Int) {rest : List Char} (hrest : EndsNumber rest) :
    readYear? ((yearText year).toList ++ rest) = some (year, rest) := by
  have hnumber := readNumber?_padded 4 year.natAbs hrest
  unfold yearText
  split_ifs with hshort hneg
  · rw [readYear?_of_readSign (readSign_padded 4 year.natAbs rest) hnumber]
    simp only [Bool.false_eq_true, if_false, Int.natAbs_of_nonneg hshort.1]
  · have hsign : readSign (("-" ++ padded 4 year.natAbs).toList ++ rest) =
        (true, (padded 4 year.natAbs).toList ++ rest) := by simp [readSign]
    rw [readYear?_of_readSign hsign hnumber]
    simp only [if_true, Int.ofNat_natAbs_of_nonpos (Int.le_of_lt hneg), Int.neg_neg]
  · have hsign : readSign (("+" ++ padded 4 year.natAbs).toList ++ rest) =
        (false, (padded 4 year.natAbs).toList ++ rest) := by simp [readSign]
    rw [readYear?_of_readSign hsign hnumber]
    simp only [Bool.false_eq_true, if_false, Int.natAbs_of_nonneg (Int.not_lt.mp hneg)]

/-- A date that is written is read back, up to what ends it. -/
theorem Date.readFront?_text (d : Date) {rest : List Char} (hrest : EndsNumber rest) :
    readFront? (d.text.toList ++ rest) = some (d, rest) := by
  have htext : d.text.toList ++ rest = (yearText d.year).toList ++
      ('-' :: ((padded 2 d.month).toList ++ ('-' :: ((padded 2 d.day).toList ++ rest)))) := by
    simp [text]
  unfold readFront?
  rw [htext]
  simp only [readYear?_yearText d.year (endsNumber_cons (c := '-') rfl _),
    readMarked?_padded '-' 2 d.month (endsNumber_cons (c := '-') rfl _),
    readMarked?_padded '-' 2 d.day hrest, ofParts?_parts, Option.bind_eq_bind, Option.bind_some]
  rfl

theorem Date.read?_text (d : Date) : read? d.text.toList = some d := by
  have hfront := readFront?_text d endsNumber_nil
  rw [List.append_nil] at hfront
  unfold read?
  rw [hfront]
  rfl

/-! ## Timestamps -/

/-- Reads a fraction of a second in nanoseconds, none if there is no point, and gives what follows
it.  The digits are filled up with zeros to nine. -/
def Timestamp.readFraction? : List Char → Option (Nat × List Char)
  | '.' :: cs =>
    let (digits, rest) := readDigits cs
    if digits.isEmpty || 9 < digits.length then none
    else some (digitsValue (digits ++ List.replicate (9 - digits.length) '0'), rest)
  | cs => some (0, cs)

/-- Reads the time of day on a date; second 60 is the second second of second 59. -/
def Timestamp.readClock? (date : Date) (cs : List Char) : Option Timestamp := do
  let (hour, cs) ← readNumber? cs
  let (minute, cs) ← readMarked? ':' cs
  let (second, cs) ← readMarked? ':' cs
  let (nano, cs) ← Timestamp.readFraction? cs
  if cs.isEmpty then
    if second = 60 then Timestamp.ofParts? date hour minute 59 (nano + 1000000000)
    else Timestamp.ofParts? date hour minute second nano
  else none

/-- Reads a whole text as a timestamp. -/
def Timestamp.read? (cs : List Char) : Option Timestamp :=
  match Date.readFront? cs with
  | some (date, ' ' :: cs) => Timestamp.readClock? date cs
  | _ => none

theorem Timestamp.readFraction?_point {digits : List Char} (h : ∀ c ∈ digits, c.isDigit = true)
    (hne : digits ≠ []) (hnine : digits.length ≤ 9) : readFraction? ('.' :: digits) =
      some (digitsValue (digits ++ List.replicate (9 - digits.length) '0'), []) := by
  have hread := readDigits_append h endsNumber_nil
  rw [List.append_nil] at hread
  show (let (ds, rest) := readDigits digits
    if ds.isEmpty || 9 < ds.length then none
    else some (digitsValue (ds ++ List.replicate (9 - ds.length) '0'), rest)) = _
  rw [hread]
  refine if_neg ?_
  rw [List.isEmpty_eq_false_iff.mpr hne, Bool.false_or, decide_eq_true_eq]
  exact Nat.not_lt.mpr hnine

/-- The first digits of a fraction are all of it if zeros are what is left. -/
theorem Timestamp.readFraction?_padded (width zeros : Nat) {nano : Nat} (hwidth : 0 < width)
    (hnine : width + zeros = 9) (hzeros : nano % Nat.pow 10 zeros = 0) (h : nano < 1000000000) :
    readFraction? ('.' :: (padded width (nano / Nat.pow 10 zeros)).toList) = some (nano, []) := by
  have hpow : Nat.pow 10 width * Nat.pow 10 zeros = 1000000000 :=
    (Nat.pow_add 10 width zeros).symm.trans (by rw [hnine])
  have hfits : nano / Nat.pow 10 zeros < Nat.pow 10 width :=
    Nat.div_lt_of_lt_mul (by rwa [Nat.mul_comm, hpow])
  have hlength := length_padded hwidth hfits
  rw [readFraction?_point (fun c => isDigit_of_mem_padded) (padded_ne_nil _ _) (by omega), hlength,
    digitsValue_eq, Nat.ofDigitChars_append, Nat.ofDigitChars_replicate_zero, ← digitsValue_eq,
    digitsValue_padded, ← hnine, Nat.add_sub_cancel_left]
  exact congrArg (fun n => some (n, [])) (Nat.mul_div_cancel' (Nat.dvd_of_mod_eq_zero hzeros))

theorem Timestamp.readFraction?_fractionText {nano : Nat} (h : nano < 1000000000) :
    readFraction? (fractionText nano).toList = some (nano, []) := by
  unfold fractionText
  split_ifs with hzero hmilli hmicro
  · rw [hzero]
    rfl
  · have hread := readFraction?_padded 3 6 (by decide) rfl hmilli h
    simpa using hread
  · have hread := readFraction?_padded 6 3 (by decide) rfl hmicro h
    simpa using hread
  · have hread := readFraction?_padded 9 0 (by decide) rfl (Nat.mod_one nano) h
    simpa using hread

theorem Timestamp.endsNumber_fractionText (nano : Nat) :
    EndsNumber (fractionText nano).toList := by
  unfold fractionText
  split_ifs
  · exact endsNumber_nil
  all_goals
    rw [String.toList_append]
    exact endsNumber_cons rfl _

/-- The second and the nanoseconds are those that are shown. -/
theorem Timestamp.ofParts?_shown (t : Timestamp) :
    (if t.shownSecond = 60 then ofParts? t.date t.hour t.minute 59 (t.shownNano + 1000000000)
      else ofParts? t.date t.hour t.minute t.shownSecond t.shownNano) = some t := by
  have hsecond := t.time_mem.2.2
  have hnano := t.nano_mem
  have hparts := ofParts?_parts t
  unfold shownSecond shownNano
  by_cases hleap : t.nano < 1000000000
  · rw [Nat.div_eq_of_lt hleap, Nat.mod_eq_of_lt hleap, Nat.add_zero, if_neg (Nat.ne_of_lt hsecond)]
    exact hparts
  · have hfields : t.second = 59 ∧ t.second + t.nano / 1000000000 = 60 ∧
        t.nano % 1000000000 + 1000000000 = t.nano := by omega
    obtain ⟨hlast, hshown, hrest⟩ := hfields
    rw [if_pos hshown, hrest, ← hlast]
    exact hparts

theorem Timestamp.readClock?_clockText (t : Timestamp) :
    readClock? t.date t.clockText.toList = some t := by
  have htext : t.clockText.toList = (padded 2 t.hour).toList ++
      (':' :: ((padded 2 t.minute).toList ++ (':' :: ((padded 2 t.shownSecond).toList ++
        (fractionText t.shownNano).toList)))) := by
    simp [clockText]
  have hfraction := readFraction?_fractionText (Nat.mod_lt t.nano (by decide : 0 < 1000000000))
  unfold readClock?
  rw [htext]
  simp only [readNumber?_padded 2 t.hour (endsNumber_cons (c := ':') rfl _),
    readMarked?_padded ':' 2 t.minute (endsNumber_cons (c := ':') rfl _),
    readMarked?_padded ':' 2 t.shownSecond (endsNumber_fractionText t.shownNano),
    Option.bind_eq_bind, Option.bind_some]
  unfold shownNano
  rw [hfraction]
  exact ofParts?_shown t

theorem Timestamp.read?_text (t : Timestamp) : read? t.text.toList = some t := by
  have htext : t.text.toList = t.date.text.toList ++ ' ' :: t.clockText.toList := by
    simp [text, textWith]
  have hdate := t.date.readFront?_text (endsNumber_cons (c := ' ') rfl t.clockText.toList)
  unfold read?
  rw [htext, hdate]
  exact readClock?_clockText t

/-- A leap second, with a fraction in fewer digits than are written. -/
example : (Timestamp.read? "+10016-12-31 23:59:60.5".toList).map Timestamp.text =
    some "+10016-12-31 23:59:60.500" := by decide +kernel

end SnowflakeSql
