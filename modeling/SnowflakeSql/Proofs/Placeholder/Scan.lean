import Mathlib.Tactic.Common
import SnowflakeSql.Identifier.Naming
import SnowflakeSql.Proofs.Text.Phrases
import SnowflakeSql.Statement

/-!
# Placeholders in SQL text

A question mark in SQL text is the place of a value unless it stands in a quoted identifier.
`scan` reads a text from the left: a quote opens an identifier, a doubled quote inside stays
inside, and a lone quote closes it.  `fill` puts values, one after the other, in the places that
were found.  A `Sealed` text has no such place and leaves no identifier open; a template made of
sealed texts gets each of its values back where it was written (`fill_scan_sql`).
-/

namespace SnowflakeSql

namespace Placeholder

open Text

/-- A character of SQL text as it is read. -/
inductive Token where
  | char (c : Char)
  /-- The place of a value. -/
  | place
  deriving DecidableEq, Repr

/-- A character of SQL text with values in it. -/
inductive Mark where
  | char (c : Char)
  | value (value : Value)

/-- The value of a mark, if it carries one. -/
def Mark.value? : Mark → Option Value
  | char _ => none
  | value v => some v

/-- The tokens of a text; `quoted` tells whether an identifier is open before it. -/
def scan : (quoted : Bool) → List Char → List Token
  | _, [] => []
  | true, '"' :: '"' :: cs => .char '"' :: .char '"' :: scan true cs
  | true, '"' :: cs => .char '"' :: scan false cs
  | true, c :: cs => .char c :: scan true cs
  | false, '"' :: cs => .char '"' :: scan true cs
  | false, '?' :: cs => .place :: scan false cs
  | false, c :: cs => .char c :: scan false cs

/-- The tokens with each value in its place; none if places or values are left over. -/
def fill : List Token → List Value → Option (List Mark)
  | [], [] => some []
  | [], _ :: _ => none
  | .char c :: tokens, values => (fill tokens values).map (.char c :: ·)
  | .place :: _, [] => none
  | .place :: tokens, value :: values => (fill tokens values).map (.value value :: ·)

/-- The values that the marks carry. -/
def valuesOf (said : List Mark) : List Value := said.filterMap Mark.value?

/-- The text as it stands, without values. -/
def written (s : String) : List Mark := s.toList.map .char

/-! ## What a filled text tells -/

theorem count_place_of_fill {tokens : List Token} {values : List Value} {marks : List Mark}
    (h : fill tokens values = some marks) : tokens.count .place = values.length := by
  fun_induction fill tokens values generalizing marks with
  | case1 => rfl
  | case2 => cases h
  | case3 c tokens values ih =>
    obtain ⟨ms, hms, -⟩ := Option.map_eq_some_iff.1 h
    rw [List.count_cons_of_ne (by simp)]
    exact ih hms
  | case4 => cases h
  | case5 tokens value values ih =>
    obtain ⟨ms, hms, -⟩ := Option.map_eq_some_iff.1 h
    rw [List.count_cons_self, List.length_cons, ih hms]

theorem values_of_fill {tokens : List Token} {values : List Value} {marks : List Mark}
    (h : fill tokens values = some marks) : valuesOf marks = values := by
  fun_induction fill tokens values generalizing marks with
  | case1 => cases h; rfl
  | case2 => cases h
  | case3 c tokens values ih =>
    obtain ⟨ms, hms, rfl⟩ := Option.map_eq_some_iff.1 h
    have hvalues := ih hms
    exact hvalues
  | case4 => cases h
  | case5 tokens value values ih =>
    obtain ⟨ms, hms, rfl⟩ := Option.map_eq_some_iff.1 h
    exact congrArg (value :: ·) (ih hms)

theorem fill_chars_append (cs : List Char) (tokens : List Token) (values : List Value) :
    fill (cs.map .char ++ tokens) values = (fill tokens values).map (cs.map .char ++ ·) := by
  induction cs with
  | nil => simp
  | cons c cs ih =>
    simp only [List.map_cons, List.cons_append, fill, ih, Option.map_map]
    rfl

@[simp] theorem valuesOf_append (said said' : List Mark) :
    valuesOf (said ++ said') = valuesOf said ++ valuesOf said' := List.filterMap_append

@[simp] theorem valuesOf_written (s : String) : valuesOf (written s) = [] := by
  simp [valuesOf, written, List.filterMap_map, Function.comp_def, Mark.value?]

theorem written_append (s t : String) : written (s ++ t) = written s ++ written t := by
  simp [written]

/-! ## Reading without looking ahead -/

/-- The tokens of a text when each quote opens an identifier or closes the open one.  A doubled
quote inside an identifier closes it and opens it again, with nothing between. -/
def toggle : (quoted : Bool) → List Char → List Token
  | _, [] => []
  | quoted, c :: cs =>
    if c = '"' then .char c :: toggle (!quoted) cs
    else if c = '?' ∧ quoted = false then .place :: toggle quoted cs
    else .char c :: toggle quoted cs

theorem scan_eq_toggle (quoted : Bool) (cs : List Char) : scan quoted cs = toggle quoted cs := by
  fun_induction scan quoted cs with
  | case1 => rfl
  | case2 cs ih => simp [toggle, ih]
  | case3 cs _ ih => simp [toggle, ih]
  | case4 c cs _ h ih =>
    have hc : c ≠ '"' := fun e => h e
    simp [toggle, hc, ih]
  | case5 cs ih => simp [toggle, ih]
  | case6 cs ih => simp [toggle, ih]
  | case7 c cs h₁ h₂ ih =>
    have hq : c ≠ '"' := fun e => h₁ e
    have hp : c ≠ '?' := fun e => h₂ e
    simp [toggle, hq, hp, ih]

/-! ## Sealed texts -/

/-- The text has no place of a value and leaves no identifier open, whatever follows it. -/
def Sealed (s : String) : Prop :=
  ∀ rest, toggle false (s.toList ++ rest) = s.toList.map .char ++ toggle false rest

theorem Sealed.append {s t : String} (hs : Sealed s) (ht : Sealed t) : Sealed (s ++ t) := by
  intro rest
  rw [String.toList_append, List.append_assoc, hs, ht, List.map_append, List.append_assoc]

/-- Whether the text has neither quotes nor question marks. -/
def isBare (s : String) : Bool := s.toList.all fun c => c != '"' && c != '?'

theorem Sealed.lit {s : String} (h : isBare s = true) : Sealed s := by
  intro rest
  unfold isBare at h
  generalize s.toList = cs at h ⊢
  induction cs with
  | nil => rfl
  | cons c cs ih =>
    simp only [List.all_cons, Bool.and_eq_true, bne_iff_ne, ne_eq] at h
    simp [toggle, h.1, ih h.2]

theorem sealed_of_not_mem {s : String} (hp : '?' ∉ s.toList) (hq : '"' ∉ s.toList) : Sealed s := by
  refine Sealed.lit (List.all_eq_true.2 fun c hc => ?_)
  have h₁ : c ≠ '"' := by rintro rfl; exact hq hc
  have h₂ : c ≠ '?' := by rintro rfl; exact hp hc
  simp [h₁, h₂]

theorem sealed_empty : Sealed "" := fun _ => rfl

theorem sealed_toString (n : Nat) : Sealed (toString n) :=
  sealed_of_not_mem (not_mem_toString rfl n) (not_mem_toString rfl n)

theorem sealed_intercalate {separator : String} (hsep : Sealed separator) :
    ∀ {parts : List String}, (∀ part ∈ parts, Sealed part) → Sealed (separator.intercalate parts)
  | [], _ => by simpa using sealed_empty
  | [part], h => by simpa using h part (by simp)
  | part :: part' :: parts, h => by
    rw [String.intercalate_cons_cons]
    refine ((h part (by simp)).append hsep).append (sealed_intercalate hsep fun p hp => ?_)
    exact h p (List.mem_cons_of_mem part hp)

/-- Inside an identifier the doubled text stands as it is, up to the quote that closes it. -/
theorem toggle_double_append (cs rest : List Char) :
    toggle true (double '"' cs ++ '"' :: rest) =
      (double '"' cs).map .char ++ .char '"' :: toggle false rest := by
  induction cs with
  | nil => simp [double, toggle]
  | cons c cs ih =>
    by_cases h : c = '"'
    · subst h
      simp [double, toggle, ih]
    · simp [double, toggle, h, ih]

theorem sealed_encloseString (s : String) : Sealed (encloseString '"' s) := by
  intro rest
  simp [encloseString, enclose, toggle, toggle_double_append]

theorem sealed_quoteIdentifier (segment : String) : Sealed (quoteIdentifier segment) := by
  unfold quoteIdentifier
  split_ifs
  · exact Sealed.lit (by decide)
  · exact sealed_encloseString segment

theorem sealed_wrapWith {spell : List Char → String} (h : ∀ cs, Sealed (spell cs))
    (cs : List Char) : Sealed (Naming.wrapWith spell cs) := by
  rcases hs : Identifier.splitAlias? cs with _ | ⟨before, after⟩
  · rw [Naming.wrapWith_of_splitAlias?_none hs]
    refine sealed_intercalate (.lit (by decide)) fun part hp => ?_
    obtain ⟨segment, -, rfl⟩ := List.mem_map.1 hp
    exact h _
  · rw [Naming.wrapWith_of_splitAlias? hs]
    have := Identifier.length_of_splitAlias? hs
    exact ((sealed_wrapWith h before).append (.lit (by decide))).append (h _)
termination_by cs.length

/-- However odd an identifier is, its spelling is sealed. -/
theorem sealed_wrap (context : Option Context) (identifier : String) :
    Sealed (Naming.folded.wrap context identifier) :=
  sealed_wrapWith (fun _ => sealed_quoteIdentifier _) _

theorem sealed_columnList (context : Option Context) (columns : List String) :
    Sealed (Naming.folded.columnList context columns) := by
  unfold Naming.columnList
  split_ifs
  · exact Sealed.lit (by decide)
  · refine sealed_intercalate (.lit (by decide)) fun part hp => ?_
    obtain ⟨column, -, rfl⟩ := List.mem_map.1 hp
    exact sealed_wrap context column

/-! ## Templates of sealed texts -/

/-- A piece as it reads with its value in it. -/
def marksOfPiece : Piece → List Mark
  | .text sql => written sql
  | .value v => [.value v]

/-- A template as it reads with its values in it. -/
def marks (t : Template) : List Mark := t.flatMap marksOfPiece

/-- All texts of the template are sealed. -/
def SealedTemplate (t : Template) : Prop := ∀ sql, .text sql ∈ t → Sealed sql

theorem marks_append (t u : Template) : marks (t ++ u) = marks t ++ marks u :=
  List.flatMap_append

theorem marks_text_cons (sql : String) (t : Template) :
    marks (.text sql :: t) = written sql ++ marks t := rfl

theorem marks_value_cons (v : Value) (t : Template) :
    marks (.value v :: t) = .value v :: marks t := rfl

theorem SealedTemplate.nil : SealedTemplate [] := fun _ h => nomatch h

theorem SealedTemplate.append {t u : Template} (ht : SealedTemplate t) (hu : SealedTemplate u) :
    SealedTemplate (t ++ u) := fun sql h => (List.mem_append.1 h).elim (ht sql) (hu sql)

theorem SealedTemplate.text_cons {sql : String} {t : Template} (hs : Sealed sql)
    (ht : SealedTemplate t) : SealedTemplate (.text sql :: t) := by
  intro sql' h
  rcases List.mem_cons.1 h with h | h
  · cases h; exact hs
  · exact ht sql' h

theorem SealedTemplate.value_cons {v : Value} {t : Template} (ht : SealedTemplate t) :
    SealedTemplate (.value v :: t) := by
  intro sql h
  rcases List.mem_cons.1 h with h | h
  · cases h
  · exact ht sql h

theorem sealedTemplate_joinWith {separator : String} (hsep : Sealed separator) :
    ∀ {ts : List Template}, (∀ t ∈ ts, SealedTemplate t) →
      SealedTemplate (Template.joinWith separator ts)
  | [], _ => by simpa [Template.joinWith] using SealedTemplate.nil
  | [t], h => by
    rw [Template.joinWith_singleton]
    exact h t (by simp)
  | t :: u :: ts, h => by
    rw [Template.joinWith_cons_cons]
    refine (h t (by simp)).append (SealedTemplate.text_cons hsep ?_)
    exact sealedTemplate_joinWith hsep fun p hp => h p (List.mem_cons_of_mem t hp)

/-- The values of a template of sealed texts go back to where they were written. -/
theorem fill_toggle_sql {t : Template} (h : SealedTemplate t) :
    fill (toggle false t.sql.toList) t.binds = some (marks t) := by
  induction t with
  | nil => rfl
  | cons piece t ih =>
    have ht : SealedTemplate t := fun sql hs => h sql (List.mem_cons_of_mem piece hs)
    cases piece with
    | text sql =>
      have hs : Sealed sql := h sql (by simp)
      rw [Template.sql_cons, String.toList_append, Piece.sql, hs, fill_chars_append,
        Template.binds_text_cons, ih ht]
      rfl
    | value v =>
      have htokens : toggle false ("?".toList ++ (Template.sql t).toList) =
          .place :: toggle false (Template.sql t).toList := rfl
      rw [Template.sql_cons, String.toList_append, Piece.sql, Value.placeholder, htokens,
        Template.binds_value_cons, fill, ih ht]
      rfl

theorem fill_scan_sql {t : Template} (h : SealedTemplate t) :
    fill (scan false t.sql.toList) t.binds = some (marks t) := by
  rw [scan_eq_toggle, fill_toggle_sql h]

end Placeholder

end SnowflakeSql
