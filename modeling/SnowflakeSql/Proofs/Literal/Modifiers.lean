import SnowflakeSql.Proofs.Column.Divergence
import SnowflakeSql.Proofs.Identifier.Items
import SnowflakeSql.Proofs.Literal.Single

/-!
# Modifiers as they are read

`tokens?` cuts SQL text into words and literals.  What stands behind the type of a column is to be
read as the modifiers that the column asks for (`Column.requests`): words, and for the default, the
comment and the collation a word and a literal each.  Defaults and comments are literals whatever
their text.  The collation stands between quotes as it is given, so the modifiers are read as the
column asks exactly if it has no quote (`modifiers_read_iff`).
-/

namespace SnowflakeSql

open Text

/-! ## Tokens -/

/-- A word or a literal of SQL text. -/
inductive Token where
  | word (text : String)
  | literal (content : String)
  deriving DecidableEq, Repr

namespace Token

/-- The text of a token in SQL. -/
def spelled : Token → String
  | word text => text
  | literal content => Text.literal content

end Token

namespace Text

/-- Whether the character can stand in a word. -/
def isWordChar (c : Char) : Bool := c ≠ ' ' && c ≠ '\''

/-- Cuts a text into words and literals, with blanks between, unless a literal is not closed. -/
def tokens? : List Char → Option (List Token)
  | [] => some []
  | c :: cs =>
    if c = ' ' then tokens? cs
    else if c = '\'' then
      match _h : readBody? '\'' cs with
      | none => none
      | some (body, rest) => (tokens? rest).map (.literal (String.ofList body) :: ·)
    else (tokens? (cs.dropWhile isWordChar)).map
      (.word (String.ofList (c :: cs.takeWhile isWordChar)) :: ·)
termination_by cs => cs.length
decreasing_by
  · exact Nat.lt_succ_self _
  · exact Nat.lt_succ_of_lt (length_of_readBody? _h)
  · exact Nat.lt_succ_of_le (List.length_dropWhile_le _ _)

theorem tokens?_nil : tokens? [] = some [] := by rw [tokens?]

theorem tokens?_blank (cs : List Char) : tokens? (' ' :: cs) = tokens? cs := by
  rw [tokens?, if_pos rfl]

theorem tokens?_of_readBody? {cs body rest : List Char}
    (h : readBody? '\'' cs = some (body, rest)) :
    tokens? ('\'' :: cs) = (tokens? rest).map (.literal (String.ofList body) :: ·) := by
  rw [tokens?, if_neg (by decide), if_pos rfl]
  split
  · next hnone => cases h.symm.trans hnone
  · next hsome =>
    cases h.symm.trans hsome
    rfl

theorem tokens?_of_readBody?_none {cs : List Char} (h : readBody? '\'' cs = none) :
    tokens? ('\'' :: cs) = none := by
  rw [tokens?, if_neg (by decide), if_pos rfl]
  split
  · rfl
  · next hsome => cases h.symm.trans hsome

theorem tokens?_word {word : List Char} (hne : word ≠ []) (hword : ∀ c ∈ word, isWordChar c = true)
    {rest : List Char} (hrest : ∀ c ∈ rest.head?, isWordChar c = false) :
    tokens? (word ++ rest) = (tokens? rest).map (.word (String.ofList word) :: ·) := by
  obtain ⟨c, cs, rfl⟩ := List.exists_cons_of_ne_nil hne
  rw [List.forall_mem_cons] at hword
  obtain ⟨hc, hcs⟩ := hword
  have hnot : c ≠ ' ' ∧ c ≠ '\'' := by simpa [isWordChar] using hc
  rw [List.cons_append, tokens?, if_neg hnot.1, if_neg hnot.2, takeWhile_run hcs hrest,
    dropWhile_run hcs hrest]

end Text

namespace Token

/-- A word has characters, and none of them ends it. -/
def IsProper : Token → Prop
  | word text => text ≠ "" ∧ text.toList.all isWordChar = true
  | literal _ => True

instance : DecidablePred IsProper
  | word text => inferInstanceAs (Decidable (text ≠ "" ∧ text.toList.all isWordChar = true))
  | literal _ => inferInstanceAs (Decidable True)

/-- The tokens as they stand in a text, each after a blank. -/
def line (tokens : List Token) : List Char :=
  tokens.flatMap fun token => ' ' :: token.spelled.toList

theorem line_append (xs ys : List Token) : line (xs ++ ys) = line xs ++ line ys :=
  List.flatMap_append

end Token

namespace Text

theorem tokens?_spelled {token : Token} (h : token.IsProper) {rest : List Char}
    (hrest : ∀ c ∈ rest.head?, c = ' ') :
    tokens? (token.spelled.toList ++ rest) = (tokens? rest).map (token :: ·) := by
  cases token with
  | word text =>
    have hne : text.toList ≠ [] := fun hnil => h.1 (String.toList_eq_nil_iff.mp hnil)
    have hstop : ∀ c ∈ rest.head?, isWordChar c = false := by
      intro c hc
      rw [hrest c hc]
      rfl
    have hread := tokens?_word hne (List.all_eq_true.mp h.2) hstop
    rw [String.ofList_toList] at hread
    exact hread
  | literal content =>
    have hread : readBody? '\'' (double '\'' content.toList ++ '\'' :: rest) =
        some (content.toList, rest) := by
      refine readBody?_double '\'' content.toList fun hquote => ?_
      cases hrest '\'' hquote
    have htext : (Token.literal content).spelled.toList ++ rest =
        '\'' :: (double '\'' content.toList ++ '\'' :: rest) := by
      simp [Token.spelled, toList_encloseString, enclose]
    rw [htext, tokens?_of_readBody? hread, String.ofList_toList]

/-- Tokens with blanks before them are read back, up to a blank behind the last. -/
theorem tokens?_line {tokens : List Token} (h : ∀ token ∈ tokens, token.IsProper)
    {rest : List Char} (hrest : ∀ c ∈ rest.head?, c = ' ') :
    tokens? (Token.line tokens ++ rest) = (tokens? rest).map (tokens ++ ·) := by
  induction tokens with
  | nil => simp [Token.line]
  | cons token tokens ih =>
    rw [List.forall_mem_cons] at h
    have htext : Token.line (token :: tokens) ++ rest =
        ' ' :: (token.spelled.toList ++ (Token.line tokens ++ rest)) := by
      simp [Token.line]
    have hnext : ∀ c ∈ (Token.line tokens ++ rest).head?, c = ' ' := by
      cases tokens with
      | nil => exact hrest
      | cons next tokens => simp [Token.line]
    rw [htext, tokens?_blank, tokens?_spelled h.1 hnext, ih h.2, Option.map_map]
    rfl

theorem tokens?_line_eq_iff {tokens : List Token} (h : ∀ token ∈ tokens, token.IsProper)
    {rest : List Char} (hrest : ∀ c ∈ rest.head?, c = ' ') {more : List Token} :
    tokens? (Token.line tokens ++ rest) = some (tokens ++ more) ↔ tokens? rest = some more := by
  rw [tokens?_line h hrest]
  show (tokens? rest).map (tokens ++ ·) = (some more).map (tokens ++ ·) ↔ _
  exact (Option.map_injective (List.append_right_injective tokens)).eq_iff

/-- A text between quotes is a literal that says it exactly if it has no quotes of its own. -/
theorem tokens?_quoted_iff (content : String) :
    tokens? ('\'' :: (content.toList ++ ['\''])) = some [.literal content] ↔
      '\'' ∉ content.toList := by
  constructor
  · intro h
    cases hread : readBody? '\'' (content.toList ++ ['\'']) with
    | none => cases (tokens?_of_readBody?_none hread).symm.trans h
    | some parts =>
      obtain ⟨body, rest⟩ := parts
      rw [tokens?_of_readBody? hread] at h
      obtain ⟨tokens, -, htokens⟩ := Option.map_eq_some_iff.mp h
      have hbody : String.ofList body = content := by
        simpa using (List.cons.inj htokens).1
      have hsame := congrArg List.length (double_of_readBody? hread)
      rw [← hbody, String.toList_ofList, List.length_append, List.length_append,
        length_double] at hsame
      rw [← hbody, String.toList_ofList, ← List.count_eq_zero]
      simp only [List.length_cons, List.length_nil] at hsame
      omega
  · intro h
    have hread : readBody? '\'' (double '\'' content.toList ++ ['\'']) =
        some (content.toList, []) := readBody?_double '\'' content.toList nofun
    rw [double_eq_self h] at hread
    rw [tokens?_of_readBody? hread, tokens?_nil, String.ofList_toList, Option.map_some]

end Text

/-! ## What a column asks for -/

namespace Column

/-- The modifiers that the column asks for before the collation. -/
def leadingRequests (column : Column) : List Token :=
  (match column.nullable with
    | some false => [.word "not", .word "null"]
    | some true => [.word "null"]
    | none => []) ++
  (match column.default with
    | some (.value (.text content)) => [.word "default", .literal content]
    | _ => []) ++
  (if column.unique then [.word "unique"] else []) ++
  (if column.primary.isPresent && !column.type.isCounted then [.word "primary", .word "key"]
    else []) ++
  (match column.comment with
    | some comment => [.word "comment", .literal comment]
    | none => [])

/-- The modifiers that the column asks for, in the order in which they are written. -/
def requests (column : Column) : List Token :=
  column.leadingRequests ++
  (match column.collation with
    | some collation => [.word "collate", .literal collation]
    | none => [])

variable {column : Column}

theorem isProper_of_mem_leadingRequests :
    ∀ token ∈ column.leadingRequests, token.IsProper := by
  unfold leadingRequests
  simp only [List.forall_mem_append]
  refine ⟨⟨⟨⟨?nullable, ?default⟩, ?unique⟩, ?primary⟩, ?comment⟩
  case nullable => rcases column.nullable with - | - | - <;> decide +kernel
  case default =>
    split
    · simp only [List.forall_mem_cons]
      exact ⟨by decide +kernel, trivial, nofun⟩
    · nofun
  case unique => split_ifs <;> decide +kernel
  case primary => split_ifs <;> decide +kernel
  case comment =>
    split
    · simp only [List.forall_mem_cons]
      exact ⟨by decide +kernel, trivial, nofun⟩
    · nofun

/-- The modifiers stand there as the column asks for them, but for the collation, which stands
between quotes as it is given. -/
theorem toList_modifierText
    (hdefault : ∀ default ∈ column.default, ∃ content, default = .value (.text content)) :
    column.modifierText.toList = Token.line column.leadingRequests ++
      column.collation.elim [] fun collation =>
        Token.line [.word "collate"] ++ ' ' :: '\'' :: (collation.toList ++ ['\'']) := by
  unfold modifierText modifiers leadingRequests
  rw [String.toList_join]
  simp only [List.map_append, List.flatMap_append, Token.line_append]
  refine congrArg₂ _ (congrArg₂ _ (congrArg₂ _ (congrArg₂ _ (congrArg₂ _ ?nullable ?default)
    ?unique) ?primary) ?comment) ?collation
  case nullable => rcases column.nullable with - | - | - <;> decide +kernel
  case default =>
    cases h : column.default with
    | none => rfl
    | some default =>
      obtain ⟨content, rfl⟩ := hdefault default h
      simp [Token.line, Token.spelled, ColumnDefault.sql, Value.inline]
  case unique => split_ifs <;> decide +kernel
  case primary => split_ifs <;> decide +kernel
  case comment =>
    cases column.comment with
    | none => rfl
    | some comment => simp [Token.line, Token.spelled]
  case collation =>
    cases column.collation with
    | none => rfl
    | some collation => simp [Token.line, Token.spelled]

/-- Where the default of a column, if it has one, is a text, what stands behind the type is read as
the modifiers that the column asks for, in both dialects, exactly if the collation has no quote. -/
theorem modifiers_read_iff (spell : String → String)
    (hdefault : ∀ default ∈ column.default, ∃ content, default = .value (.text content)) :
    ∃ modifiers : String,
      column.standardSql spell =
        spell column.name ++ " " ++ column.type.standardSql ++ modifiers ∧
      column.sql spell = spell column.name ++ " " ++ column.type.sql ++ modifiers ∧
      (tokens? modifiers.toList = some column.requests ↔
        ∀ collation ∈ column.collation, '\'' ∉ collation.toList) := by
  refine ⟨column.modifierText, column.definition_eq _ spell, column.definition_eq _ spell, ?_⟩
  rw [toList_modifierText hdefault]
  unfold requests
  cases column.collation with
  | none =>
    show tokens? (Token.line column.leadingRequests ++ []) = some (column.leadingRequests ++ []) ↔ _
    rw [tokens?_line_eq_iff isProper_of_mem_leadingRequests (by simp), tokens?_nil]
    simp
  | some collation =>
    show tokens? (Token.line column.leadingRequests ++ (Token.line [.word "collate"] ++
      ' ' :: '\'' :: (collation.toList ++ ['\'']))) =
        some (column.leadingRequests ++ ([.word "collate"] ++ [.literal collation])) ↔ _
    have hcollate : ∀ token ∈ [Token.word "collate"], token.IsProper := by decide +kernel
    rw [tokens?_line_eq_iff isProper_of_mem_leadingRequests (by simp [Token.line]),
      tokens?_line_eq_iff hcollate (by simp), tokens?_blank, tokens?_quoted_iff]
    simp

/-- A column with quotes in its default and its comment, and the collation. -/
def quotedTexts (collation : String) : Column where
  name := "c"
  type := .text
  nullable := some false
  default := some (.value (.text "it's"))
  unique := true
  primary := .present none
  comment := some "''"
  collation := some collation

/-- With a quote in the collation the modifiers are read as something else. -/
theorem modifiers_read_iff_quotedTexts :
    (∀ collation, ∀ default ∈ (quotedTexts collation).default,
      ∃ content, default = .value (.text content)) ∧
    (∃ modifiers : String,
      (quotedTexts "en").sql quoteIdentifier = quoteIdentifier "c" ++ " " ++ "text" ++ modifiers ∧
      tokens? modifiers.toList = some [.word "not", .word "null", .word "default", .literal "it's",
        .word "unique", .word "primary", .word "key", .word "comment", .literal "''",
        .word "collate", .literal "en"]) ∧
    (quotedTexts "it's").sql quoteIdentifier = "\"c\" text not null default 'it''s' unique " ++
      "primary key comment '''''' collate 'it's'" ∧
    ∃ modifiers : String,
      (quotedTexts "it's").sql quoteIdentifier = quoteIdentifier "c" ++ " " ++ "text" ++ modifiers ∧
      tokens? modifiers.toList ≠ some (quotedTexts "it's").requests := by
  have hdefault : ∀ collation, ∀ default ∈ (quotedTexts collation).default,
      ∃ content, default = .value (.text content) := fun collation default h =>
    ⟨"it's", (Option.mem_some_iff.mp h).symm⟩
  obtain ⟨plain, -, hplain, hread⟩ := modifiers_read_iff quoteIdentifier (hdefault "en")
  obtain ⟨broken, -, hbroken, hmisread⟩ := modifiers_read_iff quoteIdentifier (hdefault "it's")
  have hfree : ∀ collation ∈ (quotedTexts "en").collation, '\'' ∉ collation.toList := by
    decide +kernel
  have hquote : ¬∀ collation ∈ (quotedTexts "it's").collation, '\'' ∉ collation.toList := by
    decide +kernel
  exact ⟨hdefault, ⟨plain, hplain, hread.mpr hfree⟩, by decide +kernel,
    ⟨broken, hbroken, mt hmisread.mp hquote⟩⟩

end Column

end SnowflakeSql
