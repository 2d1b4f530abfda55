/-
The lexical grammar.

What a lexeme is and which token it denotes, stated over texts and without a lexer; and what
can stand at the head of a text where no lexeme does.

* `Lexeme.Body`: what may stand between the quotes of a string literal.
* `Lexeme.Denotes`: the lexemes and their tokens.
* `Lexeme.IsLongest`: the longest lexeme at the head of a text.
* `Lexeme.Fails`: what is wrong with a text that starts with no lexeme.
* `Lexeme.isLongest_or_fails`: a text that starts with no blank starts with a longest lexeme,
  or something is wrong with it.
* `Lexeme.read_of_isLongest`, `Lexeme.read_of_fails`: in either case it is read as such.

Design notes.

* The grammar does not say which lexeme is taken where several stand at the head of a text:
  `3`, `3.1` and `3.14`, or `<` and `<=`.  That is the longest one, and it is only asked here
  that no longer one is there.
* Both cases of `isLongest_or_fails` determine what is read, so what is read determines the
  case, and the converse of neither lemma has to be proved.
-/
import Mathlib.Data.Nat.Find
import Mathlib.Tactic.Common
import StackLang.Proofs.Lines

namespace StackLang

namespace Lexeme

/-! ### The grammar -/

/-- The reserved words. -/
def reserved : List (String × Token) :=
  [("var", .var), ("print", .print), ("true", .bool true), ("false", .bool false),
    ("and", .and), ("or", .or)]

/-- The signs. -/
def signs : List (List Char × Token) :=
  [(['<', '='], .lessEqual), (['>', '='], .greaterEqual), (['=', '='], .equal),
    (['!', '='], .notEqual), (['+'], .plus), (['-'], .minus), (['*'], .star), (['/'], .slash),
    (['('], .leftParen), ([')'], .rightParen), (['='], .assign), (['<'], .less),
    (['>'], .greater), (['!'], .bang)]

/-- The characters that follow a backslash, and what the two stand for. -/
def escapes : List (Char × Char) :=
  [('n', '\n'), ('t', '\t'), ('r', '\r'), ('0', '\x00'), ('\\', '\\'), ('"', '"'),
    ('\'', '\'')]

/-- The character opens a string literal, and closes it again. -/
def IsQuote (c : Char) : Prop :=
  c = '"' ∨ c = '\''

/-- A word starts with the character. -/
def IsInitial (c : Char) : Prop :=
  Text.isLetter c = true ∨ c = '_'

/-- A word goes on with the character. -/
def IsInner (c : Char) : Prop :=
  Text.isLetter c = true ∨ Text.isNumeral c = true ∨ c = '_'

/-- `Body quote text content`: between two quotes, the text writes the content.  It holds no
quote of that kind and no backslash, unless they are written as escapes. -/
inductive Body (quote : Char) : List Char → List Char → Prop
  | nil : Body quote [] []
  | plain {c : Char} {text content : List Char} (hquote : c ≠ quote) (hescape : c ≠ '\\')
      (h : Body quote text content) : Body quote (c :: text) (c :: content)
  | escape {e c : Char} {text content : List Char} (he : (e, c) ∈ escapes)
      (h : Body quote text content) : Body quote ('\\' :: e :: text) (c :: content)

/-- The token of a word: it is reserved, or it is a name. -/
inductive WordDenotes (word : String) : Token → Prop
  | reserved {t : Token} (h : (word, t) ∈ Lexeme.reserved) : WordDenotes word t
  | name (h : ∀ t, (word, t) ∉ Lexeme.reserved) : WordDenotes word (.ident word)

/-- `Denotes text t`: the text is a lexeme and denotes the token `t`. -/
inductive Denotes : List Char → Token → Prop
  | whole {digits : List Char} (hne : digits ≠ []) (h : ∀ c ∈ digits, c.isDigit = true) :
    Denotes digits (.number (.ofDecimal (Nat.ofDigitChars 10 digits 0) 0))
  | decimal {digits fraction : List Char} (hne : digits ≠ [])
      (h : ∀ c ∈ digits, c.isDigit = true) (hne' : fraction ≠ [])
      (h' : ∀ c ∈ fraction, c.isDigit = true) :
    Denotes (digits ++ '.' :: fraction)
      (.number (.ofDecimal (Nat.ofDigitChars 10 (digits ++ fraction) 0) fraction.length))
  | string {quote : Char} {text content : List Char} (hquote : IsQuote quote)
      (h : Body quote text content) :
    Denotes (quote :: text ++ [quote]) (.string (String.ofList content))
  | word {c : Char} {cs : List Char} {t : Token} (hc : IsInitial c) (hcs : ∀ d ∈ cs, IsInner d)
      (ht : WordDenotes (String.ofList (c :: cs)) t) : Denotes (c :: cs) t
  | sign {text : List Char} {t : Token} (h : (text, t) ∈ signs) : Denotes text t

/-- The text starts with the lexeme `l`, which denotes `t`, and with no longer lexeme. -/
structure IsLongest (text l : List Char) (t : Token) : Prop where
  denotes : Denotes l t
  starts : l <+: text
  longest : ∀ l' t', Denotes l' t' → l' <+: text → l'.length ≤ l.length

/-- `Fails text fault offset`: the text starts with no blank and with no lexeme.  What is wrong
is found at the character that has `offset` characters of the text in front of it. -/
inductive Fails : List Char → LexFault → Nat → Prop
  | unexpected {c : Char} {rest : List Char} (hblank : Text.isBlank c = false)
      (hquote : ¬ IsQuote c) (h : ∀ l t, Denotes l t → ¬ l <+: c :: rest) :
    Fails (c :: rest) (.unexpectedChar c) 0
  | unterminated {quote : Char} {text content : List Char} (hquote : IsQuote quote)
      (h : Body quote text content) :
    Fails (quote :: text) .unterminatedString 0
  | unterminatedEscape {quote : Char} {text content : List Char} (hquote : IsQuote quote)
      (h : Body quote text content) :
    Fails (quote :: text ++ ['\\']) .unterminatedString 0
  | unknownEscape {quote e : Char} {text content rest : List Char} (hquote : IsQuote quote)
      (h : Body quote text content) (he : ∀ c, (e, c) ∉ escapes) :
    Fails (quote :: text ++ '\\' :: e :: rest) (.unknownEscape e) (text.length + 2)

/-! ### The tables of the lexer -/

theorem unescape_eq_some_iff {e c : Char} : unescape e = some c ↔ (e, c) ∈ escapes := by
  constructor
  · intro h
    unfold unescape at h
    split at h <;> simp_all [escapes, eq_comm]
  · intro h
    simp only [escapes, List.mem_cons, Prod.mk.injEq, List.not_mem_nil, or_false] at h
    rcases h with ⟨rfl, rfl⟩ | ⟨rfl, rfl⟩ | ⟨rfl, rfl⟩ | ⟨rfl, rfl⟩ | ⟨rfl, rfl⟩ | ⟨rfl, rfl⟩ |
      ⟨rfl, rfl⟩ <;> rfl

theorem unescape_eq_none {e : Char} (h : ∀ c, (e, c) ∉ escapes) : unescape e = none := by
  cases hunescape : unescape e with
  | none => rfl
  | some c => exact absurd (unescape_eq_some_iff.mp hunescape) (h c)

theorem wordDenotes_iff {word : String} {t : Token} : WordDenotes word t ↔ wordToken word = t := by
  have hreserved : ∀ t, (word, t) ∈ reserved → wordToken word = t := by
    intro t h
    simp only [reserved, List.mem_cons, Prod.mk.injEq, List.not_mem_nil, or_false] at h
    rcases h with ⟨rfl, rfl⟩ | ⟨rfl, rfl⟩ | ⟨rfl, rfl⟩ | ⟨rfl, rfl⟩ | ⟨rfl, rfl⟩ | ⟨rfl, rfl⟩ <;>
      rfl
  have hname : (∀ t, (word, t) ∉ reserved) → wordToken word = .ident word := by
    intro h
    simp only [reserved, List.mem_cons, Prod.mk.injEq, List.not_mem_nil, or_false, not_or,
      not_and] at h
    unfold wordToken
    split_ifs with h₁ h₂ h₃ h₄ h₅ h₆
    · exact absurd rfl ((h .var).1 h₁)
    · exact absurd rfl ((h .print).2.1 h₂)
    · exact absurd rfl ((h (.bool true)).2.2.1 h₃)
    · exact absurd rfl ((h (.bool false)).2.2.2.1 h₄)
    · exact absurd rfl ((h .and).2.2.2.2.1 h₅)
    · exact absurd rfl ((h .or).2.2.2.2.2 h₆)
    · rfl
  constructor
  · rintro (h | h)
    · exact hreserved _ h
    · exact hname h
  · rintro rfl
    by_cases h : ∃ t, (word, t) ∈ reserved
    · obtain ⟨t, ht⟩ := h
      rw [hreserved t ht]
      exact .reserved ht
    · push Not at h
      rw [hname h]
      exact .name h

theorem doubleSymbol_eq_some_iff {c d : Char} {t : Token} :
    doubleSymbol c d = some t ↔ ([c, d], t) ∈ signs := by
  constructor
  · intro h
    unfold doubleSymbol at h
    split at h <;> simp_all [signs]
  · intro h
    simp [signs] at h
    rcases h with ⟨⟨rfl, rfl⟩, rfl⟩ | ⟨⟨rfl, rfl⟩, rfl⟩ | ⟨⟨rfl, rfl⟩, rfl⟩ |
      ⟨⟨rfl, rfl⟩, rfl⟩ <;> rfl

theorem singleSymbol_eq_some_iff {c : Char} {t : Token} :
    singleSymbol c = some t ↔ ([c], t) ∈ signs := by
  constructor
  · intro h
    unfold singleSymbol at h
    split at h <;> simp_all [signs]
  · intro h
    simp [signs] at h
    rcases h with ⟨rfl, rfl⟩ | ⟨rfl, rfl⟩ | ⟨rfl, rfl⟩ | ⟨rfl, rfl⟩ | ⟨rfl, rfl⟩ | ⟨rfl, rfl⟩ |
      ⟨rfl, rfl⟩ | ⟨rfl, rfl⟩ | ⟨rfl, rfl⟩ | ⟨rfl, rfl⟩ <;> rfl

theorem startsWord_iff {c : Char} : startsWord c = true ↔ IsInitial c := by
  simp [startsWord, IsInitial]

theorem continuesWord_iff {c : Char} : continuesWord c = true ↔ IsInner c := by
  simp [continuesWord, IsInner, or_assoc]

/-! ### Lexemes start with no blank -/

theorem isBlank_of_isDigit {c : Char} (h : c.isDigit = true) : Text.isBlank c = false := by
  have hrange : 48 ≤ c.toNat ∧ c.toNat ≤ 57 := by
    simpa [Char.isDigit, UInt32.le_iff_toNat_le] using h
  simp only [Text.isBlank, Text.covers, Text.blankRanges, List.any_cons, List.any_nil,
    Bool.or_false, Bool.or_eq_false_iff, Bool.and_eq_false_iff, decide_eq_false_iff_not]
  omega

/-- A character is in at most one of two lists of ranges that are apart from one another. -/
theorem covers_eq_false {ranges others : List Text.CodeRange} {c : Char}
    (hapart : ∀ range ∈ ranges, ∀ other ∈ others, range.2 < other.1 ∨ other.2 < range.1)
    (h : Text.covers ranges c = true) : Text.covers others c = false := by
  obtain ⟨range, hrange, hc⟩ := List.any_eq_true.mp h
  rw [Text.covers, List.any_eq_false]
  intro other hother hc'
  have hlt := hapart range hrange other hother
  simp only [Bool.and_eq_true, decide_eq_true_eq] at hc hc'
  omega

theorem toNat_of_isAlpha {c : Char} (h : c.isAlpha = true) :
    (65 ≤ c.toNat ∧ c.toNat ≤ 90) ∨ 97 ≤ c.toNat ∧ c.toNat ≤ 122 := by
  change (decide (65 ≤ c.val ∧ c.val ≤ 90) || (decide (97 ≤ c.val) && decide (c.val ≤ 122))) = true
    at h
  simpa [UInt32.le_iff_toNat_le] using h

theorem isBlank_of_isLetter {c : Char} (h : Text.isLetter c = true) : Text.isBlank c = false := by
  rw [Text.isLetter] at h
  split at h
  · have hrange := toNat_of_isAlpha h
    simp only [Text.isBlank, Text.covers, Text.blankRanges, List.any_cons, List.any_nil,
      Bool.or_false, Bool.or_eq_false_iff, Bool.and_eq_false_iff, decide_eq_false_iff_not]
    omega
  · exact covers_eq_false (by decide +kernel) h

theorem IsQuote.isBlank {c : Char} (h : IsQuote c) : Text.isBlank c = false := by
  rcases h with rfl | rfl <;> decide

theorem IsInitial.isBlank {c : Char} (h : IsInitial c) : Text.isBlank c = false := by
  rcases h with h | rfl
  · exact isBlank_of_isLetter h
  · decide

theorem IsInitial.not_isDigit_not_isQuote {c : Char} (h : IsInitial c) :
    ¬ c.isDigit = true ∧ ¬ IsQuote c := by
  constructor
  · intro hdigit
    have hrange : 48 ≤ c.toNat ∧ c.toNat ≤ 57 := by
      simpa [Char.isDigit, UInt32.le_iff_toNat_le] using hdigit
    rcases h with h | rfl
    · rw [Text.isLetter, if_pos (by omega)] at h
      have hrange' := toNat_of_isAlpha h
      omega
    · cases hdigit
  · rintro (rfl | rfl)
    · revert h
      simp only [IsInitial]
      decide
    · revert h
      simp only [IsInitial]
      decide

/-- A sign starts with none of the characters that other lexemes start with. -/
theorem head_of_mem_signs {text : List Char} {t : Token} (h : (text, t) ∈ signs) :
    ∃ c cs, text = c :: cs ∧ ¬ c.isDigit = true ∧ ¬ IsQuote c ∧ ¬ IsInitial c := by
  have hall : signs.all (fun sign => sign.1.head?.any fun c =>
      !c.isDigit && !(c == '"' || c == '\'') && !startsWord c) = true := by
    decide +kernel
  obtain ⟨c, hc, hfirst⟩ := (Option.any_eq_true _ _).mp (List.all_eq_true.mp hall _ h)
  obtain ⟨cs, hcs⟩ := List.head?_eq_some_iff.mp hc
  simp only [Bool.and_eq_true, Bool.not_eq_true', Bool.or_eq_false_iff, beq_eq_false_iff_ne]
    at hfirst
  obtain ⟨⟨hdigit, hdouble, hsingle⟩, hword⟩ := hfirst
  refine ⟨c, cs, hcs, by simp [hdigit], ?_, mt startsWord_iff.mpr (by simp [hword])⟩
  rintro (rfl | rfl)
  · exact hdouble rfl
  · exact hsingle rfl

/-- A lexeme has a first character, and it is no blank. -/
theorem Denotes.head {l : List Char} {t : Token} (h : Denotes l t) :
    ∃ c cs, l = c :: cs ∧ Text.isBlank c = false := by
  cases h with
  | whole hne hdigits =>
    obtain ⟨c, cs, rfl⟩ := List.exists_cons_of_ne_nil hne
    exact ⟨c, cs, rfl, isBlank_of_isDigit (hdigits c List.mem_cons_self)⟩
  | decimal hne hdigits _ _ =>
    obtain ⟨c, cs, rfl⟩ := List.exists_cons_of_ne_nil hne
    exact ⟨c, _, rfl, isBlank_of_isDigit (hdigits c List.mem_cons_self)⟩
  | string hquote _ => exact ⟨_, _, rfl, hquote.isBlank⟩
  | word hc _ _ => exact ⟨_, _, rfl, hc.isBlank⟩
  | sign hsign =>
    have hall : signs.all (fun sign => sign.1.head?.any fun c => !Text.isBlank c) = true := by
      decide +kernel
    obtain ⟨c, hc, hblank⟩ := (Option.any_eq_true _ _).mp (List.all_eq_true.mp hall _ hsign)
    obtain ⟨cs, hcs⟩ := List.head?_eq_some_iff.mp hc
    exact ⟨c, cs, hcs, by simpa using hblank⟩

theorem Fails.head {text : List Char} {fault : LexFault} {offset : Nat}
    (h : Fails text fault offset) : ∃ c cs, text = c :: cs ∧ Text.isBlank c = false := by
  cases h with
  | unexpected hblank _ _ => exact ⟨_, _, rfl, hblank⟩
  | unterminated hquote _ => exact ⟨_, _, rfl, hquote.isBlank⟩
  | unterminatedEscape hquote _ => exact ⟨_, _, rfl, hquote.isBlank⟩
  | unknownEscape hquote _ _ => exact ⟨_, _, rfl, hquote.isBlank⟩

/-! ### Runs of characters -/

/-- A run of characters of one kind ends where the next one is of another kind. -/
theorem span_run {p : Char → Bool} {run rest : List Char} (hrun : ∀ c ∈ run, p c = true)
    (hrest : ∀ c ∈ rest.head?, p c = false) :
    (run ++ rest).takeWhile p = run ∧ (run ++ rest).dropWhile p = rest := by
  rw [List.takeWhile_append_of_pos hrun, List.dropWhile_append_of_pos hrun]
  cases rest with
  | nil => simp
  | cons c rest => simp [hrest c rfl]

section

variable {l rest : List Char} {t : Token}

/-- Behind a longest lexeme stands nothing that would make it longer. -/
theorem IsLongest.eq_nil (h : IsLongest (l ++ rest) l t) {more : List Char} {t' : Token}
    (hmore : more <+: rest) (hdenotes : Denotes (l ++ more) t') : more = [] := by
  have hle := h.longest _ _ hdenotes ((List.prefix_append_right_inj l).mpr hmore)
  rw [List.length_append] at hle
  exact List.length_eq_zero_iff.mp (by omega)

theorem prefix_of_mem_head? {c : Char} (h : c ∈ rest.head?) : [c] <+: rest := by
  obtain ⟨cs, rfl⟩ := List.head?_eq_some_iff.mp h
  exact ⟨cs, rfl⟩

/-! ### Longest lexemes are read -/

theorem read_digit {c : Char} (h : c.isDigit = true) :
    read (c :: rest) = readNumber (c :: rest) := by
  rw [read, if_pos h]

theorem read_quote {c : Char} (h : IsQuote c) : read (c :: rest) = readString c rest := by
  have hdigit : ¬ c.isDigit = true := by
    rcases h with rfl | rfl <;> decide
  have hquote : c = '"' ∨ c = '\'' := h
  rw [read, if_neg hdigit, if_pos hquote]

theorem read_initial {c : Char} (h : IsInitial c) :
    read (c :: rest) = readWord (c :: rest) := by
  obtain ⟨hdigit, hquote⟩ := h.not_isDigit_not_isQuote
  rw [IsQuote] at hquote
  rw [read, if_neg hdigit, if_neg hquote, if_pos (startsWord_iff.mpr h)]

theorem read_other {c : Char} (hdigit : ¬ c.isDigit = true) (hquote : ¬ IsQuote c)
    (hinitial : ¬ IsInitial c) : read (c :: rest) = readSymbol c rest := by
  rw [IsQuote] at hquote
  rw [read, if_neg hdigit, if_neg hquote, if_neg (mt startsWord_iff.mp hinitial)]

theorem fractionDigits_run {fraction : List Char} (hne : fraction ≠ [])
    (hfraction : ∀ c ∈ fraction, c.isDigit = true)
    (hrest : ∀ c ∈ rest.head?, c.isDigit = false) :
    fractionDigits ('.' :: fraction ++ rest) = fraction := by
  have hspan := (span_run hfraction hrest).1
  obtain ⟨c, cs, rfl⟩ := List.exists_cons_of_ne_nil hne
  have hc := hfraction c List.mem_cons_self
  simp only [List.cons_append] at hspan ⊢
  rw [fractionDigits, if_pos hc, hspan]

theorem fractionDigits_eq_nil
    (h : ∀ d, d.isDigit = true → ¬ ['.', d] <+: rest) : fractionDigits rest = [] := by
  unfold fractionDigits
  split
  · rename_i d more
    split
    · rename_i hd
      exact absurd ⟨more, rfl⟩ (h d hd)
    · rfl
  · rfl

theorem readNumber_whole {digits : List Char} (hne : digits ≠ [])
    (hdigits : ∀ c ∈ digits, c.isDigit = true) (h : IsLongest (digits ++ rest) digits t) :
    readNumber (digits ++ rest) =
      .token (.number (.ofDecimal (Nat.ofDigitChars 10 digits 0) 0)) digits.length := by
  have hstop : ∀ c ∈ rest.head?, c.isDigit = false := by
    intro c hc
    by_contra hdigit
    have hdenotes : Denotes (digits ++ [c]) _ :=
      .whole (by simp) (List.forall_mem_append.mpr ⟨hdigits, by simpa using hdigit⟩)
    exact List.cons_ne_nil c [] (h.eq_nil (prefix_of_mem_head? hc) hdenotes)
  have hpoint : fractionDigits rest = [] := by
    refine fractionDigits_eq_nil fun d hd hprefix => ?_
    have hdenotes : Denotes (digits ++ ['.', d]) _ :=
      .decimal hne hdigits (List.cons_ne_nil d []) (by simpa using hd)
    exact List.cons_ne_nil '.' [d] (h.eq_nil hprefix hdenotes)
  obtain ⟨htake, hdrop⟩ := span_run hdigits hstop
  simp [readNumber, htake, hdrop, hpoint]

theorem readNumber_decimal {digits fraction : List Char} (hne : digits ≠ [])
    (hdigits : ∀ c ∈ digits, c.isDigit = true) (hne' : fraction ≠ [])
    (hfraction : ∀ c ∈ fraction, c.isDigit = true)
    (h : IsLongest (digits ++ '.' :: fraction ++ rest) (digits ++ '.' :: fraction) t) :
    readNumber (digits ++ '.' :: fraction ++ rest) =
      .token (.number (.ofDecimal (Nat.ofDigitChars 10 (digits ++ fraction) 0) fraction.length))
        (digits ++ '.' :: fraction).length := by
  have hstop : ∀ c ∈ rest.head?, c.isDigit = false := by
    intro c hc
    by_contra hdigit
    have hdenotes : Denotes (digits ++ '.' :: (fraction ++ [c])) _ :=
      .decimal hne hdigits (by simp)
        (List.forall_mem_append.mpr ⟨hfraction, by simpa using hdigit⟩)
    rw [← List.cons_append, ← List.append_assoc] at hdenotes
    exact List.cons_ne_nil c [] (h.eq_nil (prefix_of_mem_head? hc) hdenotes)
  have hpoint := fractionDigits_run hne' hfraction hstop
  have hdot : ∀ c ∈ ('.' :: fraction ++ rest).head?, c.isDigit = false := by simp
  obtain ⟨htake, hdrop⟩ := span_run hdigits hdot
  have hwidth : (digits ++ '.' :: fraction).length = digits.length + (1 + fraction.length) := by
    rw [List.length_append, List.length_cons, Nat.add_comm 1]
  rw [List.append_assoc, readNumber, htake, hdrop, hpoint, hwidth,
    if_neg (by simpa using hne')]

/-- The literal behind more of its content. -/
def Literal.behind (content : List Char) (width : Nat) : Literal → Literal
  | closed more rest => closed (content ++ more) (width + rest)
  | fault reason rest => fault reason (width + rest)

theorem Literal.after_behind (literal : Literal) (content : List Char) (width : Nat) (c : Char)
    (before : Nat) :
    (literal.behind content width).after c before =
      literal.behind (c :: content) (before + width) := by
  cases literal <;> simp [behind, after, Nat.add_assoc]

/-- A body is passed over, and what comes of the literal is decided behind it. -/
theorem readLiteral_of_body {quote : Char} {text content : List Char} (hquote : IsQuote quote)
    (h : Body quote text content) (rest : List Char) :
    readLiteral quote (text ++ rest) =
      (readLiteral quote rest).behind content text.length := by
  have hbackslash : '\\' ≠ quote := by
    rcases hquote with rfl | rfl <;> decide
  induction h with
  | nil =>
    rw [List.nil_append]
    cases readLiteral quote rest <;> simp [Literal.behind]
  | plain hquote hescape _ ih =>
    rw [List.cons_append, readLiteral_cons, if_neg hquote, if_neg hescape, ih,
      Literal.after_behind, List.length_cons, Nat.add_comm]
  | escape he _ ih =>
    rw [List.cons_append, List.cons_append, readLiteral_cons, if_neg hbackslash, if_pos rfl]
    simp only [unescape_eq_some_iff.mpr he, ih]
    rw [Literal.after_behind, List.length_cons, List.length_cons, Nat.add_comm]

theorem readString_of_body {quote : Char} {text content : List Char} (hquote : IsQuote quote)
    (h : Body quote text content) (rest : List Char) :
    readString quote (text ++ quote :: rest) =
      .token (.string (String.ofList content)) (quote :: text ++ [quote]).length := by
  have hclosed : readLiteral quote (quote :: rest) = .closed [] 1 := by
    rw [readLiteral_cons, if_pos rfl]
  rw [readString, readLiteral_of_body hquote h, hclosed, Literal.behind]
  simp [Nat.add_comm]

theorem readWord_of_isLongest {c : Char} {cs : List Char} (hc : IsInitial c)
    (hcs : ∀ d ∈ cs, IsInner d) (ht : WordDenotes (String.ofList (c :: cs)) t)
    (h : IsLongest (c :: cs ++ rest) (c :: cs) t) :
    readWord (c :: cs ++ rest) = .token t (c :: cs).length := by
  have hstop : ∀ d ∈ rest.head?, continuesWord d = false := by
    intro d hd
    by_contra hinner
    have hinner : IsInner d := continuesWord_iff.mp (by simpa using hinner)
    have hdenotes : Denotes (c :: (cs ++ [d])) _ :=
      .word hc (List.forall_mem_append.mpr ⟨hcs, by simpa using hinner⟩)
        (wordDenotes_iff.mpr rfl)
    exact List.cons_ne_nil d [] (h.eq_nil (prefix_of_mem_head? hd) hdenotes)
  have hrun : ∀ d ∈ c :: cs, continuesWord d = true := by
    intro d hd
    rw [continuesWord_iff]
    rcases List.mem_cons.mp hd with rfl | hd
    · exact hc.imp id .inr
    · exact hcs d hd
  rw [readWord, (span_run hrun hstop).1, wordDenotes_iff.mp ht]

theorem readSymbol_of_isLongest {c : Char} {cs : List Char} (hsign : (c :: cs, t) ∈ signs)
    (h : IsLongest (c :: cs ++ rest) (c :: cs) t) :
    readSymbol c (cs ++ rest) = .token t (c :: cs).length := by
  have hlength : ∀ sign ∈ signs, sign.1.length = 1 ∨ sign.1.length = 2 := by
    decide
  match cs, hlength _ hsign with
  | [], _ =>
    -- a second character that makes a longer sign would belong to the lexeme
    have hdouble : rest.head?.bind (doubleSymbol c) = none := by
      cases rest with
      | nil => rfl
      | cons d rest =>
        cases hd : doubleSymbol c d with
        | none => exact hd
        | some t' =>
          have hdenotes : Denotes ([c] ++ [d]) t' := .sign (doubleSymbol_eq_some_iff.mp hd)
          exact absurd (h.eq_nil (prefix_of_mem_head? rfl) hdenotes) (List.cons_ne_nil d [])
    rw [List.nil_append, readSymbol, hdouble, singleSymbol_eq_some_iff.mpr hsign]
    rfl
  | [d], _ =>
    have hdouble : (([d] ++ rest).head?.bind (doubleSymbol c)) = some t :=
      doubleSymbol_eq_some_iff.mpr hsign
    rw [readSymbol, hdouble]
    rfl
  | _ :: _ :: _, hlength => simp at hlength

/-- A text is read as its longest lexeme. -/
theorem read_of_isLongest {text : List Char} (h : IsLongest text l t) :
    read text = .token t l.length := by
  obtain ⟨rest, rfl⟩ := h.starts
  have hdenotes := h.denotes
  cases hdenotes with
  | whole hne hdigits =>
    rw [← readNumber_whole hne hdigits h]
    obtain ⟨c, cs, rfl⟩ := List.exists_cons_of_ne_nil hne
    exact read_digit (hdigits c List.mem_cons_self)
  | decimal hne hdigits hne' hfraction =>
    rw [← readNumber_decimal hne hdigits hne' hfraction h]
    obtain ⟨c, cs, rfl⟩ := List.exists_cons_of_ne_nil hne
    exact read_digit (hdigits c List.mem_cons_self)
  | string hquote hbody =>
    rw [List.append_assoc, List.cons_append, read_quote hquote]
    exact readString_of_body hquote hbody rest
  | word hc hcs ht =>
    rw [List.cons_append, read_initial hc]
    exact readWord_of_isLongest hc hcs ht h
  | sign hsign =>
    obtain ⟨c, cs, rfl, hdigit, hquote, hinitial⟩ := head_of_mem_signs hsign
    rw [List.cons_append, read_other hdigit hquote hinitial]
    exact readSymbol_of_isLongest hsign h

end

/-! ### Faults are read -/

/-- What comes of a literal is decided by what stands behind its body. -/
theorem read_of_body {quote : Char} {text content rest : List Char} {reason : LexFault}
    {width : Nat} (hquote : IsQuote quote) (h : Body quote text content)
    (hrest : readLiteral quote rest = .fault reason width) :
    read (quote :: text ++ rest) = .fault reason (1 + (text.length + width)) := by
  rw [List.cons_append, read_quote hquote, readString, readLiteral_of_body hquote h, hrest]
  rfl

/-- The number of characters in front of the one that is blamed, given how many were read. -/
def blamed (width : Nat) : LexFault → Nat
  | .unknownEscape _ => width
  | .unexpectedChar _ | .unterminatedString => 0

/-- The number of characters that are passed at a fault: none at an unexpected character, those in
front of the one that is blamed at an unknown escape, and all where a literal is not closed. -/
def passed (text : List Char) (offset : Nat) : LexFault → Nat
  | .unexpectedChar _ => 0
  | .unknownEscape _ => offset
  | .unterminatedString => text.length

/-- A text that starts with no lexeme is read as what is wrong with it. -/
theorem read_of_fails {text : List Char} {fault : LexFault} {offset : Nat}
    (h : Fails text fault offset) :
    ∃ width, read text = .fault fault width ∧ blamed width fault = offset ∧
      width = passed text offset fault := by
  cases h with
  | @unexpected c rest hblank hquote hnone =>
    have hdigit : ¬ c.isDigit = true := fun hdigit =>
      hnone [c] _ (.whole (by simp) (by simpa using hdigit)) ⟨rest, rfl⟩
    have hinitial : ¬ IsInitial c := fun hinitial =>
      hnone [c] _ (.word hinitial (by simp) (wordDenotes_iff.mpr rfl)) ⟨rest, rfl⟩
    have hdouble : rest.head?.bind (doubleSymbol c) = none := by
      cases rest with
      | nil => rfl
      | cons d rest =>
        cases hd : doubleSymbol c d with
        | none => exact hd
        | some t => exact absurd ⟨rest, rfl⟩ (hnone _ t (.sign (doubleSymbol_eq_some_iff.mp hd)))
    have hsingle : singleSymbol c = none := by
      cases hc : singleSymbol c with
      | none => rfl
      | some t => exact absurd ⟨rest, rfl⟩ (hnone _ t (.sign (singleSymbol_eq_some_iff.mp hc)))
    refine ⟨0, ?_, rfl, rfl⟩
    rw [read_other hdigit hquote hinitial, readSymbol, hdouble, hsingle]
  | @unterminated quote _ _ hquote hbody =>
    have hend : readLiteral quote [] = .fault .unterminatedString 0 := by
      rw [readLiteral]
    have hread := read_of_body hquote hbody hend
    rw [List.append_nil] at hread
    refine ⟨_, hread, rfl, ?_⟩
    rw [passed, List.length_cons, Nat.add_comm 1, Nat.add_zero]
  | @unterminatedEscape quote _ _ hquote hbody =>
    have hcut : readLiteral quote ['\\'] = .fault .unterminatedString 1 := by
      rcases hquote with rfl | rfl <;> rfl
    refine ⟨_, read_of_body hquote hbody hcut, rfl, ?_⟩
    rw [passed, List.length_append, List.length_cons, List.length_singleton, Nat.add_comm 1,
      Nat.add_right_comm]
  | @unknownEscape quote e _ _ rest hquote hbody he =>
    have hunknown : readLiteral quote ('\\' :: e :: rest) = .fault (.unknownEscape e) 1 := by
      have hbackslash : '\\' ≠ quote := by
        rcases hquote with rfl | rfl <;> decide
      rw [readLiteral_cons, if_neg hbackslash, if_pos rfl]
      simp only [unescape_eq_none he]
    refine ⟨_, read_of_body hquote hbody hunknown, ?_, ?_⟩
    · rw [blamed, Nat.add_comm 1]
    · rw [passed, Nat.add_comm 1]

/-! ### One or the other -/

/-- A text that starts with some lexeme starts with a longest one. -/
theorem exists_isLongest {text l : List Char} {t : Token} (h : Denotes l t) (hl : l <+: text) :
    ∃ l t, IsLongest text l t := by
  classical
  have htake : ∀ {l : List Char} {t : Token}, Denotes l t → l <+: text →
      ∃ t, Denotes (text.take l.length) t := by
    intro l t h hl
    rw [← List.prefix_iff_eq_take.mp hl]
    exact ⟨t, h⟩
  let width := Nat.findGreatest (fun n => ∃ t, Denotes (text.take n) t) text.length
  obtain ⟨t', ht'⟩ : ∃ t, Denotes (text.take width) t :=
    Nat.findGreatest_spec (P := fun n => ∃ t, Denotes (text.take n) t) hl.length_le (htake h hl)
  refine ⟨text.take width, t', ht', List.take_prefix _ _, ?_⟩
  intro l' t'' h' hl'
  have hle : l'.length ≤ width := Nat.le_findGreatest hl'.length_le (htake h' hl')
  have hwidth : width ≤ text.length := Nat.findGreatest_le _
  rw [List.length_take]
  omega

/-- What follows an opening quote is a body, up to the closing quote, the end of the text, or
a backslash that starts no escape. -/
theorem exists_body (quote : Char) (text : List Char) :
    ∃ body content rest, Body quote body content ∧ text = body ++ rest ∧
      (rest = [] ∨ (∃ more, rest = quote :: more) ∨ rest = ['\\'] ∨
        ∃ e more, rest = '\\' :: e :: more ∧ ∀ c, (e, c) ∉ escapes) := by
  fun_induction readLiteral quote text with
  | case1 => exact ⟨[], [], [], .nil, rfl, .inl rfl⟩
  | case2 rest => exact ⟨[], [], quote :: rest, .nil, rfl, .inr (.inl ⟨rest, rfl⟩)⟩
  | case3 => exact ⟨[], [], ['\\'], .nil, rfl, .inr (.inr (.inl rfl))⟩
  | case4 e rest d hescape _ ih =>
    obtain ⟨body, content, more, hbody, rfl, hmore⟩ := ih
    exact ⟨_, _, more, .escape (unescape_eq_some_iff.mp hescape) hbody, rfl, hmore⟩
  | case5 e rest hescape =>
    refine ⟨[], [], '\\' :: e :: rest, .nil, rfl, .inr (.inr (.inr ⟨e, rest, rfl, ?_⟩))⟩
    intro c hc
    rw [unescape_eq_some_iff.mpr hc] at hescape
    cases hescape
  | case6 c rest hquote hescape ih =>
    obtain ⟨body, content, more, hbody, rfl, hmore⟩ := ih
    exact ⟨_, _, more, .plain hquote hescape hbody, rfl, hmore⟩

/-- A text that starts with no blank starts with a longest lexeme, or something is wrong with
it. -/
theorem isLongest_or_fails {c : Char} (hblank : Text.isBlank c = false) (rest : List Char) :
    (∃ l t, IsLongest (c :: rest) l t) ∨ ∃ fault offset, Fails (c :: rest) fault offset := by
  by_cases hsome : ∃ l t, Denotes l t ∧ l <+: c :: rest
  · obtain ⟨l, t, hdenotes, hl⟩ := hsome
    exact .inl (exists_isLongest hdenotes hl)
  right
  push Not at hsome
  by_cases hquote : IsQuote c
  · obtain ⟨body, content, more, hbody, rfl, hmore⟩ := exists_body c rest
    rcases hmore with rfl | ⟨more, rfl⟩ | rfl | ⟨e, more, rfl, he⟩
    · rw [List.append_nil]
      exact ⟨_, _, .unterminated hquote hbody⟩
    · -- a literal that is closed is a lexeme
      exact absurd ⟨more, by simp⟩ (hsome _ _ (.string hquote hbody))
    · exact ⟨_, _, .unterminatedEscape hquote hbody⟩
    · exact ⟨_, _, .unknownEscape hquote hbody he⟩
  · exact ⟨_, _, .unexpected hblank hquote hsome⟩

end Lexeme

end StackLang
