/-
Source texts are split into lexemes.

A text that can be tokenized is a sequence of lexemes with blanks before, between and behind
them, each lexeme being the longest one at its place.  Where that fails, it fails behind the
longest part of the text that is such a sequence.

* `Pos.past`: the line and the column behind a text, by counting.
* `Scans`: a part of a text is split into lexemes, and what is left of the text.
* `Cursor.tokens_of_scans`: the tokens of a text are those of the lexemes it is split into, and
  then those of what is left.
* `Scans.total`: every text is split up to its end, or up to a fault.
* `tokenize_iff_scans`: both together, with the places of tokens and faults.

Design notes: a text is split from its start, as it is read, and a lexeme is the longest one
with respect to the whole rest of the text.  So the lexemes before a place do not depend on how
the text goes on to be split.
-/
import Mathlib.Data.List.TakeWhile
import StackLang.Proofs.Lexical

namespace StackLang

/-! ### Places by counting -/

/-- The place behind a text that starts at the top: its line is one more than the number of
line feeds, and its column one more than the number of characters behind the last of them. -/
def Pos.past (text : List Char) : Pos :=
  ⟨text.count '\n' + 1, (text.reverse.takeWhile (· != '\n')).length + 1⟩

theorem Pos.after_past (text : List Char) (c : Char) :
    (past text).after c = past (text ++ [c]) := by
  rw [after, past, past, List.reverse_append]
  by_cases hc : c = '\n'
  · subst hc
    simp
  · simp [hc]

theorem Pos.afterAll_past (text cs : List Char) : (past text).afterAll cs = past (text ++ cs) := by
  induction cs generalizing text with
  | nil => simp [afterAll]
  | cons c cs ih =>
    have hcons : (past text).afterAll (c :: cs) = ((past text).after c).afterAll cs := rfl
    rw [hcons, after_past, ih]
    simp

/-! ### Texts split into lexemes -/

/-- `Scans before text ts after rest`: behind the text `before`, a part of `text` is split into
blanks and lexemes that denote the tokens `ts`, each at the place of its first character.  After
that part all that is passed is `after`, and `rest` is left. -/
inductive Scans : List Char → List Char → List Located → List Char → List Char → Prop
  | blanks {before gap rest : List Char} (hgap : ∀ c ∈ gap, Text.isBlank c = true) :
    Scans before (gap ++ rest) [] (before ++ gap) rest
  | lexeme {before gap l rest after rest' : List Char} {t : Token} {ts : List Located}
      (hgap : ∀ c ∈ gap, Text.isBlank c = true) (hl : Lexeme.IsLongest (l ++ rest) l t)
      (h : Scans (before ++ gap ++ l) rest ts after rest') :
    Scans before (gap ++ (l ++ rest)) (⟨t, .past (before ++ gap)⟩ :: ts) after rest'

variable {before text after rest : List Char} {ts : List Located}

theorem Scans.append_eq (h : Scans before text ts after rest) :
    before ++ text = after ++ rest := by
  induction h with
  | blanks _ => simp
  | lexeme _ _ _ ih => simpa using ih

theorem Scans.length_le (h : Scans before text ts after rest) : rest.length ≤ text.length := by
  induction h with
  | blanks _ => simp
  | lexeme _ _ _ ih =>
    simp only [List.length_append]
    omega

namespace Lexeme

theorem Denotes.ne_eof {l : List Char} {t : Token} (h : Denotes l t) : t ≠ .eof := by
  rintro rfl
  cases h with
  | word _ _ ht => exact wordToken_ne_eof _ (wordDenotes_iff.mp ht)
  | sign hsign => simp [signs] at hsign

theorem IsLongest.eq {text l l' : List Char} {t t' : Token} (h : IsLongest text l t)
    (h' : IsLongest text l' t') : l = l' := by
  have hlength : l.length = l'.length :=
    Nat.le_antisymm (h'.longest l t h.denotes h.starts) (h.longest l' t' h'.denotes h'.starts)
  rw [List.prefix_iff_eq_take.mp h.starts, List.prefix_iff_eq_take.mp h'.starts, hlength]

theorem Fails.not_denotes {text l : List Char} {t : Token} {fault : LexFault} {offset : Nat}
    (h : Fails text fault offset) (hdenotes : Denotes l t) : ¬ l <+: text := by
  intro hl
  obtain ⟨l, t, hlongest⟩ := exists_isLongest hdenotes hl
  obtain ⟨width, hread, -⟩ := read_of_fails h
  rw [read_of_isLongest hlongest] at hread
  cases hread

end Lexeme

/-! ### The tokens of a text that is split -/

namespace Cursor

/-- Blanks in front of the text make no difference, but for the places. -/
theorem skipBlanks_past {gap : List Char} (hgap : ∀ c ∈ gap, Text.isBlank c = true)
    (before rest : List Char) :
    skipBlanks ⟨gap ++ rest, .past before⟩ = skipBlanks ⟨rest, .past (before ++ gap)⟩ := by
  simp only [skipBlanks, advance, List.takeWhile_append_of_pos hgap, List.length_append,
    List.drop_length_add_append, List.take_length_add_append, Pos.afterAll_past,
    List.append_assoc]

theorem skipBlanks_of_head {c : Char} {cs : List Char} (h : Text.isBlank c = false) (p : Pos) :
    skipBlanks ⟨c :: cs, p⟩ = ⟨c :: cs, p⟩ := by
  simp [skipBlanks, advance, h, Pos.afterAll]

/-- Behind blanks, a longest lexeme is the next token. -/
theorem next_of_isLongest {gap l : List Char} {t : Token}
    (hgap : ∀ c ∈ gap, Text.isBlank c = true) (h : Lexeme.IsLongest (l ++ rest) l t) :
    next ⟨gap ++ (l ++ rest), .past before⟩ =
      (.ok ⟨t, .past (before ++ gap)⟩, ⟨rest, .past (before ++ gap ++ l)⟩) := by
  obtain ⟨c, cs, hl, hblank⟩ := h.denotes.head
  have hskip : skipBlanks ⟨gap ++ (l ++ rest), .past before⟩ =
      ⟨l ++ rest, .past (before ++ gap)⟩ := by
    rw [skipBlanks_past hgap, hl]
    exact skipBlanks_of_head hblank _
  rw [next, hskip]
  simp [Lexeme.read_of_isLongest h, advance, Pos.afterAll_past]

/-- Where no lexeme stands, the next token is the fault that is found there. -/
theorem next_of_fails {fault : LexFault} {offset : Nat} (h : Lexeme.Fails rest fault offset) :
    (next ⟨rest, .past before⟩).1 = .error ⟨fault, .past (before ++ rest.take offset)⟩ := by
  obtain ⟨c, cs, hcs, hblank⟩ := h.head
  obtain ⟨width, hread, hoffset, -⟩ := Lexeme.read_of_fails h
  have hskip : skipBlanks ⟨rest, .past before⟩ = ⟨rest, .past before⟩ := by
    rw [hcs]
    exact skipBlanks_of_head hblank _
  rw [next, hskip, hread, ← hoffset]
  cases fault with
  | unexpectedChar c => simp [faultPos, Lexeme.blamed]
  | unknownEscape e => simp [faultPos, Lexeme.blamed, advance, Pos.afterAll_past]
  | unterminatedString => simp [faultPos, Lexeme.blamed]

/-- The tokens of a text are those of the lexemes that a part of it is split into, and then
those of the rest. -/
theorem tokens_of_scans (h : Scans before text ts after rest) :
    tokens ⟨text, .past before⟩ = (tokens ⟨rest, .past after⟩).map (ts ++ ·) := by
  induction h with
  | @blanks before gap rest hgap =>
    have hnext : next ⟨gap ++ rest, .past before⟩ = next ⟨rest, .past (before ++ gap)⟩ := by
      simp only [next, skipBlanks_past hgap]
    rw [tokens_congr hnext]
    cases tokens ⟨rest, .past (before ++ gap)⟩ with
    | error e => rfl
    | ok out => rfl
  | @lexeme before gap l rest after rest' t ts hgap hl _ ih =>
    have hnext : next ⟨gap ++ (l ++ rest), .past before⟩ = _ := next_of_isLongest hgap hl
    rw [tokens_of_ne_eof (congrArg Prod.fst hnext) hl.denotes.ne_eof, hnext, ih]
    cases tokens ⟨rest', .past after⟩ with
    | error e => rfl
    | ok out => rfl

theorem tokens_nil (p : Pos) : tokens ⟨[], p⟩ = .ok [⟨.eof, p⟩] :=
  tokens_of_eof (c := ⟨[], p⟩) rfl rfl

end Cursor

/-! ### Every text is split -/

/-- Every text is split up to its end, or up to a fault. -/
theorem Scans.total (before text : List Char) :
    (∃ ts, Scans before text ts (before ++ text) []) ∨
      ∃ ts after rest fault offset, Scans before text ts after rest ∧
        Lexeme.Fails rest fault offset := by
  induction hlength : text.length using Nat.strongRecOn generalizing before text with
  | ind n ih =>
    obtain ⟨gap, rest, rfl, hgap, hrest⟩ : ∃ gap rest, text = gap ++ rest ∧
        (∀ c ∈ gap, Text.isBlank c = true) ∧ ∀ c ∈ rest.head?, Text.isBlank c = false := by
      refine ⟨text.takeWhile Text.isBlank, text.dropWhile Text.isBlank,
        List.takeWhile_append_dropWhile.symm, ?_, ?_⟩
      · intro c hc
        exact List.mem_takeWhile_imp hc
      · intro c hc
        have := List.head?_dropWhile_not Text.isBlank text
        rw [hc] at this
        simpa using this
    cases rest with
    | nil =>
      rw [List.append_nil]
      have hblanks : Scans before (gap ++ []) [] (before ++ gap) [] := .blanks hgap
      rw [List.append_nil] at hblanks
      exact .inl ⟨[], hblanks⟩
    | cons c rest =>
      rcases Lexeme.isLongest_or_fails (hrest c rfl) rest with
        ⟨l, t, hl⟩ | ⟨fault, offset, hfails⟩
      · -- the lexeme is not empty, so what is behind it is shorter
        obtain ⟨rest', hrest'⟩ := hl.starts
        obtain ⟨d, ds, hds, -⟩ := hl.denotes.head
        rw [← hrest'] at hl hlength ⊢
        have hlt : rest'.length < n := by
          rw [← hlength, hds]
          simp only [List.length_append, List.length_cons]
          omega
        rcases ih _ hlt (before ++ gap ++ l) rest' rfl with
          ⟨ts, hts⟩ | ⟨ts, after, rest'', fault, offset, hts, hfails⟩
        · simp only [List.append_assoc] at hts
          exact .inl ⟨_, .lexeme hgap hl (by simpa only [List.append_assoc] using hts)⟩
        · exact .inr ⟨_, _, _, _, _, .lexeme hgap hl hts, hfails⟩
      · exact .inr ⟨_, _, _, _, _, .blanks hgap, hfails⟩

/-- Blanks that are followed by something else are the same, however the text is split. -/
theorem blanks_unique {gap gap' rest rest' : List Char}
    (hgap : ∀ c ∈ gap, Text.isBlank c = true) (hgap' : ∀ c ∈ gap', Text.isBlank c = true)
    (hrest : ∃ c cs, rest = c :: cs ∧ Text.isBlank c = false) (h : gap ++ rest = gap' ++ rest') :
    gap'.length ≤ gap.length := by
  obtain ⟨c, cs, rfl, hc⟩ := hrest
  have htake : (gap ++ c :: cs).takeWhile Text.isBlank = gap :=
    (Lexeme.span_run hgap (by simpa using hc)).1
  have htake' : (gap' ++ rest').takeWhile Text.isBlank = gap' ++ rest'.takeWhile Text.isBlank :=
    List.takeWhile_append_of_pos hgap'
  rw [h, htake'] at htake
  rw [← htake, List.length_append]
  exact Nat.le_add_right _ _

/-- No part that goes beyond a fault is split into lexemes. -/
theorem Scans.length_le_of_fails {fault : LexFault} {offset : Nat} {ts' : List Located}
    {after' rest' : List Char} (h : Scans before text ts after rest)
    (hfails : Lexeme.Fails rest fault offset) (h' : Scans before text ts' after' rest') :
    rest.length ≤ rest'.length := by
  induction h generalizing ts' with
  | @blanks before gap rest hgap =>
    generalize htext : gap ++ rest = text at h'
    cases h' with
    | @blanks _ gap' rest' hgap' =>
      have hle := blanks_unique hgap hgap' hfails.head htext
      have hlength := congrArg List.length htext
      simp only [List.length_append] at hlength
      omega
    | @lexeme _ gap' l rest'' _ _ t ts hgap' hl h' =>
      -- the blanks would be the same, and a lexeme would stand where none does
      obtain ⟨c, cs, hcs, hc⟩ := hl.denotes.head
      have hle := blanks_unique hgap hgap' hfails.head htext
      have hle' := blanks_unique hgap' hgap ⟨c, cs ++ rest'', by rw [hcs]; rfl, hc⟩ htext.symm
      obtain ⟨-, hrest⟩ := List.append_inj htext (Nat.le_antisymm hle' hle)
      exact absurd ⟨rest'', hrest.symm⟩ (hfails.not_denotes hl.denotes)
  | @lexeme before gap l rest after _ t ts hgap hl h ih =>
    obtain ⟨c, cs, hcs, hc⟩ := hl.denotes.head
    have hhead : ∃ c cs, l ++ rest = c :: cs ∧ Text.isBlank c = false :=
      ⟨c, cs ++ rest, by rw [hcs]; rfl, hc⟩
    generalize htext : gap ++ (l ++ rest) = text at h'
    cases h' with
    | @blanks _ gap' rest' hgap' =>
      have hle := blanks_unique hgap hgap' hhead htext
      have hrest := h.length_le
      have hlength := congrArg List.length htext
      simp only [List.length_append] at hlength
      omega
    | @lexeme _ gap' l' rest'' _ _ t' ts' hgap' hl' h' =>
      obtain ⟨d, ds, hds, hd⟩ := hl'.denotes.head
      have hle := blanks_unique hgap hgap' hhead htext
      have hle' := blanks_unique hgap' hgap ⟨d, ds ++ rest'', by rw [hds]; rfl, hd⟩ htext.symm
      obtain ⟨rfl, hsame⟩ := List.append_inj htext (Nat.le_antisymm hle' hle)
      rw [← hsame] at hl'
      obtain rfl := hl.eq hl'
      obtain rfl := List.append_cancel_left hsame
      exact ih hfails h'

/-! ### Tokenization -/

theorem tokenize_of_scans {source : String} (h : Scans [] source.toList ts after rest) :
    tokenize source = (Cursor.tokens ⟨rest, .past after⟩).map (ts ++ ·) :=
  Cursor.tokens_of_scans h

theorem tokenize_of_scans_nil {source : String}
    (h : Scans [] source.toList ts source.toList []) :
    tokenize source = .ok (ts ++ [⟨.eof, .past source.toList⟩]) := by
  rw [tokenize_of_scans h, Cursor.tokens_nil]
  rfl

theorem tokenize_of_scans_fails {source : String} {fault : LexFault} {offset : Nat}
    (h : Scans [] source.toList ts after rest) (hfails : Lexeme.Fails rest fault offset) :
    tokenize source = .error ⟨fault, .past (after ++ rest.take offset)⟩ := by
  rw [tokenize_of_scans h, Cursor.tokens_of_error (Cursor.next_of_fails hfails)]
  rfl

/-- **The tokens of a text are those of its lexemes.**  A text is tokenized exactly if it is
split into blanks and longest lexemes up to its end.  Its tokens are those that the lexemes
denote, each at the place of its first character, and the end token behind the text.  It is
refused exactly if it is split up to a place where no lexeme stands; what is wrong there is the
error, at the character that is to blame.  That is the longest part of the text that is split
into lexemes. -/
theorem tokenize_iff_scans (source : String) :
    (∀ out, tokenize source = .ok out ↔
      ∃ ts, Scans [] source.toList ts source.toList [] ∧
        out = ts ++ [⟨.eof, .past source.toList⟩]) ∧
    (∀ e, tokenize source = .error e ↔
      ∃ ts before rest offset, Scans [] source.toList ts before rest ∧
        Lexeme.Fails rest e.fault offset ∧ e.pos = .past (before ++ rest.take offset)) ∧
    ∀ ts before rest fault offset, Scans [] source.toList ts before rest →
      Lexeme.Fails rest fault offset →
      ∀ ts' before' rest', Scans [] source.toList ts' before' rest' →
        before'.length ≤ before.length := by
  have htotal := Scans.total [] source.toList
  rw [List.nil_append] at htotal
  refine ⟨?_, ?_, ?_⟩
  · intro out
    constructor
    · intro hok
      rcases htotal with ⟨ts, hts⟩ | ⟨ts, before, rest, fault, offset, hts, hfails⟩
      · rw [tokenize_of_scans_nil hts] at hok
        cases hok
        exact ⟨ts, hts, rfl⟩
      · rw [tokenize_of_scans_fails hts hfails] at hok
        cases hok
    · rintro ⟨ts, hts, rfl⟩
      exact tokenize_of_scans_nil hts
  · intro e
    constructor
    · intro herror
      rcases htotal with ⟨ts, hts⟩ | ⟨ts, before, rest, fault, offset, hts, hfails⟩
      · rw [tokenize_of_scans_nil hts] at herror
        cases herror
      · rw [tokenize_of_scans_fails hts hfails] at herror
        cases herror
        exact ⟨ts, before, rest, offset, hts, hfails, rfl⟩
    · rintro ⟨ts, before, rest, offset, hts, hfails, hpos⟩
      rw [tokenize_of_scans_fails hts hfails, ← hpos]
  · intro ts before rest fault offset hts hfails ts' before' rest' hts'
    have hle := hts.length_le_of_fails hfails hts'
    have hlength := congrArg List.length (hts.append_eq.symm.trans hts'.append_eq)
    simp only [List.length_append] at hlength
    omega

/-- The tokens of a text with a word glued to a number and a line feed inside of a literal. -/
def gluedTokens : List Located :=
  [⟨.number ⟨0x41400000⟩, ⟨1, 1⟩⟩, ⟨.ident "ab", ⟨1, 3⟩⟩, ⟨.lessEqual, ⟨1, 5⟩⟩,
    ⟨.string "\n", ⟨1, 7⟩⟩, ⟨.number ⟨0x40600000⟩, ⟨2, 2⟩⟩]

/-- The text is split into its lexemes up to its end.  With a second point behind the last
number it is refused there, and no longer part of it is split. -/
theorem scans_gluedTokens :
    Scans [] "12ab<='\n'3.5".toList gluedTokens "12ab<='\n'3.5".toList [] ∧
    tokenize "12ab<='\n'3.5." = .error ⟨.unexpectedChar '.', ⟨2, 5⟩⟩ ∧
    ∃ ts before rest offset, Scans [] "12ab<='\n'3.5.".toList ts before rest ∧
      Lexeme.Fails rest (.unexpectedChar '.') offset ∧
      ∀ ts' before' rest', Scans [] "12ab<='\n'3.5.".toList ts' before' rest' →
        before'.length ≤ before.length := by
  have htokens : tokenize "12ab<='\n'3.5" = .ok (gluedTokens ++ [⟨.eof, ⟨2, 5⟩⟩]) := by
    decide +kernel
  have herror : tokenize "12ab<='\n'3.5." = .error ⟨.unexpectedChar '.', ⟨2, 5⟩⟩ := by
    decide +kernel
  obtain ⟨ts, hts, hout⟩ := ((tokenize_iff_scans _).1 _).mp htokens
  obtain ⟨-, hfailure, hlongest⟩ := tokenize_iff_scans "12ab<='\n'3.5."
  obtain ⟨ts', before, rest, offset, hts', hfails, -⟩ := (hfailure _).mp herror
  refine ⟨?_, herror, ts', before, rest, offset, hts', hfails, hlongest _ _ _ _ _ hts' hfails⟩
  rw [(List.append_inj' hout rfl).1]
  exact hts

end StackLang
