/-
Where tokens end.

A text that has tokens, followed by another text, has its own tokens in front of those of the other
text, if the other text starts with a character that no token goes on with: a blank or a closing
parenthesis, for instance.  No token reaches over such a character: numbers, words and signs do not
go on with it, and a string literal that is closed ends where it is closed.

* `Lexeme.Delimits`: no token goes on with the character.  `Lexeme.read_delimited`: what stands at
  the head of a text is read the same in front of such a character.
* `Cursor.tokens_append`: the tokens of a text that is followed by another text.
* `Located.moved`: a token at another place.  `Cursor.tokens_down`: a text that starts some
  lines further down has the same tokens, so many lines further down.
* `tokenize_lines`: both together, for source texts with a line feed between them.
-/
import Mathlib.Tactic.Common
import StackLang.Token.Stream

namespace StackLang

/-! ### Lexemes in front of a delimiter -/

namespace Lexeme

/-- No number, word or sign goes on with the character. -/
structure Delimits (c : Char) : Prop where
  digit : c.isDigit = false
  point : c ≠ '.'
  word : continuesWord c = false
  sign : c ≠ '='

/-- The text is empty or starts with a delimiter. -/
def Delimited (more : List Char) : Prop :=
  ∀ c ∈ more.head?, Delimits c

theorem delimited_cons {c : Char} (h : Delimits c) (more : List Char) : Delimited (c :: more) := by
  simpa [Delimited] using h

theorem delimits_lineFeed : Delimits '\n' :=
  ⟨by decide, by decide, by decide, by decide⟩

variable {more : List Char}

section

variable {p : Char → Bool}

theorem takeWhile_append_of_stop (hp : ∀ c ∈ more.head?, p c = false) (cs : List Char) :
    (cs ++ more).takeWhile p = cs.takeWhile p := by
  induction cs with
  | nil =>
    cases more with
    | nil => rfl
    | cons c more => simp [hp c rfl]
  | cons c cs ih => simp only [List.cons_append, List.takeWhile_cons, ih]

theorem dropWhile_append_of_stop (hp : ∀ c ∈ more.head?, p c = false) (cs : List Char) :
    (cs ++ more).dropWhile p = cs.dropWhile p ++ more := by
  induction cs with
  | nil =>
    cases more with
    | nil => rfl
    | cons c more => simp [hp c rfl]
  | cons c cs ih =>
    simp only [List.cons_append, List.dropWhile_cons]
    split
    · exact ih
    · rfl

end

variable {cs : List Char} {t : Token} {width : Nat}

theorem fractionDigits_delimited (hmore : Delimited more) (cs : List Char) :
    fractionDigits (cs ++ more) = fractionDigits cs := by
  have hdigit : ∀ c ∈ more.head?, c.isDigit = false := fun c hc => (hmore c hc).digit
  cases cs with
  | nil =>
    cases more with
    | nil => rfl
    | cons c more => simp [fractionDigits, (hmore c rfl).point]
  | cons c cs =>
    by_cases hc : c = '.'
    · subst hc
      cases cs with
      | nil =>
        cases more with
        | nil => rfl
        | cons d more => simp [fractionDigits, hdigit d rfl]
      | cons d cs =>
        have htake := takeWhile_append_of_stop hdigit (d :: cs)
        simp only [List.cons_append, fractionDigits] at htake ⊢
        rw [htake]
    · simp [fractionDigits, hc]

theorem readNumber_delimited (hmore : Delimited more) (cs : List Char) :
    readNumber (cs ++ more) = readNumber cs := by
  have hdigit : ∀ c ∈ more.head?, c.isDigit = false := fun c hc => (hmore c hc).digit
  simp only [readNumber, takeWhile_append_of_stop hdigit, dropWhile_append_of_stop hdigit,
    fractionDigits_delimited hmore]

theorem readWord_delimited (hmore : Delimited more) (cs : List Char) :
    readWord (cs ++ more) = readWord cs := by
  have hword : ∀ c ∈ more.head?, continuesWord c = false := fun c hc => (hmore c hc).word
  simp only [readWord, takeWhile_append_of_stop hword]

theorem readSymbol_delimited (hmore : Delimited more) (c : Char) (cs : List Char) :
    readSymbol c (cs ++ more) = readSymbol c cs := by
  cases cs with
  | nil =>
    cases more with
    | nil => rfl
    | cons d more =>
      have hsign : doubleSymbol c d = none := by
        have hd := (hmore d rfl).sign
        unfold doubleSymbol
        split <;> simp_all
      simp [readSymbol, hsign]
  | cons d cs => rfl

theorem Literal.after_eq_closed {c : Char} {before : Nat} {content : List Char}
    {literal : Literal} (h : literal.after c before = .closed content width) :
    ∃ content' width', literal = .closed content' width' ∧ content = c :: content' ∧
      width = before + width' := by
  cases literal with
  | closed content' width' =>
    cases h
    exact ⟨content', width', rfl, rfl, rfl⟩
  | fault reason width' => cases h

theorem readLiteral_cons (quote c : Char) (rest : List Char) :
    readLiteral quote (c :: rest) =
      if c = quote then .closed [] 1
      else if c = '\\' then
        match rest with
        | [] => .fault .unterminatedString 1
        | e :: rest =>
          match unescape e with
          | some d => (readLiteral quote rest).after d 2
          | none => .fault (.unknownEscape e) 1
      else (readLiteral quote rest).after c 1 :=
  readLiteral.eq_def quote (c :: rest)

/-- A literal that is closed is closed there whatever follows. -/
theorem readLiteral_append {quote : Char} {content : List Char}
    (h : readLiteral quote cs = .closed content width) (more : List Char) :
    readLiteral quote (cs ++ more) = .closed content width ∧ width ≤ cs.length := by
  fun_induction readLiteral quote cs generalizing content width with
  | case1 => cases h
  | case2 rest =>
    cases h
    rw [List.cons_append, readLiteral_cons, if_pos rfl]
    simp
  | case3 => cases h
  | case4 e rest d hescape hquote ih =>
    obtain ⟨content', width', hrest, rfl, rfl⟩ := Literal.after_eq_closed h
    obtain ⟨hmore, hle⟩ := ih hrest
    refine ⟨?_, by simp only [List.length_cons]; omega⟩
    rw [List.cons_append, readLiteral_cons, if_neg hquote, if_pos rfl, List.cons_append]
    simp only [hescape, hmore, Literal.after]
  | case5 => cases h
  | case6 c rest hquote hescape ih =>
    obtain ⟨content', width', hrest, rfl, rfl⟩ := Literal.after_eq_closed h
    obtain ⟨hmore, hle⟩ := ih hrest
    refine ⟨?_, by simp only [List.length_cons]; omega⟩
    rw [List.cons_append, readLiteral_cons, if_neg hquote, if_neg hescape, hmore, Literal.after]

/-- The point and the digits after it are part of the text. -/
theorem width_fractionDigits (cs : List Char) :
    (if (fractionDigits cs).isEmpty then 0 else 1 + (fractionDigits cs).length) ≤ cs.length := by
  unfold fractionDigits
  split
  · rename_i c rest
    have hle := (List.takeWhile_prefix (l := c :: rest) Char.isDigit).length_le
    simp only [List.length_cons] at hle ⊢
    split
    · split
      · exact Nat.zero_le _
      · omega
    · exact Nat.zero_le _
  · simp

theorem width_readNumber (h : readNumber cs = .token t width) : width ≤ cs.length := by
  have hfraction := width_fractionDigits (cs.dropWhile Char.isDigit)
  have hsplit : (cs.takeWhile Char.isDigit ++ cs.dropWhile Char.isDigit).length = cs.length := by
    rw [List.takeWhile_append_dropWhile]
  rw [List.length_append] at hsplit
  rw [readNumber] at h
  injection h with _ hwidth
  omega

theorem width_readString {quote : Char} (h : readString quote cs = .token t width) :
    width ≤ cs.length + 1 := by
  rw [readString] at h
  cases hliteral : readLiteral quote cs with
  | closed content width' =>
    have hle := (readLiteral_append hliteral []).2
    rw [hliteral] at h
    injection h with _ hwidth
    omega
  | fault reason width' =>
    rw [hliteral] at h
    cases h

theorem width_readWord (h : readWord cs = .token t width) : width ≤ cs.length := by
  have hle := (List.takeWhile_prefix (l := cs) continuesWord).length_le
  rw [readWord] at h
  injection h with _ hwidth
  omega

theorem width_readSymbol {c : Char} (h : readSymbol c cs = .token t width) :
    width ≤ cs.length + 1 := by
  rw [readSymbol] at h
  split at h
  · rename_i hdouble
    injection h with _ hwidth
    cases cs with
    | nil => cases hdouble
    | cons d cs =>
      simp only [List.length_cons]
      omega
  · split at h
    · injection h with _ hwidth
      omega
    · cases h

/-- A token takes no more characters than there are. -/
theorem width_le (h : read cs = .token t width) : width ≤ cs.length := by
  cases cs with
  | nil =>
    cases h
    exact Nat.le_refl _
  | cons c cs =>
    rw [read] at h
    split at h
    · exact width_readNumber h
    · split at h
      · exact width_readString h
      · split at h
        · exact width_readWord h
        · exact width_readSymbol h

theorem wordToken_ne_eof (word : String) : wordToken word ≠ .eof := by
  unfold wordToken
  split_ifs <;> simp

theorem doubleSymbol_ne_eof (c d : Char) : doubleSymbol c d ≠ some .eof := by
  unfold doubleSymbol
  split <;> simp

theorem singleSymbol_ne_eof (c : Char) : singleSymbol c ≠ some .eof := by
  unfold singleSymbol
  split <;> simp

/-- The end token stands at the end only. -/
theorem ne_eof_of_read {c : Char} (h : read (c :: cs) = .token t width) : t ≠ .eof := by
  rintro rfl
  rw [read] at h
  split at h
  · cases h
  · split at h
    · rw [readString] at h
      split at h
      · cases h
      · cases h
    · split at h
      · injection h with hword
        exact wordToken_ne_eof _ hword
      · rw [readSymbol] at h
        split at h
        · rename_i hdouble
          cases h
          obtain ⟨d, -, hd⟩ := Option.bind_eq_some_iff.mp hdouble
          exact doubleSymbol_ne_eof c d hd
        · split at h
          · rename_i hsingle
            cases h
            exact singleSymbol_ne_eof c hsingle
          · cases h

/-- What stands at the head of a text is read the same in front of a delimiter. -/
theorem read_delimited {c : Char} (h : read (c :: cs) = .token t width)
    (hmore : Delimited more) : read (c :: cs ++ more) = .token t width := by
  rw [List.cons_append]
  rw [read] at h ⊢
  by_cases hdigit : c.isDigit
  · rw [if_pos hdigit] at h ⊢
    rw [← List.cons_append, readNumber_delimited hmore]
    exact h
  rw [if_neg hdigit] at h ⊢
  by_cases hquote : c = '"' ∨ c = '\''
  · rw [if_pos hquote, readString] at h ⊢
    cases hliteral : readLiteral c cs with
    | closed content width' =>
      rw [hliteral] at h
      rw [(readLiteral_append hliteral _).1]
      exact h
    | fault reason width' =>
      rw [hliteral] at h
      cases h
  rw [if_neg hquote] at h ⊢
  by_cases hword : startsWord c
  · rw [if_pos hword] at h ⊢
    rw [← List.cons_append, readWord_delimited hmore]
    exact h
  rw [if_neg hword] at h ⊢
  rw [readSymbol_delimited hmore]
  exact h

end Lexeme

/-! ### Places -/

namespace Pos

theorem afterAll_append (p : Pos) (cs ds : List Char) :
    p.afterAll (cs ++ ds) = (p.afterAll cs).afterAll ds :=
  List.foldl_append

/-- The place so many lines further down. -/
def down (lines : Nat) (p : Pos) : Pos :=
  ⟨p.line + lines, p.col⟩

theorem after_down (lines : Nat) (p : Pos) (c : Char) :
    (p.down lines).after c = (p.after c).down lines := by
  rw [after, after]
  split
  · simp only [down, Nat.add_right_comm]
  · rfl

theorem afterAll_down (lines : Nat) (p : Pos) (cs : List Char) :
    (p.down lines).afterAll cs = (p.afterAll cs).down lines := by
  induction cs generalizing p with
  | nil => rfl
  | cons c cs ih =>
    show ((p.down lines).after c).afterAll cs = ((p.after c).afterAll cs).down lines
    rw [after_down, ih]

/-- Behind a line feed a text starts as at the top, some lines further down. -/
theorem after_lineFeed (p : Pos) : p.after '\n' = start.down p.line := by
  rw [after, if_pos rfl, down, start, Nat.add_comm]

end Pos

/-- The token at the place that the function gives for its own. -/
def Located.moved (move : Pos → Pos) (t : Located) : Located :=
  ⟨t.token, move t.pos⟩

namespace Cursor

/-! ### Tokens from the next one on -/

theorem tokens_of_eof {c : Cursor} {t : Located} (h : c.next.1 = .ok t) (ht : t.token = .eof) :
    c.tokens = .ok [t] := by
  rw [tokens]
  split
  · rename_i e he
    rw [h] at he
    cases he
  · rename_i t' ht'
    rw [h] at ht'
    cases ht'
    rw [dif_pos ht]

theorem tokens_of_ne_eof {c : Cursor} {t : Located} (h : c.next.1 = .ok t)
    (ht : t.token ≠ .eof) : c.tokens = c.next.2.tokens.map (t :: ·) := by
  rw [tokens]
  split
  · rename_i e he
    rw [h] at he
    cases he
  · rename_i t' ht'
    rw [h] at ht'
    cases ht'
    rw [dif_neg ht]
    cases c.next.2.tokens with
    | error e => rfl
    | ok ts => rfl

theorem tokens_of_error {c : Cursor} {e : LexError} (h : c.next.1 = .error e) :
    c.tokens = .error e := by
  rw [tokens]
  split
  · rename_i e' he
    rw [h] at he
    cases he
    rfl
  · rename_i t' ht'
    rw [h] at ht'
    cases ht'

/-- The tokens depend on the next one and on what follows it. -/
theorem tokens_congr {c d : Cursor} (h : c.next = d.next) : c.tokens = d.tokens := by
  cases hnext : d.next.1 with
  | error e => rw [tokens_of_error hnext, tokens_of_error (h ▸ hnext)]
  | ok t =>
    by_cases ht : t.token = .eof
    · rw [tokens_of_eof hnext ht, tokens_of_eof (h ▸ hnext) ht]
    · rw [tokens_of_ne_eof hnext ht, tokens_of_ne_eof (h ▸ hnext) ht, h]

/-- Everything that the tokens of a text can be: the end token alone, or a first token and the
tokens behind it. -/
theorem tokens_eq_ok {c : Cursor} {ts : List Located} (h : c.tokens = .ok ts) :
    (∃ t, c.next.1 = .ok t ∧ t.token = .eof ∧ ts = [t]) ∨
      ∃ t ts', c.next.1 = .ok t ∧ t.token ≠ .eof ∧ c.next.2.tokens = .ok ts' ∧
        ts = t :: ts' := by
  cases hnext : c.next.1 with
  | error e =>
    rw [tokens_of_error hnext] at h
    cases h
  | ok t =>
    by_cases ht : t.token = .eof
    · rw [tokens_of_eof hnext ht] at h
      cases h
      exact .inl ⟨t, rfl, ht, rfl⟩
    · rw [tokens_of_ne_eof hnext ht] at h
      cases hrest : c.next.2.tokens with
      | error e =>
        rw [hrest] at h
        cases h
      | ok ts' =>
        rw [hrest] at h
        cases h
        exact .inr ⟨t, ts', rfl, ht, rfl, rfl⟩

theorem tokens_ne_nil (c : Cursor) : c.tokens ≠ .ok [] := by
  intro h
  rcases tokens_eq_ok h with ⟨t, -, -, hts⟩ | ⟨t, ts, -, -, -, hts⟩
  · cases hts
  · cases hts

/-- The end token is the last token and no other. -/
theorem exists_stop_of_tokens {c : Cursor} {ts : List Located} (h : c.tokens = .ok ts) :
    ∃ ts' stop, ts = ts' ++ [stop] ∧ stop.token = .eof ∧ ∀ t ∈ ts', t.token ≠ .eof := by
  induction ts generalizing c with
  | nil => exact absurd h (tokens_ne_nil c)
  | cons t ts ih =>
    rcases tokens_eq_ok h with ⟨t', -, ht, hts⟩ | ⟨t', ts', -, ht, hrest, hts⟩
    · cases hts
      exact ⟨[], t, rfl, ht, fun _ hmem => absurd hmem List.not_mem_nil⟩
    · cases hts
      obtain ⟨front, stop, rfl, hstop, hfront⟩ := ih hrest
      exact ⟨t :: front, stop, rfl, hstop, List.forall_mem_cons.mpr ⟨ht, hfront⟩⟩

/-! ### A text and another one behind it -/

section

variable {c : Cursor} {t : Located} {more : List Char}

theorem advance_append {width : Nat} (h : width ≤ c.rest.length) :
    advance ⟨c.rest ++ more, c.pos⟩ width =
      ⟨(c.advance width).rest ++ more, (c.advance width).pos⟩ := by
  simp only [advance, List.drop_append_of_le_length h, List.take_append_of_le_length h]

theorem afterAll_advance (c : Cursor) (width : Nat) :
    (c.advance width).pos.afterAll (c.advance width).rest = c.pos.afterAll c.rest := by
  simp only [advance]
  rw [← Pos.afterAll_append, List.take_append_drop]

theorem length_takeWhile_le (c : Cursor) :
    (c.rest.takeWhile Text.isBlank).length ≤ c.rest.length :=
  (List.takeWhile_prefix _).length_le

/-- Where something is left behind the blanks, they end in front of the other text. -/
theorem skipBlanks_append (h : c.skipBlanks.rest ≠ []) :
    skipBlanks ⟨c.rest ++ more, c.pos⟩ = ⟨c.skipBlanks.rest ++ more, c.skipBlanks.pos⟩ := by
  have hlt : (c.rest.takeWhile Text.isBlank).length ≠ c.rest.length := by
    intro heq
    rw [skipBlanks, advance, heq] at h
    exact h (List.drop_length)
  have htake : (c.rest ++ more).takeWhile Text.isBlank = c.rest.takeWhile Text.isBlank := by
    rw [List.takeWhile_append, if_neg hlt]
  rw [skipBlanks, htake, advance_append c.length_takeWhile_le]
  rfl

/-- Where nothing is left behind the blanks, they go on in the other text. -/
theorem skipBlanks_append_of_nil (h : c.skipBlanks.rest = []) :
    skipBlanks ⟨c.rest ++ more, c.pos⟩ = skipBlanks ⟨more, c.pos.afterAll c.rest⟩ := by
  have heq : (c.rest.takeWhile Text.isBlank).length = c.rest.length := by
    have hle := List.drop_eq_nil_iff.mp h
    have hle' := c.length_takeWhile_le
    omega
  have htake : (c.rest ++ more).takeWhile Text.isBlank =
      c.rest ++ more.takeWhile Text.isBlank := by
    rw [List.takeWhile_append, if_pos heq]
  simp only [skipBlanks, advance, htake, List.length_append, List.drop_length_add_append,
    List.take_length_add_append, Pos.afterAll_append]

theorem next_append (h : c.next.1 = .ok t) (ht : t.token ≠ .eof)
    (hmore : Lexeme.Delimited more) :
    next ⟨c.rest ++ more, c.pos⟩ = (.ok t, ⟨c.next.2.rest ++ more, c.next.2.pos⟩) ∧
      c.next.2.pos.afterAll c.next.2.rest = c.pos.afterAll c.rest := by
  simp only [next] at h ⊢
  cases hread : Lexeme.read c.skipBlanks.rest with
  | fault reason width =>
    rw [hread] at h
    cases h
  | token t' width =>
    rw [hread] at h
    cases h
    cases hrest : c.skipBlanks.rest with
    | nil =>
      rw [hrest] at hread
      cases hread
      exact absurd rfl ht
    | cons x xs =>
      have hne : c.skipBlanks.rest ≠ [] := by
        rw [hrest]
        exact List.cons_ne_nil _ _
      have hwidth := Lexeme.width_le hread
      have hline : Lexeme.read (c.skipBlanks.rest ++ more) = .token t' width := by
        rw [hrest] at hread ⊢
        exact Lexeme.read_delimited hread hmore
      rw [skipBlanks_append hne]
      simp only [hline]
      refine ⟨?_, ?_⟩
      · rw [advance_append hwidth]
      · rw [afterAll_advance, skipBlanks, afterAll_advance]

theorem next_append_of_eof (h : c.next.1 = .ok t) (ht : t.token = .eof) :
    next ⟨c.rest ++ more, c.pos⟩ = next ⟨more, c.pos.afterAll c.rest⟩ := by
  have hnil : c.skipBlanks.rest = [] := by
    simp only [next] at h
    cases hrest : c.skipBlanks.rest with
    | nil => rfl
    | cons x xs =>
      rw [hrest] at h
      cases hread : Lexeme.read (x :: xs) with
      | token t' width =>
        rw [hread] at h
        cases h
        exact absurd ht (Lexeme.ne_eof_of_read hread)
      | fault reason width =>
        rw [hread] at h
        cases h
  simp only [next, skipBlanks_append_of_nil hnil]

end

/-- A text that has tokens, followed by a text that starts with a delimiter, has its own tokens in
front of those of the other text. -/
theorem tokens_append {c : Cursor} {ts : List Located} {stop : Located} {more : List Char}
    (h : c.tokens = .ok (ts ++ [stop])) (hmore : Lexeme.Delimited more) :
    tokens ⟨c.rest ++ more, c.pos⟩ = (tokens ⟨more, c.pos.afterAll c.rest⟩).map (ts ++ ·) := by
  induction ts generalizing c with
  | nil =>
    rcases tokens_eq_ok h with ⟨t, hnext, ht, -⟩ | ⟨t, ts', -, -, hrest, hts⟩
    · rw [tokens_congr (next_append_of_eof hnext ht)]
      cases tokens ⟨more, c.pos.afterAll c.rest⟩ with
      | error e => rfl
      | ok ts => rfl
    · cases hts
      exact absurd hrest (tokens_ne_nil _)
  | cons t ts ih =>
    rcases tokens_eq_ok h with ⟨t', -, -, hts⟩ | ⟨t', ts', hnext, ht, hrest, hts⟩
    · exact absurd (List.cons.inj hts).2 (by simp)
    · cases hts
      obtain ⟨hfollowed, hbehind⟩ := next_append hnext ht hmore
      rw [tokens_of_ne_eof (congrArg Prod.fst hfollowed) ht, hfollowed, ih hrest, hbehind]
      cases tokens ⟨more, c.pos.afterAll c.rest⟩ with
      | error e => rfl
      | ok ts => rfl

/-- A blank in front of a text makes no difference, but for the places. -/
theorem tokens_blank {d : Char} (hd : Text.isBlank d = true) (rest : List Char) (p : Pos) :
    tokens ⟨d :: rest, p⟩ = tokens ⟨rest, p.after d⟩ := by
  have hskip : skipBlanks ⟨d :: rest, p⟩ = skipBlanks ⟨rest, p.after d⟩ := by
    simp [skipBlanks, advance, hd, Pos.afterAll]
  refine tokens_congr ?_
  simp only [next, hskip]

/-! ### A text further down -/

/-- The cursor so many lines further down. -/
def down (lines : Nat) (c : Cursor) : Cursor :=
  ⟨c.rest, c.pos.down lines⟩

theorem advance_down (lines : Nat) (c : Cursor) (width : Nat) :
    (c.down lines).advance width = (c.advance width).down lines := by
  simp only [advance, down, Pos.afterAll_down]

theorem next_down {c : Cursor} {t : Located} (lines : Nat) (h : c.next.1 = .ok t) :
    (c.down lines).next = (.ok (t.moved (Pos.down lines)), c.next.2.down lines) := by
  have hskip : (c.down lines).skipBlanks = c.skipBlanks.down lines :=
    advance_down lines c _
  simp only [next] at h ⊢
  rw [hskip, show (c.skipBlanks.down lines).rest = c.skipBlanks.rest from rfl]
  cases hread : Lexeme.read c.skipBlanks.rest with
  | token t' width =>
    rw [hread] at h
    cases h
    simp only [advance_down]
    rfl
  | fault reason width =>
    rw [hread] at h
    cases h

/-- A text that starts some lines further down has the same tokens, as many lines further
down. -/
theorem tokens_down {c : Cursor} {ts : List Located} (lines : Nat) (h : c.tokens = .ok ts) :
    (c.down lines).tokens = .ok (ts.map (Located.moved (Pos.down lines))) := by
  induction ts generalizing c with
  | nil => exact absurd h (tokens_ne_nil c)
  | cons t ts ih =>
    rcases tokens_eq_ok h with ⟨t', hnext, ht, hts⟩ | ⟨t', ts', hnext, ht, hrest, hts⟩
    · cases hts
      exact tokens_of_eof (congrArg Prod.fst (next_down lines hnext)) ht
    · cases hts
      have hdown := next_down lines hnext
      rw [tokens_of_ne_eof (congrArg Prod.fst hdown) ht, hdown, ih hrest]
      rfl

end Cursor

/-- The tokens of two source texts with a line feed between them are those of the first
without its end and those of the second, some lines further down. -/
theorem tokenize_lines {source₁ source₂ : String} {ts₁ ts₂ : List Located} {stop : Located}
    (h₁ : tokenize source₁ = .ok (ts₁ ++ [stop])) (h₂ : tokenize source₂ = .ok ts₂) :
    ∃ lines, tokenize (source₁ ++ "\n" ++ source₂) =
      .ok (ts₁ ++ ts₂.map (Located.moved (Pos.down lines))) := by
  refine ⟨(Pos.start.afterAll source₁.toList).line, ?_⟩
  have htext : (source₁ ++ "\n" ++ source₂).toList = source₁.toList ++ '\n' :: source₂.toList := by
    simp
  have hdelimited : Lexeme.Delimited ('\n' :: source₂.toList) :=
    Lexeme.delimited_cons Lexeme.delimits_lineFeed _
  have hfirst : Cursor.tokens ⟨source₁.toList ++ '\n' :: source₂.toList, .start⟩ = _ :=
    Cursor.tokens_append h₁ hdelimited
  have hdown : (Pos.start.afterAll source₁.toList).after '\n' =
      Pos.start.down (Pos.start.afterAll source₁.toList).line :=
    Pos.after_lineFeed _
  rw [tokenize, Cursor.ofSource, htext, hfirst, Cursor.ofSource,
    Cursor.tokens_blank (by decide), hdown]
  rw [show Cursor.mk source₂.toList (Pos.start.down (Pos.start.afterAll source₁.toList).line) =
      (Cursor.ofSource source₂).down (Pos.start.afterAll source₁.toList).line from rfl,
    Cursor.tokens_down _ h₂]
  rfl

end StackLang
