/-
Reading on, whatever is found.

A cursor may be asked for the next token any number of times, also after a fault and at the end of
the text.  What one read can do is said once, by offsets into the text (`Cursor.Turn`): it passes
blanks, and then a lexeme, nothing at the end of the text, or what is in front of a fault.  All that
holds of many reads follows from that.

* `Pos.Precedes`: the order of places.  `Pos.precedes_past`: a place further on comes later.
* `Cursor.behind`: the cursor behind so many characters of a text.
* `Cursor.exists_turn`: everything that one read can do there.
* `Cursor.turn_afterReads`: every read is such a one, and starts where the one before it stopped.
* `Cursor.next_afterReads_of_blanks`: a read that passes nothing but blanks is repeated for ever.
* `Cursor.reads_advance`: all of it together, for every source text.

Design notes: places are those that counting gives (`Pos.past`), so a cursor whose place is kept
from step to step is right if it is where counting puts it.
-/
import Mathlib.Order.Monotone.Basic
import StackLang.Proofs.Scanning

namespace StackLang

/-! ### Places in order -/

namespace Pos

/-- The place comes first: it is on an earlier line, or in an earlier column of the same line. -/
def Precedes (p q : Pos) : Prop :=
  p.line < q.line ∨ p.line = q.line ∧ p.col < q.col

theorem Precedes.trans {p q r : Pos} (h : p.Precedes q) (h' : q.Precedes r) : p.Precedes r := by
  unfold Precedes at *
  omega

theorem precedes_after (p : Pos) (c : Char) : p.Precedes (p.after c) := by
  rw [after]
  split
  · exact .inl (Nat.lt_succ_self _)
  · exact .inr ⟨rfl, Nat.lt_succ_self _⟩

theorem precedes_afterAll (p : Pos) {cs : List Char} (h : cs ≠ []) :
    p.Precedes (p.afterAll cs) := by
  induction cs generalizing p with
  | nil => exact absurd rfl h
  | cons c cs ih =>
    by_cases hcs : cs = []
    · subst hcs
      exact precedes_after p c
    · exact (precedes_after p c).trans (ih (p.after c) hcs)

/-- Of two places in a text, the one with more characters in front of it comes later. -/
theorem precedes_past {text : List Char} {i j : Nat} (h : i < j) (hj : j ≤ text.length) :
    (past (text.take i)).Precedes (past (text.take j)) := by
  have hsplit : text.take j = text.take i ++ (text.drop i).take (j - i) := by
    rw [← List.take_add]
    congr 1
    omega
  have hne : (text.drop i).take (j - i) ≠ [] := by
    rw [← List.length_pos_iff, List.length_take, List.length_drop]
    omega
  rw [hsplit, ← afterAll_past]
  exact precedes_afterAll _ hne

end Pos

/-! ### One read -/

theorem Lexeme.Fails.passed_le {text : List Char} {fault : LexFault} {offset : Nat}
    (h : Fails text fault offset) : passed text offset fault ≤ text.length := by
  cases h with
  | unexpected => exact Nat.zero_le _
  | unterminated => exact Nat.le_refl _
  | unterminatedEscape => exact Nat.le_refl _
  | unknownEscape =>
    simp only [passed, List.cons_append, List.length_cons, List.length_append]
    omega

namespace Cursor

/-- The cursor behind the first characters of a text, at the place that counting gives. -/
def behind (text : List Char) (n : Nat) : Cursor :=
  ⟨text.drop n, .past (text.take n)⟩

/-- From one offset up to another there are only blanks. -/
structure Blanks (text : List Char) (n i : Nat) : Prop where
  le : n ≤ i
  le_length : i ≤ text.length
  blank : ∀ c ∈ (text.take i).drop n, Text.isBlank c = true

/-- `Turn text n result m`: a read behind the first `n` characters of the text gives the result and
stops behind the first `m`.  It passes blanks, and then a longest lexeme; or there are only blanks
left; or it finds a fault. -/
inductive Turn (text : List Char) (n : Nat) : Except LexError Located → Nat → Prop
  | token {i : Nat} {l : List Char} {t : Token} (hblanks : Blanks text n i)
      (hl : Lexeme.IsLongest (text.drop i) l t) :
    Turn text n (.ok ⟨t, .past (text.take i)⟩) (i + l.length)
  | eof (hblanks : Blanks text n text.length) :
    Turn text n (.ok ⟨.eof, .past text⟩) text.length
  | fault {i offset : Nat} {fault : LexFault} (hblanks : Blanks text n i)
      (hfails : Lexeme.Fails (text.drop i) fault offset) :
    Turn text n (.error ⟨fault, .past (text.take (i + offset))⟩)
      (i + Lexeme.passed (text.drop i) offset fault)

section

variable {text : List Char} {n i m : Nat} {r : Except LexError Located}

theorem advance_behind (text : List Char) (n width : Nat) :
    (behind text n).advance width = behind text (n + width) := by
  simp only [advance, behind, List.drop_drop, Pos.afterAll_past, List.take_add]

/-- What follows an offset is the blanks, and what follows these. -/
theorem Blanks.drop_eq (h : Blanks text n i) :
    text.drop n = (text.take i).drop n ++ text.drop i := by
  have hsplit := congrArg (List.drop n) (List.take_append_drop i text)
  rw [List.drop_append_of_le_length] at hsplit
  · exact hsplit.symm
  · rw [List.length_take]
    have := h.le
    have := h.le_length
    omega

/-- Blanks that are passed make no difference to the next read. -/
theorem Blanks.next_eq (h : Blanks text n i) : next (behind text n) = next (behind text i) := by
  have hlength : ((text.take i).drop n).length = i - n := by
    rw [List.length_drop, List.length_take, Nat.min_eq_left h.le_length]
  have hstop : n + ((text.drop n).takeWhile Text.isBlank).length =
      i + ((text.drop i).takeWhile Text.isBlank).length := by
    have hle := h.le
    rw [h.drop_eq, List.takeWhile_append_of_pos h.blank, List.length_append, hlength]
    omega
  have hskip : skipBlanks (behind text n) = skipBlanks (behind text i) := by
    rw [skipBlanks, skipBlanks, advance_behind, advance_behind]
    exact congrArg (behind text) hstop
  simp only [next, hskip]

/-- Blanks end where none is next. -/
theorem exists_blanks (hn : n ≤ text.length) :
    ∃ i, Blanks text n i ∧ ∀ c ∈ (text.drop i).head?, Text.isBlank c = false := by
  set gap := (text.drop n).takeWhile Text.isBlank
  have hprefix : gap <+: text.drop n := List.takeWhile_prefix _
  have hle := hprefix.length_le
  rw [List.length_drop] at hle
  refine ⟨n + gap.length, ⟨by omega, by omega, ?_⟩, ?_⟩
  · intro c hc
    rw [List.drop_take, Nat.add_sub_cancel_left, ← List.prefix_iff_eq_take.mp hprefix] at hc
    exact List.mem_takeWhile_imp hc
  · intro c hc
    have hsplit : gap ++ (text.drop n).dropWhile Text.isBlank = text.drop n :=
      List.takeWhile_append_dropWhile
    have hdrop := congrArg (List.drop gap.length) hsplit
    rw [List.drop_left, List.drop_drop] at hdrop
    rw [← hdrop] at hc
    have hhead := List.head?_dropWhile_not Text.isBlank (text.drop n)
    rw [hc] at hhead
    simpa using hhead

/-- A read where no blank is next gives what stands there. -/
theorem next_behind (h : ∀ c ∈ (text.drop i).head?, Text.isBlank c = false) :
    next (behind text i) =
      match Lexeme.read (text.drop i) with
      | .token t width => (.ok ⟨t, .past (text.take i)⟩, behind text (i + width))
      | .fault reason width =>
        (.error ⟨reason, .past (text.take (i + Lexeme.blamed width reason))⟩,
          behind text (i + width)) := by
  have hskip : skipBlanks (behind text i) = behind text i := by
    have htake : (text.drop i).takeWhile Text.isBlank = [] := by
      cases hrest : text.drop i with
      | nil => rfl
      | cons c rest => rw [List.takeWhile_cons_of_neg (by simp [h c (by rw [hrest]; rfl)])]
    rw [skipBlanks, advance_behind]
    simp only [behind, htake, List.length_nil, Nat.add_zero]
  rw [next, hskip]
  simp only [advance_behind]
  change (match Lexeme.read (text.drop i) with | .token t width => _ | .fault reason width => _) = _
  cases Lexeme.read (text.drop i) with
  | token t width => rfl
  | fault reason width => cases reason <;> rfl

/-- Everything that one read can do. -/
theorem exists_turn (hn : n ≤ text.length) :
    ∃ r m, next (behind text n) = (r, behind text m) ∧ Turn text n r m := by
  obtain ⟨i, hblanks, hhead⟩ := exists_blanks hn
  rw [hblanks.next_eq, next_behind hhead]
  cases hrest : text.drop i with
  | nil =>
    have hi : i = text.length :=
      Nat.le_antisymm hblanks.le_length (List.drop_eq_nil_iff.mp hrest)
    subst hi
    refine ⟨_, _, rfl, ?_⟩
    rw [List.take_length]
    exact .eof hblanks
  | cons c rest =>
    rcases Lexeme.isLongest_or_fails (hhead c (by rw [hrest]; rfl)) rest with
      ⟨l, t, hl⟩ | ⟨fault, offset, hfails⟩
    · rw [Lexeme.read_of_isLongest hl]
      rw [← hrest] at hl
      exact ⟨_, _, rfl, .token hblanks hl⟩
    · obtain ⟨width, hread, hoffset, hwidth⟩ := Lexeme.read_of_fails hfails
      rw [hread]
      rw [← hrest] at hfails hwidth
      refine ⟨_, _, rfl, ?_⟩
      rw [hoffset, hwidth]
      exact .fault hblanks hfails

/-- A read does not go back, nor beyond the end. -/
theorem Turn.le (h : Turn text n r m) : n ≤ m ∧ m ≤ text.length := by
  cases h with
  | @token i l t hblanks hl =>
    have hle := hblanks.le
    have hlength := hl.starts.length_le
    have := hblanks.le_length
    rw [List.length_drop] at hlength
    omega
  | eof hblanks => exact ⟨hblanks.le, Nat.le_refl _⟩
  | @fault i offset fault hblanks hfails =>
    have hle := hblanks.le
    have hpassed := hfails.passed_le
    have := hblanks.le_length
    rw [List.length_drop] at hpassed
    omega

/-- A token is read from a lexeme behind blanks. -/
theorem Turn.exists_lexeme {t : Located} (h : Turn text n (.ok t) m) (ht : t.token ≠ .eof) :
    ∃ i, Blanks text n i ∧ i < m ∧
      Lexeme.IsLongest (text.drop i) ((text.take m).drop i) t.token ∧
      t.pos = .past (text.take i) := by
  cases h with
  | @token i l t hblanks hl =>
    have hlexeme : (text.take (i + l.length)).drop i = l := by
      rw [List.drop_take, Nat.add_sub_cancel_left, ← List.prefix_iff_eq_take.mp hl.starts]
    obtain ⟨c, cs, hcs, -⟩ := hl.denotes.head
    refine ⟨i, hblanks, ?_, ?_, rfl⟩
    · rw [hcs, List.length_cons]
      omega
    · rw [hlexeme]
      exact hl
  | eof => exact absurd rfl ht

/-- A token, or the end, is placed where the blanks in front of it end. -/
theorem Turn.exists_pos {t : Located} (h : Turn text n (.ok t) m) :
    ∃ i, n ≤ i ∧ i ≤ text.length ∧ t.pos = .past (text.take i) := by
  cases h with
  | token hblanks _ => exact ⟨_, hblanks.le, hblanks.le_length, rfl⟩
  | eof hblanks => exact ⟨_, hblanks.le, Nat.le_refl _, by rw [List.take_length]⟩

theorem Turn.blanks_of_eof {t : Located} (h : Turn text n (.ok t) m) (ht : t.token = .eof) :
    Blanks text n m ∧ t.pos = .past text := by
  cases h with
  | token _ hl => exact absurd ht hl.denotes.ne_eof
  | eof hblanks => exact ⟨hblanks, rfl⟩

theorem Turn.blanks_of_unexpected {e : LexError} {c : Char} (h : Turn text n (.error e) m)
    (he : e.fault = .unexpectedChar c) : Blanks text n m := by
  cases h with
  | fault hblanks hfails =>
    dsimp only at he
    rw [he]
    exact hblanks

end

/-! ### Many reads -/

/-- The cursor after a number of reads. -/
def afterReads (k : Nat) (c : Cursor) : Cursor :=
  (fun c => c.next.2)^[k] c

/-- The number of characters of the text that the cursor has passed. -/
def offset (text : List Char) (c : Cursor) : Nat :=
  text.length - c.rest.length

theorem afterReads_succ (k : Nat) (c : Cursor) :
    afterReads (k + 1) c = (afterReads k c).next.2 :=
  Function.iterate_succ_apply' _ k c

theorem afterReads_next (k : Nat) (c : Cursor) : afterReads (k + 1) c = afterReads k c.next.2 :=
  Function.iterate_succ_apply _ k c

theorem afterReads_add (j k : Nat) (c : Cursor) :
    afterReads (j + k) c = afterReads k (afterReads j c) := by
  rw [Nat.add_comm]
  exact Function.iterate_add_apply _ k j c

theorem offset_behind {text : List Char} {n : Nat} (h : n ≤ text.length) :
    (behind text n).offset text = n := by
  rw [offset, behind, List.length_drop]
  omega

theorem reads_eq_map (count : Nat) (c : Cursor) :
    reads count c = (List.range count).map fun k => (afterReads k c).next.1 := by
  induction count generalizing c with
  | zero => rfl
  | succ count ih =>
    rw [reads, ih, List.range_succ_eq_map, List.map_cons, List.map_map]
    refine congrArg₂ _ rfl (List.map_congr_left fun k _ => ?_)
    rw [Function.comp_apply, afterReads_next]

section

variable (source : String)

/-- After any number of reads the cursor is somewhere in the text, at the place that counting
gives. -/
theorem exists_behind (k : Nat) :
    ∃ n, n ≤ source.toList.length ∧ afterReads k (.ofSource source) = behind source.toList n := by
  induction k with
  | zero => exact ⟨0, Nat.zero_le _, rfl⟩
  | succ k ih =>
    obtain ⟨n, hn, hcursor⟩ := ih
    obtain ⟨r, m, hnext, hturn⟩ := exists_turn hn
    refine ⟨m, hturn.le.2, ?_⟩
    rw [afterReads_succ, hcursor, hnext]

/-- The offset of the cursor after a number of reads. -/
def offsetAfter (k : Nat) : Nat :=
  (afterReads k (.ofSource source)).offset source.toList

theorem afterReads_eq_behind (k : Nat) :
    offsetAfter source k ≤ source.toList.length ∧
      afterReads k (.ofSource source) = behind source.toList (offsetAfter source k) := by
  obtain ⟨n, hn, hcursor⟩ := exists_behind source k
  rw [offsetAfter, hcursor, offset_behind hn]
  exact ⟨hn, rfl⟩

/-- Every read starts where the one before it has stopped. -/
theorem turn_afterReads (k : Nat) :
    Turn source.toList (offsetAfter source k) (afterReads k (.ofSource source)).next.1
      (offsetAfter source (k + 1)) := by
  obtain ⟨hn, hcursor⟩ := afterReads_eq_behind source k
  obtain ⟨r, m, hnext, hturn⟩ := exists_turn hn
  have hoffset : offsetAfter source (k + 1) = m := by
    rw [offsetAfter, afterReads_succ, hcursor, hnext, offset_behind hturn.le.2]
  rw [hoffset, hcursor, hnext]
  exact hturn

theorem offsetAfter_mono {j k : Nat} (h : j ≤ k) : offsetAfter source j ≤ offsetAfter source k :=
  monotone_nat_of_le_succ (fun k => (turn_afterReads source k).le.1) h

/-- A read that passes nothing but blanks is repeated for ever. -/
theorem next_afterReads_of_blanks {j k : Nat} (hle : j ≤ k)
    (h : Blanks source.toList (offsetAfter source j) (offsetAfter source (j + 1))) :
    (afterReads k (.ofSource source)).next.1 = (afterReads j (.ofSource source)).next.1 := by
  have hnext : (afterReads j (.ofSource source)).next =
      (afterReads (j + 1) (.ofSource source)).next := by
    rw [(afterReads_eq_behind source j).2, (afterReads_eq_behind source (j + 1)).2, h.next_eq]
  -- the second of the two reads stops where it starts
  have hfixed : (afterReads (j + 1) (.ofSource source)).next.2 =
      afterReads (j + 1) (.ofSource source) := by
    rw [← hnext, afterReads_succ]
  rcases Nat.eq_or_lt_of_le hle with rfl | hlt
  · rfl
  · obtain ⟨d, rfl⟩ := Nat.exists_eq_add_of_le hlt
    rw [afterReads_add, afterReads, Function.iterate_fixed hfixed, hnext]

end

/-- **Reading goes on.**  Whatever a source text is, and whatever is found in it, after any number
of reads the cursor is within the text, not in front of where it was before, and its place is the
one that counting lines and columns gives.  A token other than the end is read from a longest lexeme
behind blanks, its place is that of the first character of the lexeme, and the cursor stops behind
the lexeme; so the places of tokens strictly increase.  From an unexpected character on, every read
finds it again; and from the end on, every read gives the same end. -/
theorem reads_advance (source : String) :
    let text := source.toList
    let cursor := fun k => afterReads k (.ofSource source)
    let result := fun k => (cursor k).next.1
    let offset := fun k => (cursor k).offset text
    (∀ count, reads count (.ofSource source) = (List.range count).map result) ∧
    (∀ k, offset k ≤ offset (k + 1) ∧ offset k ≤ text.length ∧
      cursor k = ⟨text.drop (offset k), .past (text.take (offset k))⟩) ∧
    (∀ k t, result k = .ok t → t.token ≠ .eof →
      ∃ i, offset k ≤ i ∧ i < offset (k + 1) ∧
        (∀ c ∈ (text.take i).drop (offset k), Text.isBlank c = true) ∧
        Lexeme.IsLongest (text.drop i) ((text.take (offset (k + 1))).drop i) t.token ∧
        t.pos = .past (text.take i)) ∧
    (∀ j k t t', j < k → result j = .ok t → t.token ≠ .eof → result k = .ok t' →
      t.pos.Precedes t'.pos) ∧
    (∀ j k e c, j ≤ k → result j = .error e → e.fault = .unexpectedChar c →
      result k = .error e) ∧
    ∀ j k t, j ≤ k → result j = .ok t → t.token = .eof →
      t.pos = .past text ∧ result k = .ok t := by
  intro text cursor result offset
  have hturn : ∀ k, Turn text (offset k) (result k) (offset (k + 1)) := turn_afterReads source
  have hturn_of : ∀ {k r}, result k = r → Turn text (offset k) r (offset (k + 1)) := by
    rintro k _ rfl
    exact hturn k
  have hcursor := afterReads_eq_behind source
  refine ⟨fun count => reads_eq_map count _, ?_, ?_, ?_, ?_, ?_⟩
  · intro k
    exact ⟨(hturn k).le.1, hcursor k⟩
  · intro k t hk ht
    obtain ⟨i, hblanks, hi, hlexeme, hpos⟩ := (hturn_of hk).exists_lexeme ht
    exact ⟨i, hblanks.le, hi, hblanks.blank, hlexeme, hpos⟩
  · intro j k t t' hlt hj ht hk
    obtain ⟨i, -, hi, -, hpos⟩ := (hturn_of hj).exists_lexeme ht
    obtain ⟨i', hi', hlength, hpos'⟩ := (hturn_of hk).exists_pos
    rw [hpos, hpos']
    refine Pos.precedes_past ?_ hlength
    exact Nat.lt_of_lt_of_le hi (Nat.le_trans (offsetAfter_mono source hlt) hi')
  · intro j k e c hle hj he
    rw [← hj]
    exact next_afterReads_of_blanks source hle ((hturn_of hj).blanks_of_unexpected he)
  · intro j k t hle hj ht
    obtain ⟨hblanks, hpos⟩ := (hturn_of hj).blanks_of_eof ht
    refine ⟨hpos, ?_⟩
    rw [← hj]
    exact next_afterReads_of_blanks source hle hblanks

/-- A word, a literal with an unknown escape, at which reading goes on with another word, and an
unexpected character, at which reading stays; and a word with the end behind it. -/
theorem reads_unknownEscape :
    reads 5 (.ofSource "x '\\q\n# ") =
        [.ok ⟨.ident "x", ⟨1, 1⟩⟩, .error ⟨.unknownEscape 'q', ⟨1, 5⟩⟩,
          .ok ⟨.ident "q", ⟨1, 5⟩⟩, .error ⟨.unexpectedChar '#', ⟨2, 1⟩⟩,
          .error ⟨.unexpectedChar '#', ⟨2, 1⟩⟩] ∧
      Pos.Precedes ⟨1, 1⟩ ⟨1, 5⟩ ∧
      (∀ k, 3 ≤ k → (afterReads k (.ofSource "x '\\q\n# ")).next.1 =
        .error ⟨.unexpectedChar '#', ⟨2, 1⟩⟩) ∧
      ∀ k, 1 ≤ k → (afterReads k (.ofSource "x ")).next.1 = .ok ⟨.eof, ⟨1, 3⟩⟩ := by
  obtain ⟨-, -, -, hplaces, hunexpected, -⟩ := reads_advance "x '\\q\n# "
  obtain ⟨-, -, -, -, -, hend⟩ := reads_advance "x "
  have hx : (afterReads 0 (.ofSource "x '\\q\n# ")).next.1 = .ok ⟨.ident "x", ⟨1, 1⟩⟩ := by
    decide +kernel
  have hq : (afterReads 2 (.ofSource "x '\\q\n# ")).next.1 = .ok ⟨.ident "q", ⟨1, 5⟩⟩ := by
    decide +kernel
  refine ⟨by decide +kernel, hplaces 0 2 _ _ (by decide) hx (by decide) hq, ?_, ?_⟩
  · intro k hk
    exact hunexpected 3 k _ '#' hk (by decide +kernel) rfl
  · intro k hk
    exact (hend 1 k _ hk (by decide +kernel) rfl).2

end Cursor

end StackLang
