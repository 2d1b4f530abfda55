/-
A source text as a stream of tokens.

* **`Cursor`**: the text that is still to be read, and the place where it starts.
* **`Cursor.next`**: skips blanks and reads one token.  A fault leaves the cursor where
  reading stopped, and reading may go on from there.
* **`tokenize`**: all tokens of a text, the end of the text included, or the first fault.

Design notes.

* An unexpected character is not passed over.  An unknown escape leaves the cursor on the
  character after the backslash, and a literal without its closing quote at the end of the
  text.
* At the end of the text `next` gives the end token again and again.
-/
import StackLang.Text.Blank
import StackLang.Token.Lexeme

namespace StackLang

/-- A fault of a source text and its place. -/
structure LexError where
  fault : LexFault
  pos : Pos
deriving DecidableEq, Repr

/-- The wording of the error without its place. -/
def LexError.message (e : LexError) : String :=
  e.fault.message

/-- The wording of the error with its place in front. -/
def LexError.text (e : LexError) : String :=
  e.pos.label e.message

/-- The text that is still to be read, and the place where it starts. -/
structure Cursor where
  rest : List Char
  pos : Pos
deriving DecidableEq, Repr

namespace Cursor

/-- The cursor in front of a whole source text. -/
def ofSource (source : String) : Cursor :=
  ⟨source.toList, .start⟩

/-- Passes over a number of characters. -/
def advance (c : Cursor) (width : Nat) : Cursor :=
  ⟨c.rest.drop width, c.pos.afterAll (c.rest.take width)⟩

/-- Passes over blanks. -/
def skipBlanks (c : Cursor) : Cursor :=
  c.advance (c.rest.takeWhile Text.isBlank).length

/-- The place a fault is reported at: an unknown escape at the character after the
backslash, any other fault where its lexeme starts. -/
def faultPos (start stop : Cursor) : LexFault → Pos
  | .unknownEscape _ => stop.pos
  | _ => start.pos

/-- Skips blanks and reads one token. -/
def next (c : Cursor) : Except LexError Located × Cursor :=
  let start := c.skipBlanks
  match Lexeme.read start.rest with
  | .token t width => (.ok ⟨t, start.pos⟩, start.advance width)
  | .fault reason width =>
    let stop := start.advance width
    (.error ⟨reason, faultPos start stop reason⟩, stop)

/-- The results of a number of reads, one after the other. -/
def reads : Nat → Cursor → List (Except LexError Located)
  | 0, _ => []
  | count + 1, c => c.next.1 :: reads count c.next.2

theorem length_advance (c : Cursor) (width : Nat) :
    (c.advance width).rest.length = c.rest.length - width :=
  List.length_drop

/-- Reading a token other than the end of the text consumes something. -/
theorem length_next {c : Cursor} {t : Located} (h : c.next.1 = .ok t) (ht : t.token ≠ .eof) :
    c.next.2.rest.length < c.rest.length := by
  have hskip : c.skipBlanks.rest.length ≤ c.rest.length := by
    rw [skipBlanks, length_advance]
    omega
  simp only [next] at h ⊢
  split at h
  · rename_i t width hread
    injection h with h
    subst h
    change (c.skipBlanks.advance width).rest.length < c.rest.length
    rw [length_advance]
    cases hrest : c.skipBlanks.rest with
    | nil =>
      rw [hrest, Lexeme.read] at hread
      injection hread with heof
      exact absurd heof.symm ht
    | cons x xs =>
      rw [hrest] at hread hskip
      have := Lexeme.width_pos hread
      rw [List.length_cons] at hskip ⊢
      omega
  · cases h

/-- All tokens from the cursor on, up to and including the end of the text. -/
def tokens (c : Cursor) : Except LexError (List Located) :=
  match h : c.next.1 with
  | .error e => .error e
  | .ok t =>
    if ht : t.token = .eof then .ok [t]
    else
      have : c.next.2.rest.length < c.rest.length := length_next h ht
      match tokens c.next.2 with
      | .error e => .error e
      | .ok ts => .ok (t :: ts)
termination_by c.rest.length

end Cursor

/-- All tokens of a source text, or its first fault. -/
def tokenize (source : String) : Except LexError (List Located) :=
  (Cursor.ofSource source).tokens

end StackLang
