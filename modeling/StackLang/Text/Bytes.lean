/-
Bytes of text.

* **`Bytes`**: a sequence of bytes.
* **`utf8`**, **`ofUtf8?`**: the bytes of a text, and the text of bytes that are valid
  UTF-8.
* **`firstLine`**: the bytes up to and including the first line feed, and the bytes after
  it.
* **`lines`**: all lines of a byte sequence, without their ends.

Design notes.

* A line ends at a line feed, and one carriage return in front of the line feed belongs to
  the end of the line.  A carriage return anywhere else is part of the line.  A last line
  without a line feed is a line; nothing after a last line feed is none.
-/

namespace StackLang

/-- A sequence of bytes. -/
abbrev Bytes := List UInt8

namespace Text

/-- The bytes of a text. -/
def utf8 (text : String) : Bytes :=
  text.toUTF8.data.toList

/-- The text whose bytes these are, if they are valid UTF-8. -/
def ofUtf8? (bytes : Bytes) : Option String :=
  String.fromUTF8? ⟨bytes.toArray⟩

/-- The line feed. -/
def lineFeed : UInt8 := 10

/-- The carriage return. -/
def carriageReturn : UInt8 := 13

/-- The bytes up to and including the first line feed, and the bytes after it. -/
def firstLine (bytes : Bytes) : Bytes × Bytes :=
  let body := bytes.takeWhile (· != lineFeed)
  match bytes.drop body.length with
  | [] => (body, [])
  | feed :: rest => (body ++ [feed], rest)

/-- A line without the line feed at its end and one carriage return in front of it. -/
def dropLineEnd (line : Bytes) : Bytes :=
  match line.reverse with
  | 10 :: 13 :: body => body.reverse
  | 10 :: body => body.reverse
  | _ => line

/-- What is left after the first line of a sequence that is not empty is shorter. -/
theorem length_firstLine_snd {bytes : Bytes} (h : bytes ≠ []) :
    (firstLine bytes).2.length < bytes.length := by
  have hlen : 0 < bytes.length := List.length_pos_iff.mpr h
  have hdrop : (bytes.drop (bytes.takeWhile (· != lineFeed)).length).length ≤ bytes.length := by
    rw [List.length_drop]
    omega
  simp only [firstLine]
  split
  · exact hlen
  · rename_i heq
    rw [heq, List.length_cons] at hdrop
    exact hdrop

/-- All lines, without their ends. -/
def lines : Bytes → List Bytes
  | [] => []
  | byte :: rest =>
    dropLineEnd (firstLine (byte :: rest)).1 :: lines (firstLine (byte :: rest)).2
termination_by bytes => bytes.length
decreasing_by exact length_firstLine_snd (List.cons_ne_nil byte rest)

end Text

end StackLang
