/-
Output.

* **`Sink`**: the bytes written so far, and the room that is left for more.
* **`Sink.write`**: writes a text; a text for which there is no room is written as far as it
  goes, and that is an error.
* **`IoError`**: what can go wrong between the program and the outside.

Design notes.

* Most sinks take everything.  One with a limit takes exactly that many bytes, so a text may
  be cut inside a character.
-/
import StackLang.Text.Bytes

namespace StackLang

/-- What can go wrong between the program and the outside. -/
inductive IoError where
  /-- Output has no room left. -/
  | sinkFull
  /-- A line of input is no text. -/
  | invalidText
deriving DecidableEq, Repr

/-- The wording of the error. -/
def IoError.message : IoError → String
  | sinkFull => "sink full"
  | invalidText => "stream did not contain valid UTF-8"

/-- The bytes written so far, and the number of bytes there is room for, if that is limited. -/
structure Sink where
  written : Array UInt8 := #[]
  room : Option Nat := none
deriving DecidableEq, Repr

/-- Computations that write to a sink. -/
abbrev Writes := EStateM IoError Sink

namespace Sink

/-- Writes bytes as far as there is room. -/
def write (bytes : Bytes) : Writes Unit := fun sink =>
  match sink.room with
  | none => .ok () { sink with written := sink.written ++ bytes }
  | some room =>
    let written := sink.written ++ bytes.take room
    if bytes.length ≤ room then .ok () ⟨written, some (room - bytes.length)⟩
    else .error .sinkFull ⟨written, some 0⟩

/-- Writes a text as far as there is room. -/
def writeText (text : String) : Writes Unit :=
  write (Text.utf8 text)

end Sink

end StackLang
