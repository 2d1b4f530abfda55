/-
The command line as a function.

* **`Invocation`**: what the program was started with.
* **`Invocation.run`**: what it does with an input: its output, its exit code and the image
  that it leaves.

Design notes.

* An image that was named and exists is restored before anything else; one that cannot be
  restored ends the program and is left as it was.  On success the session is stored in its
  place.
* Without a source text, the interactive mode reads lines up to the end of the input, and
  every other mode reads one line.  Blanks at the end of a source text are dropped.
-/
import StackLang.Console

namespace StackLang

/-- What the program was started with. -/
structure Invocation where
  mode : Mode := .repl
  /-- The source text, if it was given as an argument. -/
  source : Option String := none
  maxSteps : Option Nat := none
  stackSize : Nat := 2048
  style : DumpStyle := {}
  /-- Whether an image was named. -/
  keepsImage : Bool := false
  /-- The bytes of the image that was named, if it exists. -/
  image : Option Bytes := none
deriving DecidableEq, Repr

/-- What comes of running the program. -/
structure Departure where
  exitCode : UInt32
  output : Array UInt8
  /-- The error that ended the program. -/
  error : Option SessionError
  /-- The bytes of the image afterwards, if there is one. -/
  image : Option Bytes
deriving DecidableEq, Repr

namespace Invocation

/-- The limits of the session. -/
def config (i : Invocation) : Config where
  stackCapacity := i.stackSize
  maxSteps := i.maxSteps

/-- The session to start with: a new one, or the one that the image holds. -/
def openSession (i : Invocation) : Except SessionError Session :=
  match i.image with
  | none => .ok (.new i.config)
  | some bytes =>
    match Snapshot.decode bytes with
    | .error e => .error (.image e)
    | .ok snapshot =>
      match (Session.new i.config).restore snapshot with
      | .error e _ => .error e
      | .ok () session => .ok session

/-- The source text: the argument, or the first line of the input. -/
def sourceText (i : Invocation) (input : Bytes) : Option String :=
  match i.source with
  | some source => some source
  | none => Text.ofUtf8? (Text.firstLine input).1

/-- Whether lines are read up to the end of the input. -/
def isInteractive (i : Invocation) : Bool :=
  i.mode == .repl && i.source.isNone

/-- What is done on the console. -/
def interact (i : Invocation) (input : Bytes) : Interact Unit :=
  if i.isInteractive then do
    Console.banner
    Console.loop (Text.lines input)
  else
    match i.sourceText input with
    | some source => Console.once i.mode i.style (Text.trimBlankEnd source)
    | none => throw .invalidText

/-- What comes of a program that could not start its session. -/
def refused (i : Invocation) (e : SessionError) : Departure :=
  ⟨1, #[], some e, i.image⟩

/-- What comes of a program whose session ended. -/
def ended (i : Invocation) : EStateM.Result IoError Console Unit → Departure
  | .error e c => ⟨1, c.out.written, some (.io e), i.image⟩
  | .ok () c =>
    ⟨0, c.out.written, none, if i.keepsImage then some c.session.snapshot.encode else none⟩

/-- Runs the program on an input. -/
def run (i : Invocation) (input : Bytes) : Departure :=
  match i.openSession with
  | .error e => i.refused e
  | .ok session => i.ended (i.interact input { session })

end Invocation

end StackLang
