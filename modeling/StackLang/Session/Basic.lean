/-
Sessions: inputs that build on one another.

* **`Session`**: the tables and the variables that outlive one input.
* **`Session.compile`**: the unit of a source text, compiled against the tables; changes
  nothing.
* **`Session.execute`**: runs a unit and takes over its tables.
* **`Session.eval`**: compiles a source text and, if that succeeds, runs it.
* **`Session.snapshot`**, **`Session.restore`**: store a session and bring it back.

Design notes.

* A text with errors, and a unit that does not pass the stack check, leave the session as it
  is.
* After an error of a run the tables are those of the unit, and what was stored stays.  The
  stores that did not happen would leave wrong categories, so all categories are set anew
  from the values that the slots hold (`reconcile`).
* A restored session keeps its own slot capacity, not the one of the image.
-/
import StackLang.Compile.Emitter
import StackLang.Machine.Run
import StackLang.Session.Error

namespace StackLang

/-- The tables and the variables that outlive one input. -/
structure Session where
  config : Config
  names : NameTable := {}
  constants : ConstantPool := {}
  slots : Slots
deriving DecidableEq, Repr

namespace Session

/-- A session without any variables. -/
def new (config : Config) : Session where
  config := config
  slots := { capacity := config.slotCapacity }

/-- The unit of a source text, compiled against the tables of the session.  What could be
read of a text with syntax errors is compiled too, to find more errors. -/
def compile (s : Session) (source : String) : Except SessionError CodeUnit :=
  match tokenize source with
  | .error e => .error (.lex e)
  | .ok tokens =>
    let (program, syntaxErrors) := Program.ofTokens tokens
    let (unit, compileErrors) := CodeUnit.ofProgram s.names s.constants program
    let diagnostics := syntaxErrors.map .parsing ++ compileErrors.map .compiling
    if diagnostics.isEmpty then .ok unit else .error (.diagnostics diagnostics)

/-- The category of what a slot holds. -/
def heldCategory (slots : Slots) (slot : UInt32) : Category :=
  .ofValue ((slots.get? slot).getD .empty)

/-- The names with their categories set to those of the values that the slots hold. -/
def reconcile (slots : Slots) (names : NameTable) : NameTable :=
  (List.range names.size).foldl
    (fun names slot =>
      match index32 slot with
      | some slot => names.setCategory slot (heldCategory slots slot)
      | none => names)
    names

/-- Runs a unit and takes over its tables.  A unit that does not pass the stack check
changes nothing. -/
def execute (s : Session) (unit : CodeUnit) (out : Sink) :
    Except SessionError (Option Value) × Session × Sink :=
  match Machine.check s.config unit with
  | .error e => (.error (.run e), s, out)
  | .ok () =>
    match Machine.run s.config unit { slots := s.slots, out := out } with
    | .ok top m =>
      (.ok top,
        { s with names := unit.names, constants := unit.constants, slots := m.slots }, m.out)
    | .error e m =>
      (.error (.run e),
        { s with
          names := reconcile m.slots unit.names
          constants := unit.constants
          slots := m.slots },
        m.out)

/-- Compiles a source text and, if that succeeds, runs it. -/
def eval (s : Session) (source : String) (out : Sink) :
    Except SessionError (Option Value) × Session × Sink :=
  match s.compile source with
  | .error e => (.error e, s, out)
  | .ok unit => s.execute unit out

/-- The value of a variable, if it was declared and its slot is within the capacity. -/
def global (s : Session) (name : String) : Option Value :=
  (s.names.resolve name).bind s.slots.get?

/-- What of the session outlives it. -/
def snapshot (s : Session) : Snapshot :=
  ⟨s.names, s.constants, s.slots⟩

/-- Takes over the tables and variables of a snapshot. -/
def restore (s : Session) (snapshot : Snapshot) : EStateM.Result SessionError Session Unit :=
  match snapshot.slots.setCapacity s.slots.capacity with
  | .error held _ => .error (.imageCapacity held s.slots.capacity) s
  | .ok () slots =>
    .ok () { s with names := snapshot.names, constants := snapshot.constants, slots := slots }

end Session

end StackLang
