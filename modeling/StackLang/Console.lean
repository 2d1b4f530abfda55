/-
The console: a session with an output.

* **`Mode`**: how far an input is taken.
* **`Console.once`**: takes one input as far as the mode says and writes what comes of it.
* **`Console.loop`**: a prompt for each line of input, and its evaluation.
* **`Console.report`**: writes an error, with one line for each diagnostic.

Errors of the session are written and do not end anything; only errors of input and output
do.

Design notes.

* A line is read when its prompt was written, so a line that is no text ends the loop only
  then.
* The loop ends at the end of the input, which adds a line feed to the last prompt, and at a
  line that is exactly `quit`.  A line of blanks is skipped.
-/
import StackLang.Session.Basic
import StackLang.Text.Blank
import StackLang.Token.Dump

namespace StackLang

/-- How far an input is taken. -/
inductive Mode where
  /-- Run, one line after the other. -/
  | repl
  /-- Show the tokens. -/
  | lexer
  /-- Show the program. -/
  | parser
  /-- Show the code and the tables. -/
  | compiler
  /-- Run, and show the value left on the stack. -/
  | vm
deriving DecidableEq, Repr

/-- A session with an output. -/
structure Console where
  session : Session
  out : Sink := {}
deriving DecidableEq, Repr

/-- Computations on a console. -/
abbrev Interact := EStateM IoError Console

namespace Console

/-- Written in front of every line of input. -/
def prompt : String :=
  ">> "

/-- The line that ends the loop. -/
def quit : String :=
  "quit"

/-- Writes a text. -/
def write (text : String) : Interact Unit := fun c =>
  match Sink.writeText text c.out with
  | .ok () out => .ok () { c with out }
  | .error e out => .error e { c with out }

/-- Writes a text and a line feed. -/
def writeLine (text : String) : Interact Unit :=
  write (text ++ "\n")

/-- Evaluates a source text in the session. -/
def eval (source : String) : Interact (Except SessionError (Option Value)) := fun c =>
  let (result, session, out) := c.session.eval source c.out
  .ok result { session, out }

/-- The first lines of the loop. -/
def banner : Interact Unit := do
  writeLine "vmlite 0.1.0"
  writeLine ("Type '" ++ quit ++ "' to exit.")

/-- Writes an error: its wording, or a heading and one line for each diagnostic. -/
def report : SessionError → Interact Unit
  | .diagnostics errors => do
    writeLine ("Woops! " ++ (SessionError.diagnostics errors).message ++ ":")
    errors.forM fun e => writeLine ("\t" ++ e.text)
  | e => writeLine e.message

/-! ### One input -/

/-- Shows tokens, one on each line. -/
def dumpTokens (style : DumpStyle) (tokens : List Located) : Interact Unit :=
  tokens.forM fun t => write (style.line t)

/-- Shows a program and its errors. -/
def showProgram (tokens : List Located) : Interact Unit := do
  let (program, errors) := Program.ofTokens tokens
  writeLine program.text
  if !errors.isEmpty then report (.diagnostics (errors.map .parsing))

/-- Shows the code and the tables of a unit. -/
def showUnit (unit : CodeUnit) : Interact Unit := do
  match unit.listing with
  | .ok text => write text
  | .error e => writeLine e.message
  writeLine "constants:"
  (unit.constants.values.toList.zipIdx).forM fun (value, i) =>
    writeLine ("  " ++ Text.zeroPadded 4 i ++ "  " ++ Text.quoted value.text)
  writeLine "names:"
  (unit.names.entries.zipIdx).forM fun ((name, category), i) =>
    writeLine ("  " ++ Text.zeroPadded 4 i ++ "  " ++ name ++ " (" ++ category.name ++ ")")

/-- Does something with the tokens of a source text, or reports why it has none. -/
def withTokens (source : String) (act : List Located → Interact Unit) : Interact Unit :=
  match tokenize source with
  | .ok tokens => act tokens
  | .error e => report (.lex e)

/-- Takes one input as far as the mode says. -/
def once (mode : Mode) (style : DumpStyle) (source : String) : Interact Unit :=
  match mode with
  | .lexer => withTokens source (dumpTokens style)
  | .parser => withTokens source showProgram
  | .compiler => do
    match (← get).session.compile source with
    | .ok unit => showUnit unit
    | .error e => report e
  | .vm => do
    match ← eval source with
    | .ok (some top) => writeLine top.text
    | .ok none => pure ()
    | .error e => report e
  | .repl => do
    match ← eval source with
    | .ok _ => pure ()
    | .error e => report e

/-! ### The loop -/

/-- Whether a line has nothing but blanks. -/
def isBlankLine (line : String) : Bool :=
  line.toList.all Text.isBlank

/-- What a line of input asks for. -/
inductive Request where
  /-- Nothing. -/
  | skip
  /-- The end of the loop. -/
  | quit
  /-- The evaluation of a source text. -/
  | eval (source : String)
deriving DecidableEq, Repr

/-- What a line of input asks for. -/
def Request.ofLine (line : String) : Request :=
  if isBlankLine line then skip else if line = Console.quit then quit else eval line

/-- Does what a line of input asks for.  The result is whether the loop goes on. -/
def answer (line : Bytes) : Interact Bool :=
  match Text.ofUtf8? line with
  | none => throw .invalidText
  | some text =>
    match Request.ofLine text with
    | .skip => pure true
    | .quit => pure false
    | .eval source => do
      once .repl {} source
      pure true

/-- Prompts for each line and does what it asks for. -/
def loop : List Bytes → Interact Unit
  | [] => do
    write prompt
    write "\n"
  | line :: rest => do
    write prompt
    if ← answer line then loop rest

end Console

end StackLang
