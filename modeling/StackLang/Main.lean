/-
The program.

* **`Arguments`**: the arguments of the command line.
* **`main`**: reads the arguments, the input and the image, and does what `Invocation` says.

The input of the interactive mode is read line by line, and what a line writes is shown
before the next one is read; each line is handled by `Console.answer`, as in `Console.loop`.
-/
import StackLang.CommandLine

namespace StackLang

/-- The arguments of the command line. -/
structure Arguments where
  invocation : Invocation := {}
  imagePath : Option String := none

namespace Arguments

/-- The mode of a name. -/
def mode? : String → Option Mode
  | "repl" => some .repl
  | "lexer" => some .lexer
  | "parser" => some .parser
  | "compiler" => some .compiler
  | "vm" => some .vm
  | _ => none

/-- Reads arguments, after those read before. -/
def parse (a : Arguments) : List String → Except String Arguments
  | [] => .ok a
  | "--no-color" :: rest =>
    parse { a with invocation.style.color := false } rest
  | "--pretty" :: rest =>
    parse { a with invocation.style.pretty := true } rest
  | flag :: value :: rest =>
    if flag = "--mode" ∨ flag = "-m" then
      match mode? value with
      | some mode => parse { a with invocation.mode := mode } rest
      | none => .error ("invalid mode: " ++ value)
    else if flag = "--image" then
      parse { a with invocation.keepsImage := true, imagePath := some value } rest
    else if flag = "--max-steps" then
      match value.toNat? with
      | some limit => parse { a with invocation.maxSteps := some limit } rest
      | none => .error ("invalid number: " ++ value)
    else if flag = "--stack-size" then
      match value.toNat? with
      | some size => parse { a with invocation.stackSize := size } rest
      | none => .error ("invalid number: " ++ value)
    else if a.invocation.source.isSome then .error ("unexpected argument: " ++ flag)
    else parse { a with invocation.source := some flag } (value :: rest)
  | [source] =>
    if a.invocation.source.isSome then .error ("unexpected argument: " ++ source)
    else .ok { a with invocation.source := some source }

end Arguments

/-- The bytes of a file, if it exists. -/
def readImage (path : String) : IO (Option Bytes) := do
  try
    let bytes ← IO.FS.readBinFile path
    return some bytes.data.toList
  catch
    | .noFileOrDirectory .. => return none
    | e => throw e

/-- The next line of the input with its end, after what was read of it; empty at the end of
the input. -/
partial def readLine (stdin : IO.FS.Stream) (line : Array UInt8) : IO Bytes := do
  let byte ← stdin.read 1
  let line := line ++ byte.data
  if byte.isEmpty || byte.data == #[Text.lineFeed] then return line.toList
  else readLine stdin line

/-- Writes bytes to the standard output. -/
def showBytes (bytes : Array UInt8) : IO Unit := do
  let stdout ← IO.getStdout
  stdout.write ⟨bytes⟩
  stdout.flush

/-- Carries out an action on a console and shows what it writes. -/
def perform {α : Type} (c : Console) (act : Interact α) :
    IO (EStateM.Result IoError Console α) := do
  match act c with
  | .ok a c =>
    showBytes c.out.written
    return .ok a { c with out := {} }
  | .error e c =>
    showBytes c.out.written
    return .error e { c with out := {} }

/-- Prompts for lines of the input and does what they ask for. -/
partial def converse (stdin : IO.FS.Stream) (c : Console) :
    IO (EStateM.Result IoError Console Unit) := do
  match ← perform c (Console.write Console.prompt) with
  | .error e c => return .error e c
  | .ok () c =>
    let line ← readLine stdin #[]
    if line.isEmpty then perform c (Console.write "\n")
    else
      match ← perform c (Console.answer (Text.dropLineEnd line)) with
      | .error e c => return .error e c
      | .ok true c => converse stdin c
      | .ok false c => return .ok () c

/-- The interactive mode. -/
def converseFrom (stdin : IO.FS.Stream) (i : Invocation) : IO Departure := do
  match i.openSession with
  | .error e => return i.refused e
  | .ok session =>
    match ← perform { session } Console.banner with
    | .error e c => return i.ended (.error e c)
    | .ok () c => return i.ended (← converse stdin c)

/-- Shows what is left to show, stores the image, and gives the exit code. -/
def depart (path : Option String) (d : Departure) : IO UInt32 := do
  showBytes d.output
  match d.error, path, d.image with
  | some e, _, _ => (← IO.getStderr).putStrLn e.message
  | none, some path, some image => IO.FS.writeBinFile path ⟨image.toArray⟩
  | none, _, _ => pure ()
  return d.exitCode

end StackLang

open StackLang in
/-- The program. -/
def main (args : List String) : IO UInt32 := do
  match Arguments.parse {} args with
  | .error message =>
    (← IO.getStderr).putStrLn message
    return 2
  | .ok a =>
    let stdin ← IO.getStdin
    let image ← match a.imagePath with
      | some path => readImage path
      | none => pure none
    let i := { a.invocation with image }
    if i.isInteractive then depart a.imagePath (← converseFrom stdin i)
    else
      let input ← if i.source.isSome then pure [] else readLine stdin #[]
      depart a.imagePath (i.run input)
