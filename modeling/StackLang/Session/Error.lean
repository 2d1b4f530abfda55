/-
Errors of a session.

* **`Diagnostic`**: one error of a source text that has tokens.
* **`SessionError`**: everything that a session can refuse or fail at.
* **`SessionError.message`**: the wording of an error.
-/
import StackLang.Compile.Selection
import StackLang.Machine.Error
import StackLang.Program.Parser
import StackLang.Session.Image
import StackLang.Token.Stream

namespace StackLang

/-- One error of a source text that has tokens. -/
inductive Diagnostic where
  /-- The text is no program. -/
  | parsing (error : SyntaxError)
  /-- The program makes no sense. -/
  | compiling (error : CompileError)
deriving DecidableEq, Repr

/-- The wording of the diagnostic. -/
def Diagnostic.text : Diagnostic → String
  | parsing error => "syntax error: " ++ error.text
  | compiling error => "compile error: " ++ error.text

/-- What a session can refuse or fail at. -/
inductive SessionError where
  | lex (error : LexError)
  /-- The errors of a source text, those of its syntax first.  Nothing was run. -/
  | diagnostics (errors : List Diagnostic)
  | run (error : RunError)
  | image (error : ImageError)
  /-- A stored session has more slots than this one has room for. -/
  | imageCapacity (slots : Nat) (capacity : UInt64)
  | io (error : IoError)
deriving DecidableEq, Repr

/-- The wording of the error. -/
def SessionError.message : SessionError → String
  | lex error => "lexer error: " ++ error.text
  | diagnostics errors => toString errors.length ++ " error(s) found"
  | run error => error.message
  | image error => "session image error: " ++ error.message
  | imageCapacity slots capacity =>
    "session image holds " ++ toString slots ++ " slots, more than the configured " ++
      toString capacity.toNat
  | io error => "io error: " ++ error.message

end StackLang
