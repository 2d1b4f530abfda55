/-
Token dumps.

A dump has one line for each token: its place, the name of its class in a column of eight,
and the token itself.

* **`Token.detail`**: a token with the name of its form, strings quoted and whole numbers
  with a point.
* **`DumpStyle`**: whether a dump has colours, and whether it shows the details or the plain
  text.
* **`DumpStyle.line`**: the line of one token.

Design notes.

* Colours are terminal escapes around the class and the token.  Parentheses and the
  assignment sign have no colour of their own and start with a reset.
-/
import StackLang.Text.Padding
import StackLang.Text.Quoted
import StackLang.Token.Basic

namespace StackLang

/-- The token with the name of its form. -/
def Token.detail : Token → String
  | number value => "Number(" ++ value.text .exact ++ ")"
  | string value => "String(" ++ Text.quoted value ++ ")"
  | bool value => "Bool(" ++ (if value then "true" else "false") ++ ")"
  | ident name => "Ident(" ++ Text.quoted name ++ ")"
  | plus => "Plus"
  | minus => "Minus"
  | star => "Star"
  | slash => "Slash"
  | equal => "EqEq"
  | notEqual => "NotEq"
  | less => "Lt"
  | greater => "Gt"
  | lessEqual => "LtEq"
  | greaterEqual => "GtEq"
  | and => "And"
  | or => "Or"
  | bang => "Bang"
  | leftParen => "LParen"
  | rightParen => "RParen"
  | assign => "Assign"
  | var => "Var"
  | print => "Print"
  | eof => "Eof"

/-- The looks of a token dump. -/
structure DumpStyle where
  /-- Whether terminal colours are written. -/
  color : Bool := true
  /-- Whether the plain text of a token is written in place of its details. -/
  pretty : Bool := false
deriving DecidableEq, Repr

namespace DumpStyle

/-- The terminal escape that ends a colour. -/
def reset : String :=
  "\x1b[0m"

/-- The terminal escape that starts the colour of a token. -/
def colorOf : Token → String
  | .eof => "\x1b[2m"
  | .string _ => "\x1b[32m"
  | .number _ | .bool _ => "\x1b[36m"
  | .ident _ => "\x1b[33m"
  | .var | .print => "\x1b[34m"
  | .leftParen | .rightParen | .assign => reset
  | _ => "\x1b[35m"

/-- The line of one token, with its line feed. -/
def line (style : DumpStyle) (t : Located) : String :=
  let place := "[" ++ Text.zeroPadded 2 t.pos.line ++ ":" ++ Text.zeroPadded 2 t.pos.col ++ "] "
  let body := Text.padRight 8 t.token.kind ++ " " ++
    (if style.pretty then t.token.text else t.token.detail)
  if style.color then place ++ colorOf t.token ++ body ++ reset ++ "\n" else place ++ body ++ "\n"

end DumpStyle

end StackLang
