/-
Tokens and their places in the source text.

* **`Token`**: the words, literals and signs of the language, and the end of the text.
* **`Token.kind`**: the name of a token's class, as dumps show it.
* **`Token.text`**: a token as it is quoted in messages and in printed programs.
* **`Pos`**: a line and a column, both counted from one.
* **`Located`**: a token with the position of its first character.

Design notes.

* `text` shows a string literal between double quotes with nothing escaped, so it is the
  surface form only of strings without quotes, backslashes and line breaks.
-/
import StackLang.Binary32.Layout

namespace StackLang

/-- A token of the language. -/
inductive Token where
  | number (value : Binary32)
  | string (value : String)
  | bool (value : Bool)
  | ident (name : String)
  | plus
  | minus
  | star
  | slash
  | equal
  | notEqual
  | less
  | greater
  | lessEqual
  | greaterEqual
  | and
  | or
  | bang
  | leftParen
  | rightParen
  | assign
  | var
  | print
  | eof
deriving DecidableEq, Repr, Inhabited

namespace Token

/-- The name of the token's class. -/
def kind : Token → String
  | number _ => "NUMBER"
  | string _ => "STRING"
  | bool _ => "BOOL"
  | ident _ => "IDENT"
  | plus => "PLUS"
  | minus => "MINUS"
  | star => "MUL"
  | slash => "DIV"
  | equal => "EQ"
  | notEqual => "NEQ"
  | less => "LT"
  | greater => "GT"
  | lessEqual => "LEQ"
  | greaterEqual => "GEQ"
  | and => "AND"
  | or => "OR"
  | bang => "NOT"
  | leftParen => "LPAREN"
  | rightParen => "RPAREN"
  | assign => "ASSIGN"
  | var => "VAR"
  | print => "PRINT"
  | eof => "EOF"

/-- The token as messages and printed programs show it. -/
def text : Token → String
  | number value => value.plain
  | string value => "\"" ++ value ++ "\""
  | bool value => if value then "true" else "false"
  | ident name => name
  | plus => "+"
  | minus => "-"
  | star => "*"
  | slash => "/"
  | equal => "=="
  | notEqual => "!="
  | less => "<"
  | greater => ">"
  | lessEqual => "<="
  | greaterEqual => ">="
  | and => "and"
  | or => "or"
  | bang => "!"
  | leftParen => "("
  | rightParen => ")"
  | assign => "="
  | var => "var"
  | print => "print"
  | eof => "EOF"

end Token

/-- A place in a source text: line and column, both counted from one. -/
structure Pos where
  line : Nat
  col : Nat
deriving DecidableEq, Repr, Inhabited

namespace Pos

/-- The place of the first character. -/
def start : Pos :=
  ⟨1, 1⟩

/-- The place after a character.  Only a line feed starts a line. -/
def after (p : Pos) (c : Char) : Pos :=
  if c = '\n' then ⟨p.line + 1, 1⟩ else ⟨p.line, p.col + 1⟩

/-- The place after a run of characters. -/
def afterAll (p : Pos) (cs : List Char) : Pos :=
  cs.foldl after p

/-- A message with the place it is about. -/
def label (p : Pos) (message : String) : String :=
  toString p.line ++ ":" ++ toString p.col ++ ": " ++ message

end Pos

/-- A token with the place of its first character. -/
structure Located where
  token : Token
  pos : Pos
deriving DecidableEq, Repr, Inhabited

end StackLang
