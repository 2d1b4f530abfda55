/-
Lexemes: the token at the head of a text.

* **`read`**: the token at the head of a text that starts with no blank, and how many
  characters it takes; or what is wrong there, and how many characters were read before that
  showed.

Each kind of lexeme has a function of its own.

* **`readNumber`**: digits, and a point with digits after it.
* **`readString`**: a literal up to its closing quote, with the escapes resolved.
* **`readWord`**: letters, numerals and underscores; six words are reserved.
* **`readSymbol`**: a sign of two characters, else of one.

Design notes.

* Each function takes the longest lexeme of its kind.  Which kind it is follows from the
  first character alone.
* A point without a digit after it does not belong to a number.
-/
import StackLang.Text.Letter
import StackLang.Text.Numeral
import StackLang.Token.Basic

namespace StackLang

/-- What can be wrong with a source text as a sequence of tokens. -/
inductive LexFault where
  /-- No token starts with this character. -/
  | unexpectedChar (c : Char)
  /-- No escape is written with this character. -/
  | unknownEscape (c : Char)
  /-- A string literal without its closing quote. -/
  | unterminatedString
deriving DecidableEq, Repr

/-- The wording of a fault. -/
def LexFault.message : LexFault → String
  | unexpectedChar c => "unexpected character: '" ++ c.toString ++ "'"
  | unknownEscape c => "unknown escape sequence: \\" ++ c.toString
  | unterminatedString => "unterminated string literal"

/-- What stands at the head of a text, and the number of characters read. -/
inductive Lexeme where
  | token (t : Token) (width : Nat)
  | fault (reason : LexFault) (width : Nat)
deriving DecidableEq, Repr

namespace Lexeme

/-! ### Numbers -/

/-- The digits after a point, if the text starts with a point and a digit. -/
def fractionDigits : List Char → List Char
  | '.' :: c :: rest => if c.isDigit then (c :: rest).takeWhile Char.isDigit else []
  | _ => []

/-- The number at the head of a text that starts with a digit. -/
def readNumber (cs : List Char) : Lexeme :=
  let whole := cs.takeWhile Char.isDigit
  let fraction := fractionDigits (cs.dropWhile Char.isDigit)
  let coefficient := Nat.ofDigitChars 10 (whole ++ fraction) 0
  .token (.number (.ofDecimal coefficient fraction.length))
    (whole.length + if fraction.isEmpty then 0 else 1 + fraction.length)

/-! ### Strings -/

/-- The character that an escape stands for, given the character after the backslash. -/
def unescape : Char → Option Char
  | 'n' => some '\n'
  | 't' => some '\t'
  | 'r' => some '\r'
  | '0' => some '\x00'
  | '\\' => some '\\'
  | '"' => some '"'
  | '\'' => some '\''
  | _ => none

/-- What follows an opening quote. -/
inductive Literal where
  /-- The content, and the characters up to and including the closing quote. -/
  | closed (content : List Char) (width : Nat)
  /-- A fault, and the characters in front of it. -/
  | fault (reason : LexFault) (width : Nat)
deriving DecidableEq, Repr

/-- The literal with one more character in its content, written with `width` characters. -/
def Literal.after (c : Char) (width : Nat) : Literal → Literal
  | closed content rest => closed (c :: content) (width + rest)
  | fault reason rest => fault reason (width + rest)

/-- Reads a literal after its opening quote. -/
def readLiteral (quote : Char) : List Char → Literal
  | [] => .fault .unterminatedString 0
  | c :: rest =>
    if c = quote then .closed [] 1
    else if c = '\\' then
      match rest with
      | [] => .fault .unterminatedString 1
      | e :: rest =>
        match unescape e with
        | some d => (readLiteral quote rest).after d 2
        | none => .fault (.unknownEscape e) 1
    else (readLiteral quote rest).after c 1

/-- The string literal whose opening quote is given, and which goes on with the text. -/
def readString (quote : Char) (rest : List Char) : Lexeme :=
  match readLiteral quote rest with
  | .closed content width => .token (.string (String.ofList content)) (1 + width)
  | .fault reason width => .fault reason (1 + width)

/-! ### Words -/

/-- Whether a word may start with the character. -/
def startsWord (c : Char) : Bool :=
  Text.isLetter c || c == '_'

/-- Whether a word may go on with the character. -/
def continuesWord (c : Char) : Bool :=
  Text.isLetter c || Text.isNumeral c || c == '_'

/-- The token of a word: a reserved word, or a name. -/
def wordToken (word : String) : Token :=
  if word = "var" then .var
  else if word = "print" then .print
  else if word = "true" then .bool true
  else if word = "false" then .bool false
  else if word = "and" then .and
  else if word = "or" then .or
  else .ident word

/-- The word at the head of a text that starts with a character a word may start with. -/
def readWord (cs : List Char) : Lexeme :=
  let word := cs.takeWhile continuesWord
  .token (wordToken (String.ofList word)) word.length

/-! ### Signs -/

/-- Signs of two characters. -/
def doubleSymbol : Char → Char → Option Token
  | '<', '=' => some .lessEqual
  | '>', '=' => some .greaterEqual
  | '=', '=' => some .equal
  | '!', '=' => some .notEqual
  | _, _ => none

/-- Signs of one character. -/
def singleSymbol : Char → Option Token
  | '+' => some .plus
  | '-' => some .minus
  | '*' => some .star
  | '/' => some .slash
  | '(' => some .leftParen
  | ')' => some .rightParen
  | '=' => some .assign
  | '<' => some .less
  | '>' => some .greater
  | '!' => some .bang
  | _ => none

/-- The sign that starts with the given character and goes on with the text. -/
def readSymbol (c : Char) (rest : List Char) : Lexeme :=
  match rest.head?.bind (doubleSymbol c) with
  | some t => .token t 2
  | none =>
    match singleSymbol c with
    | some t => .token t 1
    | none => .fault (.unexpectedChar c) 0

/-! ### All lexemes -/

/-- What stands at the head of a text that starts with no blank. -/
def read : List Char → Lexeme
  | [] => .token .eof 0
  | c :: rest =>
    if c.isDigit then readNumber (c :: rest)
    else if c = '"' ∨ c = '\'' then readString c rest
    else if startsWord c then readWord (c :: rest)
    else readSymbol c rest

/-- A token takes at least one character, unless the text is at its end. -/
theorem width_pos {c : Char} {rest : List Char} {t : Token} {width : Nat}
    (h : read (c :: rest) = .token t width) : 0 < width := by
  rw [read] at h
  split at h
  · rename_i hdigit
    injection h with _ hwidth
    rw [← hwidth, List.takeWhile_cons_of_pos hdigit, List.length_cons]
    omega
  · split at h
    · rw [readString] at h
      split at h
      · injection h with _ hwidth
        omega
      · cases h
    · split at h
      · rename_i hword
        have hcont : continuesWord c = true := by
          rw [startsWord, Bool.or_eq_true] at hword
          rw [continuesWord]
          rcases hword with hletter | hline
          · rw [hletter, Bool.true_or, Bool.true_or]
          · rw [hline, Bool.or_true]
        injection h with _ hwidth
        rw [← hwidth, List.takeWhile_cons_of_pos hcont, List.length_cons]
        omega
      · rw [readSymbol] at h
        split at h
        · injection h with _ hwidth
          omega
        · split at h
          · injection h with _ hwidth
            omega
          · cases h

end Lexeme

end StackLang
