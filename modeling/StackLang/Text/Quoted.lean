/-
Text between double quotes.

Listings and token dumps show a string so that every character can be told: what has no
shape of its own is shown by an escape.

* **`escape`**: how one character is shown.
* **`quoted`**: a text between double quotes, each character escaped.

Design notes.

* Six characters have a short escape; the single quote has none.
* A character that attaches to the one before it, or that leaves no ink, is shown by its
  code point in hexadecimal, without padding.
-/
import StackLang.Text.Attached
import StackLang.Text.Hidden

namespace StackLang.Text

/-- A code point by its hexadecimal number, in braces after `\u`. -/
def codePointEscape (c : Char) : List Char :=
  ['\\', 'u', '\x7b'] ++ Nat.toDigits 16 c.toNat ++ ['\x7d']

/-- How one character is shown between quotes. -/
def escape (c : Char) : List Char :=
  if c = '\x00' then ['\\', '0']
  else if c = '\t' then ['\\', 't']
  else if c = '\r' then ['\\', 'r']
  else if c = '\n' then ['\\', 'n']
  else if c = '"' then ['\\', '"']
  else if c = '\\' then ['\\', '\\']
  else if isAttached c || isHidden c then codePointEscape c
  else [c]

/-- The text between double quotes, each character escaped. -/
def quoted (text : String) : String :=
  String.ofList ('"' :: text.toList.flatMap escape ++ ['"'])

end StackLang.Text
