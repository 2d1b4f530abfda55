/-
Columns of fixed width.

* **`padRight`**, **`padLeft`**: a text filled up with spaces.
* **`zeroPadded`**: a number filled up with leading zeros.
* **`hexByte`**: a byte as `0x` and two hexadecimal digits.

Design notes.

* Widths count characters.  A text that is too long is left whole.
-/

namespace StackLang.Text

/-- The text with spaces after it, up to the given width. -/
def padRight (width : Nat) (text : String) : String :=
  String.ofList (text.toList.rightpad width ' ')

/-- The text with spaces before it, up to the given width. -/
def padLeft (width : Nat) (text : String) : String :=
  String.ofList (text.toList.leftpad width ' ')

/-- The number in decimal with zeros before it, up to the given width. -/
def zeroPadded (width n : Nat) : String :=
  String.ofList ((Nat.toDigits 10 n).leftpad width '0')

/-- The byte as `0x` and two hexadecimal digits. -/
def hexByte (byte : UInt8) : String :=
  "0x" ++ String.ofList ((Nat.toDigits 16 byte.toNat).leftpad 2 '0')

end StackLang.Text
