/-
Session images: the bytes of a stored session.

* **`Snapshot`**: what of a session outlives it.
* **`Snapshot.encode`**: the bytes of a snapshot.
* **`Snapshot.decode`**: the snapshot that bytes start with, or the first thing wrong with
  them.

A sequence is its length and its items; a text is the sequence of its bytes; a choice is the
number of the alternative and what belongs to it; a number is its bit pattern, least
significant byte first. Lengths, numbers of alternatives and the slot capacity are written
in groups of seven bits, lowest first, with the top bit set on all but the last.

Design notes.

* A reader accepts numbers with more groups than they need, up to the size of the word that
  they are for.  It ignores what comes after the last field.
* A length is compared with nothing in advance: the bytes run out when an item is missing.
* The reader does not ask whether the parts of a snapshot fit together.
-/
import StackLang.Table.Constants
import StackLang.Table.Names
import StackLang.Table.Slots
import StackLang.Text.Bytes

namespace StackLang

/-- What of a session outlives it. -/
structure Snapshot where
  names : NameTable
  constants : ConstantPool
  slots : Slots
deriving DecidableEq, Repr

/-- Why bytes are no image. -/
inductive ImageError where
  /-- The bytes end too early. -/
  | endOfData
  /-- A number does not end within its word. -/
  | badNumber
  /-- A text is not valid UTF-8. -/
  | badText
  /-- A boolean is neither zero nor one. -/
  | badBool
  /-- There is no alternative with this number. -/
  | badChoice
deriving DecidableEq, Repr

/-- The wording of the error. -/
def ImageError.message : ImageError → String
  | endOfData => "Hit the end of buffer, expected more data"
  | badNumber => "Found a varint that didn't terminate. Is the usize too big for this platform?"
  | badText => "Tried to parse invalid utf-8"
  | badBool => "Found a bool that wasn't 0 or 1"
  | badChoice => "Serde Deserialization Error"

namespace Image

/-! ### Writing -/

/-- A number in groups of seven bits, lowest first. -/
def putNat (n : Nat) : Bytes :=
  if n < 128 then [UInt8.ofNat n] else UInt8.ofNat (128 + n % 128) :: putNat (n / 128)
termination_by n

/-- A sequence: its length and its items. -/
def putArray {α : Type} (put : α → Bytes) (items : Array α) : Bytes :=
  putNat items.size ++ items.toList.flatMap put

/-- A text: the number of its bytes, and the bytes. -/
def putString (text : String) : Bytes :=
  let bytes := Text.utf8 text
  putNat bytes.length ++ bytes

/-- The bit pattern of a number, least significant byte first. -/
def putBinary32 (x : Binary32) : Bytes :=
  [UInt8.ofNat x.bits.toNat, UInt8.ofNat (x.bits.toNat / 0x100),
    UInt8.ofNat (x.bits.toNat / 0x10000), UInt8.ofNat (x.bits.toNat / 0x1000000)]

/-- A category, by its number. -/
def putCategory : Category → Bytes
  | .float => putNat 0
  | .string => putNat 1
  | .boolean => putNat 2
  | .unknown => putNat 3

/-- A value, by the number of its form and its content. -/
def putValue : Value → Bytes
  | .empty => putNat 0
  | .number x => putNat 1 ++ putBinary32 x
  | .string text => putNat 2 ++ putString text
  | .boolean b => putNat 3 ++ [if b then 1 else 0]

/-! ### Reading -/

/-- Takes a value from the head of some bytes and leaves the bytes after it. -/
abbrev Reader := StateT Bytes (Except ImageError)

/-- The next byte. -/
def getByte : Reader UInt8
  | [] => .error .endOfData
  | byte :: rest => .ok (byte, rest)

/-- The next `count` bytes. -/
def getBytes (count : Nat) : Reader Bytes := fun bytes =>
  if bytes.length < count then .error .endOfData
  else .ok (bytes.take count, bytes.drop count)

/-- A number of at most `groups` groups, of which a last possible one is at most `top`. -/
def getNat (top : Nat) : (groups : Nat) → Reader Nat
  | 0 => throw .badNumber
  | groups + 1 => do
    let byte ← getByte
    if byte.toNat < 128 then
      if groups = 0 ∧ top < byte.toNat then throw .badNumber else return byte.toNat
    else
      let high ← getNat top groups
      return byte.toNat - 128 + 128 * high

/-- A number of 64 bits. -/
def getNat64 : Reader Nat :=
  getNat 1 10

/-- A number of 32 bits. -/
def getNat32 : Reader Nat :=
  getNat 15 5

/-- A number of items, appended to those read before. -/
def getItems {α : Type} (get : Reader α) : Nat → Array α → Reader (Array α)
  | 0, items => return items
  | count + 1, items => do
    let item ← get
    getItems get count (items.push item)

/-- A sequence. -/
def getArray {α : Type} (get : Reader α) : Reader (Array α) := do
  let count ← getNat64
  getItems get count #[]

/-- A text. -/
def getString : Reader String := do
  let count ← getNat64
  let bytes ← getBytes count
  match Text.ofUtf8? bytes with
  | some text => return text
  | none => throw .badText

/-- A bit pattern, least significant byte first. -/
def getBinary32 : Reader Binary32
  | a :: b :: c :: d :: rest =>
    .ok (⟨UInt32.ofNat
      (a.toNat + b.toNat * 0x100 + c.toNat * 0x10000 + d.toNat * 0x1000000)⟩, rest)
  | _ => .error .endOfData

/-- A boolean. -/
def getBool : Reader Bool := do
  let byte ← getByte
  if byte = 0 then return false
  else if byte = 1 then return true
  else throw .badBool

/-- A category. -/
def getCategory : Reader Category := do
  match ← getNat32 with
  | 0 => return .float
  | 1 => return .string
  | 2 => return .boolean
  | 3 => return .unknown
  | _ => throw .badChoice

/-- A value. -/
def getValue : Reader Value := do
  match ← getNat32 with
  | 0 => return .empty
  | 1 => return .number (← getBinary32)
  | 2 => return .string (← getString)
  | 3 => return .boolean (← getBool)
  | _ => throw .badChoice

/-- A snapshot. -/
def getSnapshot : Reader Snapshot := do
  let names ← getArray getString
  let categories ← getArray getCategory
  let constants ← getArray getValue
  let values ← getArray getValue
  let capacity ← getNat64
  return ⟨⟨names, categories⟩, ⟨constants⟩, ⟨values, UInt64.ofNat capacity⟩⟩

end Image

namespace Snapshot

/-- The bytes of the snapshot. -/
def encode (s : Snapshot) : Bytes :=
  Image.putArray Image.putString s.names.names ++
    Image.putArray Image.putCategory s.names.categories ++
    Image.putArray Image.putValue s.constants.values ++
    Image.putArray Image.putValue s.slots.values ++
    Image.putNat s.slots.capacity.toNat

/-- The snapshot that the bytes start with. -/
def decode (bytes : Bytes) : Except ImageError Snapshot :=
  (Image.getSnapshot.run bytes).map (·.1)

end Snapshot

end StackLang
