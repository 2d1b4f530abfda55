/-
Blanks.

A character is a blank when Unicode gives it the property White_Space.  Blanks separate
tokens, a line of blanks is an empty line, and blanks at the end of a source text are
dropped.

* **`isBlank`**: the Unicode property White_Space.
* **`trimEnd`**, **`trimBlankEnd`**: a text without the characters of a kind, or the blanks, at
  its end.
* `trimEnd_eq_iff`, `trimBlankEnd_eq_iff`: what is kept and what is dropped.

Design notes.

* The zero-width space `U+200B`, the byte order mark `U+FEFF` and the separators `U+001C` to
  `U+001F` are no blanks.
-/
import StackLang.Text.CodeRange

namespace StackLang.Text

/-- The blanks. -/
def blankRanges : List CodeRange :=
  [(0x9, 0xD), (0x20, 0x20), (0x85, 0x85), (0xA0, 0xA0), (0x1680, 0x1680), (0x2000, 0x200A),
    (0x2028, 0x2029), (0x202F, 0x202F), (0x205F, 0x205F), (0x3000, 0x3000)]

/-- Whether the character is a blank. -/
def isBlank (c : Char) : Bool :=
  covers blankRanges c

/-- The text without the characters of a kind at its end. -/
def trimEnd (drops : Char → Bool) (text : String) : String :=
  String.ofList (text.toList.reverse.dropWhile drops).reverse

/-- The text without the blanks at its end. -/
def trimBlankEnd (text : String) : String :=
  trimEnd isBlank text

/-- There is one way only to split characters into some of the kind and a rest that does not
start with one. -/
theorem dropWhile_eq_iff {drops : Char → Bool} {chars kept : List Char} :
    chars.dropWhile drops = kept ↔
      (∃ dropped, dropped ++ kept = chars ∧ ∀ c ∈ dropped, drops c) ∧
        ∀ c ∈ kept.head?, ¬drops c := by
  constructor
  · rintro rfl
    refine ⟨⟨chars.takeWhile drops, List.takeWhile_append_dropWhile, fun c hc => ?_⟩,
      fun c hc => ?_⟩
    · exact List.all_eq_true.mp List.all_takeWhile c hc
    · have hhead := List.head?_dropWhile_not drops chars
      rw [Option.mem_def.mp hc] at hhead
      simpa using hhead
  · rintro ⟨⟨dropped, rfl, hdropped⟩, hkept⟩
    rw [List.dropWhile_append_of_pos hdropped]
    cases kept with
    | nil => rfl
    | cons c kept => exact List.dropWhile_cons_of_neg (hkept c rfl)

/-- What is dropped are characters of the kind, what is kept does not end in one, and no other
part of the text is like that. -/
theorem trimEnd_eq_iff {drops : Char → Bool} {text kept : String} :
    trimEnd drops text = kept ↔
      (∃ dropped, kept ++ dropped = text ∧ ∀ c ∈ dropped.toList, drops c) ∧
        ∀ c ∈ kept.toList.getLast?, ¬drops c := by
  have hreverse : trimEnd drops text = kept ↔
      text.toList.reverse.dropWhile drops = kept.toList.reverse := by
    rw [trimEnd, ← String.toList_inj, String.toList_ofList, List.reverse_eq_iff]
  rw [hreverse, dropWhile_eq_iff, List.head?_reverse]
  refine and_congr_left fun _ => ⟨?_, ?_⟩
  · rintro ⟨dropped, htext, hdropped⟩
    refine ⟨String.ofList dropped.reverse, ?_, fun c hc => hdropped c ?_⟩
    · rw [← String.toList_inj, String.toList_append, String.toList_ofList,
        ← List.reverse_inj, List.reverse_append, List.reverse_reverse, htext]
    · simpa using hc
  · rintro ⟨dropped, rfl, hdropped⟩
    refine ⟨dropped.toList.reverse, ?_, fun c hc => hdropped c (List.mem_reverse.mp hc)⟩
    rw [String.toList_append, List.reverse_append]

/-- What is dropped are blanks, and what is kept does not end in one. -/
theorem trimBlankEnd_eq_iff {text kept : String} :
    trimBlankEnd text = kept ↔
      (∃ dropped, kept ++ dropped = text ∧ ∀ c ∈ dropped.toList, isBlank c) ∧
        ∀ c ∈ kept.toList.getLast?, ¬isBlank c :=
  trimEnd_eq_iff

end StackLang.Text
