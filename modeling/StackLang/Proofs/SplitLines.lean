/-
The lines of a text.

Input is split into lines as bytes, before it is known to be text.  Where it is text, its lines are
those of the text: the bytes of a line feed and of a carriage return are part of no other character.

* `Text.IsLines`: a sequence is split into lines.  It is the same for characters and for bytes.
* `Text.exists_isLines`: every sequence is split into lines.
* `Text.lines_of_isLines`: so are bytes when they are read, and in no other way.
* `Text.IsLines.utf8`: the bytes of the lines of a text are the lines of its bytes.
-/
import Mathlib.Data.List.Basic
import StackLang.Proofs.Image

namespace StackLang

namespace Text

/-- `IsLines feed ret text lines`: the text is split into the lines.  A line ends at a `feed`, and
one `ret` in front of it belongs to its end.  The last line may have no end, if it is not empty. -/
inductive IsLines {α : Type} (feed ret : α) : List α → List (List α) → Prop
  | nil : IsLines feed ret [] []
  | last {line : List α} (hne : line ≠ []) (hline : feed ∉ line) : IsLines feed ret line [line]
  | fed {line rest : List α} {lines : List (List α)} (hline : feed ∉ line)
      (hlast : line.getLast? ≠ some ret) (hrest : IsLines feed ret rest lines) :
    IsLines feed ret (line ++ feed :: rest) (line :: lines)
  | returned {line rest : List α} {lines : List (List α)} (hline : feed ∉ line)
      (hrest : IsLines feed ret rest lines) :
    IsLines feed ret (line ++ ret :: feed :: rest) (line :: lines)

/-- Every sequence is split into lines. -/
theorem exists_isLines {α : Type} (feed ret : α) (text : List α) :
    ∃ lines, IsLines feed ret text lines := by
  -- up to the first `feed`, which leaves a shorter rest
  induction hlength : text.length using Nat.strongRecOn generalizing text with
  | ind n ih =>
    by_cases hfeed : feed ∈ text
    · obtain ⟨line, rest, rfl, hline⟩ := List.eq_append_cons_of_mem hfeed
      have hlt : rest.length < n := by
        rw [← hlength, List.length_append, List.length_cons]
        omega
      obtain ⟨lines, hlines⟩ := ih _ hlt rest rfl
      by_cases hlast : line.getLast? = some ret
      · obtain ⟨line, rfl⟩ := List.getLast?_eq_some_iff.mp hlast
        refine ⟨line :: lines, ?_⟩
        rw [List.append_assoc, List.singleton_append]
        exact .returned (fun hmem => hline (List.mem_append_left _ hmem)) hlines
      · exact ⟨line :: lines, .fed hline hlast hlines⟩
    · by_cases hne : text = []
      · subst hne
        exact ⟨[], .nil⟩
      · exact ⟨[text], .last hne hfeed⟩

/-! ### Lines as they are read -/

section

variable {line rest : Bytes}

theorem lines_of_ne_nil {bytes : Bytes} (h : bytes ≠ []) :
    lines bytes = dropLineEnd (firstLine bytes).1 :: lines (firstLine bytes).2 := by
  obtain ⟨byte, rest, rfl⟩ := List.exists_cons_of_ne_nil h
  rw [lines]

theorem takeWhile_ne_lineFeed (h : lineFeed ∉ line) (rest : Bytes) :
    (line ++ rest).takeWhile (· != lineFeed) = line ++ rest.takeWhile (· != lineFeed) := by
  refine List.takeWhile_append_of_pos fun byte hbyte => ?_
  rw [bne_iff_ne]
  rintro rfl
  exact h hbyte

theorem firstLine_append (h : lineFeed ∉ line) (rest : Bytes) :
    firstLine (line ++ lineFeed :: rest) = (line ++ [lineFeed], rest) := by
  have htake := takeWhile_ne_lineFeed h (lineFeed :: rest)
  rw [List.takeWhile_cons_of_neg (by simp), List.append_nil] at htake
  simp only [firstLine, htake, List.drop_left]

theorem firstLine_of_not_mem (h : lineFeed ∉ line) : firstLine line = (line, []) := by
  have htake := takeWhile_ne_lineFeed h []
  rw [List.append_nil, List.takeWhile_nil, List.append_nil] at htake
  simp only [firstLine, htake, List.drop_length]

theorem dropLineEnd_fed (h : line.getLast? ≠ some carriageReturn) :
    dropLineEnd (line ++ [lineFeed]) = line := by
  rw [dropLineEnd, List.reverse_append, List.reverse_singleton, List.singleton_append]
  rw [← List.head?_reverse] at h
  split
  · rename_i body heq
    rw [(List.cons.inj heq).2] at h
    exact absurd rfl h
  · rename_i body heq
    rw [← (List.cons.inj heq).2, List.reverse_reverse]
  · rename_i hother
    exact absurd rfl (hother _)

theorem dropLineEnd_returned (line : Bytes) :
    dropLineEnd (line ++ [carriageReturn] ++ [lineFeed]) = line := by
  have hreverse : (line ++ [carriageReturn] ++ [lineFeed]).reverse = 10 :: 13 :: line.reverse := by
    simp [carriageReturn, lineFeed]
  simp only [dropLineEnd, hreverse, List.reverse_reverse]

theorem dropLineEnd_of_not_mem (h : lineFeed ∉ line) : dropLineEnd line = line := by
  rw [← List.mem_reverse] at h
  rw [dropLineEnd]
  split
  · rename_i body heq
    exact absurd (heq ▸ List.mem_cons_self) h
  · rename_i body heq
    exact absurd (heq ▸ List.mem_cons_self) h
  · rfl

/-- Bytes are read as the lines that they are split into. -/
theorem lines_of_isLines {bytes : Bytes} {parts : List Bytes}
    (h : IsLines lineFeed carriageReturn bytes parts) : lines bytes = parts := by
  induction h with
  | nil => rw [lines]
  | last hne hline =>
    rw [lines_of_ne_nil hne, firstLine_of_not_mem hline, dropLineEnd_of_not_mem hline, lines]
  | fed hline hlast _ ih =>
    rw [lines_of_ne_nil (by simp), firstLine_append hline, dropLineEnd_fed hlast, ih]
  | @returned line rest parts hline _ ih =>
    have htext : line ++ carriageReturn :: lineFeed :: rest =
        line ++ [carriageReturn] ++ lineFeed :: rest := by
      simp
    have hline' : lineFeed ∉ line ++ [carriageReturn] := by
      simpa [lineFeed, carriageReturn] using hline
    rw [htext, lines_of_ne_nil (by simp), firstLine_append hline', dropLineEnd_returned, ih]

end

/-! ### Lines of text -/

theorem utf8_eq_flatMap (text : String) :
    utf8 text = text.toList.flatMap String.utf8EncodeChar := by
  conv_lhs => rw [← String.ofList_toList (s := text)]
  rw [utf8, String.toUTF8_eq_toByteArray, String.toByteArray_ofList, List.utf8Encode,
    List.data_toByteArray]

theorem utf8_append (text text' : String) : utf8 (text ++ text') = utf8 text ++ utf8 text' := by
  rw [utf8_eq_flatMap, utf8_eq_flatMap, utf8_eq_flatMap, String.toList_append, List.flatMap_append]

theorem utf8_of_ofUtf8? {bytes : Bytes} {text : String} (h : ofUtf8? bytes = some text) :
    utf8 text = bytes := by
  rw [ofUtf8?, String.fromUTF8?] at h
  split at h
  · cases h
    rfl
  · cases h

theorem utf8_injective : Function.Injective utf8 := by
  intro text text' h
  have hread := Image.ofUtf8?_utf8 text
  rw [h, Image.ofUtf8?_utf8] at hread
  exact (Option.some.inj hread).symm

/-- A byte below 128 is a character of its own, and part of no other one. -/
theorem toNat_of_mem_utf8EncodeChar {c : Char} {byte : UInt8} (hbyte : byte.toNat < 128)
    (h : byte ∈ String.utf8EncodeChar c) : c.toNat = byte.toNat := by
  have hc : c.val.toNat = c.toNat := rfl
  simp only [String.utf8EncodeChar, hc] at h
  split at h
  · rw [List.mem_singleton] at h
    rw [h, UInt8.toNat_ofNat']
    omega
  · -- each byte of a longer character has its first bit set
    split at h
    · simp only [List.mem_cons, List.not_mem_nil, or_false] at h
      rcases h with rfl | rfl <;> simp only [UInt8.toNat_ofNat'] at hbyte <;> omega
    · split at h
      · simp only [List.mem_cons, List.not_mem_nil, or_false] at h
        rcases h with rfl | rfl | rfl <;> simp only [UInt8.toNat_ofNat'] at hbyte <;> omega
      · simp only [List.mem_cons, List.not_mem_nil, or_false] at h
        rcases h with rfl | rfl | rfl | rfl <;> simp only [UInt8.toNat_ofNat'] at hbyte <;> omega

theorem lineFeed_mem_utf8EncodeChar {c : Char} (h : lineFeed ∈ String.utf8EncodeChar c) :
    c = '\n' :=
  Char.toNat_inj.mp (toNat_of_mem_utf8EncodeChar (by decide) h)

theorem carriageReturn_mem_utf8EncodeChar {c : Char}
    (h : carriageReturn ∈ String.utf8EncodeChar c) : c = '\r' :=
  Char.toNat_inj.mp (toNat_of_mem_utf8EncodeChar (by decide) h)

section

variable {line : List Char}

theorem lineFeed_not_mem_flatMap (h : '\n' ∉ line) :
    lineFeed ∉ line.flatMap String.utf8EncodeChar := by
  intro hmem
  obtain ⟨c, hc, hfeed⟩ := List.mem_flatMap.mp hmem
  rw [lineFeed_mem_utf8EncodeChar hfeed] at hc
  exact h hc

theorem getLast?_flatMap_ne (h : line.getLast? ≠ some '\r') :
    (line.flatMap String.utf8EncodeChar).getLast? ≠ some carriageReturn := by
  intro hlast
  rcases List.eq_nil_or_concat line with rfl | ⟨front, c, rfl⟩
  · cases hlast
  · -- the last byte is one of the last character
    rw [List.concat_eq_append, List.flatMap_append, List.flatMap_singleton,
      List.getLast?_append_of_ne_nil _ String.utf8EncodeChar_ne_nil] at hlast
    have hc := carriageReturn_mem_utf8EncodeChar (List.mem_of_getLast? hlast)
    rw [hc, List.concat_eq_append, List.getLast?_concat] at h
    exact h rfl

end

/-- The bytes of the lines of a text are the lines of its bytes. -/
theorem IsLines.utf8 {text : List Char} {lines : List (List Char)}
    (h : IsLines '\n' '\r' text lines) :
    IsLines lineFeed carriageReturn (text.flatMap String.utf8EncodeChar)
      (lines.map (List.flatMap String.utf8EncodeChar)) := by
  have hfeed : String.utf8EncodeChar '\n' = [lineFeed] := rfl
  have hreturn : String.utf8EncodeChar '\r' = [carriageReturn] := rfl
  induction h with
  | nil => exact .nil
  | last hne hline =>
    refine .last ?_ (lineFeed_not_mem_flatMap hline)
    obtain ⟨c, cs, rfl⟩ := List.exists_cons_of_ne_nil hne
    exact List.append_ne_nil_of_left_ne_nil String.utf8EncodeChar_ne_nil _
  | fed hline hlast _ ih =>
    rw [List.flatMap_append, List.flatMap_cons, hfeed, List.map_cons]
    exact .fed (lineFeed_not_mem_flatMap hline) (getLast?_flatMap_ne hlast) ih
  | returned hline _ ih =>
    rw [List.flatMap_append, List.flatMap_cons, List.flatMap_cons, hfeed, hreturn, List.map_cons]
    exact .returned (lineFeed_not_mem_flatMap hline) ih

/-- The lines of a text are read from its bytes. -/
theorem lines_utf8 {text : String} {parts : List String}
    (h : IsLines '\n' '\r' text.toList (parts.map String.toList)) :
    lines (utf8 text) = parts.map utf8 := by
  rw [utf8_eq_flatMap, lines_of_isLines h.utf8, List.map_map]
  exact List.map_congr_left fun part _ => (utf8_eq_flatMap part).symm

/-- A text is split into lines in one way. -/
theorem exists_lines_iff (text : String) :
    ∃ parts : List String, ∀ other : List String,
      IsLines '\n' '\r' text.toList (other.map String.toList) ↔ other = parts := by
  obtain ⟨lines, hlines⟩ := exists_isLines '\n' '\r' text.toList
  have hmap : (lines.map String.ofList).map String.toList = lines := by
    rw [List.map_map]
    exact List.map_id'' (fun line => String.toList_ofList) lines
  rw [← hmap] at hlines
  refine ⟨lines.map String.ofList, fun other => ⟨fun hother => ?_, ?_⟩⟩
  · have hbytes := lines_utf8 hother
    rw [lines_utf8 hlines] at hbytes
    exact (List.map_injective_iff.mpr utf8_injective hbytes).symm
  · rintro rfl
    exact hlines

end Text

end StackLang
