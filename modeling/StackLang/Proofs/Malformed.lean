/-
Code that cannot be read.

Code is read up to the first place where no instruction starts.  Either the bytes there are cut,
and some instruction starts with them; or a byte is there that no instruction has at that place,
and nothing that follows makes a difference.  The error tells which of the two it is.

* `Cut`: some of the bytes of an instruction, from the first one on, but not all of them.
* `Persists`: an error that does not depend on what follows.
* `decode_eq_error`: everything that can be wrong where no instruction starts.
* `Decoded.exists_decode_of_lines_eq_error`: code that cannot be read is a sequence of instructions
  in front of such a place.
* `isPrefix_of_assemble`: no sequence of instructions goes beyond that place.
* `decodeAll_eq_error_classified`: all of it together, for a whole code and all its extensions.
-/
import StackLang.Proofs.Codec

namespace StackLang

/-- The offset that the error names. -/
def DecodeError.offset : DecodeError → Nat
  | unknownOpcode _ offset | invalidSubOpcode _ _ offset | unexpectedEnd offset => offset

/-- An instruction starts with the bytes and has more of them. -/
def Cut (bytes : Bytes) : Prop :=
  ∃ (i : Instruction) (more : Bytes), more ≠ [] ∧ bytes ++ more = i.encode

/-- The error is not that bytes are missing, and it is the same whatever bytes follow. -/
structure Persists (read : Bytes → Except DecodeError (Instruction × Bytes)) (bytes : Bytes)
    (e : DecodeError) : Prop where
  ne_unexpectedEnd : ∀ offset, e ≠ .unexpectedEnd offset
  append : ∀ more, read (bytes ++ more) = .error e

/-! ### One instruction -/

section

variable {offset : Nat} {bytes : Bytes} {e : DecodeError}

/-- Any four bytes are those of an operand. -/
theorem exists_operandBytes (h : bytes.length = 4) : ∃ operand, bytes = operandBytes operand := by
  match bytes, h with
  | [a, b, c, d], _ =>
    have hread : readOperand 0 [a, b, c, d] = .ok (_, []) := rfl
    have hbytes := eq_operandBytes_of_readOperand hread
    rw [List.append_nil] at hbytes
    exact ⟨_, hbytes⟩

theorem readOperand_eq_error (h : readOperand offset bytes = .error e) :
    e = .unexpectedEnd offset ∧ bytes.length < 4 := by
  unfold readOperand at h
  split at h
  · cases h
  · rename_i hshort
    cases h
    refine ⟨rfl, ?_⟩
    by_contra hlength
    match bytes with
    | [] | [_] | [_, _] | [_, _, _] => simp at hlength
    | a :: b :: c :: d :: rest => exact hshort a b c d rest rfl

theorem readMarked_eq_error {marker : Opcode} (h : readMarked marker offset bytes = .error e) :
    e.offset = offset ∧
      ((e = .unexpectedEnd offset ∧ bytes = []) ∨ Persists (readMarked marker offset) bytes e) := by
  cases bytes with
  | nil =>
    cases h
    exact ⟨rfl, .inl ⟨rfl, rfl⟩⟩
  | cons byte rest =>
    -- the byte after the marker decides, and what follows it is not looked at
    cases hbyte : Opcode.ofByte? byte with
    | none =>
      simp only [readMarked, readOpcode, hbyte] at h
      cases h
      refine ⟨rfl, .inr ⟨by simp, fun more => ?_⟩⟩
      simp only [List.cons_append, readMarked, readOpcode, hbyte]
    | some operation =>
      simp only [readMarked, readOpcode, hbyte] at h
      cases hmarker : Instruction.ofMarker? marker operation with
      | some i =>
        rw [hmarker] at h
        cases h
      | none =>
        rw [hmarker] at h
        cases h
        refine ⟨rfl, .inr ⟨by simp, fun more => ?_⟩⟩
        simp only [List.cons_append, readMarked, readOpcode, hbyte, hmarker]

theorem readUnmarked_eq_error {opcode : Opcode} (h : readUnmarked opcode offset bytes = .error e) :
    (∃ make, Instruction.ofOperand? opcode = some make ∧ e = .unexpectedEnd (offset + 1) ∧
        bytes.length < 4) ∨
      (e.offset = offset ∧ Persists (readUnmarked opcode offset) bytes e) := by
  cases hmake : Instruction.ofOperand? opcode with
  | some make =>
    simp only [readUnmarked, hmake] at h
    cases hread : readOperand (offset + 1) bytes with
    | error e' =>
      rw [hread] at h
      cases h
      obtain ⟨he, hlength⟩ := readOperand_eq_error hread
      exact .inl ⟨make, rfl, he, hlength⟩
    | ok result =>
      rw [hread] at h
      cases h
  | none =>
    simp only [readUnmarked, hmake] at h
    split at h
    · cases h
    · rename_i hprint
      cases h
      refine .inr ⟨rfl, by simp, fun more => ?_⟩
      simp only [readUnmarked, hmake, if_neg hprint]

theorem exists_ofMarker? {marker : Opcode} (h : marker.isMarker = true) :
    ∃ operation i, Instruction.ofMarker? marker operation = some i := by
  cases marker with
  | unary => exact ⟨.not, _, rfl⟩
  | binary => exact ⟨.add, _, rfl⟩
  | bool => exact ⟨.trueValue, _, rfl⟩
  | _ => cases h

theorem cut_marker {marker : Opcode} (h : marker.isMarker = true) : Cut [marker.byte] := by
  obtain ⟨operation, i, hi⟩ := exists_ofMarker? h
  refine ⟨i, [operation.byte], List.cons_ne_nil _ _, ?_⟩
  rw [encode_of_ofMarker? hi]
  rfl

theorem cut_operand {opcode : Opcode} {make : UInt32 → Instruction}
    (hmake : Instruction.ofOperand? opcode = some make) (h : bytes.length < 4) :
    Cut (opcode.byte :: bytes) := by
  -- with zeros for the bytes that are missing there are four
  have hlength : (bytes ++ List.replicate (4 - bytes.length) 0).length = 4 := by
    rw [List.length_append, List.length_replicate]
    omega
  obtain ⟨operand, hoperand⟩ := exists_operandBytes hlength
  refine ⟨make operand, List.replicate (4 - bytes.length) 0, ?_, ?_⟩
  · rw [Ne, List.replicate_eq_nil_iff]
    omega
  · rw [encode_of_ofOperand? hmake, List.cons_append, hoperand]

/-- Everything that can be wrong where no instruction starts: the bytes are cut, or the error does
not depend on what follows. -/
theorem decode_eq_error (hne : bytes ≠ []) (h : decode offset bytes = .error e) :
    (e.offset = offset ∨ e.offset = offset + 1) ∧
      ((e = .unexpectedEnd (offset + 1) ∧ Cut bytes) ∨ Persists (decode offset) bytes e) := by
  obtain ⟨byte, rest, rfl⟩ := List.exists_cons_of_ne_nil hne
  cases hbyte : Opcode.ofByte? byte with
  | none =>
    simp only [decode, readOpcode, hbyte] at h
    cases h
    refine ⟨.inl rfl, .inr ⟨by simp, fun more => ?_⟩⟩
    simp only [List.cons_append, decode, readOpcode, hbyte]
  | some opcode =>
    have hdecode : ∀ rest, decode offset (byte :: rest) =
        if opcode.isMarker then readMarked opcode (offset + 1) rest
        else readUnmarked opcode offset rest := by
      intro rest
      simp only [decode, readOpcode, hbyte]
    rw [hdecode] at h
    rw [← Opcode.byte_of_ofByte? hbyte] at hdecode ⊢
    split at h
    · rename_i hmarker
      obtain ⟨hoffset, ⟨he, rfl⟩ | hpersists⟩ := readMarked_eq_error h
      · exact ⟨.inr hoffset, .inl ⟨he, cut_marker hmarker⟩⟩
      · refine ⟨.inr hoffset, .inr ⟨hpersists.ne_unexpectedEnd, fun more => ?_⟩⟩
        rw [List.cons_append, hdecode, if_pos hmarker, hpersists.append]
    · rename_i hmarker
      obtain ⟨make, hmake, rfl, hlength⟩ | ⟨hoffset, hpersists⟩ := readUnmarked_eq_error h
      · exact ⟨.inr rfl, .inl ⟨rfl, cut_operand hmake hlength⟩⟩
      · refine ⟨.inl hoffset, .inr ⟨hpersists.ne_unexpectedEnd, fun more => ?_⟩⟩
        rw [List.cons_append, hdecode, if_neg hmarker, hpersists.append]

end

/-! ### Whole codes -/

/-- The code can be read up to its end. -/
def Readable (bytes : Bytes) : Prop :=
  ∃ lines, (decodeAll bytes).lines = .ok lines

/-- The code starts with the bytes of the sequence, and with those of no longer one. -/
structure IsLongestStart (bytes : Bytes) (code : List Instruction) : Prop where
  starts : assemble code <+: bytes
  longest : ∀ other, assemble other <+: bytes → other.length ≤ code.length

section

variable {offset : Nat} {bytes rest : Bytes} {code : List Instruction} {e : DecodeError}

theorem readable_assemble (code : List Instruction) : Readable (assemble code) :=
  ⟨_, lines_decodeAll_assemble code⟩

theorem Decoded.lines_prepend_fault (offset : Nat) (code : List Instruction) (e : DecodeError) :
    (prepend offset code (fault e)).lines = .error e := by
  induction code generalizing offset with
  | nil => rfl
  | cons i code ih =>
    rw [prepend_cons, lines, ih]
    rfl

/-- Code that cannot be read is a sequence of instructions, and behind it a place where no
instruction starts. -/
theorem Decoded.exists_decode_of_lines_eq_error (h : (ofBytes offset bytes).lines = .error e) :
    ∃ code rest, bytes = assemble code ++ rest ∧ rest ≠ [] ∧
      decode (offset + (assemble code).length) rest = .error e := by
  -- along the recursion of the reader: a step adds its instruction in front
  induction offset, bytes using ofBytes_induction with
  | done offset =>
    rw [ofBytes_nil] at h
    cases h
  | fault offset bytes hne e' he' =>
    rw [ofBytes_of_error hne he'] at h
    cases h
    exact ⟨[], bytes, rfl, hne, he'⟩
  | step offset bytes i tail hread ih =>
    rw [ofBytes_of_ok hread, lines] at h
    cases htail : (ofBytes (offset + i.width) tail).lines with
    | ok lines =>
      rw [htail] at h
      cases h
    | error e' =>
      rw [htail] at h
      cases h
      obtain ⟨code, rest, rfl, hrest, hdecode⟩ := ih htail
      refine ⟨i :: code, rest, ?_, hrest, ?_⟩
      · rw [eq_encode_of_decode hread, assemble_cons, List.append_assoc]
      · rw [assemble_cons, List.length_append, Instruction.length_encode, ← Nat.add_assoc]
        exact hdecode

/-- Where no instruction starts, every sequence of instructions in front of it ends. -/
theorem isPrefix_of_assemble {other : List Instruction} (h : decode offset rest = .error e)
    (hother : assemble other <+: assemble code ++ rest) : other <+: code := by
  induction code generalizing other with
  | nil =>
    cases other with
    | nil => exact List.nil_prefix
    | cons i other =>
      obtain ⟨more, hmore⟩ := hother
      rw [assemble_cons, List.append_assoc, assemble_nil, List.nil_append] at hmore
      rw [← hmore, decode_encode] at h
      cases h
  | cons i code ih =>
    cases other with
    | nil => exact List.nil_prefix
    | cons j other =>
      -- the first instruction is the same, since it is read in front of any bytes
      obtain ⟨more, hmore⟩ := hother
      rw [assemble_cons, assemble_cons, List.append_assoc, List.append_assoc] at hmore
      have hfirst := decode_encode 0 j (assemble other ++ more)
      rw [hmore, decode_encode] at hfirst
      obtain ⟨rfl, hrest⟩ := Prod.mk.inj (Except.ok.inj hfirst)
      exact (List.prefix_cons_inj i).mpr (ih ⟨more, hrest.symm⟩)

theorem isLongestStart_iff (h : decode offset rest = .error e) (other : List Instruction) :
    IsLongestStart (assemble code ++ rest) other ↔ other = code := by
  constructor
  · intro hother
    have hle := hother.longest code (List.prefix_append _ _)
    exact (isPrefix_of_assemble h hother.starts).eq_of_length_le hle
  · rintro rfl
    refine ⟨List.prefix_append _ _, fun longer hlonger => ?_⟩
    exact (isPrefix_of_assemble h hlonger).length_le

/-- Bytes that complete the instruction make the whole code readable. -/
theorem Cut.exists_readable (h : Cut rest) (code : List Instruction) :
    ∃ more, more ≠ [] ∧ Readable (assemble code ++ rest ++ more) := by
  obtain ⟨i, more, hmore, hi⟩ := h
  refine ⟨more, hmore, ?_⟩
  have hcode : assemble code ++ rest ++ more = assemble (code ++ [i]) := by
    rw [assemble_append, List.append_assoc, hi, assemble_cons, assemble_nil, List.append_nil]
  rw [hcode]
  exact readable_assemble _

theorem Persists.not_readable
    (h : Persists (decode (assemble code).length) rest e) (hne : rest ≠ []) (more : Bytes) :
    ¬ Readable (assemble code ++ rest ++ more) := by
  rintro ⟨lines, hlines⟩
  have hne' : rest ++ more ≠ [] := List.append_ne_nil_of_left_ne_nil hne more
  have hdecode : decode (0 + (assemble code).length) (rest ++ more) = .error e := by
    rw [Nat.zero_add]
    exact h.append more
  rw [decodeAll, List.append_assoc, Decoded.ofBytes_assemble_append,
    Decoded.ofBytes_of_error hne' hdecode, Decoded.lines_prepend_fault] at hlines
  cases hlines

end

/-- **An error of reading tells whether the code was cut.**  A code that cannot be read starts with
one longest sequence of instructions, and something stands behind it.  The error is found there or
one byte further.  It says that bytes are missing exactly if what stands there is cut, which is to
say that the code can be read with more bytes behind it.  Any other error means that the code
cannot be read whatever is put behind it. -/
theorem decodeAll_eq_error_classified {bytes : Bytes} {e : DecodeError}
    (h : (decodeAll bytes).lines = .error e) :
    ∃ code rest, bytes = assemble code ++ rest ∧ rest ≠ [] ∧
      (∀ other, IsLongestStart bytes other ↔ other = code) ∧
      (e.offset = (assemble code).length ∨ e.offset = (assemble code).length + 1) ∧
      ((∃ offset, e = .unexpectedEnd offset) ↔ Cut rest) ∧
      ((∃ offset, e = .unexpectedEnd offset) ↔ ∃ more, more ≠ [] ∧ Readable (bytes ++ more)) ∧
      (((∃ byte offset, e = .unknownOpcode byte offset) ∨
          ∃ marker byte offset, e = .invalidSubOpcode marker byte offset) →
        ∀ more, ¬ Readable (bytes ++ more)) := by
  obtain ⟨code, rest, rfl, hne, hdecode⟩ := Decoded.exists_decode_of_lines_eq_error h
  rw [Nat.zero_add] at hdecode
  obtain ⟨hoffset, hcases⟩ := decode_eq_error hne hdecode
  refine ⟨code, rest, rfl, hne, isLongestStart_iff hdecode, hoffset, ?_⟩
  rcases hcases with ⟨rfl, hcut⟩ | hpersists
  · have hreadable := hcut.exists_readable code
    refine ⟨⟨fun _ => hcut, fun _ => ⟨_, rfl⟩⟩, ⟨fun _ => hreadable, fun _ => ⟨_, rfl⟩⟩, ?_⟩
    rintro (⟨byte, offset, he⟩ | ⟨marker, byte, offset, he⟩)
    · cases he
    · cases he
  · have hnever : ¬ ∃ offset, e = .unexpectedEnd offset := fun ⟨offset, he⟩ =>
      hpersists.ne_unexpectedEnd offset he
    have hnone := hpersists.not_readable hne
    refine ⟨⟨fun he => absurd he hnever, fun hcut => ?_⟩,
      ⟨fun he => absurd he hnever, fun ⟨more, _, hreadable⟩ => absurd hreadable (hnone more)⟩,
      fun _ => hnone⟩
    obtain ⟨more, -, hreadable⟩ := hcut.exists_readable code
    exact absurd hreadable (hnone more)

/-- A print instruction, a sum, and a number with two of its four bytes; and a print instruction
with the marker of booleans in front of a sum.  More bytes help the first code only. -/
theorem decodeAll_cutNumber_markedSum :
    (decodeAll [25, 11, 4, 0, 63, 128]).lines = .error (.unexpectedEnd 4) ∧
      (∃ more, more ≠ [] ∧ Readable ([25, 11, 4, 0, 63, 128] ++ more)) ∧
      (decodeAll [25, 20, 4]).lines = .error (.invalidSubOpcode .bool 4 2) ∧
      ∀ more, ¬ Readable ([25, 20, 4] ++ more) := by
  have hcut : (decodeAll [25, 11, 4, 0, 63, 128]).lines = .error (.unexpectedEnd 4) := by
    decide +kernel
  have hmarked : (decodeAll [25, 20, 4]).lines = .error (.invalidSubOpcode .bool 4 2) := by
    decide +kernel
  obtain ⟨_, _, -, -, -, -, -, hextends, -⟩ := decodeAll_eq_error_classified hcut
  obtain ⟨_, _, -, -, -, -, -, -, hnone⟩ := decodeAll_eq_error_classified hmarked
  exact ⟨hcut, hextends.mp ⟨4, rfl⟩, hmarked, hnone (.inr ⟨.bool, 4, 2, rfl⟩)⟩

end StackLang
