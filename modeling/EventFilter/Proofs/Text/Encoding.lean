import EventFilter.Proofs.Text.Lines

/-!
# Lines of encoded texts

In UTF-8 a character of ASCII is one byte, and the bytes of all other characters are no ASCII. So
the bytes of a text have line feeds and carriage returns where the text has them, and their lines
are the bytes of its lines.
Main statement: the lines of the bytes of a text are the lines of the text
(`fromUTF8?_lines_toUTF8`).
-/

namespace EventFilter.Text

/-- A byte of a character is its code point or no ASCII. -/
theorem toNat_eq_or_le_of_mem_utf8EncodeChar {b : UInt8} {c : Char}
    (h : b ∈ String.utf8EncodeChar c) : b.toNat = c.toNat ∨ 0x80 ≤ b.toNat := by
  have hcode : c.toNat = c.val.toNat := rfl
  simp only [String.utf8EncodeChar] at h
  split at h
  · rw [List.mem_singleton.mp h, UInt8.toNat_ofNat']
    omega
  · refine .inr ?_
    split at h
    · simp only [List.mem_cons, List.not_mem_nil, or_false] at h
      rcases h with rfl | rfl <;> rw [UInt8.toNat_ofNat'] <;> omega
    · split at h
      · simp only [List.mem_cons, List.not_mem_nil, or_false] at h
        rcases h with rfl | rfl | rfl <;> rw [UInt8.toNat_ofNat'] <;> omega
      · simp only [List.mem_cons, List.not_mem_nil, or_false] at h
        rcases h with rfl | rfl | rfl | rfl <;> rw [UInt8.toNat_ofNat'] <;> omega

/-- A byte of ASCII belongs to the character that it is the code point of. -/
theorem eq_of_mem_utf8EncodeChar {b : UInt8} {c d : Char} (hd : d.toNat < 0x80)
    (hb : b.toNat = d.toNat) (h : b ∈ String.utf8EncodeChar c) : c = d := by
  rcases toNat_eq_or_le_of_mem_utf8EncodeChar h with hcode | hlarge
  · exact Char.toNat_inj.mp (hcode.symm.trans hb)
  · omega

/-- The bytes of an array from an index on. -/
theorem toList_loop (bytes : ByteArray) (i : Nat) (front : List UInt8) :
    ByteArray.toList.loop bytes i front = front.reverse ++ bytes.data.toList.drop i := by
  induction i, front using ByteArray.toList.loop.induct bytes with
  | case1 i front hlt ih =>
    have hi : i < bytes.data.toList.length := by simpa using hlt
    have hget : bytes.get! i = bytes.data.toList[i] := by
      rw [Array.getElem_toList]
      exact getElem!_pos bytes.data i hlt
    rw [ByteArray.toList.loop, if_pos hlt, ih, List.drop_eq_getElem_cons hi, hget]
    simp
  | case2 i front hge =>
    have hlength : bytes.data.toList.length ≤ i := by simpa using hge
    rw [ByteArray.toList.loop, if_neg hge, List.drop_eq_nil_of_le hlength, List.append_nil]

/-- The bytes of an array are its elements. -/
theorem toList_toByteArray (bytes : List UInt8) : bytes.toByteArray.toList = bytes := by
  rw [ByteArray.toList, toList_loop, List.reverse_nil, List.drop_zero, List.nil_append,
    List.toList_data_toByteArray]

/-- The bytes of a text are read back as the text. -/
theorem fromUTF8?_flatMap (line : List Char) :
    (String.fromUTF8? ⟨(line.flatMap String.utf8EncodeChar).toArray⟩).map String.toList =
      some line := by
  have hbytes : (⟨(line.flatMap String.utf8EncodeChar).toArray⟩ : ByteArray) =
      (String.ofList line).toByteArray := by
    rw [String.toByteArray_ofList, List.utf8Encode]
    apply ByteArray.ext
    apply Array.ext'
    rw [List.toList_data_toByteArray]
  have hvalid : (String.ofList line).toByteArray.IsValidUTF8 := (String.ofList line).isValidUTF8
  have hread : String.fromUTF8? (String.ofList line).toByteArray = some (String.ofList line) := by
    unfold String.fromUTF8?
    rw [dif_pos hvalid]
    rfl
  rw [hbytes, hread, Option.map_some, String.toList_ofList]

/-- **The lines of the bytes of a text** are read as the lines of the text. -/
theorem fromUTF8?_lines_toUTF8 (text : String) :
    ((lines 0x0A 0x0D text.toUTF8.toList).map fun line =>
      (String.fromUTF8? ⟨line.toArray⟩).map String.toList) =
        (lines '\n' '\r' text.toList).map some := by
  have hbytes : text.toUTF8.toList = text.toList.flatMap String.utf8EncodeChar := by
    rw [String.toUTF8_eq_toByteArray, ← String.utf8Encode_toList, List.utf8Encode,
      toList_toByteArray]
  have hfeed (c : Char) (h : 0x0A ∈ String.utf8EncodeChar c) : c = '\n' :=
    eq_of_mem_utf8EncodeChar (by decide) rfl h
  have hret (c : Char) (h : 0x0D ∈ String.utf8EncodeChar c) : c = '\r' :=
    eq_of_mem_utf8EncodeChar (by decide) rfl h
  have hne (c : Char) : String.utf8EncodeChar c ≠ [] := String.utf8EncodeChar_ne_nil
  rw [hbytes, lines_flatMap hne (by decide) (by decide) hfeed hret, List.map_map]
  exact List.map_congr_left fun line _ => fromUTF8?_flatMap line

end EventFilter.Text
