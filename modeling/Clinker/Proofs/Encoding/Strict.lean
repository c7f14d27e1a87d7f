import Clinker.Program
import Mathlib.Tactic.SplitIfs

/-!
# Streams that are read strictly

A stream that a build has to understand is read strictly. Its text is the one whose encoding the
bytes are, and bytes that encode no text are refused (`decodeStream_strict`).

UTF-16 is read in two stages, and each is shown exact by the same two facts: what was written for
one item is read back in front of anything else, and what is read as one item is what is written
for it. Bytes pair up into units (`units?_eq_some_iff`), units into characters
(`chars?_eq_some_iff`). A character has one unit, which is no half of a pair, or both halves of one
(`unitsOf_cases`), so the reader never mistakes where a character ends.
-/

namespace Clinker.Encoding.Utf16

/-! ## Units -/

theorem toNat_toUInt16 {n : Nat} (h : n < 0x10000) : n.toUInt16.toNat = n :=
  UInt16.toNat_ofNat_of_lt' h

/-- A unit is read back from its bytes. -/
theorem units?_bytesOf_append (u : UInt16) (bytes : List UInt8) :
    units? (bytesOf u ++ bytes) = (units? bytes).map (u :: ·) := by
  have hu : ((u.toNat % 256).toUInt8.toNat + 256 * (u.toNat / 256).toUInt8.toNat).toUInt16 = u := by
    have := u.toNat_lt
    apply UInt16.toNat_inj.1
    simp only [UInt8.toNat_ofNat', UInt16.toNat_ofNat', Nat.toUInt8, Nat.toUInt16]
    omega
  simp only [bytesOf, List.cons_append, List.nil_append, units?, hu]

/-- The bytes read as a unit are the ones written for it. -/
theorem bytesOf_pair (low high : UInt8) :
    bytesOf (low.toNat + 256 * high.toNat).toUInt16 = [low, high] := by
  have hlow := low.toNat_lt
  have hhigh := high.toNat_lt
  have hunit : (low.toNat + 256 * high.toNat).toUInt16.toNat = low.toNat + 256 * high.toNat :=
    toNat_toUInt16 (by omega)
  have hrest : (low.toNat + 256 * high.toNat) % 256 = low.toNat := by omega
  have hquot : (low.toNat + 256 * high.toNat) / 256 = high.toNat := by omega
  simp only [bytesOf, hunit, hrest, hquot, Nat.toUInt8, UInt8.ofNat_toNat]

/-- **Bytes hold the units they were written for, and no others.** -/
theorem units?_eq_some_iff {bytes : List UInt8} {us : List UInt16} :
    units? bytes = some us ↔ bytes = us.flatMap bytesOf := by
  constructor
  · intro h
    fun_induction units? bytes generalizing us with
    | case1 => cases h; rfl
    | case2 => cases h
    | case3 low high rest ih =>
      obtain ⟨vs, hvs, rfl⟩ := Option.map_eq_some_iff.1 h
      rw [List.flatMap_cons, bytesOf_pair, ← ih hvs]
      rfl
  · rintro rfl
    induction us with
    | nil => rfl
    | cons u us ih => rw [List.flatMap_cons, units?_bytesOf_append, ih, Option.map_some]

/-! ## Characters -/

theorem isHigh_iff {u : UInt16} : isHigh u = true ↔ 0xD800 ≤ u.toNat ∧ u.toNat < 0xDC00 := by
  simp [isHigh, UInt16.le_iff_toNat_le, UInt16.lt_iff_toNat_lt]

theorem isLow_iff {u : UInt16} : isLow u = true ↔ 0xDC00 ≤ u.toNat ∧ u.toNat < 0xE000 := by
  simp [isLow, UInt16.le_iff_toNat_le, UInt16.lt_iff_toNat_lt]

/-- The character that a pair of surrogates stands for. -/
def paired (u w : UInt16) : Nat := 0x10000 + (u.toNat - 0xD800) * 0x400 + (w.toNat - 0xDC00)

/-- **A character has one unit that is no surrogate, or a pair of them.** -/
theorem unitsOf_cases (c : Char) :
    (∃ u : UInt16, unitsOf c = [u] ∧ u.toNat = c.toNat ∧ isHigh u = false ∧ isLow u = false) ∨
      ∃ u w : UInt16, unitsOf c = [u, w] ∧ isHigh u = true ∧ isLow w = true ∧
        paired u w = c.toNat := by
  have hvalid : c.toNat < 0xD800 ∨ 0xDFFF < c.toNat ∧ c.toNat < 0x110000 := c.valid
  unfold unitsOf
  split_ifs with h
  · have hu : c.toNat.toUInt16.toNat = c.toNat := toNat_toUInt16 h
    refine .inl ⟨_, rfl, hu, ?_, ?_⟩
    · rw [Bool.eq_false_iff, ne_eq, isHigh_iff]
      omega
    · rw [Bool.eq_false_iff, ne_eq, isLow_iff]
      omega
  · have hu : (0xD800 + (c.toNat - 0x10000) / 0x400).toUInt16.toNat =
        0xD800 + (c.toNat - 0x10000) / 0x400 := toNat_toUInt16 (by omega)
    have hw : (0xDC00 + (c.toNat - 0x10000) % 0x400).toUInt16.toNat =
        0xDC00 + (c.toNat - 0x10000) % 0x400 := toNat_toUInt16 (by omega)
    refine .inr ⟨_, _, rfl, isHigh_iff.2 ?_, isLow_iff.2 ?_, ?_⟩
    · omega
    · omega
    · unfold paired
      omega

/-- A character is read back from its units. -/
theorem chars?_unitsOf_append (c : Char) (us : List UInt16) :
    chars? (unitsOf c ++ us) = (chars? us).map (c :: ·) := by
  obtain ⟨u, hunits, hu, hhigh, hlow⟩ | ⟨u, w, hunits, hhigh, hlow, hc⟩ := unitsOf_cases c
  · rw [hunits, List.singleton_append, chars?.eq_def]
    simp [hhigh, hlow, hu]
  · -- The reader looks for a second half first, and a first half is none.
    have hnot : isLow u = false := by
      rw [isHigh_iff] at hhigh
      rw [Bool.eq_false_iff, ne_eq, isLow_iff]
      omega
    unfold paired at hc
    rw [hunits, List.cons_append, List.singleton_append, chars?.eq_def]
    simp [hhigh, hlow, hnot, hc]

/-- A unit that is read as a character is what is written for it. -/
theorem unitsOf_ofNat {u : UInt16} (hhigh : isHigh u = false) (hlow : isLow u = false) :
    unitsOf (Char.ofNat u.toNat) = [u] := by
  have hlt := u.toNat_lt
  rw [Bool.eq_false_iff, ne_eq, isHigh_iff] at hhigh
  rw [Bool.eq_false_iff, ne_eq, isLow_iff] at hlow
  have hvalid : u.toNat.isValidChar := by
    unfold Nat.isValidChar
    omega
  rw [unitsOf, Text.toNat_ofNat hvalid, if_pos (by omega), Nat.toUInt16, UInt16.ofNat_toNat]

/-- A pair that is read as a character is what is written for it. -/
theorem unitsOf_paired {u w : UInt16} (hhigh : isHigh u = true) (hlow : isLow w = true) :
    unitsOf (Char.ofNat (paired u w)) = [u, w] := by
  rw [isHigh_iff] at hhigh
  rw [isLow_iff] at hlow
  have hvalid : (paired u w).isValidChar := by
    unfold Nat.isValidChar paired
    omega
  have hu : 0xD800 + (paired u w - 0x10000) / 0x400 = u.toNat := by
    unfold paired
    omega
  have hw : 0xDC00 + (paired u w - 0x10000) % 0x400 = w.toNat := by
    unfold paired
    omega
  have hwide : ¬ paired u w < 0x10000 := by
    unfold paired
    omega
  rw [unitsOf, Text.toNat_ofNat hvalid, if_neg hwide]
  simp only [hu, hw, Nat.toUInt16, UInt16.ofNat_toNat]

/-- **Units are the characters they were written for, and no others.** -/
theorem chars?_eq_some_iff {us : List UInt16} {cs : List Char} :
    chars? us = some cs ↔ us = cs.flatMap unitsOf := by
  constructor
  · intro h
    fun_induction chars? us generalizing cs with
    | case1 => cases h; rfl
    | case2 => cases h
    | case3 => cases h
    | case4 u hnot hhigh w rest hlow ih =>
      obtain ⟨ds, hds, rfl⟩ := Option.map_eq_some_iff.1 h
      have hpair := unitsOf_paired hhigh hlow
      unfold paired at hpair
      rw [List.flatMap_cons, hpair, ← ih hds]
      rfl
    | case5 => cases h
    | case6 u us hnot hhigh ih =>
      obtain ⟨ds, hds, rfl⟩ := Option.map_eq_some_iff.1 h
      rw [List.flatMap_cons, unitsOf_ofNat (Bool.eq_false_iff.2 hhigh) (Bool.eq_false_iff.2 hnot),
        ← ih hds]
      rfl
  · rintro rfl
    induction cs with
    | nil => rfl
    | cons c cs ih => rw [List.flatMap_cons, chars?_unitsOf_append, ih, Option.map_some]

/-- **Bytes are read as the text that they encode, if they encode one.** -/
theorem decode?_eq_some_iff {bytes : ByteArray} {text : String} :
    decode? bytes = some text ↔ bytes.data.toList = encode text.toList := by
  simp only [decode?, encode, bind, pure, Option.bind_eq_some_iff, units?_eq_some_iff,
    chars?_eq_some_iff, Option.some.injEq]
  constructor
  · rintro ⟨us, hbytes, cs, rfl, rfl⟩
    rw [hbytes, String.toList_ofList]
  · intro hbytes
    exact ⟨_, hbytes, _, rfl, String.ofList_toList⟩

/-- A letter of one unit and one of two; halves that stand the wrong way round are no text. -/
example : encode ['é', '😀'] = [0xE9, 0x00, 0x3D, 0xD8, 0x00, 0xDE] ∧
    chars? [0xDE00, 0xD83D] = none := by decide

end Clinker.Encoding.Utf16

namespace Clinker.RawOutput

/-! ## Streams -/

theorem decodeStream_eq_ok_iff {program : Path} {stream text : String} {bytes : ByteArray}
    {encoding : StreamEncoding} :
    decodeStream program stream encoding bytes = .ok text ↔ encoding.decode? bytes = some text := by
  unfold decodeStream
  cases encoding.decode? bytes <;> simp

theorem eq_toUTF8_iff {bytes : ByteArray} {text : String} :
    bytes = text.toUTF8 ↔ bytes.data.toList = text.toList.flatMap String.utf8EncodeChar := by
  rw [String.toUTF8_eq_toByteArray, ← String.utf8Encode_toList, List.utf8Encode, ByteArray.ext_iff,
    ← Array.toList_inj, List.toList_data_toByteArray]

/-- **A strict reading is exact.** Bytes are read as a text by UTF-16 or by UTF-8 exactly when they
are the encoding of this text. All other bytes are an error of the configuration, so nothing is
ever replaced. -/
theorem decodeStream_strict (program : Path) (stream : String) (bytes : ByteArray) :
    (∀ text, decodeStream program stream .utf16le bytes = .ok text ↔
      bytes.data.toList = Encoding.Utf16.encode text.toList) ∧
    (∀ text, decodeStream program stream .utf8 bytes = .ok text ↔
      bytes.data.toList = text.toList.flatMap String.utf8EncodeChar) ∧
    ∀ encoding, (∀ text, decodeStream program stream encoding bytes ≠ .ok text) →
      decodeStream program stream encoding bytes = .error (.badConfiguration
        s!"{program.text} wrote {stream} that is not valid {encoding.name}") := by
  refine ⟨fun text => ?_, fun text => ?_, fun encoding hnone => ?_⟩
  · rw [decodeStream_eq_ok_iff, StreamEncoding.decode?, Encoding.Utf16.decode?_eq_some_iff]
  · rw [decodeStream_eq_ok_iff, StreamEncoding.decode?,
      Encoding.Utf8.fromUTF8?_eq_some_iff, eq_toUTF8_iff]
  · cases hdecode : encoding.decode? bytes with
    | none => simp only [decodeStream, hdecode]
    | some text => exact absurd (decodeStream_eq_ok_iff.2 hdecode) (hnone text)

end Clinker.RawOutput
