/-!
# UTF-8 with replacement

A strict reading of UTF-8 is `String.fromUTF8?`. This module reads any bytes: each maximal piece
that could have begun a character but did not finish one becomes a single replacement character.
The reader is a machine over the bytes whose state is the sequence begun so far.
-/

namespace Clinker.Encoding.Utf8

/-- Bytes are read strictly as the text that they encode, if they encode one. -/
theorem fromUTF8?_eq_some_iff {bytes : ByteArray} {text : String} :
    String.fromUTF8? bytes = some text ↔ bytes = text.toUTF8 := by
  rw [String.fromUTF8?, String.toUTF8_eq_toByteArray]
  split
  · rw [Option.some.injEq, ← String.toByteArray_inj]
    rfl
  · rename_i hinvalid
    refine ⟨nofun, fun h => absurd ?_ hinvalid⟩
    rw [h]
    exact text.isValidUTF8

/-- Stands for bytes that are no text. -/
def replacement : Char := Char.ofNat 0xFFFD

/-- A sequence begun: how many bytes are missing, which values the next one may have, and the bits
collected. -/
structure Begun where
  missing : Nat
  low : UInt8
  high : UInt8
  bits : Nat

/-- What a byte means at the start of a sequence. -/
inductive Lead
  | ascii (c : Char)
  | begins (b : Begun)
  | invalid

/-- The first byte of a sequence fixes its length and, for overlong forms, surrogates and code
points beyond the last, a narrower range for the second byte. -/
def lead (b : UInt8) : Lead :=
  if b < 0x80 then .ascii (Char.ofNat b.toNat)
  else if b < 0xC2 then .invalid
  else if b < 0xE0 then .begins ⟨1, 0x80, 0xBF, b.toNat - 0xC0⟩
  else if b == 0xE0 then .begins ⟨2, 0xA0, 0xBF, 0⟩
  else if b == 0xED then .begins ⟨2, 0x80, 0x9F, 0xD⟩
  else if b < 0xF0 then .begins ⟨2, 0x80, 0xBF, b.toNat - 0xE0⟩
  else if b == 0xF0 then .begins ⟨3, 0x90, 0xBF, 0⟩
  else if b < 0xF4 then .begins ⟨3, 0x80, 0xBF, b.toNat - 0xF0⟩
  else if b == 0xF4 then .begins ⟨3, 0x80, 0x8F, 4⟩
  else .invalid

/-- Reads bytes as text; `begun` is the unfinished sequence before them. -/
def decodeFrom (begun : Option Begun) : List UInt8 → List Char
  | [] => if begun.isSome then [replacement] else []
  | b :: bs =>
    let fresh (pending : List Char) : List Char :=
      match lead b with
      | .ascii c => pending ++ c :: decodeFrom none bs
      | .begins s => pending ++ decodeFrom (some s) bs
      | .invalid => pending ++ replacement :: decodeFrom none bs
    match begun with
    | none => fresh []
    | some s =>
      if s.low ≤ b && b ≤ s.high then
        let bits := s.bits * 64 + (b.toNat - 0x80)
        if s.missing ≤ 1 then Char.ofNat bits :: decodeFrom none bs
        else decodeFrom (some ⟨s.missing - 1, 0x80, 0xBF, bits⟩) bs
      else fresh [replacement]

/-- The text of some bytes, with a replacement character for every piece that is none. -/
def decodeLossy (bytes : ByteArray) : String :=
  String.ofList (decodeFrom none bytes.data.toList)

end Clinker.Encoding.Utf8
