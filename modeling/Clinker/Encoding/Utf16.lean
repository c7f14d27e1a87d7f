/-!
# UTF-16, little endian

`encode` writes a character as one unit, or as two surrogates when it lies beyond the basic
plane; `decode?` accepts exactly such sequences. An odd number of bytes, a high surrogate without
a low one after it and a low one without a high one before it are refused.
-/

namespace Clinker.Encoding.Utf16

/-- The units of a character. -/
def unitsOf (c : Char) : List UInt16 :=
  if c.toNat < 0x10000 then [c.toNat.toUInt16]
  else
    let v := c.toNat - 0x10000
    [(0xD800 + v / 0x400).toUInt16, (0xDC00 + v % 0x400).toUInt16]

/-- The two bytes of a unit, low byte first. -/
def bytesOf (u : UInt16) : List UInt8 := [(u.toNat % 256).toUInt8, (u.toNat / 256).toUInt8]

/-- The bytes of a text. -/
def encode (cs : List Char) : List UInt8 := (cs.flatMap unitsOf).flatMap bytesOf

/-- The units that some bytes hold, if their number is even. -/
def units? : List UInt8 → Option (List UInt16)
  | [] => some []
  | [_] => none
  | low :: high :: rest => (units? rest).map ((low.toNat + 256 * high.toNat).toUInt16 :: ·)

/-- Whether a unit is the first half of a pair. -/
def isHigh (u : UInt16) : Bool := 0xD800 ≤ u && u < 0xDC00

/-- Whether a unit is the second half of a pair. -/
def isLow (u : UInt16) : Bool := 0xDC00 ≤ u && u < 0xE000

/-- The characters of well-paired units. -/
def chars? : List UInt16 → Option (List Char)
  | [] => some []
  | u :: us =>
    if isLow u then none
    else if isHigh u then
      match us with
      | [] => none
      | w :: rest =>
        if isLow w then
          (chars? rest).map
            (Char.ofNat (0x10000 + (u.toNat - 0xD800) * 0x400 + (w.toNat - 0xDC00)) :: ·)
        else none
    else (chars? us).map (Char.ofNat u.toNat :: ·)

/-- The text that some bytes encode, if they encode one. -/
def decode? (bytes : ByteArray) : Option String := do
  let units ← units? bytes.data.toList
  let cs ← chars? units
  return String.ofList cs

end Clinker.Encoding.Utf16
