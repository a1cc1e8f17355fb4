/-!
# Reading bits

A compressed text is read bit by bit, the lowest bit of each byte first.
-/

namespace CardCatalog.Compression

/-- Bytes and the number of bits read from them. -/
structure BitReader where
  bytes : ByteArray
  position : Nat

namespace BitReader

/-- Read a bit. -/
def readBit (bits : BitReader) : Option (Nat × BitReader) :=
  if h : bits.position / 8 < bits.bytes.size then
    some (bits.bytes[bits.position / 8].toNat >>> (bits.position % 8) % 2,
      { bits with position := bits.position + 1 })
  else none

/-- Read a number of some bits, its lowest bit first. -/
def readNumber (bits : BitReader) : Nat → Option (Nat × BitReader)
  | 0 => some (0, bits)
  | width + 1 => do
      let (low, bits) ← bits.readBit
      let (high, bits) ← bits.readNumber width
      some (low + 2 * high, bits)

/-- Skip to the next whole byte. -/
def align (bits : BitReader) : BitReader :=
  { bits with position := (bits.position + 7) / 8 * 8 }

/-- Read a byte. -/
def readByte (bits : BitReader) : Option (UInt8 × BitReader) := do
  let (value, bits) ← bits.readNumber 8
  some (UInt8.ofNat value, bits)

/-- Skip a number of bytes, all of which have to be there. -/
def skipBytes (bits : BitReader) (count : Nat) : Option BitReader :=
  let skipped := { bits with position := bits.position + 8 * count }
  if skipped.position ≤ 8 * bits.bytes.size then some skipped else none

/-- The number of bits that are left. -/
def remaining (bits : BitReader) : Nat :=
  8 * bits.bytes.size - bits.position

end BitReader

end CardCatalog.Compression
