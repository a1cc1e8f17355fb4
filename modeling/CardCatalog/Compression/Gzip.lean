import CardCatalog.Card.File
import CardCatalog.Compression.Inflate

/-!
# Gzip files

A gzip file has a header, a compressed text, and a checksum and the size of what it decompresses to.
`FileContents.ofBytes` tells what the bytes of a file hold.
-/

namespace CardCatalog

namespace Compression

/-- One step of the checksum: a division by its polynomial, bit by bit. -/
def checksumShift (value : UInt32) : UInt32 :=
  if value &&& 1 = 1 then (value >>> 1) ^^^ 0xEDB88320 else value >>> 1

/-- Add a byte to a checksum. -/
def checksumByte (value : UInt32) (byte : UInt8) : UInt32 :=
  Nat.repeat checksumShift 8 (value ^^^ byte.toUInt32)

/-- The checksum of bytes. -/
def checksum (bytes : ByteArray) : UInt32 :=
  bytes.foldl checksumByte 0xFFFFFFFF ^^^ 0xFFFFFFFF

/-- Skip bytes up to and including a zero. The fuel bounds their number. -/
def skipName : Nat → BitReader → Option BitReader
  | 0, _ => none
  | fuel + 1, bits => do
      let (byte, bits) ← bits.readByte
      if byte = 0 then some bits else skipName fuel bits

/-- Skip a part of the header if its flag is set. -/
def skipIf (flags flag : Nat) (skip : BitReader → Option BitReader) (bits : BitReader) :
    Option BitReader :=
  if flags / flag % 2 = 1 then skip bits else some bits

/-- Skip the extra field: its size and its bytes. -/
def skipExtra (bits : BitReader) : Option BitReader := do
  let (size, bits) ← bits.readNumber 16
  bits.skipBytes size

/-- Skip the header: its mark, the method, the flags, six bytes, and the parts that the flags
announce. -/
def skipHeader (bits : BitReader) : Option BitReader := do
  let (mark, bits) ← bits.readNumber 16
  let (method, bits) ← bits.readNumber 8
  let (flags, bits) ← bits.readNumber 8
  if mark = 0x8B1F ∧ method = 8 then
    let bits ← bits.skipBytes 6
    let bits ← skipIf flags 4 skipExtra bits
    let bits ← skipIf flags 8 (skipName bits.bytes.size) bits
    let bits ← skipIf flags 16 (skipName bits.bytes.size) bits
    skipIf flags 2 (·.skipBytes 2) bits
  else none

/-- Decompress a gzip file. Its checksum and its size have to agree with the result. -/
def gunzip (bytes : ByteArray) : Option ByteArray := do
  let bits ← skipHeader ⟨bytes, 0⟩
  let (output, bits) ← inflate bits
  let (sum, bits) ← bits.align.readNumber 32
  let (size, _) ← bits.readNumber 32
  if sum = (checksum output).toNat ∧ size = output.size % 0x100000000 then some output else none

end Compression

/-- What bytes hold: a text, a text that is compressed, or neither. -/
def FileContents.ofBytes (bytes : ByteArray) : FileContents :=
  match String.fromUTF8? bytes with
  | some content => .text content
  | none =>
      match (Compression.gunzip bytes).bind String.fromUTF8? with
      | some content => .gzip content
      | none => .other

end CardCatalog
