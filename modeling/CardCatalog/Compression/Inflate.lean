import CardCatalog.Compression.PrefixCode

/-!
# Decompression

A compressed text is a row of blocks. A stored block holds bytes as they are; in the others symbols
of a prefix code stand for bytes or for copies of what has come before. The code is either a fixed
one or described at the start of the block.
-/

namespace CardCatalog.Compression

/-- The shortest copy of each length symbol, and the number of bits that tell how much longer it
is. -/
def copyLengths : Array (Nat × Nat) :=
  #[(3, 0), (4, 0), (5, 0), (6, 0), (7, 0), (8, 0), (9, 0), (10, 0), (11, 1), (13, 1), (15, 1),
    (17, 1), (19, 2), (23, 2), (27, 2), (31, 2), (35, 3), (43, 3), (51, 3), (59, 3), (67, 4),
    (83, 4), (99, 4), (115, 4), (131, 5), (163, 5), (195, 5), (227, 5), (258, 0)]

/-- The least distance of each distance symbol, and the number of bits that tell how much greater it
is. -/
def copyDistances : Array (Nat × Nat) :=
  #[(1, 0), (2, 0), (3, 0), (4, 0), (5, 1), (7, 1), (9, 2), (13, 2), (17, 3), (25, 3), (33, 4),
    (49, 4), (65, 5), (97, 5), (129, 6), (193, 6), (257, 7), (385, 7), (513, 8), (769, 8),
    (1025, 9), (1537, 9), (2049, 10), (3073, 10), (4097, 11), (6145, 11), (8193, 12), (12289, 12),
    (16385, 13), (24577, 13)]

/-- The order in which the lengths of the code for code lengths are given. -/
def lengthOrder : List Nat :=
  [16, 17, 18, 0, 8, 7, 9, 6, 10, 5, 11, 4, 12, 3, 13, 2, 14, 1, 15]

/-- The symbol that ends a block. -/
def endOfBlock : Nat :=
  256

/-- Read an amount that a table of least amounts and numbers of further bits describes. -/
def readAmount (table : Array (Nat × Nat)) (symbol : Nat) (bits : BitReader) :
    Option (Nat × BitReader) := do
  let (least, width) ← table[symbol]?
  let (more, bits) ← bits.readNumber width
  some (least + more, bits)

/-- Append a number of bytes, each a copy of the one that stands a distance before it. -/
def copy (output : ByteArray) (distance : Nat) : Nat → Option ByteArray
  | 0 => some output
  | count + 1 =>
      if h : 0 < distance ∧ distance ≤ output.size then
        copy (output.push (output[output.size - distance])) distance count
      else none

/-- Read the symbols of a block. The fuel bounds their number. -/
def readSymbols (literals distances : PrefixCode) :
    Nat → BitReader → ByteArray → Option (ByteArray × BitReader)
  | 0, _, _ => none
  | fuel + 1, bits, output => do
      let (symbol, bits) ← literals.readSymbol bits
      if symbol < endOfBlock then
        readSymbols literals distances fuel bits (output.push (UInt8.ofNat symbol))
      else if symbol = endOfBlock then some (output, bits)
      else
        let (length, bits) ← readAmount copyLengths (symbol - endOfBlock - 1) bits
        let (symbol, bits) ← distances.readSymbol bits
        let (distance, bits) ← readAmount copyDistances symbol bits
        readSymbols literals distances fuel bits (← copy output distance length)

/-- Read the bytes of a stored block. -/
def readStored (bits : BitReader) (output : ByteArray) : Option (ByteArray × BitReader) := do
  let (size, bits) ← bits.align.readNumber 16
  let (complement, bits) ← bits.readNumber 16
  if size + complement = 0xFFFF then
    let start := bits.position / 8
    let rest ← bits.skipBytes size
    some (output ++ bits.bytes.extract start (start + size), rest)
  else none

/-- The lengths of the fixed code for bytes and copies. -/
def fixedLengths : List Nat :=
  List.replicate 144 8 ++ List.replicate 112 9 ++ List.replicate 24 7 ++ List.replicate 8 8

/-- The lengths of the fixed code for distances. -/
def fixedDistanceLengths : List Nat :=
  List.replicate 30 5

/-- Read numbers of three bits. -/
def readSmall (bits : BitReader) : Nat → Option (List Nat × BitReader)
  | 0 => some ([], bits)
  | count + 1 => do
      let (value, bits) ← bits.readNumber 3
      let (values, bits) ← readSmall bits count
      some (value :: values, bits)

/-- Read code lengths up to a total number. The last one may be repeated, and so may zero. The fuel
bounds the number of symbols. -/
def readLengths (code : PrefixCode) (total : Nat) :
    Nat → BitReader → List Nat → Option (List Nat × BitReader)
  | 0, _, _ => none
  | fuel + 1, bits, reversed => do
      if total < reversed.length then none
      else if reversed.length = total then some (reversed.reverse, bits)
      else
        let (symbol, bits) ← code.readSymbol bits
        if symbol < 16 then readLengths code total fuel bits (symbol :: reversed)
        else if symbol = 16 then
          let (more, bits) ← bits.readNumber 2
          readLengths code total fuel bits
            (List.replicate (3 + more) (← reversed.head?) ++ reversed)
        else
          let (least, width) := if symbol = 17 then (3, 3) else (11, 7)
          let (more, bits) ← bits.readNumber width
          readLengths code total fuel bits (List.replicate (least + more) 0 ++ reversed)

/-- Read the description of a block's codes: the one for bytes and copies, and the one for
distances. -/
def readCodes (bits : BitReader) : Option (PrefixCode × PrefixCode × BitReader) := do
  let (literalCount, bits) ← bits.readNumber 5
  let (distanceCount, bits) ← bits.readNumber 5
  let (lengthCount, bits) ← bits.readNumber 4
  let (given, bits) ← readSmall bits (lengthCount + 4)
  let placed := lengthOrder.zip given
  let code := PrefixCode.ofLengths ((List.range 19).map fun symbol => (placed.lookup symbol).getD 0)
  let total := literalCount + 257 + (distanceCount + 1)
  let (lengths, bits) ← readLengths code total (total + 1) bits []
  let literals := PrefixCode.ofLengths (lengths.take (literalCount + 257))
  let distances := PrefixCode.ofLengths (lengths.drop (literalCount + 257))
  if code.isRealizable && literals.isRealizable && distances.isRealizable then
    some (literals, distances, bits)
  else none

/-- Read a block after its first bit. -/
def readBlock (bits : BitReader) (output : ByteArray) : Option (ByteArray × BitReader) := do
  let (kind, bits) ← bits.readNumber 2
  match kind with
  | 0 => readStored bits output
  | 1 =>
      readSymbols (.ofLengths fixedLengths) (.ofLengths fixedDistanceLengths) (bits.remaining + 1)
        bits output
  | 2 => do
      let (literals, distances, bits) ← readCodes bits
      readSymbols literals distances (bits.remaining + 1) bits output
  | _ => none

/-- Read blocks up to the one that is marked as the last. The fuel bounds their number. -/
def readBlocks : Nat → BitReader → ByteArray → Option (ByteArray × BitReader)
  | 0, _, _ => none
  | fuel + 1, bits, output => do
      let (last, bits) ← bits.readBit
      let (output, bits) ← readBlock bits output
      if last = 1 then some (output, bits) else readBlocks fuel bits output

/-- Decompress a text from where the reader stands. -/
def inflate (bits : BitReader) : Option (ByteArray × BitReader) :=
  readBlocks (bits.remaining + 1) bits .empty

end CardCatalog.Compression
