import CardCatalog.Compression.Bits

/-!
# Prefix codes

A prefix code gives each symbol a word of bits, no word beginning another one. It is determined by
the lengths of the words: shorter words come before longer ones, and words of the same length are
consecutive, in the order of their symbols.
-/

namespace CardCatalog.Compression

/-- No word is longer. -/
def maxWordLength : Nat :=
  15

/-- A prefix code: the number of words of each length, and the symbols in the order of their
words. -/
structure PrefixCode where
  counts : Array Nat
  symbols : Array Nat

namespace PrefixCode

/-- The code whose words have these lengths, one for each symbol; a symbol of length zero has no
word. -/
def ofLengths (lengths : List Nat) : PrefixCode where
  counts := ((List.range (maxWordLength + 1)).map fun length => lengths.count length).toArray
  symbols := ((List.range maxWordLength).flatMap fun length =>
    (lengths.zipIdx.filter fun entry => entry.1 == length + 1).map (·.2)).toArray

/-- The words do not need more room than there is: at each length, what is left of it is not
negative. -/
def isRealizable (code : PrefixCode) : Bool :=
  ((List.range maxWordLength).foldl (fun (room : Int) length =>
    if room < 0 then room else 2 * room - (code.counts.getD (length + 1) 0 : Nat)) 1) ≥ 0

/-- Read a word, given what has been read of it as a number, the number of the first word of this
length, and the number of shorter words. -/
def readWord (code : PrefixCode) (bits : BitReader) (value first shorter : Nat) :
    List Nat → Option (Nat × BitReader)
  | [] => none
  | length :: lengths => do
      let (bit, bits) ← bits.readBit
      let value := 2 * value + bit
      let count := code.counts.getD length 0
      if value < first + count then
        let symbol ← code.symbols[shorter + (value - first)]?
        some (symbol, bits)
      else readWord code bits value (2 * (first + count)) (shorter + count) lengths

/-- Read a symbol. -/
def readSymbol (code : PrefixCode) (bits : BitReader) : Option (Nat × BitReader) :=
  code.readWord bits 0 0 0 ((List.range maxWordLength).map (· + 1))

end PrefixCode

end CardCatalog.Compression
