import CardCatalog.Text.LetterCase

/-!
# Patterns and what they match

A pattern describes a set of texts. `Pattern.advance` follows a pattern from a set of positions in
a text to the positions where it can end; `Pattern.matchesIn` asks whether it matches anywhere.
-/

namespace CardCatalog.Text

/-- A part of a character class: a range, or a group of ranges that may be negated. -/
inductive ClassItem where
  | range (low high : Nat)
  | group (negated : Bool) (ranges : List (Nat × Nat))
deriving DecidableEq

/-- A set of characters. A folded set holds every character that differs from one of its own only
in case. -/
inductive CharSet where
  | one (c : Char) (folded : Bool)
  | any (newline : Bool)
  | ofClass (negated folded : Bool) (items : List ClassItem)
deriving DecidableEq

/-- The characters that case folding sends to the same representative as this one. -/
def foldClass (c : Char) : List Char :=
  let representative := foldChar c
  let code : Int := representative.toNat
  let beyondAscii := caseFoldRuns.filterMap fun run =>
    let source := (code - run.shift).toNat
    if run.covers source then some (Char.ofNat source) else none
  representative :: asciiUpper representative :: beyondAscii

/-- The character lies in one of the ranges, or differs only in case from one that does. -/
def inRangesFolded (folded : Bool) (ranges : List (Nat × Nat)) (c : Char) : Bool :=
  if folded then (foldClass c).any (inRanges ranges) else inRanges ranges c

/-- The character belongs to the part of a class. -/
def ClassItem.contains (folded : Bool) (c : Char) : ClassItem → Bool
  | .range low high => inRangesFolded folded [(low, high)] c
  | .group negated ranges => negated != inRangesFolded folded ranges c

/-- The character belongs to the set. -/
def CharSet.contains (c : Char) : CharSet → Bool
  | .one d folded => if folded then foldChar c == foldChar d else c == d
  | .any newline => newline || c != '\n'
  | .ofClass negated folded items => negated != items.any (·.contains folded c)

/-- A condition on a position that reads no character. -/
inductive Assertion where
  | textStart
  | textEnd
  | lineStart
  | lineEnd
  | wordBoundary
  | noWordBoundary
deriving DecidableEq

/-- A pattern. -/
inductive Pattern where
  | empty
  | char (set : CharSet)
  | assertion (condition : Assertion)
  | sequence (first second : Pattern)
  | choice (left right : Pattern)
  | «repeat» (body : Pattern) (least : Nat) (most : Option Nat)
deriving DecidableEq

/-- A position in a text: its index, the character before it and the text after it. -/
structure Cursor where
  index : Nat
  before : Option Char
  rest : List Char
deriving DecidableEq

namespace Cursor

/-- The letters, digits and underscore of ASCII. -/
def isWordChar (c : Char) : Bool :=
  isAsciiLetter c || isAsciiDigit c || c == '_'

/-- The position after the next character, if that belongs to the set. -/
def step? (set : CharSet) (cursor : Cursor) : Option Cursor :=
  match cursor.rest with
  | [] => none
  | c :: rest => if set.contains c then some ⟨cursor.index + 1, some c, rest⟩ else none

/-- The position fulfils the condition. -/
def fulfils (cursor : Cursor) : Assertion → Bool
  | .textStart => cursor.before.isNone
  | .textEnd => cursor.rest.isEmpty
  | .lineStart => cursor.before.all (· == '\n')
  | .lineEnd => cursor.rest.head?.all (· == '\n')
  | .wordBoundary => cursor.before.any isWordChar != cursor.rest.head?.any isWordChar
  | .noWordBoundary => cursor.before.any isWordChar == cursor.rest.head?.any isWordChar

/-- Every position of a text from a given one on. -/
def following (index : Nat) (before : Option Char) : List Char → List Cursor
  | [] => [⟨index, before, []⟩]
  | c :: rest => ⟨index, before, c :: rest⟩ :: following (index + 1) (some c) rest

/-- Add the positions that a set lacks, and return the new ones as well. -/
def addNew (seen : List Cursor) : List Cursor → List Cursor × List Cursor
  | [] => (seen, [])
  | cursor :: cursors =>
      if seen.any (·.index == cursor.index) then addNew seen cursors
      else
        let (seen, new) := addNew (cursor :: seen) cursors
        (seen, cursor :: new)

end Cursor

namespace Pattern

/-- The positions reached from `frontier` by at most `rounds` rounds, together with those already
seen. A round that reaches nothing new is the last. -/
def reach (round : List Cursor → List Cursor) : Nat → List Cursor → List Cursor → List Cursor
  | 0, seen, _ => seen
  | rounds + 1, seen, frontier =>
      match Cursor.addNew seen (round frontier) with
      | (seen, []) => seen
      | (seen, new) => reach round rounds seen new

/-- Apply a function a number of times. -/
def iterate (round : List Cursor → List Cursor) : Nat → List Cursor → List Cursor
  | 0, cursors => cursors
  | rounds + 1, cursors => iterate round rounds (round cursors)

/-- The positions where a pattern can end that starts at one of the given positions. -/
def advance : Pattern → List Cursor → List Cursor
  | .empty, cursors => cursors
  | .char set, cursors => cursors.filterMap (·.step? set)
  | .assertion condition, cursors => cursors.filter (·.fulfils condition)
  | .sequence first second, cursors => second.advance (first.advance cursors)
  | .choice left right, cursors => (Cursor.addNew (left.advance cursors) (right.advance cursors)).1
  | .repeat body least most, cursors =>
      let start := iterate body.advance least cursors
      let longest := (start.map (·.rest.length)).foldl max 0
      let rounds := match most with
        | some most => min (most - least) (longest + 1)
        | none => longest + 1
      reach body.advance rounds start start

/-- The pattern matches somewhere in the text. -/
def matchesIn (pattern : Pattern) (text : String) : Bool :=
  !(pattern.advance (Cursor.following 0 none text.toList)).isEmpty

end Pattern

end CardCatalog.Text
