import CardCatalog.Number.Decimal
import CardCatalog.Text.Pattern.Basic

/-!
# Reading patterns

The notation of patterns: literal characters and escapes, `.`, classes between brackets, the
anchors `^` and `$`, groups, alternatives, and the repetitions `*`, `+`, `?` and `{n,m}`. Flags
that ignore case, let `.` match a line feed, or let the anchors match at lines may be set for the
rest of a group. There are no back references and no look-around, so a pattern is always decided
in one pass.
-/

namespace CardCatalog.Text.Pattern

open CardCatalog.Number

/-- The flags in force. -/
structure Flags where
  foldCase : Bool
  lines : Bool
  dotNewline : Bool

/-- Put patterns one after the other. -/
def concat : List Pattern → Pattern
  | [] => .empty
  | [p] => p
  | p :: ps => .sequence p (concat ps)

/-- The digits of ASCII. -/
def digitRanges : List (Nat × Nat) :=
  [(0x30, 0x39)]

/-- The white space of patterns: tab, line feed, form feed, carriage return and space. -/
def spaceRanges : List (Nat × Nat) :=
  [(0x09, 0x0A), (0x0C, 0x0D), (0x20, 0x20)]

/-- The letters, digits and underscore of ASCII. -/
def wordRanges : List (Nat × Nat) :=
  [(0x30, 0x39), (0x41, 0x5A), (0x5F, 0x5F), (0x61, 0x7A)]

/-- The groups of characters that an escaped letter names; a capital negates. -/
def escapedGroup? : Char → Option ClassItem
  | 'd' => some (.group false digitRanges)
  | 'D' => some (.group true digitRanges)
  | 's' => some (.group false spaceRanges)
  | 'S' => some (.group true spaceRanges)
  | 'w' => some (.group false wordRanges)
  | 'W' => some (.group true wordRanges)
  | _ => none

/-- The groups of characters that go by a name inside a class. -/
def namedGroups : List (String × List (Nat × Nat)) :=
  [("alnum", [(0x30, 0x39), (0x41, 0x5A), (0x61, 0x7A)]),
   ("alpha", [(0x41, 0x5A), (0x61, 0x7A)]),
   ("ascii", [(0x00, 0x7F)]),
   ("blank", [(0x09, 0x09), (0x20, 0x20)]),
   ("cntrl", [(0x00, 0x1F), (0x7F, 0x7F)]),
   ("digit", digitRanges),
   ("graph", [(0x21, 0x7E)]),
   ("lower", [(0x61, 0x7A)]),
   ("print", [(0x20, 0x7E)]),
   ("punct", [(0x21, 0x2F), (0x3A, 0x40), (0x5B, 0x60), (0x7B, 0x7E)]),
   ("space", [(0x09, 0x0D), (0x20, 0x20)]),
   ("upper", [(0x41, 0x5A)]),
   ("word", wordRanges),
   ("xdigit", [(0x30, 0x39), (0x41, 0x46), (0x61, 0x66)])]

/-- The value of digits in base eight. -/
def isOctal (c : Char) : Bool :=
  '0' ≤ c && c ≤ '7'

/-- The value of a string of base-sixteen digits, none of them missing. -/
def hexValue? (cs : List Char) : Option Nat :=
  if cs.isEmpty then none
  else cs.foldlM (fun value c => (hexDigitValue c).map (value * 16 + ·.val)) 0

/-- The character with a code, if there is one. -/
def charOfCode? (code : Nat) : Option Char :=
  if code.isValidChar then some (Char.ofNat code) else none

/-- Read what follows a backslash as one character: a letter for a control character, a code in
base eight or sixteen, or an ASCII sign that stands for itself. -/
def readEscapedChar : List Char → Option (Char × List Char)
  | [] => none
  | 'a' :: rest => some ('\x07', rest)
  | 'f' :: rest => some ('\x0c', rest)
  | 'n' :: rest => some ('\n', rest)
  | 'r' :: rest => some ('\r', rest)
  | 't' :: rest => some ('\t', rest)
  | 'v' :: rest => some ('\x0b', rest)
  | 'x' :: '\x7b' :: rest => do
      let digits := rest.takeWhile (· != '\x7d')
      match rest.dropWhile (· != '\x7d') with
      | [] => none
      | _ :: rest => do
          let c ← charOfCode? (← hexValue? digits)
          some (c, rest)
  | 'x' :: high :: low :: rest => do
      let c ← charOfCode? (← hexValue? [high, low])
      some (c, rest)
  | c :: rest =>
      if isOctal c then
        let more := (rest.takeWhile isOctal).take 2
        if c != '0' && more.isEmpty then none
        else do
          let code := (c :: more).foldl (fun value d => value * 8 + (d.toNat - '0'.toNat)) 0
          let c ← charOfCode? code
          some (c, rest.drop more.length)
      else if c.toNat < 128 && !isAsciiLetter c && !isAsciiDigit c then some (c, rest)
      else none

/-- Read one character of a class. -/
def readClassChar : List Char → Option (Char × List Char)
  | [] => none
  | '\\' :: rest => readEscapedChar rest
  | c :: rest => some (c, rest)

/-- Read a named group, after its opening bracket and colon; `none` when no colon and bracket end
the name. -/
def readName (cs : List Char) : Option (List Char × List Char) :=
  let name := cs.takeWhile (· != ':')
  match cs.dropWhile (· != ':') with
  | ':' :: ']' :: rest => some (name, rest)
  | _ => none

/-- The group of a name, negated by a leading `^`. -/
def namedGroup? (name : List Char) : Option ClassItem :=
  match name with
  | '^' :: name => (namedGroups.lookup (String.ofList name)).map (.group true)
  | name => (namedGroups.lookup (String.ofList name)).map (.group false)

/-- Read one character of a class, or a range of characters. -/
def readRange (cs : List Char) : Option (ClassItem × List Char) := do
  let (low, rest) ← readClassChar cs
  match rest with
  | '-' :: next :: rest' =>
      if next = ']' then some (.range low.toNat low.toNat, rest)
      else do
        let (high, rest) ← readClassChar (next :: rest')
        if high < low then none else some (.range low.toNat high.toNat, rest)
  | rest => some (.range low.toNat low.toNat, rest)

/-- Read the parts of a class up to its closing bracket. A closing bracket that stands first is a
part. -/
def readClassItems : Nat → Bool → List Char → Option (List ClassItem × List Char)
  | 0, _, _ => none
  | fuel + 1, first, cs =>
      let more (item : ClassItem) (rest : List Char) : Option (List ClassItem × List Char) := do
        let (items, rest) ← readClassItems fuel false rest
        some (item :: items, rest)
      match cs with
      | [] => none
      | ']' :: rest =>
          if first then do
            let (item, rest) ← readRange cs
            more item rest
          else some ([], rest)
      | '[' :: ':' :: rest =>
          match readName rest with
          | some (name, rest) => do more (← namedGroup? name) rest
          | none => do
              let (item, rest) ← readRange cs
              more item rest
      | '\\' :: c :: rest =>
          match escapedGroup? c with
          | some item => more item rest
          | none => do
              let (item, rest) ← readRange cs
              more item rest
      | cs => do
          let (item, rest) ← readRange cs
          more item rest

/-- Read a class after its opening bracket. -/
def readClass (flags : Flags) (cs : List Char) : Option (Pattern × List Char) := do
  let (negated, cs) := match cs with
    | '^' :: rest => (true, rest)
    | cs => (false, cs)
  let (items, rest) ← readClassItems (cs.length + 1) true cs
  some (.char (.ofClass negated flags.foldCase items), rest)

/-- The greatest number of repetitions that may be asked for. -/
def maxRepetitions : Nat :=
  1000

/-- Read the bounds of a repetition after the opening brace; `none` when there are none. -/
def readBounds (cs : List Char) : Option ((Nat × Option Nat) × List Char) :=
  let digits := cs.takeWhile isAsciiDigit
  if digits.isEmpty then none
  else
    match cs.dropWhile isAsciiDigit with
    | '\x7d' :: rest => some ((natOfDigits digits, some (natOfDigits digits)), rest)
    | ',' :: '\x7d' :: rest => some ((natOfDigits digits, none), rest)
    | ',' :: rest =>
        let more := rest.takeWhile isAsciiDigit
        match more, rest.dropWhile isAsciiDigit with
        | _ :: _, '\x7d' :: rest => some ((natOfDigits digits, some (natOfDigits more)), rest)
        | _, _ => none
    | _ => none

/-- The bounds of a repetition make sense. -/
def boundsFit (least : Nat) (most : Option Nat) : Bool :=
  least ≤ maxRepetitions && most.all fun most => least ≤ most && most ≤ maxRepetitions

/-- Read a repetition sign, if one follows. -/
def readRepetition : List Char → Option ((Nat × Option Nat) × List Char)
  | '*' :: rest => some ((0, none), rest)
  | '+' :: rest => some ((1, none), rest)
  | '?' :: rest => some ((0, some 1), rest)
  | '\x7b' :: rest => readBounds rest
  | _ => none

/-- Read the repetition after an item, at most one. A question mark after it changes which match
is preferred, not whether there is one. -/
def readRepeated (item : Pattern) (cs : List Char) : Option (Pattern × List Char) :=
  match readRepetition cs with
  | none => some (item, cs)
  | some ((least, most), rest) =>
      let rest := match rest with
        | '?' :: rest => rest
        | rest => rest
      if boundsFit least most && (readRepetition rest).isNone then
        some (.repeat item least most, rest)
      else none

/-- Read flags up to the colon or the parenthesis after them; `negative` is whether a minus sign
has been passed. The result tells whether a group follows. -/
def readFlags (flags : Flags) (negative : Bool) : List Char → Option (Flags × Bool × List Char)
  | [] => none
  | ':' :: rest => some (flags, true, rest)
  | ')' :: rest => some (flags, false, rest)
  | 'i' :: rest => readFlags { flags with foldCase := !negative } negative rest
  | 'm' :: rest => readFlags { flags with lines := !negative } negative rest
  | 's' :: rest => readFlags { flags with dotNewline := !negative } negative rest
  | 'U' :: rest => readFlags flags negative rest
  | '-' :: rest => if negative then none else readFlags flags true rest
  | _ :: _ => none

/-- Read the name of a group up to its closing angle bracket. -/
def readGroupName (cs : List Char) : Option (List Char) :=
  let name := cs.takeWhile (· != '>')
  if name.isEmpty || !name.all Cursor.isWordChar then none
  else
    match cs.dropWhile (· != '>') with
    | [] => none
    | _ :: rest => some rest

/-- A literal character. -/
def literalChar (flags : Flags) (c : Char) : Pattern :=
  .char (.one c flags.foldCase)

/-- Read what follows a backslash. -/
def readEscape (flags : Flags) : List Char → Option (Pattern × List Char)
  | 'A' :: rest => some (.assertion .textStart, rest)
  | 'z' :: rest => some (.assertion .textEnd, rest)
  | 'b' :: rest => some (.assertion .wordBoundary, rest)
  | 'B' :: rest => some (.assertion .noWordBoundary, rest)
  | [] => none
  | c :: rest =>
      match escapedGroup? c with
      | some item => some (.char (.ofClass false flags.foldCase [item]), rest)
      | none => do
          let (d, rest) ← readEscapedChar (c :: rest)
          some (literalChar flags d, rest)

/-- Read literal text up to the escape that ends it, or to the end. -/
def readVerbatim : List Char → List Char × List Char
  | [] => ([], [])
  | '\\' :: 'E' :: rest => ([], rest)
  | c :: rest =>
      let (text, rest) := readVerbatim rest
      (c :: text, rest)

mutual

/-- Read alternatives up to a closing parenthesis or the end. -/
def readChoice : Nat → Flags → List Char → Option (Pattern × List Char)
  | 0, _, _ => none
  | fuel + 1, flags, cs => do
      let (items, flags, rest) ← readItems fuel flags cs
      match rest with
      | '|' :: rest =>
          let (right, rest) ← readChoice fuel flags rest
          some (.choice (concat items) right, rest)
      | rest => some (concat items, rest)

/-- Read a group after its opening parenthesis and whatever introduces it. -/
def readGroup : Nat → Flags → List Char → Option (Pattern × List Char)
  | 0, _, _ => none
  | fuel + 1, flags, cs => do
      let (inner, rest) ← readChoice fuel flags cs
      match rest with
      | ')' :: rest => some (inner, rest)
      | _ => none

/-- Read items up to a bar, a closing parenthesis or the end. -/
def readItems : Nat → Flags → List Char → Option (List Pattern × Flags × List Char)
  | 0, _, _ => none
  | fuel + 1, flags, cs =>
      let more (item : Pattern) (rest : List Char) :
          Option (List Pattern × Flags × List Char) := do
        let (item, rest) ← readRepeated item rest
        let (items, flags, rest) ← readItems fuel flags rest
        some (item :: items, flags, rest)
      match cs with
      | [] => some ([], flags, [])
      | '|' :: rest => some ([], flags, '|' :: rest)
      | ')' :: rest => some ([], flags, ')' :: rest)
      | '*' :: _ => none
      | '+' :: _ => none
      | '?' :: _ => none
      | '\x7b' :: rest =>
          if (readBounds rest).isSome then none else more (literalChar flags '\x7b') rest
      | '.' :: rest => more (.char (.any flags.dotNewline)) rest
      | '^' :: rest => more (.assertion (if flags.lines then .lineStart else .textStart)) rest
      | '$' :: rest => more (.assertion (if flags.lines then .lineEnd else .textEnd)) rest
      | '[' :: rest => do
          let (item, rest) ← readClass flags rest
          more item rest
      | '(' :: '?' :: 'P' :: '<' :: rest => do
          let (item, rest) ← readGroup fuel flags (← readGroupName rest)
          more item rest
      | '(' :: '?' :: '<' :: rest => do
          let (item, rest) ← readGroup fuel flags (← readGroupName rest)
          more item rest
      | '(' :: '?' :: rest => do
          let (inner, grouped, rest) ← readFlags flags false rest
          if grouped then do
            let (item, rest) ← readGroup fuel inner rest
            more item rest
          else readItems fuel inner rest
      | '(' :: rest => do
          let (item, rest) ← readGroup fuel flags rest
          more item rest
      | '\\' :: 'Q' :: rest =>
          let (text, rest) := readVerbatim rest
          match text.reverse with
          | [] => readItems fuel flags rest
          | last :: before => do
              let (item, rest) ← readRepeated (literalChar flags last) rest
              let (items, flags, rest) ← readItems fuel flags rest
              some (before.reverse.map (literalChar flags) ++ item :: items, flags, rest)
      | '\\' :: rest => do
          let (item, rest) ← readEscape flags rest
          more item rest
      | c :: rest => more (literalChar flags c) rest

end

/-- Read a whole pattern. -/
def parse? (foldCase : Bool) (s : String) : Option Pattern := do
  let cs := s.toList
  let (pattern, rest) ← readChoice (3 * cs.length + 3) ⟨foldCase, false, false⟩ cs
  if rest.isEmpty then some pattern else none

end CardCatalog.Text.Pattern
