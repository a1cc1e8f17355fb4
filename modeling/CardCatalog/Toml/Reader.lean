import CardCatalog.Toml.Number
import CardCatalog.Toml.Table
import CardCatalog.Toml.Text

/-!
# Reading TOML documents

A document is a list of lines: blank ones, assignments and headers. `Toml.parse?` reads the lines and
builds the table they describe. Arrays and inline tables nest less than `nestingLimit` deep, and a
dotted key has fewer parts than that.
-/

namespace CardCatalog.Toml

/-- Neither the nesting of values nor the number of parts of a key reaches this limit. -/
def nestingLimit : Nat :=
  80

/-- Read a key: letters, digits, dashes and underscores, or a text with its quotes. -/
def readKey : Reader String := fun cs =>
  let bare := cs.takeWhile isBareKeyChar
  if bare.isEmpty then readText cs
  else some (String.ofList bare, cs.dropWhile isBareKeyChar)

/-- Read the parts of a dotted key, with space around each. The fuel bounds their number. -/
def readKeyParts : Nat → Reader (List String)
  | 0, _ => none
  | fuel + 1, cs => do
      let (key, rest) ← readKey (skipBlanks cs)
      match skipBlanks rest with
      | '.' :: rest =>
          let (keys, rest) ← readKeyParts fuel rest
          some (key :: keys, rest)
      | rest => some ([key], rest)

/-- Read a dotted key. -/
def readPath : Reader (List String) :=
  readKeyParts (nestingLimit - 1)

/-- Skip space, line breaks and comments between the parts of an array. The fuel bounds the number
of lines. -/
def skipLines : Nat → List Char → Option (List Char)
  | 0, _ => none
  | fuel + 1, cs =>
      match skipBlanks cs with
      | [] => some []
      | c :: rest =>
          if c == '#' then do skipLines fuel (← newline? (skipComment (c :: rest)))
          else if c == '\n' || c == '\r' then do skipLines fuel (← newline? (c :: rest))
          else some (c :: rest)

/-- Skip everything between two parts of an array. -/
def skipBetween (cs : List Char) : Option (List Char) :=
  skipLines (cs.length + 1) cs

/-- Read the items of an array up to its closing bracket. A comma may follow the last item. The fuel
bounds the number of items. -/
def readItems (readItem : Reader Toml) : Nat → Reader (List Toml)
  | 0, _ => none
  | fuel + 1, cs => do
      let cs ← skipBetween cs
      if cs.head? == some ']' then some ([], cs.tail)
      else
        let (item, rest) ← readItem cs
        let rest ← skipBetween rest
        if rest.head? == some ',' then
          let (items, rest) ← readItems readItem fuel rest.tail
          some (item :: items, rest)
        else if rest.head? == some ']' then some ([item], rest.tail)
        else none

/-- Read an assignment: a dotted key, an equals sign and a value, with space around each. -/
def readPair (readItem : Reader Toml) : Reader (List String × Toml) := fun cs => do
  let (path, rest) ← readPath cs
  if rest.head? == some '=' then
    let (value, rest) ← readItem (skipBlanks rest.tail)
    some ((path, value), skipBlanks rest)
  else none

/-- Read the assignments of an inline table up to its closing brace. The fuel bounds their
number. -/
def readPairs (readItem : Reader Toml) : Nat → Reader (List (List String × Toml))
  | 0, _ => none
  | fuel + 1, cs => do
      let (pair, rest) ← readPair readItem cs
      if rest.head? == some ',' then
        let (pairs, rest) ← readPairs readItem fuel rest.tail
        some (pair :: pairs, rest)
      else if rest.head? == some '\x7d' then some ([pair], rest.tail)
      else none

/-- Read an inline table after its opening brace. -/
def readInlineTable (readItem : Reader Toml) : Reader Toml := fun cs => do
  let (pairs, rest) ←
    if (skipBlanks cs).head? == some '\x7d' then some ([], (skipBlanks cs).tail)
    else readPairs readItem (cs.length + 1) cs
  some ((← Slots.assignAll [] pairs).toToml, rest)

/-- Read a value that is neither an array nor an inline table. -/
def readPlain : Reader Toml := fun cs => do
  if cs.head? == some '\x22' || cs.head? == some '\x27' then
    let (value, rest) ← readAnyText cs
    some (.text value, rest)
  else
    match readWord "true" cs, readWord "false" cs with
    | some rest, _ => some (.bool true, rest)
    | none, some rest => some (.bool false, rest)
    | none, none => readNumber cs

/-- Read a value. The first argument bounds the nesting of the arrays and inline tables in it. -/
def readValue : Nat → Reader Toml
  | 0, cs => if cs.head? == some '[' || cs.head? == some '\x7b' then none else readPlain cs
  | depth + 1, cs =>
      if cs.head? == some '[' then do
        let (items, rest) ← readItems (readValue depth) cs.length cs.tail
        some (.array items, rest)
      else if cs.head? == some '\x7b' then readInlineTable (readValue depth) cs.tail
      else readPlain cs

/-- A line of a document that says something: an assignment, the header of a table, or the header of
one more table of an array. -/
inductive Line where
  | pair (path : List String) (value : Toml)
  | header (path : List String)
  | itemHeader (path : List String)

/-- Read a line that says something, up to what follows on it. -/
def readLine (cs : List Char) : Option (Line × List Char) :=
  match cs with
  | '[' :: '[' :: rest => do
      let (path, rest) ← readPath rest
      some (.itemHeader path, ← readWord "]]" rest)
  | '[' :: rest => do
      let (path, rest) ← readPath rest
      some (.header path, ← readWord "]" rest)
  | cs => do
      let ((path, value), rest) ← readPair (readValue (nestingLimit - 1)) cs
      some (.pair path value, rest)

/-- Read the lines of a document. The fuel bounds their number. -/
def readDocumentLines : Nat → List Char → Option (List Line)
  | 0, _ => none
  | fuel + 1, cs =>
      match skipBlanks cs with
      | [] => some []
      | c :: rest =>
          if c == '#' || c == '\n' || c == '\r' then do
            readDocumentLines fuel (← endOfLine? (c :: rest))
          else do
            let (line, rest) ← readLine (c :: rest)
            let lines ← readDocumentLines fuel (← endOfLine? rest)
            some (line :: lines)

/-- The assignments at the front of a list of lines, and the lines from the next header on. -/
def leadingPairs : List Line → List (List String × Toml) × List Line
  | .pair path value :: lines =>
      let (pairs, rest) := leadingPairs lines
      ((path, value) :: pairs, rest)
  | lines => ([], lines)

/-- The lines after the leading assignments are no more than all lines. -/
theorem length_leading_pairs_le (lines : List Line) :
    (leadingPairs lines).2.length ≤ lines.length := by
  induction lines with
  | nil => simp [leadingPairs]
  | cons line lines ih =>
      cases line with
      | pair path value => exact Nat.le_succ_of_le ih
      | header _ | itemHeader _ => exact Nat.le_refl _

/-- Add the sections that the lines describe, each a header with the assignments after it. -/
def addSections (slots : Slots) (lines : List Line) : Option Slots :=
  match lines with
  | [] => some slots
  | .pair _ _ :: _ => none
  | .header path :: rest => do
      have := length_leading_pairs_le rest
      let slots ← slots.updateAt (Slots.openTable · (leadingPairs rest).1) path
      addSections slots (leadingPairs rest).2
  | .itemHeader path :: rest => do
      have := length_leading_pairs_le rest
      let slots ← slots.updateAt (Slots.openItem · (leadingPairs rest).1) path
      addSections slots (leadingPairs rest).2
termination_by lines.length
decreasing_by all_goals simp only [List.length_cons]; omega

/-- The table that lines describe: the assignments before the first header, and the sections. -/
def tableOfLines? (lines : List Line) : Option Toml := do
  let slots ← Slots.assignAll [] (leadingPairs lines).1
  let slots ← addSections slots (leadingPairs lines).2
  some slots.toToml

/-- Read a document. A byte order mark may stand at its start. -/
def parse? (s : String) : Option Toml := do
  let cs := match s.toList with
    | '\ufeff' :: rest => rest
    | cs => cs
  tableOfLines? (← readDocumentLines (cs.length + 1) cs)

end CardCatalog.Toml
