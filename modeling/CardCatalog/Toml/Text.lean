import CardCatalog.Toml.Basic

/-!
# Texts in TOML

A text stands between quotes, in which a backslash starts an escape, or literally between
apostrophes. With three of either around it, it may run over several lines; a line break directly
after the opening ones does not count. `writeText` writes a text between quotes.
-/

namespace CardCatalog.Toml

open CardCatalog.Text

/-- The digits that write a character as four or eight base-sixteen digits. -/
def charOfCode? (digits : List Char) : Option Char := do
  let code := (← digits.mapM hexDigitValue).foldl (fun code digit => code * 16 + digit.val) 0
  if code.isValidChar then some (Char.ofNat code) else none

/-- Read what follows a backslash as one character. -/
def readEscape : Reader Char
  | [] => none
  | c :: rest =>
      if c == 'b' then some ('\x08', rest)
      else if c == 't' then some ('\t', rest)
      else if c == 'n' then some ('\n', rest)
      else if c == 'f' then some ('\x0c', rest)
      else if c == 'r' then some ('\r', rest)
      else if c == '\x22' then some ('\x22', rest)
      else if c == '\\' then some ('\\', rest)
      else if c == 'u' ∧ 4 ≤ rest.length then
        (charOfCode? (rest.take 4)).map (·, rest.drop 4)
      else if c == 'U' ∧ 8 ≤ rest.length then
        (charOfCode? (rest.take 8)).map (·, rest.drop 8)
      else none

/-- Put a character in front of a text that has been read. -/
def withChar (c : Char) (result : Option (List Char × List Char)) :
    Option (List Char × List Char) :=
  result.map fun (cs, rest) => (c :: cs, rest)

/-- Read a text on one line up to its closing quote. The fuel bounds the number of characters. -/
def readQuotedChars : Nat → Reader (List Char)
  | 0, _ => none
  | _ + 1, [] => none
  | fuel + 1, c :: rest =>
      if c == '\x22' then some ([], rest)
      else if c == '\\' then do
        let (escaped, rest) ← readEscape rest
        withChar escaped (readQuotedChars fuel rest)
      else if isPrintable c then withChar c (readQuotedChars fuel rest)
      else none

/-- Read a literal text on one line up to its closing apostrophe. -/
def readLiteralChars : Reader (List Char)
  | [] => none
  | c :: rest =>
      if c == '\x27' then some ([], rest)
      else if isPrintable c then withChar c (readLiteralChars rest)
      else none

/-- Read the quotes at the end of a text on several lines, where three or more stand together: up
to two of them belong to the text. -/
def closing (quote : Char) (cs : List Char) : List Char × List Char :=
  let run := cs.takeWhile (· == quote)
  let kept := min (run.length - 3) 2
  (run.take kept, cs.drop (kept + 3))

/-- Three quotes or more stand at the front. -/
def closesHere (quote : Char) (cs : List Char) : Bool :=
  3 ≤ (cs.takeWhile (· == quote)).length

/-- Skip space and line breaks. -/
def skipSpace : List Char → List Char
  | '\r' :: '\n' :: rest => skipSpace rest
  | c :: rest => if isBlank c || c == '\n' then skipSpace rest else c :: rest
  | [] => []

/-- Read a text on several lines up to its closing quotes. In one with escapes, a backslash at the
end of a line joins it to the next word. The fuel bounds the number of characters. -/
def readLines (quote : Char) (escapes : Bool) : Nat → Reader (List Char)
  | 0, _ => none
  | _ + 1, [] => none
  | fuel + 1, c :: rest =>
      if closesHere quote (c :: rest) then some (closing quote (c :: rest))
      else if c == '\\' && escapes then
        if (newline? (skipBlanks rest)).isSome then
          readLines quote escapes fuel (skipSpace rest)
        else do
          let (escaped, rest) ← readEscape rest
          withChar escaped (readLines quote escapes fuel rest)
      else
        match newline? (c :: rest) with
        | some rest => withChar '\n' (readLines quote escapes fuel rest)
        | none =>
            if isPrintable c then withChar c (readLines quote escapes fuel rest) else none

/-- Skip a line break, if one stands here. -/
def skipNewline (cs : List Char) : List Char :=
  (newline? cs).getD cs

/-- A text that has been read, as a string. -/
def asString (result : Option (List Char × List Char)) : Option (String × List Char) :=
  result.map fun (cs, rest) => (String.ofList cs, rest)

/-- Read a text on one line, with its quotes. -/
def readText : Reader String
  | '\x22' :: rest => asString (readQuotedChars (rest.length + 1) rest)
  | '\x27' :: rest => asString (readLiteralChars rest)
  | _ => none

/-- Read a text on one or several lines, with its quotes. -/
def readAnyText : Reader String
  | '\x22' :: '\x22' :: '\x22' :: rest =>
      let rest := skipNewline rest
      asString (readLines '\x22' true (rest.length + 1) rest)
  | '\x27' :: '\x27' :: '\x27' :: rest =>
      let rest := skipNewline rest
      asString (readLines '\x27' false (rest.length + 1) rest)
  | cs => readText cs

/-- How a character is written between quotes: a control character by its code, and what has a
meaning there after a backslash. -/
def escapeChar (c : Char) : List Char :=
  if c == '\x22' || c == '\\' then ['\\', c]
  else if c.toNat < 32 || c.toNat == 127 then
    ['\\', 'u', '0', '0', hexDigit (lastHexDigit (c.toNat / 16)), hexDigit (lastHexDigit c.toNat)]
  else [c]

/-- A text between quotes. -/
def writeText (s : String) : String :=
  String.ofList ('\x22' :: s.toList.flatMap escapeChar ++ ['\x22'])

end CardCatalog.Toml
