import CardCatalog.Text.Ascii
import CardCatalog.Text.CaseRun
import CardCatalog.Text.EscapedTable

/-!
# Quoted texts

A quoted text stands between double quotes and shows every character: a quote, a backslash and
the common control characters by a short escape, any other character without a visible form of
its own by its code point, and the rest as they are.
-/

namespace CardCatalog.Text

/-- The digits of a number in base sixteen, lower-case and without padding. -/
def hexDigits (n : Nat) : List Char :=
  Nat.toDigits 16 n

/-- The character has no visible form of its own, or would join the one before it. -/
def needsEscape (c : Char) : Bool :=
  if c.toNat < 128 then c.toNat < 32 || c.toNat == 127 else inRanges escapedRanges c

/-- How a character is shown between quotes. -/
def showChar (c : Char) : List Char :=
  if c == '"' then ['\\', '"']
  else if c == '\\' then ['\\', '\\']
  else if c == '\n' then ['\\', 'n']
  else if c == '\r' then ['\\', 'r']
  else if c == '\t' then ['\\', 't']
  else if c.toNat == 0 then ['\\', '0']
  else if needsEscape c then ['\\', 'u', '\x7b'] ++ hexDigits c.toNat ++ ['\x7d']
  else [c]

/-- The text between double quotes, with what cannot be seen escaped. -/
def quoted (s : String) : String :=
  String.ofList ('"' :: s.toList.flatMap showChar ++ ['"'])

end CardCatalog.Text
