import CardCatalog.Text.LetterCase

/-!
# Colors of mana

The five colors, their one-letter codes, and the reading of a color value: the name of a color
combination stands for its colors, and anything else is read letter by letter.
-/

namespace CardCatalog

open CardCatalog.Text

/-- One of the five colors of mana, in their customary order. -/
inductive Color where
  | white
  | blue
  | black
  | red
  | green
deriving DecidableEq

namespace Color

/-- The five colors in their customary order. -/
def all : List Color :=
  [.white, .blue, .black, .red, .green]

/-- The code of a color, as card data writes it. -/
def code : Color → String
  | .white => "W"
  | .blue => "U"
  | .black => "B"
  | .red => "R"
  | .green => "G"

/-- The color with this code, exactly as card data writes it. -/
def ofCode? (s : String) : Option Color :=
  all.find? fun color => color.code == s

/-- The color with this letter, in either ASCII case. -/
def ofLetter? (c : Char) : Option Color :=
  match asciiLower c with
  | 'w' => some .white
  | 'u' => some .blue
  | 'b' => some .black
  | 'r' => some .red
  | 'g' => some .green
  | _ => none

/-- The named combinations: the colors themselves, colorlessness, the pairs, and the triples. -/
def combinations : List (String × List Color) :=
  [("white", [.white]), ("blue", [.blue]), ("black", [.black]), ("red", [.red]),
   ("green", [.green]), ("colorless", []),
   ("azorius", [.white, .blue]), ("dimir", [.blue, .black]), ("rakdos", [.black, .red]),
   ("gruul", [.red, .green]), ("selesnya", [.green, .white]), ("orzhov", [.white, .black]),
   ("izzet", [.blue, .red]), ("golgari", [.black, .green]), ("boros", [.red, .white]),
   ("simic", [.green, .blue]),
   ("bant", [.green, .white, .blue]), ("esper", [.white, .blue, .black]),
   ("grixis", [.blue, .black, .red]), ("jund", [.black, .red, .green]),
   ("naya", [.red, .green, .white]),
   ("abzan", [.white, .black, .green]), ("jeskai", [.blue, .red, .white]),
   ("sultai", [.black, .green, .blue]), ("mardu", [.red, .white, .black]),
   ("temur", [.green, .blue, .red])]

/-- The colors of the named combination, for a lower-case name. -/
def ofCombination? (name : String) : Option (List Color) :=
  combinations.lookup name

/-- Add a color at the end of a list that lacks it. -/
def addNew (colors : List Color) (color : Color) : List Color :=
  if color ∈ colors then colors else colors ++ [color]

/-- The colors whose letters occur in a text, in the order of their first occurrence. -/
def ofLetters (cs : List Char) : List Color :=
  (cs.filterMap ofLetter?).foldl addNew []

/-- The colors that a value stands for: those of a named combination, in any case, or else those
whose letters occur in it. No color at all means colorless. -/
def parse (value : String) : List Color :=
  let lowered := toLower value
  (ofCombination? lowered).getD (ofLetters lowered.toList)

/-- The colors in their customary order, repetitions kept. -/
def sort (colors : List Color) : List Color :=
  all.flatMap fun color => colors.filter (· == color)

end Color

end CardCatalog
