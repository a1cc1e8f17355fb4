import CardCatalog.Command.Basic
import CardCatalog.Number.Decimal

/-!
# Arguments

The arguments of the program name a command, its operands and its options. An option has a long
form after two dashes and may have a letter after one; letters may stand together, and a value
follows its option directly, after an equals sign, or as the next argument. After two dashes alone,
every argument is an operand. Arguments are read from first to last: a request for help or for the
version counts as soon as it is met, and so does a mistake.
-/

namespace CardCatalog

open CardCatalog.Text CardCatalog.Number

/-- What the arguments ask for: a command, help, or the version. -/
inductive Request where
  | command (command : Command)
  | help
  | version
deriving DecidableEq

namespace Arguments

/-- A name of a command. -/
inductive Verb where
  | create
  | importFile
  | search
  | card
  | keys
  | compile
  | stats
deriving DecidableEq

/-- The command that a word names. -/
def Verb.ofWord? (word : String) : Option Verb :=
  [("init", Verb.create), ("import", .importFile), ("search", .search), ("s", .search),
   ("card", .card), ("keys", .keys), ("compile", .compile), ("c", .compile),
   ("stats", .stats)].lookup word

/-- An option. -/
inductive Switch where
  | verbose
  | help
  | version
  | limit
  | format
  | includeExtras
  | tokens
deriving DecidableEq

namespace Switch

/-- The long form of an option, without its dashes. -/
def word : Switch → String
  | .verbose => "verbose"
  | .help => "help"
  | .version => "version"
  | .limit => "limit"
  | .format => "format"
  | .includeExtras => "include-extras"
  | .tokens => "tokens"

/-- The letter of an option, if it has one. -/
def letter? : Switch → Option Char
  | .verbose => some 'v'
  | .help => some 'h'
  | .version => some 'V'
  | .limit => some 'n'
  | .format => some 'f'
  | .includeExtras => none
  | .tokens => some 't'

/-- The option has a value. -/
def takesValue : Switch → Bool
  | .limit | .format => true
  | _ => false

end Switch

/-- What may follow a word of the command line: options, the values of the format option, and a
number of operands. -/
structure Shape where
  switches : List Switch
  formats : List String
  operands : Nat

/-- What may stand before the command. -/
def openingShape : Shape :=
  ⟨[.verbose, .help, .version], [], 0⟩

/-- What may follow a command. -/
def Verb.shape : Verb → Shape
  | .create | .keys | .stats => ⟨[.verbose, .help], [], 0⟩
  | .importFile | .card => ⟨[.verbose, .help], [], 1⟩
  | .search => ⟨[.verbose, .help, .limit, .format, .includeExtras], ["table", "json"], 1⟩
  | .compile => ⟨[.verbose, .help, .format, .tokens], ["text", "json", "sql"], 1⟩

/-- What has been read so far. -/
structure Given where
  operands : List String
  switches : List Switch
  limit : Option UInt64
  format : Option String

/-- Nothing has been read. -/
def Given.nothing : Given :=
  ⟨[], [], none, none⟩

/-- Why the reading ends before the last argument. -/
inductive Stop where
  | mistake
  | help
  | version
deriving DecidableEq

/-- Read a limit: digits, which a plus sign may precede, whose value fits 64 bits. -/
def readLimit? (value : String) : Option UInt64 :=
  let digits := match value.toList with
    | '+' :: rest => rest
    | cs => cs
  if isDigits digits && natOfDigits digits < 0x10000000000000000 then
    some (UInt64.ofNat (natOfDigits digits))
  else none

namespace Given

/-- Turn an option on. None is given twice, except those that end the reading. -/
def turnOn (given : Given) : Switch → Except Stop Given
  | .help => .error .help
  | .version => .error .version
  | switch =>
      if switch ∈ given.switches then .error .mistake
      else .ok { given with switches := switch :: given.switches }

/-- Give a value to an option, once. -/
def setValue (given : Given) (shape : Shape) (switch : Switch) (value : String) :
    Except Stop Given :=
  match switch, given.limit, given.format, readLimit? value with
  | .limit, none, _, some limit => .ok { given with limit := some limit }
  | .format, _, none, _ =>
      if value ∈ shape.formats then .ok { given with format := some value } else .error .mistake
  | _, _, _, _ => .error .mistake

/-- Add operands. -/
def addOperands (given : Given) (shape : Shape) (operands : List String) : Except Stop Given :=
  if given.operands.length + operands.length ≤ shape.operands then
    .ok { given with operands := given.operands ++ operands }
  else .error .mistake

/-- Read letters that stand together. When the last one is an option that still lacks its value, the
second result names it. -/
def readLetters (given : Given) (shape : Shape) :
    List Char → Except Stop (Given × Option Switch)
  | [] => .ok (given, none)
  | c :: rest =>
      match shape.switches.find? fun switch => switch.letter? == some c with
      | none => .error .mistake
      | some switch =>
          if switch.takesValue then
            match rest with
            | [] => .ok (given, some switch)
            | '=' :: value => do
                .ok (← given.setValue shape switch (String.ofList value), none)
            | value => do .ok (← given.setValue shape switch (String.ofList value), none)
          else do (← given.turnOn switch).readLetters shape rest

/-- Read the long form of an option, with the value attached to it if there is one. When the option
lacks its value, the second result names it. -/
def readWord (given : Given) (shape : Shape) (cs : List Char) :
    Except Stop (Given × Option Switch) :=
  let word := String.ofList (cs.takeWhile (· != '='))
  let attached := (cs.dropWhile (· != '=')).tail?
  match shape.switches.find? fun switch => switch.word == word with
  | none => .error .mistake
  | some switch =>
      match switch.takesValue, attached with
      | true, some value => do .ok (← given.setValue shape switch (String.ofList value), none)
      | true, none => .ok (given, some switch)
      | false, some _ => .error .mistake
      | false, none => do .ok (← given.turnOn switch, none)

end Given

/-- The form of an argument. -/
inductive Form where
  | terminator
  | word (cs : List Char)
  | letters (cs : List Char)
  | operand

/-- The form of an argument. A single dash is an operand. -/
def Form.ofArgument (argument : String) : Form :=
  match argument.toList with
  | ['-'] => .operand
  | ['-', '-'] => .terminator
  | '-' :: '-' :: cs => .word cs
  | '-' :: cs => .letters cs
  | _ => .operand

/-- The argument is an operand by its form. -/
def isOperand (argument : String) : Bool :=
  match Form.ofArgument argument with
  | .operand => true
  | _ => false

/-- Read the arguments after a command. -/
def readRest (shape : Shape) (given : Given) : List String → Except Stop Given
  | [] => .ok given
  | argument :: rest => do
      let (given, pending) ←
        match Form.ofArgument argument with
        | .terminator => return ← given.addOperands shape rest
        | .operand => do .ok (← given.addOperands shape [argument], none)
        | .word cs => given.readWord shape cs
        | .letters cs => given.readLetters shape cs
      match pending, rest with
      | none, rest => readRest shape given rest
      | some switch, value :: rest =>
          if isOperand value then do readRest shape (← given.setValue shape switch value) rest
          else .error .mistake
      | some _, [] => .error .mistake

/-- The command that has been read, unless an operand is missing. -/
def Verb.command? (verb : Verb) (given : Given) : Option Command :=
  match verb, given.operands with
  | .create, [] => some .create
  | .keys, [] => some .keys
  | .stats, [] => some .stats
  | .importFile, [path] => some (.importFile path)
  | .card, [id] => some (.card id)
  | .search, [query] =>
      let format := if given.format = some "json" then .json else .table
      some (.search query given.limit format (.includeExtras ∈ given.switches))
  | .compile, [query] =>
      let format :=
        if given.format = some "json" then .json
        else if given.format = some "sql" then .sql
        else .text
      some (.compile query format (.tokens ∈ given.switches))
  | _, _ => none

/-- Read a request for help on a command, if one is named. -/
def readHelp : List String → Except Stop Request
  | [] => .ok .help
  | [word] =>
      if word = "help" ∨ (Verb.ofWord? word).isSome then .ok .help else .error .mistake
  | _ => .error .mistake

/-- Read the arguments up to the command and after it. -/
def readAll (given : Given) : List String → Except Stop Request
  | [] => .error .mistake
  | argument :: rest => do
      let (given, _) ←
        match Form.ofArgument argument with
        | .terminator => .error .mistake
        | .operand =>
            if argument = "help" then return ← readHelp rest
            match Verb.ofWord? argument with
            | none => .error .mistake
            | some verb =>
                match verb.command? (← readRest verb.shape .nothing rest) with
                | some command => return .command command
                | none => .error .mistake
        | .word cs => given.readWord openingShape cs
        | .letters cs => given.readLetters openingShape cs
      readAll given rest

/-- What the arguments ask for, or `none` when there is a mistake in them. -/
def parse? (arguments : List String) : Option Request :=
  match readAll .nothing arguments with
  | .ok request => some request
  | .error .help => some .help
  | .error .version => some .version
  | .error .mistake => none

end Arguments

end CardCatalog
