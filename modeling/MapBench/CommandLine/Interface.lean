/-!
# `MapBench.CommandLine.Interface`: what a program can be told

A program takes options, each with a long name and perhaps a letter;
some of them take a value. It may take one operand besides. Every
program has an option that asks for help.

* `Interface.usage`, `Interface.help`: how a program is used, in one
  line and at length.
-/

set_option autoImplicit false

namespace MapBench.CommandLine

/-- What is wrong with a value. -/
inductive ValueProblem
  /-- There is none where one is needed. -/
  | missing
  /-- It is refused for a reason. -/
  | invalid (why : String)
  deriving Repr, DecidableEq

/-- A value that an option or an operand takes. -/
structure ValueSpec where
  name : String
  /-- The value of an option that isn't given. -/
  default : Option String
  /-- Whether the next argument is the value whatever it looks
  like. -/
  takesAnything : Bool
  /-- What is wrong with a text, if anything is. -/
  problem : String → Option ValueProblem

/-- An option. -/
structure OptionSpec where
  long : String
  short : Option Char
  value : Option ValueSpec
  help : String

/-- What a program can be told. -/
structure Interface where
  program : String
  about : String
  options : List OptionSpec
  operand : Option ValueSpec
  /-- Whether the help puts each explanation on a line of its own. -/
  wideHelp : Bool

/-- The option that asks for help. -/
def helpOption : OptionSpec := ⟨"help", some 'h', none, "Print help information"⟩

/-- The value of an option that isn't given. -/
def OptionSpec.default (o : OptionSpec) : Option String :=
  o.value.bind ValueSpec.default

/-- An option as it is written, with the name of its value. -/
def OptionSpec.text (o : OptionSpec) : String :=
  "--" ++ o.long ++ (match o.value with
    | some v => " <" ++ v.name ++ ">"
    | none => "")

/-- An operand as it is written. -/
def operandText (v : ValueSpec) : String := "<" ++ v.name ++ ">"

namespace Interface

/-- All options, the one for help first. -/
def allOptions (i : Interface) : List OptionSpec :=
  helpOption :: i.options

/-- The option of a long name. -/
def byLong? (i : Interface) (long : String) : Option OptionSpec :=
  i.allOptions.find? fun o => o.long == long

/-- The option of a letter. -/
def byShort? (i : Interface) (short : Char) : Option OptionSpec :=
  i.allOptions.find? fun o => o.short == some short

/-- The operand as it stands in a usage line, behind a blank. -/
def operandUsage (i : Interface) : String :=
  match i.operand with
  | some v => " " ++ operandText v
  | none => ""

/-- How the program is used, in one line. Options are mentioned if
there are others than the one for help. -/
def usageLine (i : Interface) : String :=
  i.program ++ (if i.options.isEmpty then "" else " [OPTIONS]") ++ i.operandUsage

/-- How the program is used with the options given, in one line. -/
def usageWith (i : Interface) (given : List String) : String :=
  if given.isEmpty then i.usageLine
  else
    i.program ++ String.join (given.map fun long =>
      " " ++ ((i.byLong? long).map OptionSpec.text).getD long) ++ i.operandUsage

/-- A usage line under its title. -/
def titled (line : String) : String :=
  "USAGE:\n    " ++ line

/-- How the program is used. -/
def usage (i : Interface) : String :=
  titled i.usageLine

/-- An option in the help. -/
def optionHelp (i : Interface) (o : OptionSpec) : String :=
  let letter := match o.short with
    | some c => "    -" ++ c.toString ++ ", "
    | none => "        "
  let default := match o.default with
    | some text => " [default: " ++ text ++ "]"
    | none => ""
  letter ++ o.text ++ (if i.wideHelp then "\n            " else "    ") ++ o.help ++ default

/-- The help on the program. Options are sorted by name. -/
def help (i : Interface) : String :=
  let sorted := i.allOptions.mergeSort fun a b => decide (a.long ≤ b.long)
  let entries := sorted.map i.optionHelp
  let operand := match i.operand with
    | some v => "ARGS:\n    " ++ operandText v ++ "    \n\n"
    | none => ""
  i.program ++ " \n" ++ i.about ++ "\n\n" ++ i.usage ++ "\n\n" ++ operand ++ "OPTIONS:\n"
    ++ (if i.wideHelp then "\n\n" else "\n").intercalate entries

end Interface

end MapBench.CommandLine
