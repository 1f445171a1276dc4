import MapBench.CommandLine.Interface
import MapBench.CommandLine.Similarity
import MapBench.Text.Quoted

/-!
# `MapBench.CommandLine.Parse`: reading arguments

Arguments are read one after another. An option that takes a value
waits for it; what it got is checked when the next option comes or at
the end, and an argument that nobody knows is reported before that.
`--` ends the options.

* `Interface.parse`: what the arguments say, or what is wrong with
  them.
* `UsageError.message`: what is said about them.
-/

set_option autoImplicit false

namespace MapBench.CommandLine

/-- What ends the reading of arguments. -/
inductive UsageError
  /-- Help was asked for. -/
  | help
  /-- An argument that is not known, perhaps an option that looks like
  it, and how the program is used. -/
  | unknown (argument : String) (similar : Option String) (usage : String)
  /-- A value that is refused. -/
  | invalidValue (text target why : String)
  /-- A value that is missing. -/
  | missingValue (target : String)
  /-- A value for an option that takes none. -/
  | needlessValue (text target usage : String)
  /-- An operand that is missing. -/
  | missingOperand (target usage : String)
  deriving Repr, DecidableEq

/-- The hint at the end of a message. -/
def helpHint : String := "\n\nFor more information try --help"

/-- What is said about wrong arguments. -/
def UsageError.message : UsageError → String
  | help => ""
  | unknown argument similar usage =>
    "Found argument '" ++ argument ++ "' which wasn't expected, or isn't valid in this context"
      ++ (match similar with
        | some long => "\n\n\tDid you mean '--" ++ long ++ "'?"
        | none => "")
      ++ (if argument.startsWith "-" then
          "\n\n\tIf you tried to supply \x60" ++ argument
            ++ "\x60 as a value rather than a flag, use \x60-- " ++ argument ++ "\x60"
        else "")
      ++ "\n\n" ++ Interface.titled usage ++ helpHint
  | invalidValue text target why =>
    "Invalid value " ++ quotedText text ++ " for '" ++ target ++ "': " ++ why ++ helpHint
  | missingValue target =>
    "The argument '" ++ target ++ "' requires a value but none was supplied" ++ helpHint
  | needlessValue text target usage =>
    "The value '" ++ text ++ "' was provided to '" ++ target
      ++ "' but it wasn't expecting any more values\n\n" ++ usage ++ helpHint
  | missingOperand target usage =>
    "The following required arguments were not provided:\n    " ++ target ++ "\n\n"
      ++ Interface.titled usage ++ helpHint

/-- Something that was given: an option by its long name, or the
operand, which has none; and the value it has. -/
structure Given where
  long : Option String
  value : Option String
  deriving Repr, DecidableEq

/-- What arguments say: the options and the operand that they give. -/
structure Arguments where
  given : List Given

namespace Arguments

/-- Was an option given? -/
def has (a : Arguments) (long : String) : Bool :=
  a.given.any fun g => g.long == some long

/-- The value given to an option. -/
def valueOf? (a : Arguments) (long : String) : Option String :=
  (a.given.find? fun g => g.long == some long).bind Given.value

/-- The operand. -/
def operand? (a : Arguments) : Option String :=
  (a.given.find? fun g => g.long.isNone).bind Given.value

end Arguments

/-- How far the reading has come. -/
structure Parsing where
  /-- What was given and checked. -/
  given : Array Given
  /-- What was given last and is still to be checked. -/
  pending : Option Given
  /-- Whether that is an option that still waits for its value. -/
  waiting : Bool
  /-- Whether `--` has come. -/
  optionsEnded : Bool

namespace Parsing

/-- Nothing read yet. -/
def start : Parsing := ⟨#[], none, false, false⟩

/-- Add something that is given. If it was given before, that is
forgotten, and what was given last takes its place. -/
def add (p : Parsing) (g : Given) : Parsing :=
  let kept := match p.given.findIdx? (fun h => h.long == g.long), p.given.back? with
    | some i, some last => (p.given.setIfInBounds i last).pop
    | _, _ => p.given
  { p with given := kept.push g }

/-- The options given, in order. -/
def options (p : Parsing) : List String :=
  p.given.toList.filterMap Given.long

/-- Take what is pending for given, without a check. -/
def settle (p : Parsing) : Parsing :=
  match p.pending with
  | some g => { p.add g with pending := none }
  | none => p

/-- Give an argument to the option that waits for it. -/
def giveValue (p : Parsing) (argument : String) : Parsing :=
  { p with
    pending := p.pending.map fun g => { g with value := some argument }
    waiting := false }

end Parsing

namespace Interface

variable (i : Interface)

/-- What takes the value of something given, and how that is
written. -/
def target? (g : Given) : Option (ValueSpec × String) :=
  match g.long with
  | some long => (i.byLong? long).bind fun o => o.value.map fun v => (v, o.text)
  | none => i.operand.map fun v => (v, operandText v)

/-- Check the value of something given. -/
def checkGiven (g : Given) : Except UsageError Unit :=
  match g.value, i.target? g with
  | some text, some (v, target) =>
    match v.problem text with
    | none => .ok ()
    | some .missing => .error (.missingValue target)
    | some (.invalid why) => .error (.invalidValue text target why)
  | _, _ => .ok ()

/-- Check what is pending. -/
def checkPending (p : Parsing) : Except UsageError Parsing := do
  if let some g := p.pending then i.checkGiven g
  return p.settle

/-- An argument that nobody knows. -/
def unknownArgument (argument : String) : UsageError :=
  .unknown argument none i.usageLine

/-- A long option that nobody knows. The usage shows what was given
so far, and the option that looks like this one. -/
def unknownLong (p : Parsing) (long : String) : UsageError :=
  let similar := mostSimilar long (i.allOptions.map OptionSpec.long)
  let given := p.settle.options
  let used := match similar with
    | some s => if given.contains s then given else given ++ [s]
    | none => given
  .unknown ("--" ++ long) similar (i.usageWith used)

/-- Meet an option, with the value that is attached to it, if any. -/
def meet (p : Parsing) (o : OptionSpec) (attached : Option String) :
    Except UsageError Parsing := do
  match o.value, attached with
  | some _, none =>
    -- The value is still to come, and it is checked once it is there.
    let p ← i.checkPending p
    return { p with pending := some ⟨some o.long, none⟩, waiting := true }
  | some _, some text =>
    let p ← i.checkPending p
    let g : Given := ⟨some o.long, some text⟩
    i.checkGiven g
    return { p.add g with waiting := false }
  -- What is pending is not checked before this is reported.
  | none, some text => throw (.needlessValue text o.text (i.usageWith p.options))
  | none, none =>
    let p ← i.checkPending p
    -- Help is given only if all that came before it is right.
    if o.long == helpOption.long then throw .help
    return { p.add ⟨some o.long, none⟩ with waiting := false }

/-- Read an argument that begins with two dashes. -/
def readLong (p : Parsing) (cs : List Char) : Except UsageError Parsing :=
  let long := String.ofList (cs.takeWhile (· ≠ '='))
  let attached := match cs.dropWhile (· ≠ '=') with
    | _ :: text => some (String.ofList text)
    | [] => none
  match i.byLong? long with
  | some o => i.meet p o attached
  | none => .error (i.unknownLong p long)

/-- Read an argument that begins with one dash: letters of options,
the last of which may have its value attached. -/
def readShort (p : Parsing) : List Char → Except UsageError Parsing
  | [] => .ok p
  | c :: cs =>
    match i.byShort? c with
    | none => .error (i.unknownArgument ("-" ++ c.toString))
    | some o =>
      if o.value.isSome then
        -- The rest of the argument is the value, with or without an equals sign.
        i.meet p o (match cs with
          | [] => none
          | '=' :: text => some (String.ofList text)
          | text => some (String.ofList text))
      else do
        let p ← i.meet p o none
        readShort p cs

/-- Read an argument that is no option. -/
def readOperand (p : Parsing) (argument : String) : Except UsageError Parsing :=
  let before := p.given.any (fun g => g.long.isNone) || p.pending.any (fun g => g.long.isNone)
  if i.operand.isSome && !before then do
    let p ← i.checkPending p
    return { p with pending := some ⟨none, some argument⟩, waiting := false }
  else .error (i.unknownArgument argument)

/-- Does an option wait that takes the next argument whatever it looks
like? -/
def takesNext (p : Parsing) : Bool :=
  p.waiting && (p.pending.bind i.target?).any fun t => t.1.takesAnything

/-- Read one argument. -/
def read (p : Parsing) (argument : String) : Except UsageError Parsing :=
  if p.optionsEnded then i.readOperand p argument
  else if i.takesNext p then .ok (p.giveValue argument)
  else
    match argument.toList with
    | ['-', '-'] => .ok { p with optionsEnded := true }
    | '-' :: '-' :: cs => i.readLong p cs
    | '-' :: c :: cs => i.readShort p (c :: cs)
    | _ => if p.waiting then .ok (p.giveValue argument) else i.readOperand p argument

/-- The first option that takes a value and got none. -/
def withoutValue? (given : List Given) : Option String :=
  given.findSome? fun g =>
    match g.value, i.target? g with
    | none, some (_, target) => some target
    | _, _ => none

/-- What arguments say. -/
def parse (arguments : List String) : Except UsageError Arguments := do
  let p ← arguments.foldlM i.read .start
  let last := if p.waiting then p.pending else none
  let p ← i.checkPending p
  let given := p.given.toList
  -- The option at the end is reported before anything else that is missing.
  if let some target := i.withoutValue? last.toList then throw (.missingValue target)
  if let some v := i.operand then
    if !(given.any fun g => g.long.isNone) then
      throw (.missingOperand (operandText v) i.usageLine)
  if let some target := i.withoutValue? given then throw (.missingValue target)
  return ⟨given⟩

end Interface

end MapBench.CommandLine
