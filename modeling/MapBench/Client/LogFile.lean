/-!
# `MapBench.Client.LogFile`: where the log goes

The path of the log may mention variables of the environment, in the
form `$ENV` with a name in braces behind it. A variable that isn't
set stays as it is written.
-/

set_option autoImplicit false

namespace MapBench.LogFile

/-- What announces a variable. -/
def mark : String := "$ENV\x7b"

/-- Can a name hold this character? -/
def inName (c : Char) : Bool :=
  c.isAlphanum || c == '_' || c == '.'

/-- A name with a brace behind it, and the text behind that. -/
def name? (piece : String) : Option (String × String) :=
  let (name, rest) := piece.toList.span inName
  match name, rest with
  | c :: _, '\x7d' :: rest =>
    -- A point may stand in a name, but not begin it.
    if c = '.' then none else some (String.ofList name, String.ofList rest)
  | _, _ => none

variable {m : Type → Type} [Monad m]

/-- A piece behind a mark, with the value of its variable. -/
def expandPiece (value : String → m (Option String)) (piece : String) : m String := do
  match name? piece with
  | none => return mark ++ piece
  | some (name, rest) =>
    match ← value name with
    | some text => return text ++ rest
    | none => return mark ++ piece

/-- A path with the values of its variables. -/
def expand (value : String → m (Option String)) (path : String) : m String := do
  match path.splitOn mark with
  | first :: pieces => return first ++ String.join (← pieces.mapM (expandPiece value))
  | [] => return path

end MapBench.LogFile
