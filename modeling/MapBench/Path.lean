/-!
# `MapBench.Path`: the text of paths

A path is text: names between slashes. Repeated slashes, a slash at
the end and a `.` inside a path mean nothing, so the components of a
path leave them out; a `.` at the very beginning is kept, and so is
every `..`.

* `Path.components`: what a path consists of.
* `Path.push`: a path with one more component.
* `Path.parent?`: a path without its last component.
* `Path.expandHome`: a path that begins with `~` moved under a home
  directory.
-/

set_option autoImplicit false

namespace MapBench.Path

/-- A component of a path. -/
inductive Component
  | root
  | current
  | parent
  | name (text : String)
  deriving Repr, DecidableEq

/-- The pieces of a path between its slashes, empty ones included. -/
def segments (path : String) : List String :=
  (path.toList.splitOn '/').map String.ofList

/-- Does a path begin at the root? -/
def isAbsolute (path : String) : Bool :=
  path.toList.head? == some '/'

/-- The component that a piece inside a path is, if any. -/
def inner? (segment : String) : Option Component :=
  if segment = "" ∨ segment = "." then none
  else if segment = ".." then some .parent
  else some (.name segment)

/-- The components of a path. -/
def components (path : String) : List Component :=
  let start : List Component :=
    if isAbsolute path then [.root]
    else if (segments path).head? = some "." then [.current]
    else []
  start ++ (segments path).filterMap inner?

/-- The text of a component. -/
def Component.text : Component → String
  | root => "/"
  | current => "."
  | parent => ".."
  | name text => text

/-- A path with one more component behind it. The root takes the
place of all that was there. -/
def push (path : String) : Component → String
  | .root => "/"
  | c =>
    -- The empty path takes no slash, since that would make it a path from the root.
    if path.toList.getLast?.all (· == '/') then path ++ c.text else path ++ "/" ++ c.text

/-- A path with several components behind it. -/
def extend (path : String) (cs : List Component) : String :=
  cs.foldl push path

/-- Leave out the pieces at the end that mean nothing. The piece that
a relative path begins with is one of its components even if it is a
dot. -/
def trimEnd (rooted : Bool) (rev : List String) : List String :=
  match rev with
  | [] => []
  | [s] => if s = "" ∨ (rooted ∧ s = ".") then [] else [s]
  | s :: rest => if s = "" ∨ s = "." then trimEnd rooted rest else s :: rest

/-- The path without its last component. The root and the empty path
have none to leave out. -/
def parent? (path : String) : Option String :=
  let rooted := isAbsolute path
  let pieces := if rooted then (segments path).drop 1 else segments path
  match trimEnd rooted pieces.reverse with
  | [] => none
  | _ :: rest =>
    let text := "/".intercalate (trimEnd rooted rest).reverse
    some (if rooted then "/" ++ text else text)

/-- A path that has `~` as its first component, moved under `home`.
Every other path stays as it is, and so does every path if there is
no home. -/
def expandHome (home : Option String) (path : String) : String :=
  match components path, home with
  | .name "~" :: rest, some home => extend home rest
  | _, _ => path

end MapBench.Path
