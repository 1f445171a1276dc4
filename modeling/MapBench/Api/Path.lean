/-!
# `MapBench.Api.Path`: the paths of the API

Each pool, object and map has a path, and so has the count of a map's
entries. Names go into paths as they are.
-/

set_option autoImplicit false

namespace MapBench.Api

/-- The path of a pool. -/
def poolPath (pool : String) : String :=
  "/v1/pools/" ++ pool

/-- The path of an object. -/
def objectPath (pool object : String) : String :=
  poolPath pool ++ "/objects/" ++ object

/-- The path of an object's map. -/
def mapPath (pool object : String) : String :=
  objectPath pool object ++ "/omap"

/-- The path of the number of entries in an object's map. -/
def countPath (pool object : String) : String :=
  mapPath pool object ++ "/count"

/-- The pieces of a request's path. The query is not part of it, and
neither is a single slash at the end. There are none if the path
doesn't begin with a slash or has an empty piece. -/
def pieces? (target : String) : Option (List String) :=
  match target.toList.takeWhile fun c => c ≠ '?' ∧ c ≠ '#' with
  | '/' :: path =>
    let pieces := (path.splitOn '/').map String.ofList
    -- One slash at the end leaves an empty piece behind it.
    let pieces := if pieces.getLast? = some "" then pieces.dropLast else pieces
    if pieces.contains "" then none else some pieces
  | _ => none

end MapBench.Api
