import Mathlib.Data.List.Nodup
import Mathlib.Data.List.TakeWhile
import MapBench.Proofs.Api.Path

/-!
# `MapBench.Proofs.Api.Filters`: routes undo paths

A server tries its endpoints one after another. Each is a chain of
filters: a method, and then steps that take a path apart from its
front, segment by segment. A step asks for a fixed name or takes what
it finds as a parameter, and behind the last one nothing may be left.
That is another description of the same paths as the one that clients
write down, and of the same routes as `Route.of?`.

* `Endpoint.match?`, `takers`: what each endpoint makes of a request,
  and which of them take it.
* `params?_eq_some_iff`, `pieces?_eq_some_iff`: both ways to take a path
  apart say how it was put together.
* `takers_eq`: the endpoints and the routes agree.
* `invertsPaths`: a path leads to the endpoint that it was built for,
  with its names, and no other path leads there.
-/

set_option autoImplicit false

namespace MapBench.Api

/-! ### Endpoints -/

/-- A step of a filter chain through a path. -/
inductive Step
  /-- The next segment has to be this name. -/
  | fixed (name : String)
  /-- The next segment is a parameter. It can't be empty. -/
  | parameter
  deriving Repr, DecidableEq

/-- The segment at the front of a path. It ends before the first slash, or
with the path if there is none. -/
def segment (text : List Char) : List Char :=
  text.takeWhile (· ≠ '/')

/-- What is left of a path behind its first segment. The slash goes
with the segment. -/
def behind (text : List Char) : List Char :=
  (text.dropWhile (· ≠ '/')).drop 1

/-- The parameters that steps find in a path. They have to use it
up. -/
def params? : List Step → List Char → Option (List String)
  | [], text => if text = [] then some [] else none
  | .fixed name :: steps, text =>
    if segment text = name.toList then params? steps (behind text) else none
  | .parameter :: steps, text =>
    if segment text = [] then none
    else (params? steps (behind text)).map (String.ofList (segment text) :: ·)

/-- What a server can be asked for. An endpoint is a route without the
names. -/
inductive Endpoint
  | findPool
  | writeObject
  | removeObject
  | writeEntries
  | countEntries
  deriving Repr, DecidableEq

namespace Endpoint

/-- The endpoints in the order in which they are tried. The first that takes
a request handles it. -/
def all : List Endpoint :=
  [findPool, writeObject, removeObject, writeEntries, countEntries]

/-- The method that an endpoint lets through. It is looked at before the
path. -/
def method : Endpoint → String
  | findPool => "GET"
  | writeObject => "PUT"
  | removeObject => "DELETE"
  | writeEntries => "POST"
  | countEntries => "GET"

/-- The steps of an endpoint through a path. Names of pools and objects are
parameters, and all others are fixed. -/
def steps : Endpoint → List Step
  | findPool => [.fixed "v1", .fixed "pools", .parameter]
  | writeObject => [.fixed "v1", .fixed "pools", .parameter, .fixed "objects", .parameter]
  | removeObject => [.fixed "v1", .fixed "pools", .parameter, .fixed "objects", .parameter]
  | writeEntries =>
    [.fixed "v1", .fixed "pools", .parameter, .fixed "objects", .parameter, .fixed "omap"]
  | countEntries =>
    [.fixed "v1", .fixed "pools", .parameter, .fixed "objects", .parameter, .fixed "omap",
      .fixed "count"]

/-- What the handler of an endpoint is asked for with some
parameters. -/
def route? : Endpoint → List String → Option Route
  | findPool, [pool] => some (.findPool pool)
  | writeObject, [pool, object] => some (.writeObject ⟨pool, object⟩)
  | removeObject, [pool, object] => some (.removeObject ⟨pool, object⟩)
  | writeEntries, [pool, object] => some (.writeEntries ⟨pool, object⟩)
  | countEntries, [pool, object] => some (.countEntries ⟨pool, object⟩)
  | _, _ => none

end Endpoint

/-- A path without its query. That is where filters look, and it ends before
the first question mark or number sign. -/
def beforeQuery (path : String) : List Char :=
  path.toList.takeWhile fun c => c ≠ '?' ∧ c ≠ '#'

/-- What an endpoint makes of a method and a path: nothing, or a route
with the parameters from the path. -/
def Endpoint.match? (e : Endpoint) (method path : String) : Option Route :=
  if method = e.method then
    match beforeQuery path with
    | '/' :: text => (params? e.steps text).bind e.route?
    | _ => none
  else none

/-- What all endpoints make of a method and a path. The list is empty if
none of them takes the request. -/
def takers (method path : String) : List Route :=
  Endpoint.all.filterMap fun e => e.match? method path

/-- The endpoint of a route. It is what is left without the names. -/
def Route.endpoint : Route → Endpoint
  | .findPool _ => .findPool
  | .writeObject _ => .writeObject
  | .removeObject _ => .removeObject
  | .writeEntries _ => .writeEntries
  | .countEntries _ => .countEntries

/-- The names that a handler is given, in the order of the parameters. -/
def Route.names : Route → List String
  | .findPool pool => [pool]
  | .writeObject id | .removeObject id | .writeEntries id | .countEntries id => [id.pool, id.object]

/-! ### Steps through a path -/

/-- A name that can stand between slashes. It has none itself, and it isn't
empty. -/
def IsBetweenSlashes (name : String) : Prop :=
  name.toList ≠ [] ∧ '/' ∉ name.toList

/-- The names of steps with the parameters filled in. There is no such list
if there are too many or too few of them. -/
def fill? : List Step → List String → Option (List String)
  | [], [] => some []
  | .fixed name :: steps, params => (fill? steps params).map (name :: ·)
  | .parameter :: steps, param :: params => (fill? steps params).map (param :: ·)
  | _, _ => none

/-- Names with a slash behind each of them. A path may end so, or without
the last slash. -/
def slashed (names : List String) : List Char :=
  names.flatMap fun name => name.toList ++ ['/']

/-- A text consists of names with slashes between them. There may be one
more slash at its end. -/
def Covers (names : List String) (text : List Char) : Prop :=
  text = slashed names ∨ text ++ ['/'] = slashed names

/-- The first name comes first, and then its slash. -/
theorem slashed_cons (name : String) (names : List String) :
    slashed (name :: names) = name.toList ++ '/' :: slashed names := by
  unfold slashed
  simp

/-- If there are names at all, that is the names with slashes between them
and one more at the end. -/
theorem slashed_eq {names : List String} (hne : names ≠ []) :
    slashed names = joined names ++ ['/'] := by
  induction names with
  | nil => exact absurd rfl hne
  | cons name names ih =>
    cases names with
    | nil => simp [slashed, joined]
    | cons next names =>
      rw [slashed_cons, ih (List.cons_ne_nil next names)]
      simp [joined]

/-- An empty piece at the end leaves a slash behind every name. -/
theorem intercalate_concat_nil (names : List String) :
    List.intercalate ['/'] (names.map String.toList ++ [[]]) = slashed names := by
  induction names with
  | nil => rfl
  | cons name names ih =>
    rw [slashed_cons, ← ih]
    cases names <;> simp

/-- The segment before a slash is found as it was written, whatever stands
behind. -/
theorem segment_append {name : List Char} (h : '/' ∉ name) (rest : List Char) :
    segment (name ++ '/' :: rest) = name := by
  unfold segment
  rw [List.takeWhile_append_of_pos fun c hc => by simpa using ne_of_mem_of_not_mem hc h]
  simp

/-- What stands behind the slash is found, too. -/
theorem behind_append {name : List Char} (h : '/' ∉ name) (rest : List Char) :
    behind (name ++ '/' :: rest) = rest := by
  unfold behind
  rw [List.dropWhile_append_of_pos fun c hc => by simpa using ne_of_mem_of_not_mem hc h]
  simp

/-- A path is its first segment, or it goes on behind a slash. So nothing is
lost when the segment is taken off. -/
theorem eq_segment_or (text : List Char) :
    text = segment text ∧ behind text = [] ∨ text = segment text ++ '/' :: behind text := by
  have hsplit := List.takeWhile_append_dropWhile (p := (· ≠ '/')) (l := text)
  unfold segment behind
  cases hrest : text.dropWhile (· ≠ '/') with
  | nil =>
    rw [hrest, List.append_nil] at hsplit
    exact .inl ⟨hsplit.symm, rfl⟩
  | cons c rest =>
    have hc := List.head?_dropWhile_not (· ≠ '/') text
    rw [hrest] at hc hsplit
    obtain rfl : c = '/' := by simpa using hc
    exact .inr hsplit.symm

/-- A text without a slash is its own first segment, and there is nothing
behind it. -/
theorem segment_eq_self {text : List Char} (h : '/' ∉ text) : segment text = text ∧ behind text = [] := by
  rcases eq_segment_or text with ⟨hsegment, hbehind⟩ | hsplit
  · exact ⟨hsegment.symm, hbehind⟩
  · rw [hsplit] at h
    simp at h

/-- A segment has no slash. -/
theorem notMem_segment (text : List Char) : '/' ∉ segment text := by
  unfold segment
  intro hmem
  simpa using List.mem_takeWhile_imp hmem

/-- A text that consists of names begins with the first of them. This is
what one step of the filters does, so whole paths follow by induction on the
steps. -/
theorem covers_cons {name : String} {names : List String} {text : List Char}
    (hname : IsBetweenSlashes name) (hnames : ∀ name ∈ names, IsBetweenSlashes name) :
    Covers (name :: names) text ↔ segment text = name.toList ∧ Covers names (behind text) := by
  unfold Covers
  rw [slashed_cons]
  constructor
  · rintro (rfl | htext)
    · exact ⟨segment_append hname.2 _, .inl (behind_append hname.2 _)⟩
    · -- The slash that is missing stands behind the first name or behind a later one.
      rcases List.eq_nil_or_concat (slashed names) with hlast | ⟨rest, c, hlast⟩
      · rw [hlast] at htext
        obtain rfl := List.append_cancel_right htext
        obtain ⟨hsegment, hbehind⟩ := segment_eq_self hname.2
        exact ⟨hsegment, .inl (by rw [hbehind, hlast])⟩
      · rw [hlast, List.concat_eq_append, ← List.cons_append, ← List.append_assoc] at htext
        obtain ⟨rfl, hc⟩ := List.append_inj' htext rfl
        obtain rfl : '/' = c := by simpa using hc
        rw [segment_append hname.2, behind_append hname.2, hlast, List.concat_eq_append]
        exact ⟨rfl, .inr rfl⟩
  · rintro ⟨hsegment, hbehind⟩
    rcases eq_segment_or text with ⟨htext, hend⟩ | htext
    · rw [hend] at hbehind
      rcases hbehind with hnone | hslash
      · exact .inr (by rw [← hnone, ← hsegment, ← htext])
      · -- No name is empty, so none of them is only a slash.
        cases names with
        | nil => simp [slashed] at hslash
        | cons next names =>
          obtain ⟨hne, -⟩ := hnames next List.mem_cons_self
          rw [slashed_cons] at hslash
          cases hnext : next.toList with
          | nil => exact absurd hnext hne
          | cons c cs => simp [hnext] at hslash
    · rw [htext, hsegment]
      rcases hbehind with hall | hslash
      · exact .inl (by rw [hall])
      · exact .inr (by rw [List.append_assoc, List.cons_append, hslash])

/-- Steps find parameters in exactly the texts that consist of their
names with the parameters filled in. -/
theorem params?_eq_some_iff {steps : List Step} {text : List Char} {params : List String}
    (hfixed : ∀ name, Step.fixed name ∈ steps → IsBetweenSlashes name) :
    params? steps text = some params ↔ ∃ names, fill? steps params = some names ∧
      (∀ name ∈ names, IsBetweenSlashes name) ∧ Covers names text := by
  -- Each step takes one name off the text, and `covers_cons` puts it back.
  induction steps generalizing text params with
  | nil =>
    unfold params? Covers
    cases params with
    | nil => simp [fill?, slashed]
    | cons param params => simp [fill?]
  | cons step steps ih =>
    have ih {text : List Char} {params : List String} : params? steps text = some params ↔ _ :=
      ih fun name hname => hfixed name (List.mem_cons_of_mem step hname)
    cases step with
    | fixed name =>
      have hname := hfixed name List.mem_cons_self
      rw [params?, Option.ite_none_right_eq_some, ih]
      simp only [fill?, Option.map_eq_some_iff]
      constructor
      · rintro ⟨hsegment, names, hfill, hgood, hcovers⟩
        exact ⟨_, ⟨names, hfill, rfl⟩, List.forall_mem_cons.mpr ⟨hname, hgood⟩,
          (covers_cons hname hgood).mpr ⟨hsegment, hcovers⟩⟩
      · rintro ⟨_, ⟨names, hfill, rfl⟩, hgood, hcovers⟩
        have hgood := (List.forall_mem_cons.mp hgood).2
        obtain ⟨hsegment, hrest⟩ := (covers_cons hname hgood).mp hcovers
        exact ⟨hsegment, names, hfill, hgood, hrest⟩
    | parameter =>
      rw [params?, Option.ite_none_left_eq_some, Option.map_eq_some_iff]
      constructor
      · rintro ⟨hne, rest, hrest, rfl⟩
        obtain ⟨names, hfill, hgood, hcovers⟩ := ih.mp hrest
        have hname : IsBetweenSlashes (String.ofList (segment text)) := by
          unfold IsBetweenSlashes
          rw [String.toList_ofList]
          exact ⟨hne, notMem_segment text⟩
        refine ⟨String.ofList (segment text) :: names, by simp [fill?, hfill],
          List.forall_mem_cons.mpr ⟨hname, hgood⟩, (covers_cons hname hgood).mpr ⟨?_, hcovers⟩⟩
        rw [String.toList_ofList]
      · rintro ⟨_, hfill, hgood, hcovers⟩
        cases params with
        | nil => cases hfill
        | cons name params =>
          rw [fill?, Option.map_eq_some_iff] at hfill
          obtain ⟨names, hfill, rfl⟩ := hfill
          obtain ⟨hname, hgood⟩ := List.forall_mem_cons.mp hgood
          obtain ⟨hsegment, hrest⟩ := (covers_cons hname hgood).mp hcovers
          rw [hsegment]
          exact ⟨hname.1, params, ih.mpr ⟨names, hfill, hgood, hrest⟩, by rw [String.ofList_toList]⟩

/-! ### Pieces of a path -/

/-- What is left of some pieces is all of them, or all but an empty one at
the end. -/
theorem eq_of_settled {pieces : List (List Char)} {names : List String}
    (h : settled pieces = some names) :
    pieces = names.map String.toList ∨ pieces = names.map String.toList ++ [[]] := by
  have hback (pieces : List (List Char)) : (pieces.map String.ofList).map String.toList = pieces := by
    simp
  rw [settled, Option.ite_none_left_eq_some] at h
  obtain ⟨-, hnames⟩ := h
  obtain rfl := Option.some.inj hnames
  split
  next hlast =>
    have hsplit := List.dropLast_append_getLast? "" hlast
    refine .inr ((hback pieces).symm.trans ?_)
    conv => lhs; rw [← hsplit]
    simp
  next => exact .inl (hback pieces).symm

/-- A text is split into names if it consists of them. An empty piece at the
end is what a slash leaves there, and it is left out. -/
theorem settled_splitOn_eq_some_iff {names : List String} (hne : names ≠ []) {text : List Char} :
    settled (text.splitOn '/') = some names ↔
      (∀ name ∈ names, IsBetweenSlashes name) ∧ Covers names text := by
  unfold Covers
  constructor
  · intro h
    constructor
    · intro name hname
      obtain ⟨hempty, piece, hpiece, rfl⟩ := of_mem_settled h name hname
      refine ⟨fun hnil => hempty (String.toList_eq_nil_iff.mp hnil), fun hslash => ?_⟩
      rw [String.toList_ofList] at hslash
      exact absurd (Url.of_mem_splitOnP hpiece '/' hslash).1 (by decide)
    · have htext : List.intercalate ['/'] (text.splitOn '/') = text := List.intercalate_splitOn '/'
      -- Only the last piece can be empty, and it is where the path ends in a slash.
      rcases eq_of_settled h with hsplit | hsplit <;> rw [hsplit] at htext
      · exact .inr (by rw [← htext, slashed_eq hne]; rfl)
      · exact .inl (by rw [← htext, intercalate_concat_nil])
  · rintro ⟨hnames, htext⟩
    have hgood : ∀ piece ∈ names.map String.toList, piece ≠ [] ∧ '/' ∉ piece := by
      intro piece hpiece
      obtain ⟨name, hname, rfl⟩ := List.mem_map.mp hpiece
      exact hnames name hname
    rcases htext with rfl | htext
    · have hslash : ∀ piece ∈ names.map String.toList ++ [[]], '/' ∉ piece := by
        intro piece hpiece
        rcases List.mem_append.mp hpiece with hpiece | hpiece
        · exact (hgood piece hpiece).2
        · simp [List.mem_singleton.mp hpiece]
      rw [← intercalate_concat_nil, List.splitOn_intercalate '/' hslash (by simp),
        settled_append_nil fun piece hp => (hgood piece hp).1, map_ofList_toList]
    · rw [slashed_eq hne] at htext
      obtain rfl := List.append_cancel_right htext
      rw [joined, List.splitOn_intercalate '/' (fun piece hp => (hgood piece hp).2) (by simpa using hne),
        settled_of_ne_nil fun piece hp => (hgood piece hp).1, map_ofList_toList]

/-- Some names are the pieces of a path if its text consists of them. With
`params?_eq_some_iff` both readers of paths are described by the same
relation. -/
theorem pieces?_eq_some_iff {path : String} {names : List String} (hne : names ≠ []) :
    pieces? path = some names ↔ ∃ text, beforeQuery path = '/' :: text ∧
      (∀ name ∈ names, IsBetweenSlashes name) ∧ Covers names text := by
  have hpieces : pieces? path = match beforeQuery path with
      | '/' :: text => settled (text.splitOn '/')
      | _ => none := rfl
  rw [hpieces]
  split
  next text htext => simp [htext, settled_splitOn_eq_some_iff hne]
  next hnone =>
    constructor
    · simp
    · rintro ⟨text, htext, -⟩
      exact absurd htext (hnone text)

/-! ### Endpoints and routes -/

/-- The names that paths have of their own can all stand between slashes. -/
theorem isBetweenSlashes_of_mem_fixedNames : ∀ name ∈ fixedNames, IsBetweenSlashes name := by
  intro name hname
  simp only [fixedNames, List.mem_cons, List.not_mem_nil, or_false] at hname
  unfold IsBetweenSlashes
  rcases hname with rfl | rfl | rfl | rfl | rfl <;> decide

namespace Endpoint

/-- So can those that an endpoint asks for. -/
theorem isBetweenSlashes_of_mem_steps {e : Endpoint} {name : String}
    (h : Step.fixed name ∈ e.steps) : IsBetweenSlashes name := by
  have hall : e.steps.all (fun
      | .fixed name => fixedNames.contains name
      | .parameter => true) = true := by cases e <;> decide
  exact isBetweenSlashes_of_mem_fixedNames name (by simpa using List.all_eq_true.mp hall _ h)

/-- The handler of an endpoint is asked for a route of that endpoint.
Parameters and names are the same list, so neither is lost or swapped. -/
theorem route?_eq_some_iff {e : Endpoint} {params : List String} {route : Route} :
    e.route? params = some route ↔ route.endpoint = e ∧ params = route.names := by
  constructor
  · intro h
    unfold route? at h
    split at h <;> cases h <;> exact ⟨rfl, rfl⟩
  · rintro ⟨rfl, rfl⟩
    cases route <;> rfl

/-- The steps of an endpoint with the names of a route filled in are the
pieces of its path. -/
theorem fill?_steps (route : Route) : fill? route.endpoint.steps route.names = some route.pieces := by
  cases route <;> rfl

/-- An endpoint takes the requests for its routes that have the method of
the route and a path that consists of its pieces. -/
theorem match?_eq_some_iff {e : Endpoint} {method path : String} {route : Route} :
    e.match? method path = some route ↔ route.endpoint = e ∧ method = route.method ∧
      ∃ text, beforeQuery path = '/' :: text ∧ (∀ name ∈ route.pieces, IsBetweenSlashes name) ∧
        Covers route.pieces text := by
  have hmethod : route.endpoint.method = route.method := by cases route <;> rfl
  -- With the method and the query out of the way, only the steps and the parameters matter.
  have htake (text : List Char) : (params? e.steps text).bind e.route? = some route ↔
      route.endpoint = e ∧ (∀ name ∈ route.pieces, IsBetweenSlashes name) ∧ Covers route.pieces text := by
    simp only [Option.bind_eq_some_iff, route?_eq_some_iff,
      params?_eq_some_iff fun _ => isBetweenSlashes_of_mem_steps]
    constructor
    · rintro ⟨_, ⟨names, hfill, hgood, hcovers⟩, rfl, rfl⟩
      rw [fill?_steps, Option.some.injEq] at hfill
      subst hfill
      exact ⟨rfl, hgood, hcovers⟩
    · rintro ⟨rfl, hgood, hcovers⟩
      exact ⟨route.names, ⟨_, fill?_steps route, hgood, hcovers⟩, rfl, rfl⟩
  rw [match?, Option.ite_none_right_eq_some]
  split
  next text htext =>
    rw [htake]
    constructor
    · rintro ⟨rfl, rfl, hgood, hcovers⟩
      exact ⟨rfl, hmethod, text, htext, hgood, hcovers⟩
    · rintro ⟨rfl, rfl, text', htext', hgood, hcovers⟩
      obtain rfl : text = text' := by simpa [htext] using htext'
      exact ⟨hmethod.symm, rfl, hgood, hcovers⟩
  next hnone =>
    constructor
    · simp
    · rintro ⟨-, -, text, htext, -⟩
      exact absurd htext (hnone text)

end Endpoint

/-- Every path has pieces. -/
theorem Route.pieces_ne_nil (route : Route) : route.pieces ≠ [] := by
  cases route <;> exact List.cons_ne_nil _ _

/-- A request is taken for a route exactly if it is routed there. -/
theorem mem_takers_iff {method path : String} {route : Route} :
    route ∈ takers method path ↔ Route.of? method path = some route := by
  rw [← Request.matches_iff (r := ⟨method, path, []⟩), Request.Matches,
    pieces?_eq_some_iff route.pieces_ne_nil, takers, List.mem_filterMap]
  simp only [Endpoint.match?_eq_some_iff]
  constructor
  · rintro ⟨-, -, -, h⟩
    exact h
  · intro h
    exact ⟨route.endpoint, by cases route <;> simp [Route.endpoint, Endpoint.all], rfl, h⟩

/-- The endpoints that take a request are the one of its route, or
none. -/
theorem takers_eq (method path : String) : takers method path = (Route.of? method path).toList := by
  have hnodup : (takers method path).Nodup := by
    refine List.Nodup.filterMap (fun e e' route he he' => ?_) (by decide)
    obtain ⟨hroute, -⟩ := Endpoint.match?_eq_some_iff.mp he
    obtain ⟨hroute', -⟩ := Endpoint.match?_eq_some_iff.mp he'
    exact hroute.symm.trans hroute'
  cases hroute : Route.of? method path with
  | none =>
    refine List.eq_nil_iff_forall_not_mem.mpr fun route hmem => ?_
    rw [mem_takers_iff, hroute] at hmem
    cases hmem
  | some route =>
    refine List.perm_singleton.mp ((List.perm_ext_iff_of_nodup hnodup (List.nodup_singleton route)).mpr ?_)
    intro other
    rw [mem_takers_iff, hroute, List.mem_singleton, Option.some.injEq, eq_comm]

/-- A path that consists of the pieces of a route is the path of the
route, up to a slash at its end. -/
theorem eq_path_of_covers {path : String} {route : Route} {text : List Char}
    (htext : beforeQuery path = '/' :: text) (hcovers : Covers route.pieces text) :
    String.ofList (beforeQuery path) = route.path ∨
      String.ofList (beforeQuery path) = route.path ++ "/" := by
  have hpath : String.ofList ('/' :: joined route.pieces) = route.path := by
    rw [← route.toList_path, String.ofList_toList]
  unfold Covers at hcovers
  rw [slashed_eq route.pieces_ne_nil] at hcovers
  rw [htext, ← hpath]
  rcases hcovers with rfl | hslash
  · refine .inr ?_
    rw [← List.cons_append, String.ofList_append]
  · obtain rfl := List.append_cancel_right hslash
    exact .inl rfl

/-- Routes undo paths. -/
structure InvertsPaths : Prop where
  /-- The path of a pool, object or map leads to its endpoint and to no
  other one, with its names. -/
  paths : ∀ pool object, IsSegment pool → IsSegment object →
    takers "GET" (poolPath pool) = [.findPool pool] ∧
    takers "PUT" (objectPath pool object) = [.writeObject ⟨pool, object⟩] ∧
    takers "DELETE" (objectPath pool object) = [.removeObject ⟨pool, object⟩] ∧
    takers "POST" (mapPath pool object) = [.writeEntries ⟨pool, object⟩] ∧
    takers "GET" (mapPath pool object ++ "/count") = [.countEntries ⟨pool, object⟩]
  /-- No request is taken by two endpoints. -/
  atMostOne : ∀ method path, (takers method path).length ≤ 1
  /-- A request that is taken has the path that was built from the names
  that its handler gets, which are not empty. -/
  built : ∀ method path, ∀ route ∈ takers method path, method = route.method ∧
    (∀ name ∈ route.names, name ≠ "") ∧
    (String.ofList (beforeQuery path) = route.path ∨
      String.ofList (beforeQuery path) = route.path ++ "/")
  /-- A request is routed to the endpoint that takes it. -/
  routed : ∀ method path, Route.of? method path = (takers method path).head?

/-- The paths that clients build and the filters of the server describe
the same requests, whatever the names are. -/
theorem invertsPaths : InvertsPaths where
  paths pool object hpool hobject := by
    have hfixed : ∀ name ∈ fixedNames, IsSegment name := by decide
    have htakers (route : Route) (h : ∀ name ∈ route.names, IsSegment name) :
        takers route.method route.path = [route] := by
      have hpieces : ∀ name ∈ route.pieces, IsSegment name := by
        unfold fixedNames at hfixed
        cases route <;> simp_all [Route.pieces, Route.names]
      have hroute := Request.matches_iff.mp (Request.matches_path hpieces [])
      rw [takers_eq, hroute]
      rfl
    have hboth : ∀ name ∈ [pool, object], IsSegment name := by simp [hpool, hobject]
    exact ⟨htakers (.findPool pool) (by simpa [Route.names] using hpool),
      htakers (.writeObject ⟨pool, object⟩) hboth, htakers (.removeObject ⟨pool, object⟩) hboth,
      htakers (.writeEntries ⟨pool, object⟩) hboth, htakers (.countEntries ⟨pool, object⟩) hboth⟩
  atMostOne method path := by
    rw [takers_eq]
    exact Option.length_toList_le
  built method path route hroute := by
    obtain ⟨e, -, he⟩ := List.mem_filterMap.mp hroute
    obtain ⟨-, hmethod, text, htext, hgood, hcovers⟩ := Endpoint.match?_eq_some_iff.mp he
    refine ⟨hmethod, fun name hname hempty => ?_, eq_path_of_covers htext hcovers⟩
    have hpiece : name ∈ route.pieces := by cases route <;> simp_all [Route.pieces, Route.names]
    exact (hgood name hpiece).1 (by rw [hempty]; rfl)
  routed method path := by
    rw [takers_eq]
    cases Route.of? method path <;> rfl

/-- Names may look like the fixed ones. -/
example : takers "GET" "/v1/pools/objects/objects/omap/omap/count/?v1" =
    [.countEntries ⟨"objects", "omap"⟩] := by decide +kernel

end MapBench.Api
