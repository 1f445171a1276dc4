import MapBench.Proofs.Api.Handle
import MapBench.Proofs.Url

/-!
# `MapBench.Proofs.Api.Path`: names in the paths of the API

Names go into paths as they are, and an address is normalized before a
request is sent there. Some names survive that, and some don't.

* `IsPlainName`: a name that survives.
* `seen?`: the names that a server sees. `pieces?_target`: it sees
  nothing else of an address.
* `seen?_joined`: plain names are seen as they are, and if only the last
  one isn't plain because it is made of dots, it is gone.
* `isPathText_of_seen?`: no name that a server sees has other characters
  than a plain one.
* `eq_of_ofPieces?_get`, `eq_of_ofPieces?_delete`: what names a request has
  to name for its route.
* `IsSegment`: a name that is one piece of a path. `Request.matches_path`:
  a request for the path of a route has that route if its names are such.
-/

set_option autoImplicit false

namespace MapBench.Api

open Url

/-- A name that stays as it is in a path. It has no character with a meaning
in addresses, and isn't made of dots. -/
def IsPlainName (name : String) : Prop :=
  IsPlainPiece name.toList

instance (name : String) : Decidable (IsPlainName name) :=
  inferInstanceAs (Decidable (IsPlainPiece name.toList))

/-- A name that a server may see. It stays as it is in a path, unless
it is made of dots. -/
structure IsPathText (name : String) : Prop where
  ne_nil : name.toList ≠ []
  chars : ∀ c ∈ name.toList, IsPathChar c

/-- A plain name is a text of characters that can stand in a path. -/
theorem IsPlainName.isPathText {name : String} (h : IsPlainName name) : IsPathText name :=
  ⟨h.ne_nil, h.chars⟩

/-- The names that paths have of their own. They are the same in every path,
and are written as they are. -/
def fixedNames : List String :=
  ["v1", "pools", "objects", "omap", "count"]

/-- They are plain names, each of them. -/
theorem isPlainName_of_mem_fixedNames : ∀ name ∈ fixedNames, IsPlainName name := by
  intro name hname
  simp only [fixedNames, List.mem_cons, List.not_mem_nil, or_false] at hname
  rcases hname with rfl | rfl | rfl | rfl | rfl <;> decide

/-- So it is enough to ask of the other names in a path whether they are
plain. -/
theorem plainNames {names : List String} (h : ∀ name ∈ names, name ∈ fixedNames ∨ IsPlainName name) :
    ∀ name ∈ names, IsPlainName name :=
  fun name hname => (h name hname).elim (isPlainName_of_mem_fixedNames name) id

/-! ### What a server sees -/

/-- The names in the pieces of a path. A single slash at the end leaves
an empty piece behind it. -/
def settled (pieces : List (List Char)) : Option (List String) :=
  let names := pieces.map String.ofList
  let names := if names.getLast? = some "" then names.dropLast else names
  if names.contains "" then none else some names

/-- The names that a server sees if a text stands behind its address
and a slash. -/
def seen? (text : List Char) : Option (List String) :=
  settled (normalPieces (pathOf text))

/-- What stands before the query is split at its slashes. The path itself
begins with one, which is no piece. -/
theorem pieces?_of_text {path : String} {text rest : List Char}
    (hpath : path.toList = '/' :: text ++ rest) (htext : ∀ c ∈ text, c ≠ '?' ∧ c ≠ '#')
    (hrest : rest.takeWhile (fun c => decide (c ≠ '?' ∧ c ≠ '#')) = []) :
    pieces? path = settled (text.splitOn '/') := by
  have hkept : ∀ c ∈ '/' :: text, decide (c ≠ '?' ∧ c ≠ '#') = true := by
    intro c hc
    rcases List.mem_cons.mp hc with rfl | hc
    · decide
    · exact decide_eq_true (htext c hc)
  rw [pieces?, hpath, List.takeWhile_append_of_pos hkept, hrest, List.append_nil]
  rfl

/-- A server sees the path of an address, and nothing of its query. Whatever
a name has behind a question mark is lost to it. -/
theorem pieces?_target {u : Url} {text : List Char}
    (h : u.path = String.ofList (normalPath (pathOf text))) : pieces? u.target = seen? text := by
  have hpiece : ∀ piece ∈ normalPieces (pathOf text), ∀ c ∈ piece,
      c ≠ '/' ∧ c ≠ '?' ∧ c ≠ '#' := by
    intro piece hpiece c hc
    have hpath := isPathChar_of_mem_normalPieces hpiece c hc
    refine ⟨?_, ?_, ?_⟩ <;> rintro rfl <;> exact absurd hpath (by decide)
  have htext : ∀ c ∈ List.intercalate ['/'] (normalPieces (pathOf text)), c ≠ '?' ∧ c ≠ '#' := by
    intro c hc
    rcases of_mem_intercalate hc with rfl | ⟨piece, hp, hc⟩
    · decide
    · exact (hpiece piece hp c hc).2
  have hsplit : ∃ rest, u.target = u.path ++ rest ∧
      rest.toList.takeWhile (fun c => decide (c ≠ '?' ∧ c ≠ '#')) = [] := by
    rw [target]
    cases u.query with
    | none => exact ⟨"", rfl, rfl⟩
    | some query => exact ⟨"?" ++ query, rfl, by simp⟩
  obtain ⟨rest, htarget, hrest⟩ := hsplit
  have hpath : u.target.toList =
      '/' :: List.intercalate ['/'] (normalPieces (pathOf text)) ++ rest.toList := by
    rw [htarget, String.toList_append, h, String.toList_ofList]
    rfl
  rw [pieces?_of_text hpath htext hrest,
    List.splitOn_intercalate '/' (fun piece hp hc => (hpiece piece hp '/' hc).1 rfl)
      (normalPieces_ne_nil (pathOf text)), seen?]

/-- A name is empty only if it has no characters. -/
theorem ofList_ne_empty {cs : List Char} (h : cs ≠ []) : String.ofList cs ≠ "" := by
  intro he
  have hlist : (String.ofList cs).toList = "".toList := by rw [he]
  rw [String.toList_ofList] at hlist
  exact h hlist

/-- Names made of pieces that have characters aren't empty. -/
theorem contains_map_ofList {pieces : List (List Char)} (h : ∀ piece ∈ pieces, piece ≠ []) :
    (pieces.map String.ofList).contains "" = false := by
  rw [← Bool.not_eq_true, List.contains_iff_mem]
  intro hmem
  obtain ⟨piece, hpiece, he⟩ := List.mem_map.mp hmem
  exact ofList_ne_empty (h piece hpiece) he

/-- Pieces without an empty one are the names. -/
theorem settled_of_ne_nil {pieces : List (List Char)} (h : ∀ piece ∈ pieces, piece ≠ []) :
    settled pieces = some (pieces.map String.ofList) := by
  have hlast : (pieces.map String.ofList).getLast? ≠ some "" := by
    intro he
    have hmem := List.mem_of_getLast? he
    rw [← List.contains_iff_mem, contains_map_ofList h] at hmem
    contradiction
  simp only [settled, if_neg hlast, contains_map_ofList h]
  rfl

/-- An empty piece at the end makes no difference. It is what a slash at the
end leaves. -/
theorem settled_append_nil {pieces : List (List Char)} (h : ∀ piece ∈ pieces, piece ≠ []) :
    settled (pieces ++ [[]]) = some (pieces.map String.ofList) := by
  have hmap : (pieces ++ [[]]).map String.ofList = pieces.map String.ofList ++ [""] := by simp
  simp only [settled, hmap, List.getLast?_concat, if_true, List.dropLast_concat,
    contains_map_ofList h]
  rfl

/-- The names that are left of some pieces are not empty, and each was one
of the pieces. Nothing is added when an empty one is taken off. -/
theorem of_mem_settled {pieces : List (List Char)} {names : List String}
    (h : settled pieces = some names) :
    ∀ name ∈ names, name ≠ "" ∧ ∃ piece ∈ pieces, name = String.ofList piece := by
  have hsub : ∀ all : List String, ∀ name ∈ (if all.getLast? = some "" then all.dropLast else all),
      name ∈ all := by
    intro all name hname
    split at hname
    · exact List.dropLast_subset all hname
    · exact hname
  intro name hname
  rw [settled, Option.ite_none_left_eq_some] at h
  obtain ⟨hfull, hnames⟩ := h
  obtain rfl := Option.some.inj hnames
  have hmem := List.contains_iff_mem.mpr hname
  obtain ⟨piece, hpiece, rfl⟩ := List.mem_map.mp (hsub _ name hname)
  refine ⟨fun he => hfull ?_, piece, hpiece, rfl⟩
  rwa [he] at hmem

/-- A server sees no name that is empty or has other characters than a
plain one. -/
theorem isPathText_of_seen? {text : List Char} {names : List String} (h : seen? text = some names) :
    ∀ name ∈ names, IsPathText name := by
  intro name hname
  obtain ⟨hne, piece, hpiece, rfl⟩ := of_mem_settled h name hname
  refine ⟨fun hnil => hne ?_, ?_⟩
  · rw [String.toList_ofList] at hnil
    rw [hnil]
  · rw [String.toList_ofList]
    exact isPathChar_of_mem_normalPieces hpiece

/-! ### Names as they are put into paths -/

/-- Names as the text of a path, without its first slash. They are written
as they are, with nothing escaped. -/
def joined (names : List String) : List Char :=
  List.intercalate ['/'] (names.map String.toList)

/-- Names that are taken apart into characters and put together again are
the same. -/
theorem map_ofList_toList (names : List String) :
    (names.map String.toList).map String.ofList = names := by
  simp

/-- Plain names are plain pieces. -/
theorem isPlainPiece_of_front {front : List String} (hfront : ∀ name ∈ front, IsPlainName name) :
    ∀ piece ∈ front.map String.toList, IsPlainPiece piece := by
  intro piece hpiece
  obtain ⟨name, hname, rfl⟩ := List.mem_map.mp hpiece
  exact hfront name hname

/-- What a server sees of a name behind plain ones is a matter of one
step. -/
theorem seen?_joined_eq {front : List String} (hfront : ∀ name ∈ front, IsPlainName name)
    {last : String} (hlast : IsPathText last) : seen? (joined (front ++ [last])) =
      settled (addPiece (front.map String.toList).reverse last.toList true).reverse := by
  have hpieces := isPlainPiece_of_front hfront
  have hchars : ∀ piece ∈ front.map String.toList ++ [last.toList], ∀ c ∈ piece, IsPathChar c := by
    intro piece hpiece
    rcases List.mem_append.mp hpiece with hpiece | hpiece
    · exact (hpieces piece hpiece).chars
    · rw [List.mem_singleton.mp hpiece]
      exact hlast.chars
  rw [seen?, joined, List.map_append, List.map_cons, List.map_nil, pathOf_intercalate hchars,
    normalPieces_intercalate hpieces fun c hc => (hlast.chars c hc).2.2.2]

/-- Names behind plain ones are seen, if they are plain too. Otherwise
dots are carried out, and what a server sees ends before them. -/
theorem seen?_joined {front : List String} (hfront : ∀ name ∈ front, IsPlainName name)
    {last : String} (hlast : IsPathText last) :
    IsPlainName last ∧ seen? (joined (front ++ [last])) = some (front ++ [last]) ∨
      ¬ IsPlainName last ∧ (seen? (joined (front ++ [last])) = some front ∨
        seen? (joined (front ++ [last])) = some front.dropLast) := by
  have hseen := seen?_joined_eq hfront hlast
  have hfull : ∀ piece ∈ front.map String.toList, piece ≠ [] := fun piece hp =>
    (isPlainPiece_of_front hfront piece hp).ne_nil
  -- The last name can be two dots, which take the name before it along, or one dot, or
  -- plain.
  by_cases hdots : plainDots last.toList = ['.', '.']
  · refine .inr ⟨fun hplain => hplain.ne_dots hdots, .inr ?_⟩
    rw [hseen, addPiece, if_pos hdots]
    show settled ([[]] ++ (front.map String.toList).reverse.drop 1).reverse = _
    rw [List.drop_one, List.tail_reverse, List.reverse_append, List.reverse_reverse,
      List.reverse_singleton, settled_append_nil fun piece hp => hfull piece (List.dropLast_subset _ hp),
      ← List.map_dropLast, map_ofList_toList]
  · by_cases hdot : plainDots last.toList = ['.']
    · refine .inr ⟨fun hplain => hplain.ne_dot hdot, .inl ?_⟩
      rw [hseen, addPiece, if_neg hdots, if_pos hdot]
      show settled ([[]] ++ (front.map String.toList).reverse).reverse = _
      rw [List.reverse_append, List.reverse_reverse, List.reverse_singleton,
        settled_append_nil hfull, map_ofList_toList]
    · have hplain : IsPlainPiece last.toList := ⟨hlast.ne_nil, hlast.chars, hdot, hdots⟩
      refine .inl ⟨hplain, ?_⟩
      rw [hseen, addPiece_plain hplain, List.reverse_cons, List.reverse_reverse, settled_of_ne_nil,
        List.map_append, map_ofList_toList]
      · simp
      · intro piece hpiece
        rcases List.mem_append.mp hpiece with hpiece | hpiece
        · exact hfull piece hpiece
        · rw [List.mem_singleton.mp hpiece]
          exact hlast.ne_nil

/-- Names that are all plain are seen as they are. This is the case in which
a path means what it was built for. -/
theorem seen?_joined_plain {names : List String} (hne : names ≠ [])
    (h : ∀ name ∈ names, IsPlainName name) : seen? (joined names) = some names := by
  obtain ⟨front, last, rfl⟩ : ∃ front last, names = front ++ [last] :=
    ⟨_, _, (List.dropLast_concat_getLast hne).symm⟩
  have hfront : ∀ name ∈ front, IsPlainName name := fun name hname =>
    h name (List.mem_append_left [last] hname)
  have hlast : IsPlainName last := h last (List.mem_append_right front List.mem_cons_self)
  rcases seen?_joined hfront hlast.isPathText with hseen | hseen
  · exact hseen.2
  · exact absurd hlast hseen.1

/-- A last name that a server sees is plain, if it sees more than what
stands before it. -/
theorem isPlainName_of_seen?_joined {front names : List String} {last : String}
    (hfront : ∀ name ∈ front, IsPlainName name) (hseen : seen? (joined (front ++ [last])) = some names)
    (hlast : last ∈ names) (hmore : front.length < names.length) : IsPlainName last := by
  rcases seen?_joined hfront (isPathText_of_seen? hseen last hlast) with hplain | ⟨-, hfewer⟩
  · exact hplain.1
  · rw [hseen, Option.some.injEq, Option.some.injEq] at hfewer
    rcases hfewer with rfl | rfl
    · omega
    · rw [List.length_dropLast] at hmore
      omega

/-- Plain names are routed as they are. Those that paths have of their own
are plain, so only the others are asked about. -/
theorem bind_seen?_joined {names : List String} (hne : names ≠ [])
    (h : ∀ name ∈ names, name ∈ fixedNames ∨ IsPlainName name) (method : String) :
    (seen? (joined names)).bind (Route.ofPieces? method) = Route.ofPieces? method names := by
  rw [seen?_joined_plain hne (plainNames h), Option.bind_some]

/-- The path of a pool, as names. For these paths what is proved of joined
names holds. -/
theorem toList_poolPath (pool : String) :
    (poolPath pool).toList = '/' :: joined ["v1", "pools", pool] := by
  rw [poolPath, String.toList_append]
  simp [joined]

/-- The path of an object, as names. -/
theorem toList_objectPath (pool object : String) :
    (objectPath pool object).toList = '/' :: joined ["v1", "pools", pool, "objects", object] := by
  rw [objectPath, String.toList_append, String.toList_append, toList_poolPath]
  simp [joined]

/-- The path of the map of an object, as names. -/
theorem toList_mapPath (pool object : String) :
    (mapPath pool object).toList = '/' :: joined ["v1", "pools", pool, "objects", object, "omap"] := by
  rw [mapPath, String.toList_append, toList_objectPath]
  simp [joined]

/-- The path of the number of entries in a map, as names. -/
theorem toList_countPath (pool object : String) :
    (countPath pool object).toList =
      '/' :: joined ["v1", "pools", pool, "objects", object, "omap", "count"] := by
  rw [countPath, String.toList_append, toList_mapPath]
  simp [joined]

/-! ### Routes -/

/-- A request to get something names a pool, or an object whose map is
counted. -/
theorem eq_of_ofPieces?_get {names : List String} {route : Route}
    (h : Route.ofPieces? "GET" names = some route) :
    (∃ pool, names = ["v1", "pools", pool] ∧ route = .findPool pool) ∨
      ∃ id : ObjectId, names = ["v1", "pools", id.pool, "objects", id.object, "omap", "count"] ∧
        route = .countEntries id := by
  obtain ⟨hmethod, hnames⟩ := Route.ofPieces?_eq_some_iff.mp h
  cases route with
  | findPool pool => exact .inl ⟨pool, hnames, rfl⟩
  | countEntries id => exact .inr ⟨id, hnames, rfl⟩
  | _ => simp [Route.method] at hmethod

/-- A request to delete something names an object. There is no other route
with that method. -/
theorem eq_of_ofPieces?_delete {names : List String} {route : Route}
    (h : Route.ofPieces? "DELETE" names = some route) :
    ∃ id : ObjectId, names = ["v1", "pools", id.pool, "objects", id.object] ∧
      route = .removeObject id := by
  obtain ⟨hmethod, hnames⟩ := Route.ofPieces?_eq_some_iff.mp h
  cases route with
  | removeObject id => exact ⟨id, hnames, rfl⟩
  | _ => simp [Route.method] at hmethod

/-! ### Paths that are sent as they are -/

/-- A name that is one piece of a path. It may have other characters that
addresses don't carry, since this is about paths as they arrive. -/
structure IsSegment (name : String) : Prop where
  ne_empty : name ≠ ""
  chars : ∀ c ∈ name.toList, c ≠ '/' ∧ c ≠ '?' ∧ c ≠ '#'

instance (name : String) : Decidable (IsSegment name) :=
  decidable_of_iff (name ≠ "" ∧ name.toList.all (fun c => c ≠ '/' && c ≠ '?' && c ≠ '#') = true) <| by
    simp only [List.all_eq_true, Bool.and_eq_true, decide_eq_true_eq, and_assoc]
    exact ⟨fun h => ⟨h.1, h.2⟩, fun h => ⟨h.ne_empty, h.chars⟩⟩

/-- Names that are pieces of a path are found in it, in their order. -/
theorem pieces?_joined {path : String} {names : List String} (hne : names ≠ [])
    (hnames : ∀ name ∈ names, IsSegment name) (hpath : path.toList = '/' :: joined names) :
    pieces? path = some names := by
  have hpieces : ∀ piece ∈ names.map String.toList,
      piece ≠ [] ∧ ∀ c ∈ piece, c ≠ '/' ∧ c ≠ '?' ∧ c ≠ '#' := by
    intro piece hpiece
    obtain ⟨name, hname, rfl⟩ := List.mem_map.mp hpiece
    have hsegment := hnames name hname
    exact ⟨fun hnil => hsegment.ne_empty (String.toList_eq_nil_iff.mp hnil), hsegment.chars⟩
  have htext : ∀ c ∈ joined names, c ≠ '?' ∧ c ≠ '#' := by
    intro c hc
    rcases of_mem_intercalate hc with rfl | ⟨piece, hpiece, hc⟩
    · decide
    · exact ((hpieces piece hpiece).2 c hc).2
  have hpath' : path.toList = '/' :: joined names ++ [] := by rw [hpath, List.append_nil]
  rw [pieces?_of_text hpath' htext rfl, joined,
    List.splitOn_intercalate '/' (fun piece hpiece hc => ((hpieces piece hpiece).2 '/' hc).1 rfl)
      (by simpa using hne),
    settled_of_ne_nil fun piece hpiece => (hpieces piece hpiece).1, map_ofList_toList]

/-- No other names are found in a path. A slash ends a piece, and the query
ends the path. -/
theorem isSegment_of_mem_pieces? {path : String} {names : List String}
    (h : pieces? path = some names) : ∀ name ∈ names, IsSegment name := by
  have hchars : ∀ c ∈ path.toList.takeWhile (fun c => decide (c ≠ '?' ∧ c ≠ '#')),
      c ≠ '?' ∧ c ≠ '#' := fun c hc => of_decide_eq_true (List.all_eq_true.mp List.all_takeWhile c hc)
  rw [pieces?] at h
  split at h
  · next text htext =>
    intro name hname
    obtain ⟨hne, piece, hpiece, rfl⟩ := of_mem_settled h name hname
    refine ⟨hne, fun c hc => ?_⟩
    rw [String.toList_ofList] at hc
    obtain ⟨hslash, hmem⟩ := of_mem_splitOnP hpiece c hc
    rw [htext] at hchars
    exact ⟨ne_of_beq_false hslash, hchars c (List.mem_cons_of_mem _ hmem)⟩
  · cases h

namespace Route

/-- The path of a route, as clients write it. It depends on the names alone,
and writing and removing an object have the same. -/
def path : Route → String
  | .findPool pool => poolPath pool
  | .writeObject id | .removeObject id => objectPath id.pool id.object
  | .writeEntries id => mapPath id.pool id.object
  | .countEntries id => countPath id.pool id.object

/-- The path of a route consists of its pieces, so clients and the server
name them alike. -/
theorem toList_path (route : Route) : route.path.toList = '/' :: joined route.pieces := by
  cases route with
  | findPool pool => exact toList_poolPath pool
  | writeObject id => exact toList_objectPath id.pool id.object
  | removeObject id => exact toList_objectPath id.pool id.object
  | writeEntries id => exact toList_mapPath id.pool id.object
  | countEntries id => exact toList_countPath id.pool id.object

end Route

/-- A request for the path of a route has that route, if all names in it
are pieces of a path. -/
theorem Request.matches_path {route : Route} (h : ∀ name ∈ route.pieces, IsSegment name)
    (body : List UInt8) : (Request.mk route.method route.path body).Matches route := by
  have hne : route.pieces ≠ [] := by cases route <;> exact List.cons_ne_nil _ _
  exact ⟨rfl, pieces?_joined hne h route.toList_path⟩

end MapBench.Api
