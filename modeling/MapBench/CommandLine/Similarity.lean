/-!
# `MapBench.CommandLine.Similarity`: how much two words look alike

Two words look alike if they share many letters at nearby places
(Jaro's measure), and more so if they begin alike (Winkler's). The
measure runs from 0 to 1, in double precision.
-/

set_option autoImplicit false

namespace MapBench.CommandLine

/-- Letters of one word found in another: how many, how many of them
out of order, and which places are taken. -/
structure Matching where
  found : Nat
  outOfOrder : Nat
  lastPlace : Nat
  taken : List Nat

/-- Look for a letter, the `i`-th of its word, at the free places of
another word that are at most `range` away. -/
def Matching.look (other : List Char) (range : Nat) (m : Matching) (i : Nat) (c : Char) :
    Matching :=
  -- The difference stops at zero, the first place.
  let low := i - range
  let place := other.zipIdx.find? fun (d, j) =>
    low ≤ j && j ≤ i + range && c == d && !m.taken.contains j
  match place with
  | none => m
  | some (_, j) =>
    ⟨m.found + 1, if j < m.lastPlace then m.outOfOrder + 1 else m.outOfOrder, j, j :: m.taken⟩

/-- Jaro's measure. -/
def jaro (a b : List Char) : Float :=
  if a.isEmpty && b.isEmpty then 1
  else if a.isEmpty || b.isEmpty then 0
  else if a.length == 1 && b.length == 1 then if a == b then 1 else 0
  else
    let range := max a.length b.length / 2 - 1
    let m := a.zipIdx.foldl (fun (m : Matching) (c, i) => m.look b range i c) ⟨0, 0, 0, []⟩
    if m.found == 0 then 0
    else
      let found := m.found.toFloat
      (1.0 / 3.0) * (found / a.length.toFloat + found / b.length.toFloat
        + (found - m.outOfOrder.toFloat) / found)

/-- How many letters two words have in common from the beginning. -/
def sharedStart : List Char → List Char → Nat
  | c :: cs, d :: ds => if c == d then sharedStart cs ds + 1 else 0
  | _, _ => 0

/-- The measure of Jaro and Winkler, in which every shared letter at
the beginning counts. -/
def similarity (a b : List Char) : Float :=
  let j := jaro a b
  let s := j + 0.1 * (sharedStart a b).toFloat * (1.0 - j)
  if s ≤ 1.0 then s else 1.0

/-- The candidate that looks most like a word, if any looks enough
like it. Of several that look the same, it is the last. -/
def mostSimilar (word : String) (candidates : List String) : Option String :=
  let scored := candidates.map fun c => (similarity word.toList c.toList, c)
  let best := scored.foldl (fun best (s, c) =>
    if s > 0.8 then
      match best with
      | some (t, _) => if t ≤ s then some (s, c) else best
      | none => some (s, c)
    else best) (none : Option (Float × String))
  best.map Prod.snd

end MapBench.CommandLine
