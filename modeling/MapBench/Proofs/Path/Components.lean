import MapBench.Path

/-!
# `MapBench.Proofs.Path.Components`: what a path consists of

The text of a path is pieces with slashes between them. A piece is a
component, unless it is empty or a dot, which counts at the very beginning
only. Written down as rules, this gives every text one list of components,
and it is the one that is computed.

* `Component.IsInner`: a component that may stand behind a slash.
* `Behind`, `Spells`: the rules.
* `components_eq_iff_spells`: they are the ones that components keep to.
* `components_push`, `components_extend`: what is put behind a path is the
  end of its components.
-/

set_option autoImplicit false

namespace MapBench.Path

/-- A component that may stand behind a slash: the parent, or a name that
is no other piece and has no slash in it. -/
def Component.IsInner : Component → Prop
  | root | current => False
  | parent => True
  | name text => text ≠ "" ∧ text ≠ "." ∧ text ≠ ".." ∧ '/' ∉ text.toList

/-- What the text behind a piece of a path adds to its components. Such a
text is empty or begins with a slash. Nothing here mentions how components
are computed: these are the rules alone. -/
inductive Behind : List Char → List Component → Prop
  | nothing : Behind [] []
  /-- A slash at the end, or one of several. -/
  | slash {text : List Char} {rest : List Component} (behind : Behind text rest) : Behind ('/' :: text) rest
  /-- A dot inside of a path. -/
  | dot {text : List Char} {rest : List Component} (behind : Behind text rest) :
      Behind ('/' :: '.' :: text) rest
  | component {c : Component} {text : List Char} {rest : List Component} (inner : c.IsInner)
      (behind : Behind text rest) : Behind ('/' :: (c.text.toList ++ text)) (c :: rest)

/-- What the text of a path says that it consists of. A slash or a dot
counts at the very beginning only; everything behind it follows the rules of
`Behind`. -/
inductive Spells : List Char → List Component → Prop
  | nothing : Spells [] []
  | root {text : List Char} {rest : List Component} (behind : Behind ('/' :: text) rest) :
      Spells ('/' :: text) (.root :: rest)
  | current {text : List Char} {rest : List Component} (behind : Behind text rest) :
      Spells ('.' :: text) (.current :: rest)
  | component {c : Component} {text : List Char} {rest : List Component} (inner : c.IsInner)
      (behind : Behind text rest) : Spells (c.text.toList ++ text) (c :: rest)

/-! ### Pieces -/

namespace Component

variable {c : Component}

/-- A component is never empty: an empty piece between two slashes means
nothing. -/
theorem IsInner.text_ne_nil (h : c.IsInner) : c.text.toList ≠ [] := by
  cases c with
  | root => exact h.elim
  | current => exact h.elim
  | parent => decide
  | name text => exact fun hnil => h.1 (String.toList_eq_nil_iff.mp hnil)

/-- A single dot is no component inside of a path. -/
theorem IsInner.text_ne_dot (h : c.IsInner) : c.text ≠ "." := by
  cases c with
  | root => exact h.elim
  | current => exact h.elim
  | parent => decide
  | name text => exact h.2.1

/-- A component has no slash in its text, so it is one piece of the path. -/
theorem IsInner.slash_notMem_text (h : c.IsInner) : '/' ∉ c.text.toList := by
  cases c with
  | root => exact h.elim
  | current => exact h.elim
  | parent => decide
  | name text => exact h.2.2.2

/-- A component is what its own text is read as, wherever it stands behind a
slash. -/
theorem IsInner.inner?_text (h : c.IsInner) : inner? c.text = some c := by
  cases c with
  | root => exact h.elim
  | current => exact h.elim
  | parent => decide
  | name text =>
    obtain ⟨hempty, hdot, hdots, -⟩ := h
    simp [inner?, Component.text, hempty, hdot, hdots]

end Component

/-- A piece means nothing, or it is a component. These are all the cases,
since a piece with anything but nothing or a dot in it is `..` or a name. -/
theorem piece_cases {piece : List Char} (h : '/' ∉ piece) :
    piece = [] ∨ piece = ['.'] ∨ ∃ c : Component, c.IsInner ∧ piece = c.text.toList := by
  by_cases hempty : piece = []
  · exact .inl hempty
  by_cases hdot : piece = ['.']
  · exact .inr (.inl hdot)
  by_cases hdots : piece = ['.', '.']
  · exact .inr (.inr ⟨.parent, trivial, hdots⟩)
  have hne {cs : List Char} (hcs : piece ≠ cs) : String.ofList piece ≠ String.ofList cs :=
    fun heq => hcs (String.ofList_injective heq)
  exact .inr (.inr ⟨.name (String.ofList piece), ⟨hne hempty, hne hdot, hne hdots, by simpa using h⟩,
    String.toList_ofList.symm⟩)

/-! ### Every path is spelled -/

namespace Behind

variable {text text' : List Char} {rest rest' : List Component}

/-- What stands behind a piece is nothing or begins with a slash. So the
piece before it ends there. -/
theorem eq_nil_or_cons (h : Behind text rest) : text = [] ∨ ∃ text', text = '/' :: text' := by
  cases h with
  | nothing => exact .inl rfl
  | slash _ => exact .inr ⟨_, rfl⟩
  | dot _ => exact .inr ⟨_, rfl⟩
  | component _ _ => exact .inr ⟨_, rfl⟩

/-- All components behind a piece are inner ones. Neither a root nor a dot
can be among them. -/
theorem isInner (h : Behind text rest) : ∀ c ∈ rest, c.IsInner := by
  induction h with
  | nothing => exact fun c hc => absurd hc List.not_mem_nil
  | slash _ ih => exact ih
  | dot _ ih => exact ih
  | component inner _ ih => exact List.forall_mem_cons.mpr ⟨inner, ih⟩

/-- Texts behind a piece can be put one behind the other, and what they add
is added in this order. -/
theorem append (h : Behind text rest) (h' : Behind text' rest') :
    Behind (text ++ text') (rest ++ rest') := by
  induction h with
  | nothing => exact h'
  | slash _ ih => exact .slash ih
  | dot _ ih => exact .dot ih
  | component inner _ ih =>
    rw [List.cons_append, List.append_assoc]
    exact .component inner ih

/-- One more piece stands in front, whatever it is. It adds a component, or
nothing if it is empty or a dot. -/
theorem exists_cons (h : Behind text rest) {piece : List Char} (hpiece : '/' ∉ piece) :
    ∃ rest', Behind ('/' :: (piece ++ text)) rest' := by
  obtain rfl | rfl | ⟨c, hc, rfl⟩ := piece_cases hpiece
  · exact ⟨rest, .slash h⟩
  · exact ⟨rest, .dot h⟩
  · exact ⟨c :: rest, .component hc h⟩

end Behind

/-- A text begins with a piece, which may be empty. What stands behind it
is spelled. -/
theorem exists_piece (text : List Char) :
    ∃ piece text' rest, '/' ∉ piece ∧ Behind text' rest ∧ text = piece ++ text' := by
  induction text with
  | nil => exact ⟨[], [], [], List.not_mem_nil, .nothing, rfl⟩
  | cons c text ih =>
    obtain ⟨piece, text', rest, hpiece, hbehind, rfl⟩ := ih
    by_cases hslash : c = '/'
    · -- The piece so far now stands behind this slash, and a new one is begun.
      obtain ⟨rest', hrest'⟩ := hbehind.exists_cons hpiece
      exact ⟨[], _, rest', List.not_mem_nil, hrest', by rw [hslash, List.nil_append]⟩
    · exact ⟨c :: piece, text', rest, List.not_mem_cons_of_ne_of_not_mem (Ne.symm hslash) hpiece, hbehind, rfl⟩

/-- The rules cover every text behind a slash. -/
theorem exists_behind (text : List Char) : ∃ rest, Behind ('/' :: text) rest := by
  obtain ⟨piece, text', rest, hpiece, hbehind, rfl⟩ := exists_piece text
  exact hbehind.exists_cons hpiece

/-- The rules cover every text. So they say of every path what it consists
of, and it remains to be seen that this is what is computed. -/
theorem exists_spells (text : List Char) : ∃ cs, Spells text cs := by
  obtain ⟨piece, text', rest, hpiece, hbehind, rfl⟩ := exists_piece text
  obtain rfl | rfl | ⟨c, hc, rfl⟩ := piece_cases hpiece
  · -- Nothing stands before the first slash, so it is the root.
    obtain rfl | ⟨text, rfl⟩ := hbehind.eq_nil_or_cons
    · exact ⟨[], .nothing⟩
    · exact ⟨.root :: rest, .root hbehind⟩
  · exact ⟨.current :: rest, .current hbehind⟩
  · exact ⟨c :: rest, .component hc hbehind⟩

/-! ### The components of a path are what it spells -/

/-- The components of the pieces of a text, wherever it stands. This is the
part of the computation that has nothing to do with the beginning of a path. -/
def inner (text : List Char) : List Component :=
  ((text.splitOn '/').map String.ofList).filterMap inner?

/-- A slash cuts a text in two, and each side is read on its own. -/
theorem inner_append_slash (text text' : List Char) :
    inner (text ++ '/' :: text') = inner text ++ inner text' := by
  simp only [inner, List.splitOn_append_cons_self, List.map_append, List.filterMap_append]

/-- The text of a component is read as that component alone. -/
theorem inner_text {c : Component} (h : c.IsInner) : inner c.text.toList = [c] := by
  simp [inner, List.splitOn_eq_singleton h.slash_notMem_text, h.inner?_text]

namespace Behind

variable {text : List Char} {rest : List Component}

/-- What stands behind a piece adds to it what the rules say. This joins the
rules to what is computed, by induction on the rules. -/
theorem inner_append (h : Behind text rest) (piece : List Char) :
    inner (piece ++ text) = inner piece ++ rest := by
  induction h generalizing piece with
  | nothing => rw [List.append_nil, List.append_nil]
  | slash _ ih => exact (inner_append_slash _ _).trans (congrArg _ (ih []))
  | dot _ ih => exact (inner_append_slash _ _).trans (congrArg _ (ih ['.']))
  | component hc _ ih => rw [inner_append_slash, ih, inner_text hc, List.singleton_append]

end Behind

section

variable {path : String}

/-- A path from the root begins with it. The slash that is the root gives an
empty piece, which means nothing more. -/
theorem components_of_isAbsolute (h : isAbsolute path) : components path = .root :: inner path.toList := by
  rw [components, if_pos h]
  rfl

/-- A path whose first piece is a dot begins where one is, and the dot
counts. -/
theorem components_of_dot (h : ¬ isAbsolute path) (hdot : (segments path).head? = some ".") :
    components path = .current :: inner path.toList := by
  rw [components, if_neg h, if_pos hdot]
  rfl

/-- Any other path consists of its pieces alone. -/
theorem components_of_ne_dot (h : ¬ isAbsolute path) (hdot : (segments path).head? ≠ some ".") :
    components path = inner path.toList := by
  rw [components, if_neg h, if_neg hdot]
  rfl

/-- A path whose first piece has some text doesn't begin at the root. -/
theorem not_isAbsolute_of_piece {piece text : List Char} (hpath : path.toList = piece ++ text)
    (hne : piece ≠ []) (hpiece : '/' ∉ piece) : ¬ isAbsolute path := by
  obtain ⟨c, cs, rfl⟩ := List.exists_cons_of_ne_nil hne
  have hc : c ≠ '/' := fun hc => hpiece (hc ▸ List.mem_cons_self)
  simpa [isAbsolute, hpath] using hc

/-- What stands behind a piece begins with a slash, so the piece is cut off
as a whole. -/
theorem head?_segments {piece text : List Char} {rest : List Component} (hpath : path.toList = piece ++ text)
    (hpiece : '/' ∉ piece) (h : Behind text rest) : (segments path).head? = some (String.ofList piece) := by
  rw [segments, hpath]
  obtain rfl | ⟨text', rfl⟩ := h.eq_nil_or_cons
  · rw [List.append_nil, List.splitOn_eq_singleton hpiece, List.map_cons, List.head?_cons]
  · rw [List.splitOn_append_cons_self_of_not_mem hpiece, List.map_cons, List.head?_cons]

/-- What the rules say is computed. The beginning of the path decides which
rule it is, and there the three ways to compute components part. -/
theorem Spells.components_eq {cs : List Component} (h : Spells path.toList cs) : components path = cs := by
  generalize hpath : path.toList = text at h
  cases h with
  | nothing =>
    rw [String.toList_eq_nil_iff.mp hpath]
    decide
  -- The first slash is the root here, and counts as the slash before the first piece, too.
  | root behind =>
    have habsolute : isAbsolute path := by rw [isAbsolute, hpath]; rfl
    rw [components_of_isAbsolute habsolute, hpath]
    exact congrArg _ (behind.inner_append [])
  | current behind =>
    have hdot : '/' ∉ ['.'] := by decide
    rw [components_of_dot (not_isAbsolute_of_piece hpath (List.cons_ne_nil _ _) hdot)
      (head?_segments hpath hdot behind), hpath]
    exact congrArg _ (behind.inner_append ['.'])
  | @component c text rest hc behind =>
    have hhead := head?_segments hpath hc.slash_notMem_text behind
    rw [String.ofList_toList] at hhead
    rw [components_of_ne_dot (not_isAbsolute_of_piece hpath hc.text_ne_nil hc.slash_notMem_text)
      (hhead ▸ fun hdot => hc.text_ne_dot (Option.some.inj hdot)), hpath, behind.inner_append, inner_text hc,
      List.singleton_append]

end

/-- The components of a path are what the rules say, and nothing else: the
rules give one list of components for each text. -/
theorem components_eq_iff_spells {path : String} {cs : List Component} :
    components path = cs ↔ Spells path.toList cs := by
  obtain ⟨cs', hcs'⟩ := exists_spells path.toList
  rw [hcs'.components_eq]
  constructor
  · rintro rfl
    exact hcs'
  · intro h
    rw [← hcs'.components_eq, h.components_eq]

/-- The rules give what is computed, whatever the path is. -/
theorem spells_components (path : String) : Spells path.toList (components path) :=
  components_eq_iff_spells.mp rfl

/-! ### What is put behind a path -/

/-- A text goes on behind another one that isn't empty. Behind an empty one
it would be at the beginning, where a slash is a root. -/
theorem Spells.append {text text' : List Char} {cs rest : List Component} (h : Spells text cs)
    (hne : text ≠ []) (h' : Behind text' rest) : Spells (text ++ text') (cs ++ rest) := by
  cases h with
  | nothing => exact absurd rfl hne
  | root behind => exact .root (behind.append h')
  | current behind => exact .current (behind.append h')
  | component hc behind =>
    rw [List.append_assoc]
    exact .component hc (behind.append h')

/-- What is written behind a path adds its components to those of the path. -/
theorem components_append {path text : String} {rest : List Component} (hpath : path ≠ "")
    (h : Behind text.toList rest) : components (path ++ text) = components path ++ rest := by
  rw [components_eq_iff_spells, String.toList_append]
  exact (spells_components path).append (fun hnil => hpath (String.toList_eq_nil_iff.mp hnil)) h

/-- A slash at the end means nothing, unless it is the root: that is the
slash of an empty path, which is left out here. -/
theorem components_append_slash {path : String} (hpath : path ≠ "") :
    components (path ++ "/") = components path := by
  have hslash : Behind "/".toList [] := .slash .nothing
  rw [components_append hpath hslash, List.append_nil]

section

variable {c : Component}

/-- A component behind a slash adds just this component. -/
theorem behind_of_isInner (hc : c.IsInner) : Behind ('/' :: c.text.toList) [c] := by
  rw [← List.append_nil c.text.toList]
  exact .component hc .nothing

/-- A component that stands alone is a path of one component. -/
theorem components_text (hc : c.IsInner) : components c.text = [c] := by
  rw [components_eq_iff_spells, ← List.append_nil c.text.toList]
  exact .component hc .nothing

/-- A component behind a slash is one more, also if that slash is the root.
So a path may end with a slash or not, and this is the one case left for it. -/
theorem components_slash_text (path : String) (hc : c.IsInner) :
    components (path ++ "/" ++ c.text) = components (path ++ "/") ++ [c] := by
  have htext : ("/" ++ c.text).toList = '/' :: c.text.toList := String.toList_append
  have hbehind : Behind ("/" ++ c.text).toList [c] := htext ▸ behind_of_isInner hc
  rw [String.append_assoc]
  -- Behind the empty path the slash is the root, which no `Behind` can add.
  by_cases hpath : path = ""
  · rw [hpath, String.empty_append, String.empty_append, components_eq_iff_spells, htext]
    exact .root (behind_of_isInner hc)
  · rw [components_append hpath hbehind, components_append_slash hpath]

/-- A component stands behind the slash that a path ends with, or else behind
a new one. Alone it takes none. -/
theorem push_cases (path : String) (hc : c.IsInner) :
    path = "" ∧ push path c = c.text ∨
      (∃ path', path = path' ++ "/" ∧ push path c = path' ++ "/" ++ c.text) ∨
      path ≠ "" ∧ push path c = path ++ "/" ++ c.text := by
  have hpush : push path c =
      if path.toList.getLast?.all (· == '/') then path ++ c.text else path ++ "/" ++ c.text := by
    cases c with
    | root => exact hc.elim
    | _ => rfl
  rw [hpush]
  rcases List.eq_nil_or_concat path.toList with hnil | ⟨text, last, htext⟩
  · have hempty : path = "" := String.toList_eq_nil_iff.mp hnil
    exact .inl ⟨hempty, by rw [if_pos (by rw [hnil]; rfl), hempty, String.empty_append]⟩
  rw [List.concat_eq_append] at htext
  rw [htext, List.getLast?_concat]
  -- A path that ends with a slash needs no other one.
  by_cases hslash : last = '/'
  · subst hslash
    have hpath : path = String.ofList text ++ "/" := by
      rw [← String.toList_inj, String.toList_append, String.toList_ofList]
      exact htext
    exact .inr (.inl ⟨_, hpath, by rw [if_pos (by decide), ← hpath]⟩)
  · have hne : path ≠ "" := by
      rintro rfl
      exact List.append_ne_nil_of_right_ne_nil text (List.cons_ne_nil last []) htext.symm
    exact .inr (.inr ⟨hne, by rw [if_neg (by simpa using hslash)]⟩)

/-- Putting a component behind a path adds it to the components of the path,
with or without a slash at its end. -/
theorem components_push (path : String) (hc : c.IsInner) :
    components (push path c) = components path ++ [c] := by
  obtain ⟨rfl, hpush⟩ | ⟨path', rfl, hpush⟩ | ⟨hne, hpush⟩ := push_cases path hc
  · have hempty : components "" = [] := by decide
    rw [hpush, components_text hc, hempty, List.nil_append]
  · rw [hpush, components_slash_text path' hc]
  · rw [hpush, components_slash_text path hc, components_append_slash hne]

end

/-- So do several components, one after another. -/
theorem components_extend {cs : List Component} (h : ∀ c ∈ cs, c.IsInner) (path : String) :
    components (extend path cs) = components path ++ cs := by
  induction cs generalizing path with
  | nil => exact (List.append_nil _).symm
  | cons c cs ih =>
    obtain ⟨hc, hcs⟩ := List.forall_mem_cons.mp h
    calc components (extend path (c :: cs))
        = components (push path c) ++ cs := ih hcs (push path c)
      _ = components path ++ [c] ++ cs := by rw [components_push path hc]
      _ = components path ++ c :: cs := by rw [List.append_assoc, List.singleton_append]

end MapBench.Path
