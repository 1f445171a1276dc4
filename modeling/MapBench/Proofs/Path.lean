import MapBench.Proofs.Path.Components

/-!
# `MapBench.Proofs.Path`: paths under a home directory

A path is moved under a home directory if its first component is `~`. The
other ones are put behind the home directory one by one. None of them is a
root, so they stay there. Nothing but slashes, dots and a `~` is looked at:
for a home directory that is no text, characters may stand for its bytes.

A path from the root stays one, whatever is put behind it, and it is not
moved. So a path that has been moved under a home directory, which is such
a path, is not moved once more.

* `head?_components_eq_tilde_iff`: the paths that are moved.
* `exists_extend_eq_append`: what a path is moved under isn't touched.
* `expandHome_staysUnder`: what becomes of any path.
* `isAbsolute_extend`: what is put behind a path from the root.
* `expandHome_of_isAbsolute`: paths from the root stay where they are.
* `expandHome_expandHome`: paths are moved only once.
-/

set_option autoImplicit false

namespace MapBench.Path

/-! ### Moving a path -/

/-- A text whose characters begin with those of another is that text with
the other characters behind it. -/
theorem eq_append_ofList {path first : String} {cs : List Char} (h : path.toList = first.toList ++ cs) :
    path = first ++ String.ofList cs := by
  have hcs : (String.ofList cs).toList = cs := String.toList_ofList
  rw [← String.toList_inj, String.toList_append, hcs, h]

/-- A path has `~` as its first component if that is its first piece. What
stands behind it makes the other ones. -/
theorem components_eq_tilde_cons_iff {path : String} {rest : List Component} :
    components path = .name "~" :: rest ↔ ∃ text : String, path = "~" ++ text ∧ Behind text.toList rest := by
  constructor
  · intro h
    have hspells := components_eq_iff_spells.mp h
    generalize hpath : path.toList = text at hspells
    cases hspells with
    | @component _ text _ _ hbehind =>
      exact ⟨String.ofList text, eq_append_ofList hpath, by rwa [String.toList_ofList]⟩
  · rintro ⟨text, rfl, hbehind⟩
    have htilde : components "~" = [.name "~"] := by decide
    rw [components_append (by decide) hbehind, htilde, List.singleton_append]

/-- The paths that are moved if there is a home directory: `~` alone, or
with a slash behind it. A name that only begins with `~`, such as another
user's, is not among them. -/
theorem head?_components_eq_tilde_iff {path : String} :
    (components path).head? = some (.name "~") ↔ path = "~" ∨ ∃ text, path = "~/" ++ text := by
  rw [List.head?_eq_some_iff]
  simp only [components_eq_tilde_cons_iff]
  constructor
  · rintro ⟨rest, text, rfl, hbehind⟩
    rcases hbehind.eq_nil_or_cons with hnil | ⟨cs, hcs⟩
    · rw [String.toList_eq_nil_iff.mp hnil]
      exact .inl rfl
    · have htext : text = "/" ++ String.ofList cs := eq_append_ofList hcs
      exact .inr ⟨String.ofList cs, by rw [htext, ← String.append_assoc]; rfl⟩
  · rintro (rfl | ⟨text, rfl⟩)
    · exact ⟨[], "", rfl, .nothing⟩
    · obtain ⟨rest, hbehind⟩ := exists_behind text.toList
      have htext : ("/" ++ text).toList = '/' :: text.toList := String.toList_append
      exact ⟨rest, "/" ++ text, by rw [← String.append_assoc]; rfl, htext ▸ hbehind⟩

/-- A path of a home directory is moved there: what stands behind its `~` is
put behind the home directory, component by component. -/
theorem expandHome_of_tilde {path : String} {rest : List Component}
    (h : components path = .name "~" :: rest) (home : String) :
    expandHome (some home) path = extend home rest := by
  unfold expandHome
  rw [h]
  rfl

/-- Any other path stays as it is, down to its last slash, whether or not
there is a home directory. -/
theorem expandHome_of_ne_tilde {path : String} (h : (components path).head? ≠ some (.name "~"))
    (home : Option String) : expandHome home path = path := by
  unfold expandHome
  split
  next hcomponents => exact absurd (by rw [hcomponents, List.head?_cons]) h
  next => rfl

/-- Without a home directory no path is moved. Then `~` is a name like any
other. -/
theorem expandHome_none (path : String) : expandHome none path = path := by
  unfold expandHome
  split
  next hnone => cases hnone
  next => rfl

/-- A component is put behind a path, and nothing before it changes. Only a
root would take the place of the path. -/
theorem exists_push_eq_append (path : String) {c : Component} (hc : c.IsInner) :
    ∃ text, push path c = path ++ text := by
  obtain ⟨rfl, hpush⟩ | ⟨path', rfl, hpush⟩ | ⟨-, hpush⟩ := push_cases path hc
  · exact ⟨c.text, by rw [hpush, String.empty_append]⟩
  · exact ⟨c.text, hpush⟩
  · exact ⟨"/" ++ c.text, by rw [hpush, String.append_assoc]⟩

/-- What a path is moved under isn't touched. Components that stand behind a
slash can't be a root, so each of them goes to the end. -/
theorem exists_extend_eq_append {cs : List Component} (h : ∀ c ∈ cs, c.IsInner) (path : String) :
    ∃ text, extend path cs = path ++ text := by
  induction cs generalizing path with
  | nil => exact ⟨"", String.append_empty.symm⟩
  | cons c cs ih =>
    obtain ⟨hc, hcs⟩ := List.forall_mem_cons.mp h
    obtain ⟨text, hpush⟩ := exists_push_eq_append path hc
    obtain ⟨text', hextend⟩ := ih hcs (push path c)
    exact ⟨text ++ text', by rw [← String.append_assoc, ← hpush]; exact hextend⟩

/-- The components of a path are the ones that its text spells. Exactly the
paths that are `~`, or begin with it and a slash, have it as the first of
them. Such a path becomes one with the components of the home directory and
its own other ones behind them. All of these may stand behind a slash, so
none is a root, and the text begins with the home directory. Every other
path stays as it is, and every path does if there is no home directory. -/
theorem expandHome_staysUnder :
    (∀ path cs, components path = cs ↔ Spells path.toList cs) ∧
    (∀ path, (components path).head? = some (.name "~") ↔ path = "~" ∨ ∃ text, path = "~/" ++ text) ∧
    (∀ home path rest, components path = .name "~" :: rest →
      components (expandHome (some home) path) = components home ++ rest ∧
      (∀ c ∈ rest, c.IsInner) ∧
      ∃ text, expandHome (some home) path = home ++ text) ∧
    (∀ home path, (components path).head? ≠ some (.name "~") → expandHome home path = path) ∧
    ∀ path, expandHome none path = path := by
  refine ⟨fun _ _ => components_eq_iff_spells, fun _ => head?_components_eq_tilde_iff, ?moved,
    fun home _ h => expandHome_of_ne_tilde h home, expandHome_none⟩
  case moved =>
    intro home path rest h
    obtain ⟨text, -, hbehind⟩ := components_eq_tilde_cons_iff.mp h
    have hinner := hbehind.isInner
    rw [expandHome_of_tilde h home]
    exact ⟨components_extend hinner home, hinner, exists_extend_eq_append hinner home⟩

/-- However many slashes there are, what stands behind them stays under the
home directory. A `~` that is only part of a component, or not the first
one, is nothing special. -/
theorem expandHome_staysUnder_slashes :
    components "~//..//./x/" = [.name "~", .parent, .name "x"] ∧
    components (expandHome (some "/home/user") "~//..//./x/") =
      [.root, .name "home", .name "user", .parent, .name "x"] ∧
    expandHome (some "/home/user") "~user/x" = "~user/x" ∧
    expandHome (some "/home/user") "./~/x" = "./~/x" ∧
    expandHome (some "/home/user") "/~/x" = "/~/x" ∧
    expandHome (some "/home/user") "x/~//y/" = "x/~//y/" ∧
    expandHome none "~/x" = "~/x" := by
  obtain ⟨-, -, moved, same, unset⟩ := expandHome_staysUnder
  have hpath : components "~//..//./x/" = [.name "~", .parent, .name "x"] := by decide
  have hhome : components "/home/user" = [.root, .name "home", .name "user"] := by decide
  refine ⟨hpath, ?_, same _ _ (by decide), same _ _ (by decide), same _ _ (by decide),
    same _ _ (by decide), unset _⟩
  rw [(moved "/home/user" _ _ hpath).1, hhome]
  rfl

/-! ### Paths from the root -/

/-- A path begins at the root if its text begins with a slash. -/
theorem isAbsolute_iff {path : String} : isAbsolute path ↔ ∃ cs, path.toList = '/' :: cs := by
  simp [isAbsolute, List.head?_eq_some_iff]

/-- More text behind a path doesn't change where it begins. -/
theorem isAbsolute_append {path : String} (h : isAbsolute path) (text : String) :
    isAbsolute (path ++ text) := by
  obtain ⟨cs, hcs⟩ := isAbsolute_iff.mp h
  exact isAbsolute_iff.mpr ⟨cs ++ text.toList, by rw [String.toList_append, hcs, List.cons_append]⟩

/-- One more component keeps the root, or is the root. In both cases the
path begins there. -/
theorem isAbsolute_push {path : String} (h : isAbsolute path) (c : Component) : isAbsolute (push path c) := by
  unfold push
  split
  next => decide
  next =>
    split
    · exact isAbsolute_append h _
    · exact isAbsolute_append (isAbsolute_append h _) _

/-- What is put behind a path from the root leaves it a path from the root. -/
theorem isAbsolute_extend {path : String} (h : isAbsolute path) (cs : List Component) :
    isAbsolute (extend path cs) := by
  induction cs generalizing path with
  | nil => exact h
  | cons c cs ih => exact ih (isAbsolute_push h c)

/-- A path from the root doesn't begin with `~`, so it isn't moved. -/
theorem expandHome_of_isAbsolute {path : String} (h : isAbsolute path) (home : Option String) :
    expandHome home path = path := by
  refine expandHome_of_ne_tilde ?_ home
  rw [components_of_isAbsolute h, List.head?_cons]
  decide

/-- A path is moved or stays as it is. What is moved is put behind the home
directory, so nothing but these two ways has to be looked at. -/
theorem expandHome_eq_self_or (home : Option String) (path : String) :
    expandHome home path = path ∨ ∃ h rest, home = some h ∧ expandHome home path = extend h rest := by
  unfold expandHome
  split
  next rest h _ => exact .inr ⟨h, rest, rfl, rfl⟩
  next => exact .inl rfl

/-- Below a home directory that begins at the root, or without one, moving a
path is done once. -/
theorem expandHome_expandHome {home : Option String} (hhome : ∀ h, home = some h → isAbsolute h)
    (path : String) : expandHome home (expandHome home path) = expandHome home path := by
  rcases expandHome_eq_self_or home path with hsame | ⟨h, rest, hsome, hmoved⟩
  · rw [hsame, hsame]
  · rw [hmoved]
    exact expandHome_of_isAbsolute (isAbsolute_extend (hhome h hsome) rest) home

end MapBench.Path
