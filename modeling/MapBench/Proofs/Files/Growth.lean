import MapBench.Proofs.Store.Location

/-!
# `MapBench.Proofs.Files.Growth`: files beside what is added to a tree

A program makes directories for its log and adds lines to it. Neither
harms what else is in the tree.

* `FileTree.resolve_eq_walk`: a path leads where its names lead.
  `FileTree.entry_of_walk`: what a walk finds is what the tree has there.
* `FileTree.Grows`: nothing has happened to a tree but that directories were
  made where nothing was. `FileTree.grows_createDirectories` says so of
  making directories, whether it succeeds or not.
* `FileTree.get?_append_of_store`: a store file stays one when something is
  added to a file.
-/

set_option autoImplicit false

namespace MapBench.FileTree

variable {t t' : FileTree} {path : String} {place : Place}

/-! ### What paths lead to -/

/-- What one name leads to, unless that is a directory, is what the tree has
there. -/
theorem entry_of_follow {dir : Location} {name : String} (h : t.follow dir name = .ok place)
    (hfile : place.entry ≠ some .directory) :
    place.location ≠ [] ∧ place.entry = t.get? place.location := by
  simp only [follow] at h
  split at h
  · cases h
    exact absurd rfl hfile
  · split at h
    · cases h
      exact absurd rfl hfile
    · split at h
      · cases h
      · cases h
        exact ⟨by simp, rfl⟩

/-- What a walk leads to, unless that is a directory, is what the tree has
there. -/
theorem entry_of_walk {dir : Location} {names : List String} (h : t.walk dir names = .ok place)
    (hfile : place.entry ≠ some .directory) :
    place.location ≠ [] ∧ place.entry = t.get? place.location := by
  induction names generalizing dir with
  | nil =>
    cases h
    exact absurd rfl hfile
  | cons name names ih =>
    -- Only the last name of the walk says what is there. The others lead to directories.
    cases names with
    | nil => exact entry_of_follow h hfile
    | cons next names =>
      simp only [walk, bind, Except.bind] at h
      cases hfront : t.follow dir name with
      | error e =>
        rw [hfront] at h
        cases h
      | ok front =>
        rw [hfront] at h
        dsimp only at h
        split at h
        · exact ih h
        · cases h
        · cases h

/-- A path that a system takes, and that doesn't end in a slash, leads where
its names lead. -/
theorem resolve_eq_walk (hnul : path.contains '\x00' = false)
    (hplain : path ≠ "" ∧ path.utf8ByteSize ≤ maxPath ∧ path.endsWith "/" = false) :
    t.resolve path = t.walk (if Path.isAbsolute path then [] else t.current)
      ((Path.segments path).filter (· ≠ "")) := by
  obtain ⟨hne, hshort, hend⟩ := hplain
  rw [resolve]
  simp only [hnul, hne, Nat.not_lt.mpr hshort, hend, Bool.false_eq_true, if_false]
  generalize t.walk _ _ = r
  rcases r with e | ⟨location, _ | _ | _ | _ | _⟩ <;> rfl

/-- A path may end in a slash if its names lead to nothing yet. A slash
behind the name of a file, on the other hand, is an error. -/
theorem resolve_of_walk_nothing {L : Location} (hnul : path.contains '\x00' = false)
    (hshort : path ≠ "" ∧ path.utf8ByteSize ≤ maxPath)
    (h : t.walk (if Path.isAbsolute path then [] else t.current)
      ((Path.segments path).filter (· ≠ "")) = .ok ⟨L, none⟩) : t.resolve path = .ok ⟨L, none⟩ := by
  rw [resolve]
  simp only [hnul, hshort.1, Nat.not_lt.mpr hshort.2, Bool.false_eq_true, if_false, h]
  rfl

/-- What a path leads to is found by a walk. The checks around it can only
fail, so they are not needed once the path is known to lead somewhere. -/
theorem exists_walk_of_resolve (h : t.resolve path = .ok place) :
    ∃ start names, t.walk start names = .ok place := by
  simp only [resolve, bind, Except.bind, pure, Except.pure, throw, throwThe, MonadExceptOf.throw] at h
  split at h
  · cases h
  · split at h
    · cases h
    · split at h
      · cases h
      · cases hwalk : t.walk (if Path.isAbsolute path then [] else t.current)
            ((Path.segments path).filter (· ≠ "")) with
        | error e =>
          rw [hwalk] at h
          cases h
        | ok place' =>
          rw [hwalk] at h
          refine ⟨_, _, hwalk.trans ?_⟩
          dsimp only at h
          split at h
          · exact h
          · exact h
          · split at h
            · cases h
            · exact h

/-- What a path leads to, unless that is a directory, is what the tree has
there. -/
theorem entry_of_resolve (h : t.resolve path = .ok place) (hfile : place.entry ≠ some .directory) :
    place.location ≠ [] ∧ place.entry = t.get? place.location := by
  obtain ⟨start, names, hwalk⟩ := exists_walk_of_resolve h
  exact entry_of_walk hwalk hfile

/-! ### Directories that are made -/

/-- Nothing has happened but that directories were made where nothing
was. -/
def Grows (t t' : FileTree) : Prop :=
  ∀ L, t'.get? L = t.get? L ∨ t.get? L = none ∧ t'.get? L = some .directory

namespace Grows

/-- A tree that nothing has happened to has grown by nothing. -/
theorem refl (t : FileTree) : Grows t t :=
  fun _ => .inl rfl

/-- Trees grow step by step. A directory that was made stays where it is. -/
theorem trans {t'' : FileTree} (h : Grows t t') (h' : Grows t' t'') : Grows t t'' := by
  intro L
  rcases h' L with hsame | ⟨hnone, hmade⟩
  · rw [hsame]
    exact h L
  · rcases h L with hsame | ⟨-, hmade'⟩
    · exact .inr ⟨hsame ▸ hnone, hmade⟩
    · rw [hmade'] at hnone
      cases hnone

end Grows

/-- A new directory is made where nothing was. That is checked before
anything changes, so no file gives way to it. -/
theorem grows_createDirectory (h : t.createDirectory path = .ok t') : Grows t t' := by
  rw [createDirectory] at h
  cases hresolve : t.resolve path with
  | error e =>
    rw [hresolve] at h
    cases h
  | ok place =>
    rw [hresolve] at h
    simp only [bind, Except.bind] at h
    cases hentry : place.entry with
    | some e =>
      rw [hentry] at h
      cases h
    | none =>
      rw [hentry] at h
      cases h
      obtain ⟨hne, hnone⟩ := entry_of_resolve hresolve (by simp [hentry])
      intro L
      rw [get?_put hne]
      split
      next heq => exact .inr ⟨by rw [heq, ← hnone, hentry], rfl⟩
      next => exact .inl rfl

/-- The same goes for a directory that may be there already: then nothing is
made. -/
theorem grows_ensureDirectory (t : FileTree) (path : String) : Grows t (t.ensureDirectory path).2 := by
  rw [ensureDirectory]
  cases hmade : t.createDirectory path with
  | error e => exact .refl t
  | ok t' => exact grows_createDirectory hmade

/-- Directories are made from the top down, and each level only adds to the
tree. If one can't be made, those above it stay. -/
theorem grows_createLevels (t : FileTree) (levels : Nat) (path : String) :
    Grows t (t.createLevels levels path).2 := by
  induction levels generalizing path with
  | zero => exact .refl t
  | succ levels ih =>
    rw [createLevels]
    split
    · exact .refl t
    · split
      · split
        · exact .refl t
        next parent _ =>
          -- The directories above come first, and stay in any case.
          have hparent := ih parent
          split
          next t₁ hmade =>
            rw [hmade] at hparent
            exact hparent.trans (grows_ensureDirectory t₁ path)
          next => exact hparent
      · exact grows_ensureDirectory t path

/-- Whether directories can all be made or not, nothing but directories is
made. -/
theorem grows_createDirectories (t : FileTree) (path : String) :
    Grows t (t.createDirectories path).2 :=
  grows_createLevels t _ path

/-- A directory that is there needn't be made, and making it doesn't fail. -/
theorem createDirectories_of_directory {L : Location} (hne : path ≠ "")
    (h : t.resolve path = .ok ⟨L, some .directory⟩) : t.createDirectories path = (.ok (), t) := by
  have hthere : t.isDirectory path = true := by
    rw [isDirectory, entry?, h]
    rfl
  have hmade : t.ensureDirectory path = (.ok (), t) := by
    rw [ensureDirectory, createDirectory, h]
    simp only [bind, Except.bind, throw, throwThe, MonadExceptOf.throw, hthere, if_true]
  rw [createDirectories, createLevels, if_neg hne, hmade]

/-- One that isn't there is made if the one above it is there. That is the
case of a log in a new directory. -/
theorem createDirectories_of_nothing {L : Location} (hne : path ≠ "")
    (h : t.resolve path = .ok ⟨L, none⟩) : t.createDirectories path = (.ok (), t.put L .directory) := by
  have hmade : t.ensureDirectory path = (.ok (), t.put L .directory) := by
    rw [ensureDirectory, createDirectory, h]
    rfl
  rw [createDirectories, createLevels, if_neg hne, hmade]

/-- A path that ends in a slash isn't opened as a file, even if nothing is
there. What it says about the path is what is said of a directory. -/
theorem openForAppend_of_slash (hslash : path.endsWith "/" = true) (h : t.resolve path = .ok place) :
    t.openForAppend path = .error .isDirectory := by
  rw [openForAppend, h, hslash]
  rfl

/-! ### Bytes that are added -/

/-- A store file stays one when something is added to a file: only a file of
bytes takes what is added. -/
theorem get?_append_of_store {L : Location} {n : Nat} (h : t.get? L = some (.store n))
    (path : String) (added : List UInt8) : (t.append path added).get? L = some (.store n) := by
  rw [append]
  split
  next location content hresolve =>
    obtain ⟨hne, hentry⟩ := entry_of_resolve hresolve (by simp)
    have hother : L ≠ location := by
      rintro rfl
      cases hentry.trans h
    rw [get?_put hne, if_neg hother, h]
  next => exact h

end MapBench.FileTree
