import MapBench.Store.Disk

/-!
# `MapBench.Proofs.Store.Location`: finding a store file again

The path of a store file is followed name by name, on the tree as it is
at that moment. A file that was made under a path should be found there
later.

* `FileTree.walk_eq_ok_iff`: which names can be walked along, and where
  they lead.
* `FileTree.HasRoomAt`, `FileTree.LeadsToStore`: a path under which a
  store file can be made, and one that leads to a store file.
* `FileTree.HasRoomAt.leadsToStore`: a path that never leads back up, and
  under which a store file is made, leads to it from then on.
* `FileTree.hasRoomAt_empty`: in an empty directory there is room.
-/

set_option autoImplicit false

namespace MapBench

open Std

/-! ### Finding a file again -/

namespace FileTree

variable {t : FileTree} {L : Location} {e : FileEntry}

/-- What was put somewhere is there, and all else is as it was. -/
theorem get?_put (hL : L ≠ []) (l : Location) :
    (t.put L e).get? l = if l = L then some e else t.get? l := by
  by_cases hl : l = L
  · subst hl
    rw [get?, if_neg hL, if_pos rfl]
    exact ExtTreeMap.getElem?_insert_self
  · rw [if_neg hl, get?, get?, put]
    split
    · rfl
    · rw [ExtTreeMap.getElem?_insert, if_neg fun h => hl (Std.compare_eq_iff_eq.mp h).symm]

/-- No name is too long, and all but the last lead to directories. What the
last one leads to is left open. -/
structure IsWay (t : FileTree) (dir : Location) (names : List String) : Prop where
  short : ∀ name ∈ names, ¬ maxName < name.utf8ByteSize
  directory : ∀ l, l ≠ [] → l ≠ names → l <+: names → t.get? (dir ++ l) = some .directory

/-- Neither the directory itself nor the one above it. Such a name adds to
the place where it is. -/
def IsPlain (name : String) : Prop :=
  name ≠ "." ∧ name ≠ ".."

/-- A plain name leads to what is there under that name, if it isn't too
long. -/
theorem follow_plain {name : String} (h : IsPlain name) (t : FileTree) (dir : Location) :
    t.follow dir name =
      if maxName < name.utf8ByteSize then .error .nameTooLong
      else .ok ⟨dir ++ [name], t.get? (dir ++ [name])⟩ := by
  rw [follow, if_neg h.1, if_neg h.2]

/-- A walk goes on behind a name only in a directory. -/
theorem walk_cons_eq_ok_iff {dir : Location} {name : String} {names : List String} {place : Place}
    (hname : IsPlain name) (hne : names ≠ []) :
    t.walk dir (name :: names) = .ok place ↔ ¬ maxName < name.utf8ByteSize ∧
      t.get? (dir ++ [name]) = some .directory ∧ t.walk (dir ++ [name]) names = .ok place := by
  cases names with
  | nil => exact absurd rfl hne
  | cons next names =>
    simp only [walk, follow_plain hname]
    by_cases hlong : maxName < name.utf8ByteSize
    · rw [if_pos hlong]
      exact ⟨fun h => (by cases h), fun h => absurd hlong h.1⟩
    · rw [if_neg hlong]
      simp only [hlong, not_false_eq_true, true_and, bind, Except.bind]
      cases t.get? (dir ++ [name]) with
      | none => exact ⟨fun h => (by cases h), fun h => (by cases h.1)⟩
      | some e =>
        cases e with
        | directory => exact ⟨fun h => ⟨rfl, h⟩, fun h => h.2⟩
        | _ => exact ⟨fun h => (by cases h), fun h => (by cases h.1)⟩

/-- Behind a name a way goes on only in a directory, too. -/
theorem isWay_cons_iff {dir : Location} {name : String} {names : List String} (hne : names ≠ []) :
    t.IsWay dir (name :: names) ↔ ¬ maxName < name.utf8ByteSize ∧
      t.get? (dir ++ [name]) = some .directory ∧ t.IsWay (dir ++ [name]) names := by
  constructor
  · rintro ⟨hshort, hdir⟩
    refine ⟨hshort name List.mem_cons_self, hdir [name] (by simp) (by simpa using Ne.symm hne) (by simp),
      fun other hother => hshort other (List.mem_cons_of_mem _ hother), fun l hl hl' hpre => ?_⟩
    have hfront := hdir (name :: l) (by simp) (by simpa using hl') (by simpa using hpre)
    simpa using hfront
  · rintro ⟨hshort, hfirst, hrestShort, hdir⟩
    refine ⟨List.forall_mem_cons.mpr ⟨hshort, hrestShort⟩, fun l hl hl' hpre => ?_⟩
    rcases List.prefix_cons_iff.mp hpre with rfl | ⟨l', rfl, hpre'⟩
    · exact absurd rfl hl
    · by_cases hnil : l' = []
      · rwa [hnil]
      · have hbehind := hdir l' hnil (by simpa using hl') hpre'
        simpa using hbehind

/-- A single name is a way if it isn't too long. -/
theorem isWay_singleton_iff {dir : Location} {name : String} :
    t.IsWay dir [name] ↔ ¬ maxName < name.utf8ByteSize := by
  refine ⟨fun hway => hway.short name List.mem_cons_self, fun hshort => ⟨?_, fun l hl hl' hpre => ?_⟩⟩
  · exact fun other hother => List.mem_singleton.mp hother ▸ hshort
  · rcases List.prefix_cons_iff.mp hpre with rfl | ⟨l', rfl, hpre'⟩
    · exact absurd rfl hl
    · rw [List.prefix_nil.mp hpre'] at hl'
      exact absurd rfl hl'

/-- Plain names can be walked along exactly if they are a way, and they lead
to where their names say. -/
theorem walk_eq_ok_iff {dir : Location} {names : List String} {place : Place} (hne : names ≠ [])
    (hplain : ∀ name ∈ names, IsPlain name) :
    t.walk dir names = .ok place ↔
      t.IsWay dir names ∧ place = ⟨dir ++ names, t.get? (dir ++ names)⟩ := by
  induction names generalizing dir with
  | nil => exact absurd rfl hne
  | cons name names ih =>
    obtain ⟨hname, hrest⟩ := List.forall_mem_cons.mp hplain
    by_cases hnil : names = []
    · subst hnil
      rw [walk, follow_plain hname, isWay_singleton_iff]
      split
      next hlong => exact ⟨fun h => (by cases h), fun h => absurd hlong h.1⟩
      next hshort => exact ⟨fun h => ⟨hshort, (Except.ok.inj h).symm⟩, fun h => h.2 ▸ rfl⟩
    · rw [walk_cons_eq_ok_iff hname hnil, isWay_cons_iff hnil, ih hnil hrest, List.append_assoc,
        List.singleton_append, and_assoc, and_assoc]

/-- A way stays one when something is put where no directory is. So making
files never cuts off the way to others. -/
theorem IsWay.put {dir : Location} {names : List String} (h : t.IsWay dir names) (hL : L ≠ [])
    (hfile : t.get? L ≠ some .directory) : (t.put L e).IsWay dir names where
  short := h.short
  directory l hl hl' hpre := by
    have hdir := h.directory l hl hl' hpre
    have hother : dir ++ l ≠ L := fun heq => hfile (heq ▸ hdir)
    rw [get?_put hL, if_neg hother, hdir]

/-- The beginning of a way is one. -/
theorem IsWay.beginning {dir : Location} {front names : List String} (h : t.IsWay dir names)
    (hpre : front <+: names) : t.IsWay dir front where
  short name hname := h.short name (hpre.subset hname)
  directory l hl hl' hpre' :=
    h.directory l hl (fun heq => hl' (hpre'.eq_of_length_le (heq ▸ hpre.length_le)))
      (hpre'.trans hpre)

end FileTree

namespace Disk

open FileTree

variable {t : FileTree} {L : Location} {e : FileEntry}

/-- Without `..` in it, a path adds its names to where it starts. Empty
pieces and dots add nothing. -/
theorem eq_of_foldlM_locateStep {start location : Location} {pieces : List String}
    (hup : ".." ∉ pieces) (h : pieces.foldlM (locateStep t) start = some location) :
    location = start ++ pieces.filter fun piece => piece ≠ "" ∧ piece ≠ "." := by
  induction pieces generalizing start with
  | nil => simpa using h.symm
  | cons piece pieces ih =>
    rw [List.mem_cons, not_or] at hup
    rw [List.foldlM_cons, Option.bind_eq_bind, Option.bind_eq_some_iff] at h
    obtain ⟨at', hstep, hrest⟩ := h
    rw [ih hup.2 hrest]
    rw [locateStep] at hstep
    split at hstep
    next hskip =>
      cases hstep
      rcases hskip with rfl | rfl <;> simp
    next hkeep =>
      rw [if_neg (Ne.symm hup.1)] at hstep
      have hat : at' = start ++ [piece] := by
        split at hstep
        · cases hstep
        · split at hstep <;> cases hstep <;> rfl
      rw [not_or] at hkeep
      simp [hat, hkeep]

/-- Where a path without `..` leads, it still leads when something has
been put there, in place of nothing or of a file. -/
theorem foldlM_locateStep_put {start location : Location} {pieces : List String}
    (hup : ".." ∉ pieces) (hplain : ∀ name ∈ location, IsPlain name) (hL : L ≠ [])
    (hfile : t.get? L ≠ some .directory) (hway : t.IsWay [] location)
    (h : pieces.foldlM (locateStep t) start = some location) :
    pieces.foldlM (locateStep (t.put L e)) start = some location := by
  induction pieces generalizing start with
  | nil => exact h
  | cons piece pieces ih =>
    rw [List.mem_cons, not_or] at hup
    rw [List.foldlM_cons, Option.bind_eq_bind, Option.bind_eq_some_iff] at h ⊢
    obtain ⟨at', hstep, hrest⟩ := h
    refine ⟨at', ?_, ih hup.2 hrest⟩
    rw [locateStep] at hstep ⊢
    split at hstep
    next hskip => rwa [if_pos hskip]
    next hkeep =>
      rw [if_neg (Ne.symm hup.1)] at hstep ⊢
      rw [if_neg hkeep]
      split at hstep
      · cases hstep
      next hshort =>
      obtain rfl : at' = start ++ [piece] := by
        split at hstep <;> cases hstep <;> rfl
      rw [if_neg hshort]
      -- What was walked along on the way to the end is a beginning of it.
      have hpre : start ++ [piece] <+: location :=
        ⟨_, (eq_of_foldlM_locateStep hup.2 hrest).symm⟩
      have hwalk : (t.put L e).walk [] (start ++ [piece]) =
          .ok ⟨[] ++ (start ++ [piece]), (t.put L e).get? ([] ++ (start ++ [piece]))⟩ :=
        (walk_eq_ok_iff (by simp) fun name hname => hplain name (hpre.subset hname)).mpr
          ⟨(hway.put hL hfile).beginning hpre, rfl⟩
      rw [hwalk]

end Disk

namespace FileTree

variable {t : FileTree} {path : String}

/-- The path leads to the store file of a number. -/
def LeadsToStore (t : FileTree) (path : String) (n : Nat) : Prop :=
  Disk.isPrivate path = false ∧
    ∃ place, Disk.locate t path = some place ∧ place.entry = some (.store n)

/-- The path leads to where a store file can be made: to nothing, or to a
file without bytes. -/
def HasRoomAt (t : FileTree) (path : String) (place : Place) : Prop :=
  Disk.isPrivate path = false ∧ Disk.locate t path = some place ∧
    (place.entry = none ∨ place.entry = some (.bytes []))

/-- The path never leads back up, and neither does the current
directory. -/
def IsDirect (t : FileTree) (path : String) : Prop :=
  (∀ name ∈ t.current, IsPlain name) ∧ ".." ∉ Path.segments path

/-- A path is found where its names lead, unless it is too long. Both the
directory that it starts in and the place that it leads to have a limit. -/
theorem locate_eq_some_iff {place : Place} :
    Disk.locate t path = some place ↔
      path.contains '\x00' = false ∧
      Disk.pathSize (if Path.isAbsolute path then [] else t.current) ≤ Disk.maxStoreWay ∧
      ∃ location, (Path.segments path).foldlM (Disk.locateStep t)
          (if Path.isAbsolute path then [] else t.current) = some location ∧
        Disk.pathSize location ≤ Disk.maxStorePath ∧ t.walk [] location = .ok place := by
  have hguard {p : Prop} [Decidable p] {x : Option Place} :
      (if p then (failure : Option Place) else x) = some place ↔ ¬ p ∧ x = some place := by
    by_cases hp : p <;> simp [hp, failure]
  have hwalked {location : Location} :
      (t.walk [] location).toOption = some place ↔ t.walk [] location = .ok place := by
    cases t.walk [] location <;> simp [Except.toOption]
  have hlocate : Disk.locate t path = if path.contains '\x00' then failure else
      if Disk.maxStoreWay < Disk.pathSize (if Path.isAbsolute path then [] else t.current) then failure
      else (Path.segments path).foldlM (Disk.locateStep t)
        (if Path.isAbsolute path then [] else t.current) >>= fun location =>
          if Disk.maxStorePath < Disk.pathSize location then failure
          else (t.walk [] location).toOption := rfl
  simp only [hlocate, hguard, Option.bind_eq_bind, Option.bind_eq_some_iff, hwalked, Nat.not_lt,
    Bool.not_eq_true]

/-- A direct path under which a store file is made leads to it from then
on. -/
theorem HasRoomAt.leadsToStore {place : Place} (h : t.HasRoomAt path place) (hdirect : t.IsDirect path)
    (n : Nat) : (t.put place.location (.store n)).LeadsToStore path n := by
  obtain ⟨hcurrent, hup⟩ := hdirect
  obtain ⟨hprivate, hlocate, hentry⟩ := h
  obtain ⟨hnul, hstart, location, hfold, hsize, hwalk⟩ := locate_eq_some_iff.mp hlocate
  have hplain : ∀ name ∈ location, IsPlain name := by
    rw [Disk.eq_of_foldlM_locateStep hup hfold]
    intro name hname
    rcases List.mem_append.mp hname with hname | hname
    · split at hname
      · cases hname
      · exact hcurrent name hname
    · have hkept := List.mem_filter.mp hname
      exact ⟨(of_decide_eq_true hkept.2).2, fun heq => hup (heq ▸ hkept.1)⟩
  -- The root is a directory, so it has no room.
  have hne : location ≠ [] := by
    rintro rfl
    cases hwalk
    rcases hentry with hentry | hentry <;> cases hentry
  obtain ⟨hway, rfl⟩ := (walk_eq_ok_iff hne hplain).mp hwalk
  rw [List.nil_append] at hentry ⊢
  have hfile : t.get? location ≠ some .directory := by
    rcases hentry with hentry | hentry <;> simp [show t.get? location = _ from hentry]
  refine ⟨hprivate, ⟨location, some (.store n)⟩, ?_, rfl⟩
  have hwalk' := (walk_eq_ok_iff (t := t.put location (.store n)) hne hplain).mpr
    ⟨hway.put hne hfile, rfl⟩
  rw [List.nil_append, get?_put hne, if_pos rfl] at hwalk'
  have hfold' := Disk.foldlM_locateStep_put (e := .store n) hup hplain hne hfile hway hfold
  exact locate_eq_some_iff.mpr ⟨hnul, hstart, location, hfold', hsize, hwalk'⟩

/-- In the root directory a file is looked for under its own name. -/
theorem locate_name {t : FileTree} (hroot : t.current = []) {name : String} (hplain : IsPlain name)
    (hne : name ≠ "") (hshort : ¬ maxName < name.utf8ByteSize) (hnul : name.contains '\x00' = false)
    (hsegments : Path.segments name = [name]) : Disk.locate t name = some ⟨[name], t.get? [name]⟩ := by
  have hwalk : t.walk [] [name] = .ok ⟨[name], t.get? [name]⟩ := by
    rw [walk, follow_plain hplain, if_neg hshort]
    simp [get?]
  have hsize : Disk.pathSize [name] ≤ 256 := by
    rw [Disk.pathSize, List.foldr_cons, List.foldr_nil]
    have hmax : maxName = 255 := rfl
    omega
  have hway : ¬ Disk.maxStoreWay < Disk.pathSize [name] :=
    Nat.not_lt.mpr (Nat.le_trans hsize (by decide))
  have hstart : (if Path.isAbsolute name then [] else t.current) = [] := by rw [hroot, ite_self]
  have hfold : (Path.segments name).foldlM (Disk.locateStep t)
      (if Path.isAbsolute name then [] else t.current) = some [name] := by
    rw [hstart]
    simp [hsegments, Disk.locateStep, hne, hplain.1, hplain.2, hwalk, hway]
  refine locate_eq_some_iff.mpr ⟨hnul, ?_, [name], hfold, Nat.le_trans hsize (by decide), hwalk⟩
  rw [hstart]
  exact Nat.zero_le _

/-- In an empty directory there is room under every name that a file can
have. -/
theorem hasRoomAt_empty {name : String} (hplain : IsPlain name)
    (hshort : ¬ maxName < name.utf8ByteSize) (hprivate : Disk.isPrivate name = false)
    (hnul : name.contains '\x00' = false) (hsegments : Path.segments name = [name]) :
    (FileTree.mk ∅ []).HasRoomAt name ⟨[name], none⟩ ∧ (FileTree.mk ∅ []).IsDirect name := by
  have hne : name ≠ "" := by
    rintro rfl
    cases hprivate
  have hlocate : Disk.locate (FileTree.mk ∅ []) name = some ⟨[name], none⟩ := by
    rw [locate_name rfl hplain hne hshort hnul hsegments]
    simp [get?]
  refine ⟨⟨hprivate, hlocate, .inl rfl⟩, by simp, ?_⟩
  rw [hsegments, List.mem_singleton]
  exact fun heq => hplain.2 heq.symm

end FileTree

end MapBench
