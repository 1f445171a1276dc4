import Mathlib.Data.List.Count
import Mathlib.Data.List.Forall2
import Mathlib.Data.List.Nodup
import MapBench.Proofs.Json.Grammar

/-!
# `MapBench.Proofs.Json.Records`: all the forms of a record

A record is an array of its fields in order, or an object that has a
member for each of them, in any order and among any others. What is found
as its fields is exactly that: a record that misses a field, has one
twice, or is an array of another length has none.

* `Value.IsRecord`: the forms of a record.
* `Value.fields?_eq_some_iff`: the fields that are found.
* `Value.IsField`, `Value.IsMisfit`: what stands in the place of a field,
  and what is no record.
-/

set_option autoImplicit false

namespace MapBench.Json

/-! ### Parts of what can be written -/

/-- All tokens of a text are written in it somewhere. -/
theorem Spaced.isWritten {ts : List Token} {bytes : List UInt8} (h : Spaced ts bytes) :
    ∀ t ∈ ts, ∃ text, t.IsWritten text := by
  induction h with
  | nil => simp
  | @cons t ts blank text rest isBlank first more ih =>
    exact List.forall_mem_cons.mpr ⟨⟨text, first⟩, ih⟩

/-- Hexadecimal digits denote a number of their width. -/
theorem AreHexDigits.lt {ds : List UInt8} {u : Nat} (h : AreHexDigits ds u) : u < Nat.pow 16 ds.length := by
  induction h with
  | nil => decide
  | @snoc ds d u n front last ih =>
    have hplace : Nat.pow 16 (ds ++ [d]).length = Nat.pow 16 ds.length * 16 := by
      rw [List.length_append]
      rfl
    have hdigit := last.1
    omega

/-- The escapes of a written string give units of 16 bits, since they have
four digits. -/
theorem AreWritten.inUnits {items : List Item} {text : List UInt8} (h : AreWritten items text) :
    InUnits items := by
  intro u hu
  induction h with
  | nil => cases hu
  | cons first rest ih =>
    rcases List.mem_cons.mp hu with rfl | hu
    · cases first with
      | unit areDigits four =>
        have hlt := areDigits.lt
        rw [four] at hlt
        exact hlt
    · exact ih hu

/-- A token of a piece is among the tokens of all pieces with commas between
them. -/
theorem mem_separated {α : Type} {tokens : α → List Token} {as : List α} {a : α} (ha : a ∈ as) {t : Token}
    (ht : t ∈ tokens a) : t ∈ separated (as.map tokens) := by
  cases as with
  | nil => cases ha
  | cons b as =>
    rw [separated_cons, List.mem_append, List.mem_flatMap]
    rcases List.mem_cons.mp ha with rfl | ha
    · exact .inl ht
    · exact .inr ⟨a, ha, List.mem_cons_of_mem _ ht⟩

/-- What is read one by one, if it is known what is read of each. So a
relation for elements gives one for lists of them. -/
theorem mapM_eq_some_iff {α β : Type} {f : α → Option β} {R : α → β → Prop} {as : List α} {bs : List β}
    (h : ∀ a ∈ as, ∀ b, f a = some b ↔ R a b) : as.mapM f = some bs ↔ List.Forall₂ R as bs := by
  induction as generalizing bs with
  | nil =>
    rw [List.mapM_nil, List.forall₂_nil_left_iff]
    exact ⟨fun h => (Option.some.inj h).symm, fun h => h ▸ rfl⟩
  | cons a as ih =>
    have hmore : ∀ x ∈ as, ∀ b, f x = some b ↔ R x b := fun x hx => h x (List.mem_cons_of_mem _ hx)
    rw [List.mapM_cons, List.forall₂_cons_left_iff]
    simp only [Option.bind_eq_bind, Option.bind_eq_some_iff, h a List.mem_cons_self, ih hmore]
    constructor
    · rintro ⟨b, hb, bs', hbs, hall⟩
      exact ⟨b, bs', hb, hbs, (Option.some.inj hall).symm⟩
    · rintro ⟨b, bs', hb, hbs, rfl⟩
      exact ⟨b, hb, bs', hbs, rfl⟩

/-- What is related to a list has something related to each of its elements. -/
theorem exists_of_forall₂ {α β : Type} {R : α → β → Prop} {as : List α} {bs : List β}
    (h : List.Forall₂ R as bs) {a : α} (ha : a ∈ as) : ∃ b ∈ bs, R a b := by
  induction h with
  | nil => cases ha
  | @cons a' b as bs hab _ ih =>
    rcases List.mem_cons.mp ha with rfl | ha
    · exact ⟨b, List.mem_cons_self, hab⟩
    · obtain ⟨b, hb, hab⟩ := ih ha
      exact ⟨b, List.mem_cons_of_mem _ hb, hab⟩

namespace Value

variable {v w : Value} {names : List String} {fields : List (String × Value)}
  {members : List (List Item × Value)} {named : List (String × Value)}

/-- All strings and numbers of a value can be written. Only such values are
ever read, and others have no text at all. -/
def IsWritable (v : Value) : Prop :=
  ∀ t ∈ v.tokens, ∃ text, t.IsWritten text

/-- A value that has a text can be written. The text is what it is written
as. -/
theorem IsText.isWritable {bytes : List UInt8} (h : v.IsText bytes) : v.IsWritable :=
  Spaced.isWritten h

/-- The elements of an array that can be written can be written themselves. -/
theorem IsWritable.element {elements : List Value} (h : IsWritable (.array elements)) (hv : v ∈ elements) :
    v.IsWritable := by
  intro t ht
  refine h t ?_
  rw [tokens_array, List.cons_append, List.mem_cons, List.mem_append]
  exact .inr (.inl (mem_separated hv ht))

/-- The names and values of an object that can be written can be written. -/
theorem IsWritable.mem_memberTokens {m : List Item × Value} (h : IsWritable (.object members))
    (hm : m ∈ members) : ∀ t ∈ memberTokens m, ∃ text, t.IsWritten text := by
  intro t ht
  refine h t ?_
  rw [tokens_object, List.cons_append, List.mem_cons, List.mem_append]
  exact .inr (.inl (mem_separated hm ht))

/-- So can the value of each member. What a text is made of has texts, too. -/
theorem IsWritable.member {m : List Item × Value} (h : IsWritable (.object members)) (hm : m ∈ members) :
    m.2.IsWritable :=
  fun t ht => h.mem_memberTokens hm t (List.mem_cons_of_mem _ (List.mem_cons_of_mem _ ht))

/-- A string that is written has escapes of 16 bits only. -/
theorem inUnits_of_isWritten {items : List Item} {text : List UInt8}
    (h : Token.IsWritten (.string items) text) : InUnits items := by
  cases h with
  | string inside => exact inside.inUnits

/-- So have the names of members, which are strings. -/
theorem IsWritable.inUnits_key {m : List Item × Value} (h : IsWritable (.object members))
    (hm : m ∈ members) : InUnits m.1 := by
  obtain ⟨text, htext⟩ := h.mem_memberTokens hm (.string m.1) List.mem_cons_self
  exact inUnits_of_isWritten htext

/-- So has a string that is a value, whatever it is in. -/
theorem IsWritable.inUnits {items : List Item} (h : (Value.string items).IsWritable) : InUnits items := by
  obtain ⟨text, htext⟩ := h (.string items) (by rw [tokens]; exact List.mem_cons_self)
  exact inUnits_of_isWritten htext

/-- A number that is a value is one in writing. -/
theorem IsWritable.isNumber {text : List UInt8} (h : (Value.number text).IsWritable) : IsNumber text := by
  obtain ⟨_, htext⟩ := h (.number text) (by rw [tokens]; exact List.mem_cons_self)
  cases htext with
  | number isNumber => exact isNumber

/-! ### The forms of a record -/

/-- Members of an object under the names that their keys spell. Keys may be
written with escapes, but names are compared as texts. -/
def AreNamed (members : List (List Item × Value)) (named : List (String × Value)) : Prop :=
  List.Forall₂ (fun m n => IsSpelling n.1.toList m.1 ∧ m.2 = n.2) members named

/-- The forms of a record with these fields. Which one is used is up to
whoever writes it. -/
inductive IsRecord (fields : List (String × Value)) : Value → Prop
  /-- The fields in order. -/
  | array : IsRecord fields (.array (fields.map Prod.snd))
  /-- A member for each field, in any order. The names of all others are
  not those of fields. -/
  | object {members : List (List Item × Value)} {named : List (String × Value)}
      (areNamed : AreNamed members named)
      (own : (named.filter fun n => n.1 ∈ fields.map Prod.fst).Perm fields) :
      IsRecord fields (.object members)

/-! ### The fields that are found -/

/-- Members are found under the names that their keys spell. If some key
spells none, no member is found. -/
theorem namedMembers?_eq_some_iff (h : ∀ m ∈ members, InUnits m.1) :
    namedMembers? members = some named ↔ AreNamed members named := by
  refine mapM_eq_some_iff fun m hm n => ?_
  rw [Option.map_eq_some_iff]
  simp only [itemsText?_eq_some_iff (h m hm)]
  constructor
  · rintro ⟨name, hname, rfl⟩
    exact ⟨hname, rfl⟩
  · rintro ⟨hname, hvalue⟩
    exact ⟨n.1, hname, by rw [hvalue]⟩

/-- The one member of a name is found. If there are more, none of them is. -/
theorem unique?_eq_some_iff {name : String} :
    unique? name named = some v ↔ named.filter (fun n => n.1 == name) = [(name, v)] := by
  unfold unique?
  constructor
  · intro h
    split at h
    · next m hm =>
      have hmem : m ∈ named.filter fun n => n.1 == name := hm ▸ List.mem_singleton_self m
      have hname : m.1 = name := by simpa using (List.mem_filter.mp hmem).2
      rw [hm, ← hname, ← Option.some.inj h]
    · cases h
  · intro h
    rw [h]

/-- Among the members with one of several names, those with a certain one
are the same as among all. -/
theorem filter_mem_cons_filter (name : String) (names : List String) (named : List (String × Value)) :
    (named.filter fun n => n.1 ∈ name :: names).filter (fun n => n.1 == name) =
      named.filter fun n => n.1 == name := by
  rw [List.filter_filter]
  refine List.filter_congr fun n _ => ?_
  by_cases h : n.1 = name <;> simp [h]

/-- The members with one of several names are those with the first and those
with one of the others. -/
theorem filter_mem_cons {name : String} (hname : name ∉ names) (named : List (String × Value)) :
    (named.filter fun n => n.1 ∈ name :: names).Perm
      ((named.filter fun n => n.1 == name) ++ named.filter fun n => n.1 ∈ names) := by
  have hparts := List.filter_append_perm (fun n => n.1 == name) (named.filter fun n => n.1 ∈ name :: names)
  have hrest : (named.filter fun n => n.1 ∈ name :: names).filter (fun n => !(n.1 == name)) =
      named.filter fun n => n.1 ∈ names := by
    rw [List.filter_filter]
    refine List.filter_congr fun n _ => ?_
    by_cases h : n.1 = name <;> simp [h, hname]
  rw [filter_mem_cons_filter, hrest] at hparts
  exact hparts.symm

/-- If the members of these names are the fields, those of the first name
are the first field. -/
theorem filter_eq_of_perm_cons {name : String} (hname : name ∉ names) {w : Value} {ws : List Value}
    (h : (named.filter fun n => n.1 ∈ name :: names).Perm ((name, w) :: names.zip ws)) :
    named.filter (fun n => n.1 == name) = [(name, w)] := by
  have hone := h.filter fun n => n.1 == name
  have hfields : ((name, w) :: names.zip ws).filter (fun n => n.1 == name) = [(name, w)] := by
    rw [List.filter_cons_of_pos (by simp), List.filter_eq_nil_iff.mpr]
    intro n hn h
    obtain rfl : n.1 = name := by simpa using h
    exact hname (List.of_mem_zip hn).1
  rwa [filter_mem_cons_filter, hfields, List.perm_singleton] at hone

/-- Each name has its one member exactly if the members of all these
names are the fields. -/
theorem mapM_unique?_eq_some_iff {values : List Value} (hnodup : names.Nodup) :
    (names.mapM fun name => unique? name named) = some values ↔
      values.length = names.length ∧ (named.filter fun n => n.1 ∈ names).Perm (names.zip values) := by
  induction names generalizing values with
  | nil =>
    rw [List.mapM_nil]
    constructor
    · intro h
      cases h
      simp
    · rintro ⟨hlength, -⟩
      rw [List.eq_nil_of_length_eq_zero hlength]
      rfl
  | cons name names ih =>
    -- The members of the first name are set apart from those of the others.
    obtain ⟨hname, hnames⟩ := List.nodup_cons.mp hnodup
    have hsplit := filter_mem_cons hname named
    rw [List.mapM_cons]
    simp only [Option.bind_eq_bind, Option.bind_eq_some_iff]
    constructor
    · rintro ⟨w, hw, ws, hws, hvalues⟩
      cases hvalues
      obtain ⟨hlength, hperm⟩ := (ih hnames).mp hws
      rw [unique?_eq_some_iff.mp hw] at hsplit
      exact ⟨by simpa using hlength, hsplit.trans (hperm.cons (name, w))⟩
    · rintro ⟨hlength, hperm⟩
      cases values with
      | nil => cases hlength
      | cons w ws =>
        rw [List.zip_cons_cons] at hperm
        have hone := filter_eq_of_perm_cons hname hperm
        rw [hone] at hsplit
        have hrest : (named.filter fun n => n.1 ∈ names).Perm (names.zip ws) :=
          (hsplit.symm.trans hperm).cons_inv
        exact ⟨w, unique?_eq_some_iff.mpr hone, ws, (ih hnames).mpr ⟨by simpa using hlength, hrest⟩, rfl⟩

/-- The fields that are found are exactly those of the record, whichever
form it has. -/
theorem fields?_eq_some_iff {values : List Value} (hv : v.IsWritable) (hnodup : names.Nodup) :
    v.fields? names = some values ↔ values.length = names.length ∧ IsRecord (names.zip values) v := by
  have hnames (h : values.length = names.length) : (names.zip values).map Prod.fst = names :=
    List.map_fst_zip (Nat.le_of_eq h.symm)
  have hvalues (h : values.length = names.length) : (names.zip values).map Prod.snd = values :=
    List.map_snd_zip (Nat.le_of_eq h)
  constructor
  · intro h
    cases v with
    | array elements =>
      rw [fields?] at h
      split at h
      · next hlength =>
        cases h
        refine ⟨hlength, ?_⟩
        have harray : IsRecord (names.zip values) (.array ((names.zip values).map Prod.snd)) := .array
        rwa [hvalues hlength] at harray
      · cases h
    -- In an object the order of the members doesn't matter, so only a permutation is known.
    | object members =>
      rw [fields?] at h
      obtain ⟨named, hnamed, hall⟩ := Option.bind_eq_some_iff.mp h
      rw [namedMembers?_eq_some_iff fun m hm => hv.inUnits_key hm] at hnamed
      obtain ⟨hlength, hperm⟩ := (mapM_unique?_eq_some_iff hnodup).mp hall
      refine ⟨hlength, .object hnamed ?_⟩
      rwa [hnames hlength]
    | _ => cases h
  · rintro ⟨hlength, hrecord⟩
    cases hrecord with
    | array =>
      rw [hvalues hlength, fields?, if_pos hlength]
    | object areNamed own =>
      rw [hnames hlength] at own
      rw [fields?, (namedMembers?_eq_some_iff fun m hm => hv.inUnits_key hm).mpr areNamed, Option.bind_some]
      exact (mapM_unique?_eq_some_iff hnodup).mpr ⟨hlength, own⟩

/-! ### What is no record -/

/-- What stands in the place of a field: at its index in an array, and under
its name in an object. -/
inductive IsField (names : List String) (i : Nat) : Value → Value → Prop
  | element {elements : List Value} {w : Value} (at_index : elements[i]? = some w) :
      IsField names i (.array elements) w
  | member {members : List (List Item × Value)} {name : String} {m : List Item × Value}
      (at_index : names[i]? = some name) (mem : m ∈ members) (spelled : IsSpelling name.toList m.1) :
      IsField names i (.object members) m.2

/-- What is no record with fields of these names: an array of another
length, or an object in which a field is missing or comes twice. -/
inductive IsMisfit (names : List String) : Value → Prop
  | length {elements : List Value} (other : elements.length ≠ names.length) :
      IsMisfit names (.array elements)
  | missing {members : List (List Item × Value)} {name : String} (mem : name ∈ names)
      (none : ∀ m ∈ members, ¬ IsSpelling name.toList m.1) : IsMisfit names (.object members)
  | repeated {members : List (List Item × Value)} {name : String} {m m' : List Item × Value}
      (mem : name ∈ names) (twice : [m, m'].Sublist members) (first : IsSpelling name.toList m.1)
      (second : IsSpelling name.toList m'.1) : IsMisfit names (.object members)

/-- No key spells two names, since it is read as one text. -/
theorem eq_of_isSpelling {s t : String} {items : List Item} (hs : IsSpelling s.toList items)
    (ht : IsSpelling t.toList items) : s = t := by
  have h := hs.itemsText?.symm.trans ht.itemsText?
  simpa using h

/-- In an object the name of each field is spelled once, however often other
names are. -/
theorem count_of_isRecord (h : IsRecord fields (.object members)) (hnodup : (fields.map Prod.fst).Nodup)
    {name : String} (hname : name ∈ fields.map Prod.fst) :
    (members.map fun m => itemsText? m.1).count (some name) = 1 := by
  cases h with
  | @object _ named areNamed own =>
    have htexts : members.map (fun m => itemsText? m.1) = (named.map Prod.fst).map some := by
      -- What the fields are depends on all members, so it can't be kept in the induction.
      clear own
      induction areNamed with
      | nil => rfl
      | cons hm _ ih =>
        rw [List.map_cons, List.map_cons, List.map_cons, ih, hm.1.itemsText?, String.ofList_toList]
    have hown := (own.map Prod.fst).count_eq name
    have hfilter : (named.filter fun n => n.1 ∈ fields.map Prod.fst).map Prod.fst =
        (named.map Prod.fst).filter (· ∈ fields.map Prod.fst) := by
      rw [List.filter_map]
      rfl
    rw [hfilter, List.count_filter (by simpa using hname), List.count_eq_one_of_mem hnodup hname] at hown
    rw [htexts, List.count_map_of_injective _ _ (fun _ _ => Option.some.inj), hown]

/-- The fields of a record are parts of it, so they can be written if it
can. -/
theorem IsRecord.isWritable (h : IsRecord fields v) (hv : v.IsWritable) : ∀ f ∈ fields, f.2.IsWritable := by
  intro f hf
  cases h with
  | array => exact hv.element (List.mem_map_of_mem hf)
  | object areNamed own =>
    have hnamed := (List.mem_filter.mp (own.mem_iff.mpr hf)).1
    obtain ⟨m, hm, -, hvalue⟩ := exists_of_forall₂ (List.Forall₂.flip areNamed) hnamed
    exact hvalue ▸ hv.member hm

/-- A record is no misfit: it has the right length, or each of its names
once. -/
theorem IsRecord.not_isMisfit (h : IsRecord fields v) (hnodup : (fields.map Prod.fst).Nodup) :
    ¬ IsMisfit (fields.map Prod.fst) v := by
  intro hmisfit
  cases hmisfit with
  | length other =>
    cases h
    simp at other
  | @missing members name mem none =>
    have hcount := count_of_isRecord h hnodup mem
    have hmem : some name ∈ members.map fun m => itemsText? m.1 := List.count_pos_iff.mp (by omega)
    obtain ⟨m, hm, htext⟩ := List.mem_map.mp hmem
    cases h with
    | object areNamed own =>
      obtain ⟨n, -, hspelled, -⟩ := exists_of_forall₂ areNamed hm
      rw [hspelled.itemsText?, String.ofList_toList, Option.some_inj] at htext
      exact none m hm (htext ▸ hspelled)
  | @repeated members name m m' mem twice first second =>
    -- Keys that are spelled in different ways are still the same name.
    have hcount := count_of_isRecord h hnodup mem
    have htwice := (twice.map fun m => itemsText? m.1).count_le (some name)
    rw [hcount] at htwice
    simp [first.itemsText?, second.itemsText?] at htwice

/-- What stands in the place of a field of a record is the field. -/
theorem IsRecord.eq_of_isField (h : IsRecord fields v) (hnodup : (fields.map Prod.fst).Nodup) {i : Nat}
    (hfield : IsField (fields.map Prod.fst) i v w) : (fields.map Prod.snd)[i]? = some w := by
  cases hfield with
  | element at_index =>
    cases h
    exact at_index
  | @member members name m at_index mem spelled =>
    cases h with
    | object areNamed own =>
      obtain ⟨n, hn, hspelled, hvalue⟩ := exists_of_forall₂ areNamed mem
      obtain rfl := eq_of_isSpelling hspelled spelled
      have hown : n ∈ fields := by
        refine own.mem_iff.mp (List.mem_filter.mpr ⟨hn, ?_⟩)
        simpa using List.mem_of_getElem? at_index
      obtain ⟨j, hj, hfield⟩ := List.getElem_of_mem hown
      have hj' : (fields.map Prod.fst)[j]? = some n.1 := by
        rw [List.getElem?_map, List.getElem?_eq_getElem hj, hfield]
        rfl
      -- The names are told apart, so the member is of this field.
      have hij : j = i :=
        (List.getElem?_inj (by simpa using hj) hnodup).mp (hj'.trans at_index.symm)
      rw [← hij, List.getElem?_map, List.getElem?_eq_getElem hj, hfield, hvalue]
      rfl

end Value

end MapBench.Json
