import MapBench.Cluster.Config
import MapBench.Proofs.Number.Integer
import MapBench.Proofs.Yaml.Mapping

/-!
# `MapBench.Proofs.Cluster.Fields`: fields as the text of a file

Whatever fields a configuration has, there is a file that gives them: a
mapping on one line, in which a field that is left out is `null`.

* `ClusterFields.text`: the text of that file.
* `ClusterFields.ofText?_text`: it gives the fields.
* `ClusterFields.timeout_le`: no file gives a timeout that is no word.
-/

set_option autoImplicit false

namespace MapBench

namespace Yaml

open Node (option? word?)

/-- Digits are a word, so a number needs no quotes. -/
theorem isWord_digits (n : Nat) : IsWord (Decimal.digits n) where
  ne_nil := Nat.toDigits_ne_nil
  isAlphanum c hc := by simp [Char.isAlphanum, Decimal.digits_isDigit hc]

namespace Inline

/-- Nothing. A field that is left out may also be written like this. -/
def null : Inline :=
  .word "null".toList ⟨by decide, List.all_eq_true.mp (by decide)⟩

/-- A truth value as a word. -/
def ofBool (b : Bool) : Inline :=
  if b then .word "true".toList ⟨by decide, List.all_eq_true.mp (by decide)⟩
  else .word "false".toList ⟨by decide, List.all_eq_true.mp (by decide)⟩

/-- A number as a word. -/
def ofNat (n : Nat) : Inline :=
  .word (Decimal.digits n) (isWord_digits n)

/-- A value that may be left out. -/
def ofOption {α : Type} (write : α → Inline) : Option α → Inline
  | some a => write a
  | none => null

end Inline

/-- A text in quotes is read as a text, even if it is empty or looks like
nothing. -/
theorem option?_quoted (text : String) : option? Node.text? (Inline.quoted text).node = some (some text) :=
  rfl

/-- A truth value is read as what was written. -/
theorem option?_ofBool (b : Bool) : option? Node.bool? (Inline.ofBool b).node = some (some b) := by
  cases b <;> decide

/-- A number in decimal has no sign, and no zero in front. -/
theorem digits_cases (n : Nat) :
    Decimal.digits n = ['0'] ∧ n = 0 ∨
      ∃ c ds, Decimal.digits n = c :: ds ∧ c ≠ '0' ∧ c ≠ '-' ∧ c ≠ '+' := by
  rcases Nat.eq_zero_or_pos n with rfl | hpos
  · exact .inl ⟨by decide, rfl⟩
  · obtain ⟨c, ds, hdigits, hzero⟩ := Decimal.digits_eq_cons hpos
    have hdigit : c.isDigit := Decimal.digits_isDigit (hdigits ▸ List.mem_cons_self)
    refine .inr ⟨c, ds, hdigits, hzero, ?_, ?_⟩ <;> rintro rfl <;> exact absurd hdigit (by decide)

/-- A number in decimal isn't one in another base, for which a zero and a
letter would be in front. -/
theorem based?_digits (n : Nat) : Node.based? (Decimal.digits n) = none := by
  rcases digits_cases n with ⟨hdigits, -⟩ | ⟨c, ds, hdigits, hzero, hminus, hplus⟩
  · rw [hdigits]
    decide
  · rw [hdigits]
    unfold Node.based?
    -- The sign is looked for first, and then a zero in front of a base.
    split
    next hsign =>
      split at hsign
      next hcons => exact absurd (List.cons.inj hcons).1 hminus
      next hcons => exact absurd (List.cons.inj hcons).1 hplus
      next =>
        obtain ⟨-, rfl⟩ := Prod.mk.inj hsign
        split
        next hcons => exact absurd (List.cons.inj hcons).1 hzero
        next => rfl

/-- A number in decimal is read as that number. -/
theorem decimal?_digits (n : Nat) : Node.decimal? (Decimal.digits n) = some n := by
  have hsigned : Decimal.signed? (Decimal.digits n) = some n :=
    Decimal.signed?_eq_some_iff.mpr (.unsigned (Decimal.spellsNatural_digits n))
  rcases digits_cases n with ⟨hdigits, rfl⟩ | ⟨c, ds, hdigits, hzero, hminus, hplus⟩
  · rw [hdigits]
    decide
  · rw [hdigits] at hsigned ⊢
    simp [Node.decimal?, hsigned, hzero, hminus, hplus]

/-- A number in decimal is read, if it is a word. -/
theorem option?_ofNat {n : Nat} (h : n ≤ maxWord) : option? word? (Inline.ofNat n).node = some (some n) := by
  have hnull : Node.isNull (String.ofList (Decimal.digits n)) = false := by
    have htilde := Decimal.notMem_digits (c := '~') (by decide) n
    have hletter := Decimal.notMem_digits (c := 'u') (by decide) n
    rw [Node.isNull, Bool.or_eq_false_iff, beq_eq_false_iff_ne, beq_eq_false_iff_ne]
    constructor <;> intro heq <;> rw [← String.toList_ofList (l := Decimal.digits n), heq] at htilde hletter
    · exact htilde (by decide)
    · exact hletter (by decide)
  simp [Inline.ofNat, Inline.node, option?, hnull, word?, based?_digits, decimal?_digits, h]

/-- A value that isn't left out is read as such. -/
theorem eq_some_of_option? {α : Type} {read : Node → Option α} {node : Node} {a : α}
    (h : option? read node = some (some a)) : read node = some a := by
  unfold option? at h
  split at h
  next =>
    split at h
    · cases h
    · simpa using h
  next =>
    split at h
    · split at h <;> cases h
    · simpa using h
  next => simpa using h

/-- What was limited is within the limit. Nothing else could have been
returned. -/
theorem le_of_limited {limit n : Nat} {number : Option Nat}
    (h : (number.bind fun n => if n ≤ limit then some n else none) = some n) : n ≤ limit := by
  obtain ⟨m, -, hm⟩ := Option.bind_eq_some_iff.mp h
  split at hm
  next hle =>
    cases hm
    exact hle
  next => cases hm

/-- No number is read that is no word, in whatever base it is written. -/
theorem le_maxWord_of_word? {node : Node} {n : Nat} (h : word? node = some n) : n ≤ maxWord := by
  unfold word? at h
  split at h
  next =>
    simp only at h
    split at h
    · exact Nat.le_trans (le_of_limited h) (by decide)
    · split at h
      · exact le_of_limited h
      · cases h
  next => cases h

end Yaml

namespace ClusterFields

open Yaml (Inline Node)

/-- A field that is written is read, also if it is left out. -/
theorem field?_ofOption {α : Type} {read : Node → Option α} {write : α → Inline} {field : Option α}
    (h : ∀ a, field = some a → Node.option? read (write a).node = some (some a)) :
    field? read (some (Inline.ofOption write field).node) = some field := by
  cases field with
  | none => rfl
  | some a => exact h a rfl

/-- The members of a file behind the first one, in the order of the fields. -/
def moreMembers (f : ClusterFields) : List Yaml.Member :=
  [⟨"local", .ofOption .quoted f.localFile, by decide⟩, ⟨"pool", .ofOption .quoted f.pool, by decide⟩,
    ⟨"object", .ofOption .quoted f.object, by decide⟩,
    ⟨"verify_tls_cert", .ofOption .ofBool f.verifyTlsCert, by decide⟩,
    ⟨"timeout", .ofOption .ofNat f.timeout, by decide⟩, ⟨"log", .ofOption .quoted f.log, by decide⟩]

/-- The fields as the text of a file. -/
def text (f : ClusterFields) : String :=
  Yaml.mappingText ⟨"server_url", .ofOption .quoted f.serverUrl, by decide⟩ f.moreMembers

/-- The file gives the fields. All of them have names that are short enough
for keys. -/
theorem ofText?_text {f : ClusterFields} (h : ∀ n, f.timeout = some n → n ≤ maxWord) :
    ofText? f.text = some f := by
  have hfields (url localFile pool object verify timeout log : Node) :
      (Node.mapping [(.scalar false none "server_url", url), (.scalar false none "local", localFile),
        (.scalar false none "pool", pool), (.scalar false none "object", object),
        (.scalar false none "verify_tls_cert", verify), (.scalar false none "timeout", timeout),
        (.scalar false none "log", log)]).fields? names =
      some [some url, some localFile, some pool, some object, some verify, some timeout, some log] :=
    rfl
  have htexts (field : Option String) :
      field? Node.text? (some (Inline.ofOption .quoted field).node) = some field :=
    field?_ofOption fun text _ => Yaml.option?_quoted text
  have hverify :
      field? Node.bool? (some (Inline.ofOption .ofBool f.verifyTlsCert).node) = some f.verifyTlsCert :=
    field?_ofOption fun b _ => Yaml.option?_ofBool b
  have htimeout : field? Node.word? (some (Inline.ofOption .ofNat f.timeout).node) = some f.timeout :=
    field?_ofOption fun n hn => Yaml.option?_ofNat (h n hn)
  rw [ofText?, text, Yaml.Node.ofText?_mapping, Option.bind_some, ofNode?]
  simp only [moreMembers, List.map_cons, List.map_nil, Yaml.Member.nodes, hfields, Option.bind_eq_bind,
    Option.bind_some, htexts, hverify, htimeout]
  rfl

/-- A field that is a number is a word. A larger one isn't read at all. -/
theorem word_le_of_field? {node : Option Node} {n : Nat} (h : field? Node.word? node = some (some n)) :
    n ≤ maxWord := by
  cases node with
  | none => cases h
  | some node => exact Yaml.le_maxWord_of_word? (Yaml.eq_some_of_option? h)

/-- No file gives a timeout that is no word. So the fields that files give
are just those that can be written. -/
theorem timeout_le {text : String} {f : ClusterFields} {n : Nat} (h : ofText? text = some f)
    (hn : f.timeout = some n) : n ≤ maxWord := by
  obtain ⟨node, -, hnode⟩ := Option.bind_eq_some_iff.mp h
  unfold ofNode? at hnode
  obtain ⟨fields, -, hfields⟩ := Option.bind_eq_some_iff.mp hnode
  split at hfields
  next timeout log =>
    simp only [Option.bind_eq_bind, Option.bind_eq_some_iff] at hfields
    obtain ⟨_, -, _, -, _, -, _, -, _, -, word, hword, _, -, heq⟩ := hfields
    cases heq
    subst hn
    exact word_le_of_field? hword
  next => cases hfields

end ClusterFields

end MapBench
