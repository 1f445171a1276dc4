import MapBench.Proofs.Url
import MapBench.Session.Remote
import Mathlib.Data.List.TakeWhile

/-!
# `MapBench.Proofs.Session.BaseUrl`: paths behind an address

A session puts paths behind an address of which it only knows that it
is one. It leaves out the slashes at the end first. What it gets is an
address again: whether a text can be read depends on its scheme and its
authority, and a path behind them changes neither.

* `IsBaseUrl`: an address that paths can be put behind.
* `IsBaseUrl.exists_parse`: with any path behind it, it can be read.
* `isBaseUrl_of_parse`: any address will do that doesn't end in a blank.
-/

set_option autoImplicit false

namespace MapBench

namespace Url

/-! ### What a text is read by -/

/-- The user, the host and the port, in what follows the colon of a
scheme. -/
def authority (rest : List Char) : List Char :=
  (rest.dropWhile isSlash).takeWhile fun c => !(isSlash c || c == '?' || c == '#')

/-- The scheme of a text and its authority. That is what stands before the
path. -/
def front? (cs : List Char) : Option (String × List Char) :=
  (splitScheme? cs).map fun (scheme, rest) => (scheme, authority rest)

/-- An address of the web is read by its authority. Its path, query and
fragment are always found. -/
theorem exists_parse_eq (readHost : HostReader) {text scheme : String} {rest : List Char}
    (h : splitScheme? (clean text.toList) = some (scheme, rest)) (hscheme : IsWeb scheme) :
    ∃ path query fragment, parse readHost text =
      (readSite readHost scheme (authority rest)).map fun (host, port) =>
        ⟨scheme, String.ofList host, port, path, query, fragment⟩ := by
  have hweb : ¬ (scheme ≠ "http" ∧ scheme ≠ "https") := fun hne => hscheme.elim hne.1 hne.2
  rw [parse, h]
  simp only [if_neg hweb, readSite, authority]
  generalize splitPort _ = parts
  cases normalHost readHost parts.1 with
  | error e => exact ⟨"", none, none, rfl⟩
  | ok host =>
    cases readPort scheme parts.2 with
    | error e => exact ⟨"", none, none, rfl⟩
    | ok port => exact ⟨_, _, _, rfl⟩

/-- Nothing but the scheme and the authority decides whether a text can be
read. -/
theorem isOk_parse_iff {readHost : HostReader} {text : String} : (parse readHost text).isOk = true ↔
    ∃ scheme site, front? (clean text.toList) = some (scheme, site) ∧ IsWeb scheme ∧
      (readSite readHost scheme site).isOk = true := by
  rw [front?]
  cases hsplit : splitScheme? (clean text.toList) with
  | none =>
    have hparse : parse readHost text = .error .relative := by rw [parse, hsplit]
    rw [hparse]
    constructor
    · intro h
      exact absurd h Bool.false_ne_true
    · rintro ⟨scheme, site, h, -⟩
      cases h
  | some parts =>
    obtain ⟨scheme, rest⟩ := parts
    -- Other schemes are refused whatever follows them.
    by_cases hscheme : IsWeb scheme
    · obtain ⟨path, query, fragment, hparse⟩ := exists_parse_eq readHost hsplit hscheme
      rw [hparse]
      constructor
      · intro h
        refine ⟨scheme, authority rest, rfl, hscheme, ?_⟩
        cases hread : readSite readHost scheme (authority rest) with
        | error e => rw [hread] at h; exact h
        | ok parts => rfl
      · rintro ⟨scheme', site, h, -, hread⟩
        cases h
        cases hsite : readSite readHost scheme (authority rest) with
        | error e => rw [hsite] at hread; exact hread
        | ok parts => rfl
    · have hnot : scheme ≠ "http" ∧ scheme ≠ "https" :=
        ⟨fun h => hscheme (.inl h), fun h => hscheme (.inr h)⟩
      have hparse : parse readHost text = .error .schemeNotAllowed := by
        rw [parse, hsplit]
        simp only [if_pos hnot]
      rw [hparse]
      constructor
      · intro h
        exact absurd h Bool.false_ne_true
      · rintro ⟨scheme', site, h, hweb, -⟩
        cases h
        exact absurd hweb hscheme

/-! ### A path behind a text -/

/-- What a path may be put behind without joining it: whatever stands in
front of a slash is taken as if it stood alone. -/
theorem takeWhile_append_slash {p : Char → Bool} (hp : p '/' = false) (front rest : List Char) :
    (front ++ '/' :: rest).takeWhile p = front.takeWhile p := by
  induction front with
  | nil => rw [List.nil_append, List.takeWhile_cons, hp]; rfl
  | cons c front ih => rw [List.cons_append, List.takeWhile_cons, List.takeWhile_cons, ih]

/-- What is dropped in front ends before a slash that isn't dropped. -/
theorem dropWhile_append_slash {p : Char → Bool} (hp : p '/' = false) (front rest : List Char) :
    (front ++ '/' :: rest).dropWhile p = front.dropWhile p ++ '/' :: rest := by
  induction front with
  | nil => rw [List.nil_append, List.dropWhile_cons, hp]; rfl
  | cons c front ih =>
    rw [List.cons_append, List.dropWhile_cons, List.dropWhile_cons, ih]
    split <;> rfl

/-- To drop as many characters as were taken is to drop those. -/
theorem drop_length_takeWhile (p : Char → Bool) (cs : List Char) :
    cs.drop (cs.takeWhile p).length = cs.dropWhile p := by
  have hsplit := List.takeWhile_append_dropWhile (p := p) (l := cs)
  calc cs.drop (cs.takeWhile p).length
      = (cs.takeWhile p ++ cs.dropWhile p).drop (cs.takeWhile p).length := by rw [hsplit]
    _ = cs.dropWhile p := List.drop_left

/-- What is left of a text in front of a slash when it is cleaned. The slash
keeps blanks from being at its end. -/
def cleanFront (front : List Char) : List Char :=
  (front.dropWhile isEdge).filter fun c => !(c == '\t' || c == '\n' || c == '\r')

/-- So both sides of a slash are cleaned by themselves. -/
theorem clean_append_slash (front rest : List Char) :
    clean (front ++ '/' :: rest) = cleanFront front ++ '/' :: cleanEnd rest := by
  have hslash : isEdge '/' = false := rfl
  have hback : (rest.reverse ++ '/' :: (front.dropWhile isEdge).reverse).dropWhile isEdge =
      rest.reverse.dropWhile isEdge ++ '/' :: (front.dropWhile isEdge).reverse :=
    dropWhile_append_slash hslash ..
  rw [clean, dropWhile_append_slash hslash, List.reverse_append, List.reverse_cons, List.append_assoc,
    List.singleton_append, hback]
  simp [cleanFront, cleanEnd]

/-- A scheme ends before the first slash, so a path behind it doesn't
matter. -/
theorem splitScheme?_append_slash (front rest : List Char) :
    splitScheme? (front ++ '/' :: rest) =
      (splitScheme? front).map fun (scheme, behind) => (scheme, behind ++ '/' :: rest) := by
  simp only [splitScheme?, drop_length_takeWhile]
  rw [takeWhile_append_slash (by decide), dropWhile_append_slash (by decide)]
  generalize front.takeWhile _ = name
  generalize front.dropWhile _ = behind
  cases name with
  | nil => rfl
  | cons c cs =>
    cases behind with
    | nil => rfl
    | cons d ds =>
      by_cases hd : d = ':'
      · subst hd
        show (if c.isAlpha = true then _ else _) = Option.map _ (if c.isAlpha = true then _ else _)
        split <;> rfl
      · simp [hd]

/-- A path leaves the authority in front of it alone, unless there is
none. -/
theorem authority_append_slash {behind : List Char} (h : authority behind ≠ []) (rest : List Char) :
    authority (behind ++ '/' :: rest) = authority behind := by
  have hne : ¬ (behind.dropWhile isSlash).isEmpty = true := by
    intro hempty
    rw [authority, List.isEmpty_iff.mp hempty] at h
    exact h rfl
  rw [authority, List.dropWhile_append, if_neg hne, takeWhile_append_slash (by decide)]
  rfl

/-- Slashes make no authority where there is none, and they add nothing to
one. -/
theorem authority_append_slashes (behind : List Char) {slashes : List Char}
    (h : ∀ c ∈ slashes, c = '/') : authority (behind ++ '/' :: slashes) = authority behind := by
  rw [authority, authority, List.dropWhile_append]
  split
  next hempty =>
    have hall : ('/' :: slashes).dropWhile isSlash = [] := by
      rw [List.dropWhile_eq_nil_iff]
      intro c hc
      rcases List.mem_cons.mp hc with rfl | hc
      · rfl
      · rw [h c hc]
        rfl
    rw [hall, List.isEmpty_iff.mp hempty]
  next => rw [takeWhile_append_slash (by decide)]

/-- A text with a path behind it can be read if it can be read without. What
decides that stands in front of the path. -/
theorem isOk_parse_append {readHost : HostReader} {scheme : String} {site front : List Char}
    (hfront : front? (cleanFront front) = some (scheme, site)) (hscheme : IsWeb scheme)
    (hread : (readSite readHost scheme site).isOk = true) {text : String} {rest : List Char}
    (htext : text.toList = front ++ '/' :: rest) : (parse readHost text).isOk = true := by
  refine isOk_parse_iff.mpr ⟨scheme, site, ?_, hscheme, hread⟩
  rw [front?, Option.map_eq_some_iff] at hfront
  obtain ⟨⟨scheme', behind⟩, hsplit, hparts⟩ := hfront
  cases hparts
  have hsite : authority behind ≠ [] := by
    intro hnil
    rw [hnil] at hread
    exact absurd hread Bool.false_ne_true
  rw [htext, clean_append_slash, front?, splitScheme?_append_slash, hsplit]
  simp only [Option.map_some, authority_append_slash hsite]

/-- What is read of a text that ends in slashes is what is in front of
them. -/
theorem front?_clean_slashes (front : List Char) {slashes : List Char} (h : ∀ c ∈ slashes, c = '/') :
    front? (clean (front ++ '/' :: slashes)) = front? (cleanFront front) := by
  have hend : cleanEnd slashes = slashes := cleanEnd_eq_self fun c hc => by
    rw [h c hc]
    rfl
  rw [clean_append_slash, hend, front?, splitScheme?_append_slash, front?, Option.map_map]
  refine congrArg (Option.map · _) (funext fun ⟨scheme, behind⟩ => ?_)
  exact congrArg (Prod.mk scheme) (authority_append_slashes behind h)

/-- Nothing is cleaned from the end of a text that doesn't end in a
blank. -/
theorem clean_eq_cleanFront {front : List Char} (h : ∀ c, front.getLast? = some c → isEdge c = false) :
    clean front = cleanFront front := by
  have hkept : (front.dropWhile isEdge).reverse.dropWhile isEdge = (front.dropWhile isEdge).reverse := by
    cases hback : (front.dropWhile isEdge).reverse with
    | nil => rfl
    | cons c cs =>
      have hlast : front.getLast? = some c := by
        rw [← List.takeWhile_append_dropWhile (p := isEdge) (l := front), List.getLast?_append,
          List.getLast?_eq_head?_reverse, hback]
        rfl
      rw [List.dropWhile_cons, h c hlast]
      rfl
  rw [clean, hkept, List.reverse_reverse]
  rfl

end Url

open Url RemoteSession

variable {readHost : HostReader} {base : String}

/-- An address that paths can be put behind. The path tried here is the
shortest. -/
def IsBaseUrl (readHost : HostReader) (base : String) : Prop :=
  (Url.parse readHost (trimSlashes base ++ "/")).isOk = true

instance (readHost : HostReader) (base : String) : Decidable (IsBaseUrl readHost base) :=
  inferInstanceAs (Decidable (_ = true))

/-- With any path behind it, it can be read. So once an address will do, no
name that is put into a path makes it unreadable. -/
theorem IsBaseUrl.exists_parse (h : IsBaseUrl readHost base) {path : String} {rest : List Char}
    (hpath : path.toList = '/' :: rest) : ∃ u, Url.parse readHost (trimSlashes base ++ path) = .ok u := by
  obtain ⟨scheme, site, hfront, hscheme, hread⟩ := isOk_parse_iff.mp h
  rw [String.toList_append, show "/".toList = '/' :: [] from rfl,
    front?_clean_slashes _ (by simp)] at hfront
  have htext : (trimSlashes base ++ path).toList = (trimSlashes base).toList ++ '/' :: rest := by
    rw [String.toList_append, hpath]
  have hok := isOk_parse_append hfront hscheme hread htext
  cases hparse : Url.parse readHost (trimSlashes base ++ path) with
  | error e =>
    rw [hparse] at hok
    exact absurd hok Bool.false_ne_true
  | ok u => exact ⟨u, rfl⟩

/-- Only slashes are left out of an address, and only at its end. -/
theorem exists_slashes (base : String) :
    ∃ slashes, base.toList = (trimSlashes base).toList ++ slashes ∧ ∀ c ∈ slashes, c = '/' := by
  refine ⟨(base.toList.reverse.takeWhile (· == '/')).reverse, ?_, fun c hc => ?_⟩
  · rw [trimSlashes, String.toList_ofList, ← List.reverse_append, List.takeWhile_append_dropWhile,
      List.reverse_reverse]
  · have hslash := List.mem_takeWhile_imp (List.mem_reverse.mp hc)
    exact eq_of_beq hslash

/-- An address is one that paths can be put behind, unless it ends in a
blank. There the blank would be left out; in front of a path it isn't. -/
theorem isBaseUrl_of_parse (h : (Url.parse readHost base).isOk = true)
    (hend : ∀ c, base.toList.getLast? = some c → isEdge c = false) : IsBaseUrl readHost base := by
  obtain ⟨slashes, hbase, hslashes⟩ := exists_slashes base
  obtain ⟨scheme, site, hfront, hscheme, hread⟩ := isOk_parse_iff.mp h
  have htext : (trimSlashes base ++ "/").toList = (trimSlashes base).toList ++ ['/'] :=
    String.toList_append
  refine isOk_parse_append ?_ hscheme hread htext
  rw [← hfront]
  cases slashes with
  | nil =>
    rw [List.append_nil] at hbase
    rw [← hbase, clean_eq_cleanFront hend]
  | cons c slashes =>
    obtain rfl := hslashes c List.mem_cons_self
    rw [hbase, front?_clean_slashes _ fun c hc => hslashes c (List.mem_cons_of_mem _ hc)]

end MapBench
