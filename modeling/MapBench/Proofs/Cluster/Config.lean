import Mathlib.Tactic.SplitIfs
import MapBench.Proofs.Cluster.Fields
import MapBench.Proofs.Path

/-!
# `MapBench.Proofs.Cluster.Config`: which configurations are accepted

A configuration has to say once where the store is, and what it says has to
be of use. The rules for that are asked for in one order, and the first one
that is broken is reported. A configuration that breaks none is accepted,
and has what its file gave it. Written back to a file it is accepted once
more, as it is, since its paths were moved already.

* `Usable`, `Breaks`: the rules.
* `Judged`, `judged_ofFields`: what becomes of fields.
* `ofFields_eq_ok_iff`, `ofFields_eq_error_iff`: what is accepted, and what
  is reported.
* `ClusterConfig.fields`, `ofFields_fields`: a configuration that is written
  back.
* `parse_accepts_usable`: the same for the texts of files.
-/

set_option autoImplicit false

namespace MapBench

/-- An address of the web names one of its two schemes. What is behind that
isn't looked at before a session is opened. -/
def IsWebAddress (url : String) : Prop :=
  ∃ rest, url = "http://" ++ rest ∨ url = "https://" ++ rest

namespace ClusterFields

/-- Fields that make a configuration: exactly one location, which is an
address of the web if it is one of a server, and no name or timeout that is
given but says nothing. -/
structure Usable (f : ClusterFields) : Prop where
  location : f.serverUrl.isSome ≠ f.localFile.isSome
  serverUrl : ∀ url, f.serverUrl = some url → IsWebAddress url
  pool : f.pool ≠ some ""
  object : f.object ≠ some ""
  timeout : ∀ n, f.timeout = some n → 1 ≤ n

/-- A rule that is broken: its place in the order of the rules, and what is
said about it. -/
inductive Breaks (f : ClusterFields) : Nat → ClusterError → Prop
  | noLocation (noUrl : f.serverUrl = none) (noFile : f.localFile = none) : Breaks f 0 .noLocation
  | bothLocations {url path : String} (hasUrl : f.serverUrl = some url) (hasFile : f.localFile = some path) :
      Breaks f 0 .bothLocations
  | serverUrlIsEmpty (empty : f.serverUrl = some "") : Breaks f 1 .serverUrlIsEmpty
  | notHttp {url : String} (hasUrl : f.serverUrl = some url) (other : ¬ IsWebAddress url) :
      Breaks f 2 (.notHttp url)
  | poolIsEmpty (empty : f.pool = some "") : Breaks f 3 .poolIsEmpty
  | objectIsEmpty (empty : f.object = some "") : Breaks f 4 .objectIsEmpty
  | zeroTimeout (zero : f.timeout = some 0) : Breaks f 5 .zeroTimeout

/-- The rules before a place are kept. Rules are known by their places in
the order in which they are asked for. -/
def KeepsBefore (f : ClusterFields) (place : Nat) : Prop :=
  ∀ place' e, f.Breaks place' e → place ≤ place'

/-- What is said about the first rule that is broken. Others may be broken
as well, and nothing is said about them. -/
def BreaksFirst (f : ClusterFields) (e : ClusterError) : Prop :=
  ∃ place, f.Breaks place e ∧ f.KeepsBefore place

/-- A configuration that has what the fields give, or else what
configurations have by default. -/
structure Carries (home : Option String) (filename : String) (f : ClusterFields) (c : ClusterConfig) :
    Prop where
  filename_eq : c.filename = filename
  remote : ∀ url, f.serverUrl = some url → c.location = .remote url
  onDisk : ∀ path, f.localFile = some path → c.location = .onDisk (Path.expandHome home path)
  pool_eq : c.pool = f.pool.getD "ben"
  object_eq : c.object = f.object.getD "hw"
  verifyTlsCert_eq : c.verifyTlsCert = f.verifyTlsCert.getD false
  timeout_eq : c.timeout = f.timeout
  log_eq : c.log = (f.log.map (Path.expandHome home)).getD "/dev/null"

variable {f : ClusterFields} {home : Option String} {filename : String} {c c' : ClusterConfig}

/-- A rule is broken in one way, so the place of a rule says what is
reported. -/
theorem Breaks.unique {place : Nat} {e e' : ClusterError} (h : f.Breaks place e) (h' : f.Breaks place e') :
    e = e' := by
  cases h <;> cases h' <;> simp_all

/-- So there is one thing that is reported. -/
theorem BreaksFirst.unique {e e' : ClusterError} (h : f.BreaksFirst e) (h' : f.BreaksFirst e') : e = e' := by
  obtain ⟨place, hbreaks, hfirst⟩ := h
  obtain ⟨place', hbreaks', hfirst'⟩ := h'
  have hplace : place = place' := Nat.le_antisymm (hfirst _ _ hbreaks') (hfirst' _ _ hbreaks)
  subst hplace
  exact hbreaks.unique hbreaks'

/-- A rule that is kept is one more. This is how the rules are gone through. -/
theorem KeepsBefore.succ {place : Nat} (h : f.KeepsBefore place) (hkept : ∀ e, ¬ f.Breaks place e) :
    f.KeepsBefore (place + 1) := by
  intro place' e hbreaks
  have hle := h place' e hbreaks
  have hne : place ≠ place' := by
    rintro rfl
    exact hkept e hbreaks
  omega

/-- Usable fields break no rule, whichever place it has. -/
theorem Usable.not_breaks (h : f.Usable) {place : Nat} {e : ClusterError} : ¬ f.Breaks place e := by
  intro hbreaks
  cases hbreaks with
  | noLocation noUrl noFile => exact h.location (by rw [noUrl, noFile])
  | bothLocations hasUrl hasFile => exact h.location (by rw [hasUrl, hasFile]; rfl)
  | serverUrlIsEmpty empty =>
    obtain ⟨rest, heq | heq⟩ := h.serverUrl _ empty <;> simp at heq
  | notHttp hasUrl other => exact other (h.serverUrl _ hasUrl)
  | poolIsEmpty empty => exact h.pool empty
  | objectIsEmpty empty => exact h.object empty
  | zeroTimeout zero => exact absurd (h.timeout 0 zero) (by decide)

/-- Usable fields give one location: an address of the web, or a file. -/
theorem Usable.location_cases (hf : f.Usable) :
    (∃ url, f.serverUrl = some url ∧ IsWebAddress url) ∨ ∃ path, f.localFile = some path := by
  cases hurl : f.serverUrl with
  | some url => exact .inl ⟨url, rfl, hf.serverUrl url hurl⟩
  | none =>
    cases hfile : f.localFile with
    | some path => exact .inr ⟨path, rfl⟩
    | none => exact absurd (by rw [hurl, hfile]) hf.location

/-- Only one configuration has what usable fields give. So there is nothing
else to say about it. -/
theorem Carries.unique (hf : f.Usable) (h : Carries home filename f c) (h' : Carries home filename f c') :
    c = c' := by
  have hlocation : c.location = c'.location := by
    rcases hf.location_cases with ⟨url, hurl, -⟩ | ⟨path, hfile⟩
    · rw [h.remote url hurl, h'.remote url hurl]
    · rw [h.onDisk path hfile, h'.onDisk path hfile]
  have := h.filename_eq.trans h'.filename_eq.symm
  have := h.pool_eq.trans h'.pool_eq.symm
  have := h.object_eq.trans h'.object_eq.symm
  have := h.verifyTlsCert_eq.trans h'.verifyTlsCert_eq.symm
  have := h.timeout_eq.trans h'.timeout_eq.symm
  have := h.log_eq.trans h'.log_eq.symm
  cases c
  cases c'
  simp_all

end ClusterFields

namespace ClusterConfig

open ClusterFields (Usable Breaks BreaksFirst Carries)

variable {f : ClusterFields} {home : Option String} {filename : String} {c : ClusterConfig}

/-- The check for an address of the web is what it should be. It looks at
the beginning of the text only. -/
theorem isWebAddress_iff {url : String} : isWebAddress url ↔ IsWebAddress url := by
  have hprefix (scheme : String) : scheme.toList.isPrefixOf url.toList ↔ ∃ rest, url = scheme ++ rest := by
    rw [List.isPrefixOf_iff_prefix]
    constructor
    · rintro ⟨cs, hcs⟩
      exact ⟨String.ofList cs, String.toList_inj.mp (by rw [String.toList_append, String.toList_ofList, hcs])⟩
    · rintro ⟨rest, rfl⟩
      exact ⟨rest.toList, by rw [String.toList_append]⟩
  rw [isWebAddress, Bool.or_eq_true, hprefix, hprefix, ← exists_or, IsWebAddress]
  exact exists_congr fun _ => or_comm

/-- What is checked about a location. There is nothing to check about a file
here: whether it can be opened shows later. -/
def checkLocation : StoreLocation → Except ClusterError Unit
  | .remote url =>
    if url = "" then throw .serverUrlIsEmpty else if !isWebAddress url then throw (.notHttp url) else pure ()
  | .onDisk _ => pure ()

/-- What is checked after that: the names and the timeout. -/
def checkNames (c : ClusterConfig) : Except ClusterError Unit :=
  if c.pool = "" then throw .poolIsEmpty else if c.object = "" then throw .objectIsEmpty
  else if c.timeout = some 0 then throw .zeroTimeout else pure ()

/-- Once something is refused, nothing else is checked. So the two parts are
checked one after the other. -/
theorem check_eq (c : ClusterConfig) : c.check = checkLocation c.location >>= fun _ => c.checkNames := by
  unfold check checkLocation checkNames
  cases c.location with
  | remote url =>
    simp only
    split_ifs <;> rfl
  | onDisk path =>
    simp only
    split_ifs <;> rfl

/-- The configuration of fields whose location is known. What they leave out
is filled in by default. -/
def atLocation (home : Option String) (filename : String) (f : ClusterFields) (location : StoreLocation) :
    ClusterConfig where
  filename
  location
  pool := f.pool.getD defaultPool
  object := f.object.getD defaultObject
  verifyTlsCert := f.verifyTlsCert.getD false
  timeout := f.timeout
  log := (f.log.map (Path.expandHome home)).getD defaultLog

/-- It has what the fields give, if the location is theirs. -/
theorem carries_atLocation {location : StoreLocation}
    (hremote : ∀ url, f.serverUrl = some url → location = .remote url)
    (honDisk : ∀ path, f.localFile = some path → location = .onDisk (Path.expandHome home path)) :
    Carries home filename f (atLocation home filename f location) :=
  ⟨rfl, hremote, honDisk, rfl, rfl, rfl, rfl, rfl⟩

/-- What is done with fields whose location is known: two checks, and
nothing more. -/
theorem ofFields_eq {location : StoreLocation} (h : locationOf home f = .ok location) :
    ofFields home filename f = checkLocation location >>= fun _ =>
      (atLocation home filename f location).checkNames >>= fun _ =>
        pure (atLocation home filename f location) := by
  rw [ofFields, h]
  change (check _ >>= fun _ => _) = _
  rw [check_eq, bind_assoc]
  rfl

/-- What becomes of fields: a configuration that has what they give, or
what is said about the first rule that they break. -/
inductive Judged (home : Option String) (filename : String) (f : ClusterFields) :
    Except ClusterError ClusterConfig → Prop
  | accepted {c : ClusterConfig} (usable : f.Usable) (carries : Carries home filename f c) :
      Judged home filename f (.ok c)
  | refused {e : ClusterError} (first : f.BreaksFirst e) : Judged home filename f (.error e)

/-- The names and the timeout are checked in the order of their rules. Each
check that passes is one more rule that is kept. -/
theorem judged_checkNames (hcarries : Carries home filename f c) (hkeeps : f.KeepsBefore 3)
    (hlocation : f.serverUrl.isSome ≠ f.localFile.isSome)
    (hweb : ∀ url, f.serverUrl = some url → IsWebAddress url) :
    Judged home filename f (c.checkNames >>= fun _ => pure c) := by
  -- The names by default aren't empty, so an empty one was given.
  have hpool : c.pool = "" ↔ f.pool = some "" := by
    rw [hcarries.pool_eq]
    cases f.pool <;> simp
  have hobject : c.object = "" ↔ f.object = some "" := by
    rw [hcarries.object_eq]
    cases f.object <;> simp
  unfold checkNames
  rw [hcarries.timeout_eq]
  split
  next h => exact .refused ⟨3, .poolIsEmpty (hpool.mp h), hkeeps⟩
  next hpool' =>
    have hkeeps := hkeeps.succ fun e hbreaks => by
      cases hbreaks with
      | poolIsEmpty empty => exact hpool' (hpool.mpr empty)
    split
    next h => exact .refused ⟨4, .objectIsEmpty (hobject.mp h), hkeeps⟩
    next hobject' =>
      have hkeeps := hkeeps.succ fun e hbreaks => by
        cases hbreaks with
        | objectIsEmpty empty => exact hobject' (hobject.mpr empty)
      split
      next h => exact .refused ⟨5, .zeroTimeout h, hkeeps⟩
      next htimeout =>
        have htimeout' (n : Nat) (hn : f.timeout = some n) : 1 ≤ n := by
          rcases Nat.eq_zero_or_pos n with rfl | hpos
          · exact absurd hn htimeout
          · exact hpos
        exact .accepted ⟨hlocation, hweb, fun h => hpool' (hpool.mpr h), fun h => hobject' (hobject.mpr h),
          htimeout'⟩ hcarries

/-- An address is checked before the names. It may be empty, or not one of
the web, and these are two rules. -/
theorem judged_of_serverUrl {url : String} (hurl : f.serverUrl = some url) (hfile : f.localFile = none) :
    Judged home filename f (ofFields home filename f) := by
  have hlocation : locationOf home f = .ok (.remote url) := by simp [locationOf, hurl, hfile]
  -- The rules are looked at in their order. Those before the one that is broken are kept.
  have hkeeps : f.KeepsBefore 1 := by
    refine .succ (fun _ _ _ => Nat.zero_le _) ?_
    rintro e ⟨⟩ <;> simp_all
  rw [ofFields_eq hlocation, checkLocation]
  split
  next hempty =>
    subst hempty
    exact .refused ⟨1, .serverUrlIsEmpty hurl, hkeeps⟩
  next hempty =>
    have hkeeps : f.KeepsBefore 2 := by
      refine hkeeps.succ ?_
      rintro e ⟨⟩
      simp_all
    split
    next hother =>
      rw [Bool.not_eq_true', Bool.eq_false_iff, Ne, isWebAddress_iff] at hother
      exact .refused ⟨2, .notHttp hurl hother, hkeeps⟩
    next hweb =>
      rw [Bool.not_eq_true', Bool.not_eq_false, isWebAddress_iff] at hweb
      have hkeeps : f.KeepsBefore 3 := by
        refine hkeeps.succ ?_
        rintro e ⟨⟩
        simp_all
      refine judged_checkNames (carries_atLocation ?_ ?_) hkeeps ?_ ?_
      all_goals simp [hurl, hfile, hweb]

/-- There is nothing to check about the path of a file, so the rules about
addresses are kept. -/
theorem judged_of_localFile {path : String} (hurl : f.serverUrl = none) (hfile : f.localFile = some path) :
    Judged home filename f (ofFields home filename f) := by
  have hkeeps : f.KeepsBefore 3 := by
    refine .succ (.succ (.succ (fun _ _ _ => Nat.zero_le _) ?_) ?_) ?_ <;> rintro e ⟨⟩ <;> simp_all
  have hlocation : locationOf home f = .ok (.onDisk (Path.expandHome home path)) := by
    simp [locationOf, hurl, hfile]
  rw [ofFields_eq hlocation]
  refine judged_checkNames (carries_atLocation ?_ ?_) hkeeps ?_ ?_
  all_goals simp [hurl, hfile]

/-- Fields that give no location, or two of them, are refused at once. That
is the first of all rules. -/
theorem judged_of_error {e : ClusterError} (hbreaks : f.Breaks 0 e) (h : locationOf home f = .error e) :
    Judged home filename f (ofFields home filename f) := by
  rw [ofFields, h]
  exact .refused ⟨0, hbreaks, fun _ _ _ => Nat.zero_le _⟩

/-- Whatever the fields are, they are judged by the rules: accepted if they
keep all of them, and otherwise refused for the first one that is broken. -/
theorem judged_ofFields (home : Option String) (filename : String) (f : ClusterFields) :
    Judged home filename f (ofFields home filename f) := by
  cases hurl : f.serverUrl with
  | none =>
    cases hfile : f.localFile with
    | none => exact judged_of_error (.noLocation hurl hfile) (by simp [locationOf, hurl, hfile])
    | some path => exact judged_of_localFile hurl hfile
  | some url =>
    cases hfile : f.localFile with
    | none => exact judged_of_serverUrl hurl hfile
    | some path => exact judged_of_error (.bothLocations hurl hfile) (by simp [locationOf, hurl, hfile])

/-- Usable fields break no rule, and give one configuration. So there is no
other way to judge them. -/
theorem Judged.eq_ok_iff {r : Except ClusterError ClusterConfig} (h : Judged home filename f r) :
    r = .ok c ↔ f.Usable ∧ Carries home filename f c := by
  cases h with
  | accepted usable carries =>
    refine ⟨fun heq => Except.ok.inj heq ▸ ⟨usable, carries⟩, fun hc => ?_⟩
    rw [carries.unique usable hc.2]
  | refused first =>
    obtain ⟨place, hbreaks, -⟩ := first
    exact ⟨nofun, fun hc => absurd hbreaks hc.1.not_breaks⟩

/-- What was judged is refused exactly for the first rule that is broken. -/
theorem Judged.eq_error_iff {r : Except ClusterError ClusterConfig} {e : ClusterError}
    (h : Judged home filename f r) : r = .error e ↔ f.BreaksFirst e := by
  cases h with
  | accepted usable carries =>
    refine ⟨nofun, fun first => ?_⟩
    obtain ⟨place, hbreaks, -⟩ := first
    exact absurd hbreaks usable.not_breaks
  | refused first =>
    refine ⟨fun heq => Except.error.inj heq ▸ first, fun first' => ?_⟩
    rw [first.unique first']

/-- The fields that are accepted are the usable ones, and what comes of them
has what they give. -/
theorem ofFields_eq_ok_iff : ofFields home filename f = .ok c ↔ f.Usable ∧ Carries home filename f c :=
  (judged_ofFields home filename f).eq_ok_iff

/-- All others are refused, each for the first rule that it breaks. -/
theorem ofFields_eq_error_iff {e : ClusterError} : ofFields home filename f = .error e ↔ f.BreaksFirst e :=
  (judged_ofFields home filename f).eq_error_iff

/-- Whether fields are accepted depends on them alone, and not on the home
directory or on the name of the file. -/
theorem isOk_ofFields_iff : (∃ c, ofFields home filename f = .ok c) ↔ f.Usable := by
  constructor
  · rintro ⟨c, hc⟩
    exact (ofFields_eq_ok_iff.mp hc).1
  · intro husable
    cases hr : ofFields home filename f with
    | ok c => exact ⟨c, rfl⟩
    | error e =>
      obtain ⟨place, hbreaks, -⟩ := ofFields_eq_error_iff.mp hr
      exact absurd hbreaks husable.not_breaks

/-! ### Writing a configuration back -/

/-- The fields of a file that has all that a configuration says. Nothing is
left out but a timeout that there isn't. -/
def fields (c : ClusterConfig) : ClusterFields where
  serverUrl := match c.location with
    | .remote url => some url
    | .onDisk _ => none
  localFile := match c.location with
    | .remote _ => none
    | .onDisk path => some path
  pool := some c.pool
  object := some c.object
  verifyTlsCert := some c.verifyTlsCert
  timeout := c.timeout
  log := some c.log

/-- The fields of an accepted configuration are usable: its names were
checked, and the names by default aren't empty. -/
theorem usable_fields (husable : f.Usable) (hcarries : Carries home filename f c) : c.fields.Usable := by
  have hnamed {name : Option String} {default : String} (hname : name ≠ some "") (hdefault : default ≠ "") :
      some (name.getD default) ≠ some "" := by
    cases name with
    | none => simpa using hdefault
    | some text => simpa using hname
  refine ⟨?location, ?serverUrl, ?pool, ?object, fun n hn => husable.timeout n (hcarries.timeout_eq ▸ hn)⟩
  case location =>
    simp only [fields]
    cases c.location <;> simp
  case serverUrl =>
    intro url hurl
    rcases husable.location_cases with ⟨url', hurl', hweb⟩ | ⟨path, hfile⟩
    · simp only [fields, hcarries.remote url' hurl', Option.some.injEq] at hurl
      exact hurl ▸ hweb
    · simp [fields, hcarries.onDisk path hfile] at hurl
  case pool =>
    simp only [fields, hcarries.pool_eq]
    exact hnamed husable.pool (by decide)
  case object =>
    simp only [fields, hcarries.object_eq]
    exact hnamed husable.object (by decide)

/-- They give that configuration, since its paths were moved already. A home
directory from the root is what keeps them from being moved again. -/
theorem carries_fields (hhome : ∀ h, home = some h → Path.isAbsolute h) (husable : f.Usable)
    (hcarries : Carries home filename f c) : Carries home filename c.fields c := by
  refine ⟨hcarries.filename_eq, ?remote, ?onDisk, rfl, rfl, rfl, rfl, ?log⟩
  case remote =>
    intro url hurl
    simp only [fields] at hurl
    split at hurl
    next url' hlocation => rw [hlocation, Option.some.inj hurl]
    next => cases hurl
  case onDisk =>
    intro path hpath
    rcases husable.location_cases with ⟨url, hurl, -⟩ | ⟨path', hfile⟩
    · simp [fields, hcarries.remote url hurl] at hpath
    · have hmoved := hcarries.onDisk path' hfile
      simp only [fields, hmoved, Option.some.injEq] at hpath
      rw [hmoved, ← hpath, Path.expandHome_expandHome hhome]
  case log =>
    -- The file by default begins at the root, so it isn't moved either.
    have hdefault : Path.isAbsolute "/dev/null" := by decide
    simp only [fields, Option.map_some, Option.getD_some, hcarries.log_eq]
    cases f.log with
    | none =>
      rw [Option.map_none, Option.getD_none]
      exact (Path.expandHome_of_isAbsolute hdefault home).symm
    | some path =>
      rw [Option.map_some, Option.getD_some]
      exact (Path.expandHome_expandHome hhome path).symm

/-- A configuration that was accepted is accepted once more, as it is. -/
theorem ofFields_fields (hhome : ∀ h, home = some h → Path.isAbsolute h)
    (h : ofFields home filename f = .ok c) :
    ofFields home filename c.fields = .ok c := by
  obtain ⟨husable, hcarries⟩ := ofFields_eq_ok_iff.mp h
  exact ofFields_eq_ok_iff.mpr ⟨usable_fields husable hcarries, carries_fields hhome husable hcarries⟩

/-! ### Files -/

/-- A text that gives fields is judged by them. -/
theorem parse_eq {text : String} (h : ClusterFields.ofText? text = some f) :
    parse home filename text = ofFields home filename f := by
  unfold parse
  rw [h]

/-- A text that gives none is never accepted. -/
theorem exists_ofText?_of_parse {text : String} (h : parse home filename text = .ok c) :
    ∃ f, ClusterFields.ofText? text = some f ∧ ofFields home filename f = .ok c := by
  unfold parse at h
  split at h
  next => cases h
  next f hf => exact ⟨f, hf, h⟩

/-- Whatever fields a file gives, it is accepted exactly if they are usable,
and the first rule that is broken is reported otherwise. An accepted
configuration has what the fields give. There is a file for all fields, and
the one that is written for an accepted configuration gives it back, if
paths are moved under a directory that begins at the root. -/
theorem parse_accepts_usable :
    (∀ home filename text f, ClusterFields.ofText? text = some f →
      ((∃ c, parse home filename text = .ok c) ↔ f.Usable) ∧
      (∀ c, parse home filename text = .ok c → Carries home filename f c) ∧
      ∀ e, parse home filename text = .error e ↔ f.BreaksFirst e) ∧
    (∀ f : ClusterFields, (∀ n, f.timeout = some n → n ≤ maxWord) → ClusterFields.ofText? f.text = some f) ∧
    ∀ home filename text c, (∀ h, home = some h → Path.isAbsolute h) → parse home filename text = .ok c →
      parse home filename c.fields.text = .ok c := by
  refine ⟨?accepted, fun _ => ClusterFields.ofText?_text, ?writtenBack⟩
  case accepted =>
    intro home filename text f hf
    simp only [parse_eq hf]
    exact ⟨isOk_ofFields_iff, fun c hc => (ofFields_eq_ok_iff.mp hc).2, fun e => ofFields_eq_error_iff⟩
  case writtenBack =>
    intro home filename text c hhome h
    obtain ⟨f, hf, hc⟩ := exists_ofText?_of_parse h
    have hcarries := (ofFields_eq_ok_iff.mp hc).2
    have htext : ClusterFields.ofText? c.fields.text = some c.fields :=
      ClusterFields.ofText?_text fun n hn => ClusterFields.timeout_le hf (hcarries.timeout_eq ▸ hn)
    rw [parse_eq htext]
    exact ofFields_fields hhome hc

/-- Of three rules that are broken, the first one is reported. A store under
the home directory is accepted, and accepted once more where it was found. -/
theorem parse_accepts_usable_home :
    parse (some "/root") "cluster.yaml"
        (ClusterFields.text ⟨some "", none, some "", none, none, some 0, none⟩) = .error .serverUrlIsEmpty ∧
    ∃ c, parse (some "/root") "cluster.yaml"
        (ClusterFields.text ⟨none, some "~/store", none, none, none, some 5, some "~/log"⟩) = .ok c ∧
      c.location = .onDisk "/root/store" ∧ parse (some "/root") "cluster.yaml" c.fields.text = .ok c := by
  obtain ⟨accepted, gives, writtenBack⟩ := parse_accepts_usable
  have hempty := gives ⟨some "", none, some "", none, none, some 0, none⟩ (by rintro n ⟨⟩; decide)
  have hstore := gives ⟨none, some "~/store", none, none, none, some 5, some "~/log"⟩ (by rintro n ⟨⟩; decide)
  obtain ⟨hok, hcarries, -⟩ := accepted (some "/root") "cluster.yaml" _ _ hstore
  obtain ⟨c, hc⟩ := hok.mpr ⟨by decide, nofun, nofun, nofun, by rintro n ⟨⟩; decide⟩
  refine ⟨((accepted _ _ _ _ hempty).2.2 _).mpr ⟨1, .serverUrlIsEmpty rfl, ?_⟩, c, hc,
    ((hcarries c hc).onDisk _ rfl).trans (by decide), writtenBack _ _ _ c (by rintro h ⟨⟩; decide) hc⟩
  exact .succ (fun _ _ _ => Nat.zero_le _) nofun

end ClusterConfig

end MapBench
