import MapBench.Url

/-!
# `MapBench.Proofs.Url`: paths behind the address of a server

The address of a server is a scheme and a site. Whatever path stands
behind them, they are read in the same way, and the path is brought
into its normal form on its own.

* `IsSite`: what may stand between the scheme and the path.
* `parse_behind`: the normal form of a path behind a site.
* `IsPathChar`: the characters that the normal form of a path keeps as
  they are. `isPathChar_of_mem_addPieces`: no piece of a normal form
  has other ones.
* `addPieces_append`: pieces without dots stay as they are.
-/

set_option autoImplicit false

namespace MapBench.Url

/-! ### Cleaning -/

/-- A text without the blanks at its end, and without tabs and line
breaks. -/
def cleanEnd (cs : List Char) : List Char :=
  (cs.reverse.dropWhile isEdge).reverse.filter fun c => !(c == '\t' || c == '\n' || c == '\r')

/-- A character that isn't left out at the ends isn't left out elsewhere:
tabs and line breaks, which go wherever they stand, are among the blanks
that go at the ends. -/
theorem kept_of_not_edge {c : Char} (h : isEdge c = false) :
    (!(c == '\t' || c == '\n' || c == '\r')) = true := by
  rw [Bool.not_eq_true', Bool.or_eq_false_iff, Bool.or_eq_false_iff]
  refine ⟨⟨?_, ?_⟩, ?_⟩ <;> exact beq_false_of_ne fun he => by simp [he, isEdge] at h

/-- The same said of a whole text. The check can be computed, so it is what
closed texts such as the schemes are checked with. -/
theorem not_edge_of_all {cs : List Char} (h : cs.all (fun c => !isEdge c) = true) :
    ∀ c ∈ cs, isEdge c = false := by
  intro c hc
  have hedge := List.all_eq_true.mp h c hc
  rwa [Bool.not_eq_true'] at hedge

/-- A text without blanks and controls is kept as a whole, whatever stands
behind it. Only the rest is cleaned, so the front of an address can be set
aside before its path is looked at. -/
theorem cleanEnd_append {front : List Char} (h : ∀ c ∈ front, isEdge c = false)
    (rest : List Char) : cleanEnd (front ++ rest) = front ++ cleanEnd rest := by
  have hfront : front.filter (fun c => !(c == '\t' || c == '\n' || c == '\r')) = front :=
    List.filter_eq_self.mpr fun c hc => kept_of_not_edge (h c hc)
  have hend : front.reverse.dropWhile isEdge = front.reverse := by
    cases hr : front.reverse with
    | nil => rfl
    | cons c cs =>
      have hc : isEdge c = false := h c (List.mem_reverse.mp (hr ▸ List.mem_cons_self))
      rw [List.dropWhile_cons, hc]
      rfl
  rw [cleanEnd, cleanEnd, List.reverse_append, List.dropWhile_append]
  split
  · next hnil =>
    rw [List.isEmpty_iff.mp hnil, hend, List.reverse_reverse, hfront]
    simp
  · rw [List.reverse_append, List.reverse_reverse, List.filter_append, hfront]

/-- A text without blanks and controls is clean already. Percent-encoded
paths are such texts. -/
theorem cleanEnd_eq_self {cs : List Char} (h : ∀ c ∈ cs, isEdge c = false) : cleanEnd cs = cs := by
  have hnil : cleanEnd [] = [] := rfl
  have happend := cleanEnd_append h []
  rwa [hnil, List.append_nil] at happend

/-- Nothing is left out at the front of a text that doesn't begin with
a blank. -/
theorem clean_cons {c : Char} (h : isEdge c = false) (cs : List Char) :
    clean (c :: cs) = cleanEnd (c :: cs) := by
  rw [clean, List.dropWhile_cons, h]
  rfl

/-! ### Reading an address -/

/-- What may stand between the scheme of an address and its path. Nothing in
it is left out when the address is cleaned, and nothing in it ends the site
early, so it is read as it stands. -/
structure IsSite (site : List Char) : Prop where
  /-- An address without a site is refused, so there is something in it. -/
  ne_nil : site ≠ []
  /-- Nothing in it is left out, or ends it. -/
  kept : ∀ c ∈ site, isEdge c = false ∧ isSlash c = false ∧ c ≠ '?' ∧ c ≠ '#'

instance (site : List Char) : Decidable (IsSite site) :=
  decidable_of_iff (site ≠ [] ∧ site.all (fun c =>
      decide (isEdge c = false ∧ isSlash c = false ∧ c ≠ '?' ∧ c ≠ '#')) = true)
    ⟨fun ⟨hne, hall⟩ => ⟨hne, fun c hc => of_decide_eq_true (List.all_eq_true.mp hall c hc)⟩,
      fun h => ⟨h.ne_nil, List.all_eq_true.mpr fun c hc => decide_eq_true (h.kept c hc)⟩⟩

/-- The host and the port of a site. This is what of an address can be
refused, and the path has no part in it. -/
def readSite (readHost : HostReader) (scheme : String) (site : List Char) :
    Except UrlError (List Char × Option Nat) := do
  let (host, port) := splitPort (site.reverse.takeWhile (· ≠ '@')).reverse
  let host ← normalHost readHost host
  let port ← readPort scheme port
  return (host, port)

/-- What of a text is a path, if the text is put behind a site and a
slash. -/
def pathOf (rest : List Char) : List Char :=
  (cleanEnd rest).takeWhile fun c => c ≠ '?' ∧ c ≠ '#'

/-- The schemes of the web. No others are taken for the address of a server. -/
def IsWeb (scheme : String) : Prop :=
  scheme = "http" ∨ scheme = "https"

/-- No character of a scheme is left out when an address is cleaned. -/
theorem IsWeb.not_edge {scheme : String} (h : IsWeb scheme) :
    ∀ c ∈ scheme.toList, isEdge c = false := by
  rcases h with rfl | rfl <;> exact not_edge_of_all (by decide)

/-- The scheme of an address ends at its first colon. It is written in small
letters already, so it is its own normal form. -/
theorem splitScheme?_web {scheme : String} (h : IsWeb scheme) (rest : List Char) :
    splitScheme? (scheme.toList ++ ':' :: rest) = some (scheme, rest) := by
  rcases h with rfl | rfl <;> rfl

/-- An address is cleaned by cleaning what stands behind its site. What is
before it has no blanks at all, and the first character keeps anything from
going at the beginning. -/
theorem clean_web {scheme : String} (h : IsWeb scheme) {site : List Char} (hsite : IsSite site)
    (behind : List Char) :
    clean (scheme.toList ++ ':' :: '/' :: '/' :: (site ++ behind)) =
      scheme.toList ++ ':' :: '/' :: '/' :: (site ++ cleanEnd behind) := by
  have hkept : ∀ c ∈ scheme.toList ++ ':' :: '/' :: '/' :: site, isEdge c = false := by
    intro c hc
    rcases List.mem_append.mp hc with hc | hc
    · exact h.not_edge c hc
    · simp only [List.mem_cons] at hc
      rcases hc with rfl | rfl | rfl | hc
      · rfl
      · rfl
      · rfl
      · exact (hsite.kept c hc).1
  have happend := cleanEnd_append hkept behind
  simp only [List.append_assoc, List.cons_append] at happend
  rw [← happend]
  rcases h with rfl | rfl <;> exact clean_cons rfl _

/-- A slash is never left out, so a path that is cleaned still begins with
one. -/
theorem cleanEnd_slash (rest : List Char) : cleanEnd ('/' :: rest) = '/' :: cleanEnd rest :=
  cleanEnd_append (not_edge_of_all (by decide : ['/'].all (fun c => !isEdge c) = true)) rest

/-- The slashes before a site end with it. A site has no slash of its own,
so its first character is where they stop. -/
theorem IsSite.dropWhile_isSlash {site : List Char} (h : IsSite site) (rest : List Char) :
    ('/' :: '/' :: (site ++ rest)).dropWhile isSlash = site ++ rest := by
  obtain ⟨c, cs, rfl⟩ := List.exists_cons_of_ne_nil h.ne_nil
  have hc : isSlash c = false := (h.kept c List.mem_cons_self).2.1
  show (c :: (cs ++ rest)).dropWhile isSlash = _
  rw [List.dropWhile_cons, hc]
  rfl

/-- A site ends where a path begins. What stands behind it is nothing or
begins with a slash, and both end the site. -/
theorem IsSite.takeWhile_site {site : List Char} (h : IsSite site) {behind : List Char}
    (hbehind : behind = [] ∨ ∃ rest, behind = '/' :: rest) : (site ++ cleanEnd behind).takeWhile
      (fun c => !(isSlash c || c == '?' || c == '#')) = site := by
  rw [List.takeWhile_append_of_pos fun c hc => ?_]
  · rcases hbehind with rfl | ⟨rest, rfl⟩
    · exact List.append_nil site
    · rw [cleanEnd_slash]
      exact List.append_nil site
  · obtain ⟨-, hs, hq, hf⟩ := h.kept c hc
    simp [hs, hq, hf]

/-- The host and the port of an address are those of its site,
whatever stands behind it, and the path is the normal form of what
does. -/
theorem parse_behind (readHost : HostReader) {scheme : String} (h : IsWeb scheme) {site : List Char}
    (hsite : IsSite site) {behind : List Char} (hbehind : behind = [] ∨ ∃ rest, behind = '/' :: rest) {text : String}
    (htext : text.toList = scheme.toList ++ ':' :: '/' :: '/' :: (site ++ behind)) :
    ∃ query fragment, parse readHost text = (readSite readHost scheme site).map fun (host, port) =>
      ⟨scheme, String.ofList host, port, String.ofList (normalPath (pathOf (behind.drop 1))), query,
        fragment⟩ := by
  have hscheme : ¬ (scheme ≠ "http" ∧ scheme ≠ "https") := fun hne =>
    h.elim hne.1 hne.2
  -- The query and the fragment are cut off behind the path, and the slash before it.
  have hpath : ((cleanEnd behind).takeWhile fun c => c ≠ '?' ∧ c ≠ '#').drop 1 =
      pathOf (behind.drop 1) := by
    rcases hbehind with rfl | ⟨rest, rfl⟩
    · rfl
    · rw [cleanEnd_slash]
      rfl
  rw [parse, htext, clean_web h hsite, splitScheme?_web h]
  simp only [if_neg hscheme, hsite.dropWhile_isSlash, hsite.takeWhile_site hbehind, List.drop_left,
    hpath]
  simp only [readSite]
  -- Only the site decides whether there is an address at all.
  generalize splitPort _ = parts
  cases normalHost readHost parts.1 with
  | error e => exact ⟨none, none, rfl⟩
  | ok host =>
    cases readPort scheme parts.2 with
    | error e => exact ⟨none, none, rfl⟩
    | ok port => exact ⟨_, _, rfl⟩

/-- Where an address leads, whatever its path: to whoever listens there.
Requests with the same site are answered by the same server. -/
structure Site where
  scheme : String
  host : String
  port : Option Nat
  deriving Repr, DecidableEq

/-- The site of an address that was read. Its path, its query and its
fragment are left out. -/
def site (u : Url) : Site :=
  ⟨u.scheme, u.host, u.port⟩

/-! ### Pieces of a path -/

/-- The characters of a path that stay as they are, and don't end a
piece of it. -/
def IsPathChar (c : Char) : Prop :=
  isEdge c = false ∧ c.toNat ≤ 0x7E ∧ pathEscapes.contains c = false ∧ isSlash c = false

instance (c : Char) : Decidable (IsPathChar c) :=
  inferInstanceAs (Decidable (_ ∧ _ ∧ _ ∧ _))

/-- Characters that a path keeps are encoded as themselves. So a path in its
normal form stays the same when it is brought into that form once more. -/
theorem percentEncode_eq_self {cs : List Char} (h : ∀ c ∈ cs, IsPathChar c) :
    percentEncode pathEscapes cs = cs := by
  induction cs with
  | nil => rfl
  | cons c cs ih =>
    obtain ⟨hedge, htop, hescape, -⟩ := h c List.mem_cons_self
    have hlow : 0x20 < c.toNat := by simpa [isEdge] using hedge
    have hkeep : ¬ (c.toNat < 0x20 ∨ 0x7E < c.toNat ∨ pathEscapes.contains c = true) := by
      rintro (hc | hc | hc)
      · omega
      · omega
      · rw [hescape] at hc
        contradiction
    have hrest := ih fun d hd => h d (List.mem_cons_of_mem c hd)
    rw [percentEncode] at hrest ⊢
    rw [List.flatMap_cons, if_neg hkeep, hrest]
    rfl

/-- The digits of an escape are kept in a path. With the percent sign they
are all that encoding adds. -/
theorem isPathChar_upperDigit : ∀ n < 16, IsPathChar (Hex.upperDigit n) := by
  decide

/-- A piece is encoded into characters that stay as they are. A slash is the
only one that encoding lets through and that could change the path, so a
piece must not have one. -/
theorem isPathChar_of_mem_percentEncode {cs : List Char} (h : ∀ c ∈ cs, isSlash c = false)
    {c : Char} (hc : c ∈ percentEncode pathEscapes cs) : IsPathChar c := by
  obtain ⟨d, hd, hc⟩ := List.mem_flatMap.mp hc
  split at hc
  · obtain ⟨b, -, hc⟩ := List.mem_flatMap.mp hc
    have hb : b.toNat < 256 := b.toNat_lt
    simp only [List.mem_cons, List.not_mem_nil, or_false] at hc
    rcases hc with rfl | rfl | rfl
    · decide
    · exact isPathChar_upperDigit _ (by omega)
    · exact isPathChar_upperDigit _ (by omega)
  · next hkeep =>
    obtain rfl := List.mem_singleton.mp hc
    simp only [not_or, Bool.not_eq_true] at hkeep
    obtain ⟨hlow, htop, hescape⟩ := hkeep
    refine ⟨?_, by omega, hescape, h c hd⟩
    -- The blank is the only edge that isn't a control character.
    have hblank : c.toNat ≠ 0x20 := by
      intro he
      have : c = ' ' := Char.toNat_inj.mp he
      rw [this] at hescape
      exact absurd hescape (by decide)
    simp only [isEdge, decide_eq_false_iff_not]
    omega

/-- The pieces of a text have its characters, and none of those at which
it is split. -/
theorem of_mem_splitOnP {p : Char → Bool} {cs piece : List Char} (h : piece ∈ cs.splitOnP p) :
    ∀ c ∈ piece, p c = false ∧ c ∈ cs := by
  induction cs generalizing piece with
  | nil =>
    rw [List.splitOnP_nil, List.mem_singleton] at h
    simp [h]
  | cons d ds ih =>
    have hrest {piece' : List Char} (h' : piece' ∈ ds.splitOnP p) :
        ∀ c ∈ piece', p c = false ∧ c ∈ d :: ds :=
      fun c hc => (ih h' c hc).imp_right (List.mem_cons_of_mem d)
    rw [List.splitOnP_cons_eq_if_modifyHead] at h
    split at h
    · rcases List.mem_cons.mp h with rfl | h
      · simp
      · exact hrest h
    · next hd =>
      obtain ⟨first, others, hsplit⟩ := List.exists_cons_of_ne_nil (List.splitOnP_ne_nil p ds)
      rw [hsplit, List.modifyHead_cons] at h
      rcases List.mem_cons.mp h with rfl | h
      · intro c hc
        rcases List.mem_cons.mp hc with rfl | hc
        · exact ⟨Bool.not_eq_true _ ▸ hd, List.mem_cons_self⟩
        · exact hrest (hsplit ▸ List.mem_cons_self) c hc
      · exact hrest (hsplit ▸ List.mem_cons_of_mem first h)

/-- Pieces without slashes are found again in the path that is made up of
them. -/
theorem splitOnP_intercalate {pieces : List (List Char)} (hne : pieces ≠ [])
    (h : ∀ piece ∈ pieces, ∀ c ∈ piece, isSlash c = false) :
    (List.intercalate ['/'] pieces).splitOnP isSlash = pieces := by
  induction pieces with
  | nil => exact absurd rfl hne
  | cons piece rest ih =>
    have hpiece := h piece List.mem_cons_self
    have hrest := fun p hp => h p (List.mem_cons_of_mem piece hp)
    cases rest with
    | nil =>
      rw [List.intercalate_singleton]
      exact List.splitOnP_eq_singleton hpiece
    | cons next rest =>
      rw [List.intercalate_cons_cons, List.append_assoc, List.singleton_append,
        List.splitOnP_append_cons_of_forall_mem hpiece '/' rfl, ih (List.cons_ne_nil _ _) hrest]

/-- A piece that stays as it is, wherever it stands in a path: nothing in it
is encoded, and it isn't one of the pieces that lead nowhere or up, in any
of their spellings. -/
structure IsPlainPiece (piece : List Char) : Prop where
  ne_nil : piece ≠ []
  chars : ∀ c ∈ piece, IsPathChar c
  ne_dot : plainDots piece ≠ ['.']
  ne_dots : plainDots piece ≠ ['.', '.']

instance (piece : List Char) : Decidable (IsPlainPiece piece) :=
  decidable_of_iff (piece ≠ [] ∧ piece.all (fun c => decide (IsPathChar c)) = true ∧
      plainDots piece ≠ ['.'] ∧ plainDots piece ≠ ['.', '.'])
    ⟨fun ⟨hne, hall, hdot, hdots⟩ =>
        ⟨hne, fun c hc => of_decide_eq_true (List.all_eq_true.mp hall c hc), hdot, hdots⟩,
      fun h => ⟨h.ne_nil, List.all_eq_true.mpr fun c hc => decide_eq_true (h.chars c hc), h.ne_dot,
        h.ne_dots⟩⟩

/-- A plain piece is added to those before it. It takes none of them back. -/
theorem addPiece_plain {piece : List Char} (h : IsPlainPiece piece) (rev : List (List Char))
    (last : Bool) : addPiece rev piece last = piece :: rev := by
  rw [addPiece, if_neg h.ne_dots, if_neg h.ne_dot, percentEncode_eq_self h.chars]

/-- Plain pieces are taken one after another; only what is behind them
may be dots. -/
theorem addPieces_append {front : List (List Char)} (h : ∀ piece ∈ front, IsPlainPiece piece)
    (rev : List (List Char)) (last : List Char) :
    addPieces rev (front ++ [last]) = addPiece (front.reverse ++ rev) last true := by
  induction front generalizing rev with
  | nil => rfl
  | cons piece rest ih =>
    have hrest := fun p hp => h p (List.mem_cons_of_mem piece hp)
    have hstep : addPieces rev (piece :: (rest ++ [last])) =
        addPieces (addPiece rev piece false) (rest ++ [last]) := by
      cases rest <;> rfl
    rw [List.cons_append, hstep, addPiece_plain (h piece List.mem_cons_self), ih hrest,
      List.reverse_cons, List.append_assoc, List.singleton_append]

/-- Whatever pieces a path has, its normal form has only characters
that stay as they are. -/
theorem isPathChar_of_mem_addPiece {rev : List (List Char)} {piece : List Char} {last : Bool}
    (hrev : ∀ p ∈ rev, ∀ c ∈ p, IsPathChar c) (hpiece : ∀ c ∈ piece, isSlash c = false) :
    ∀ p ∈ addPiece rev piece last, ∀ c ∈ p, IsPathChar c := by
  have hrest : ∀ p ∈ (if last then [[]] else [] : List (List Char)), ∀ c ∈ p, IsPathChar c := by
    cases last <;> simp
  intro p hp
  rw [addPiece] at hp
  split at hp
  · exact (List.mem_append.mp hp).elim (hrest p) fun hp => hrev p (List.mem_of_mem_drop hp)
  · split at hp
    · exact (List.mem_append.mp hp).elim (hrest p) (hrev p)
    · rcases List.mem_cons.mp hp with rfl | hp
      · exact fun c hc => isPathChar_of_mem_percentEncode hpiece hc
      · exact hrev p hp

/-- No piece of a normal form has characters that would be encoded again.
Pieces may be left out or taken back, but those that stay were encoded when
they were added. -/
theorem isPathChar_of_mem_addPieces {rev pieces : List (List Char)}
    (hrev : ∀ p ∈ rev, ∀ c ∈ p, IsPathChar c)
    (hpieces : ∀ p ∈ pieces, ∀ c ∈ p, isSlash c = false) :
    ∀ p ∈ addPieces rev pieces, ∀ c ∈ p, IsPathChar c := by
  induction pieces generalizing rev with
  | nil => exact hrev
  | cons piece rest ih =>
    have hpiece := hpieces piece List.mem_cons_self
    cases rest with
    | nil => exact isPathChar_of_mem_addPiece hrev hpiece
    | cons next rest =>
      exact ih (isPathChar_of_mem_addPiece hrev hpiece) fun p hp =>
        hpieces p (List.mem_cons_of_mem piece hp)

/-- Some piece is always left: the last one, if only as an empty piece that
stands for a slash at the end. -/
theorem addPieces_ne_nil (rev : List (List Char)) {pieces : List (List Char)} (h : pieces ≠ []) :
    addPieces rev pieces ≠ [] := by
  induction pieces generalizing rev with
  | nil => exact absurd rfl h
  | cons piece rest ih =>
    cases rest with
    | nil =>
      show addPiece rev piece true ≠ []
      rw [addPiece]
      split
      · simp
      · split <;> simp
    | cons next rest => exact ih _ (List.cons_ne_nil next rest)

/-- The pieces of the normal form of a path, in their order. The path is
these with slashes between them. -/
def normalPieces (cs : List Char) : List (List Char) :=
  (addPieces [] (cs.splitOnP isSlash)).reverse

/-- Every path has a piece, and an empty path has an empty one. -/
theorem normalPieces_ne_nil (cs : List Char) : normalPieces cs ≠ [] :=
  List.reverse_ne_nil_iff.mpr (addPieces_ne_nil [] (List.splitOnP_ne_nil isSlash cs))

/-- No piece of a normal form has a character that a path doesn't keep. In
particular none has a slash, so the pieces can be told apart in it. -/
theorem isPathChar_of_mem_normalPieces {cs piece : List Char} (h : piece ∈ normalPieces cs) :
    ∀ c ∈ piece, IsPathChar c :=
  isPathChar_of_mem_addPieces (by simp) (fun _ hp c hc => (of_mem_splitOnP hp c hc).1) piece
    (List.mem_reverse.mp h)

/-- Plain pieces in front of a last one that needn't be plain. They stay,
and only the last one decides what becomes of the end of the path. -/
theorem normalPieces_intercalate {front : List (List Char)} {last : List Char}
    (hfront : ∀ piece ∈ front, IsPlainPiece piece) (hlast : ∀ c ∈ last, isSlash c = false) :
    normalPieces (List.intercalate ['/'] (front ++ [last])) =
      (addPiece front.reverse last true).reverse := by
  have hslashes : ∀ piece ∈ front ++ [last], ∀ c ∈ piece, isSlash c = false := by
    intro piece hpiece
    rcases List.mem_append.mp hpiece with hpiece | hpiece
    · exact fun c hc => ((hfront piece hpiece).chars c hc).2.2.2
    · rwa [List.mem_singleton.mp hpiece]
  rw [normalPieces, splitOnP_intercalate (by simp) hslashes, addPieces_append hfront,
    List.append_nil]

/-- A character of a path is a slash, or it is one of a piece. -/
theorem of_mem_intercalate {pieces : List (List Char)} {c : Char}
    (h : c ∈ List.intercalate ['/'] pieces) : c = '/' ∨ ∃ piece ∈ pieces, c ∈ piece := by
  induction pieces with
  | nil => simp at h
  | cons piece rest ih =>
    -- The last piece has no slash behind it.
    cases rest with
    | nil =>
      rw [List.intercalate_singleton] at h
      exact .inr ⟨piece, List.mem_cons_self, h⟩
    | cons next rest =>
      rw [List.intercalate_cons_cons, List.append_assoc, List.singleton_append, List.mem_append,
        List.mem_cons] at h
      rcases h with h | h | h
      · exact .inr ⟨piece, List.mem_cons_self, h⟩
      · exact .inl h
      · exact (ih h).imp_right fun ⟨p, hp, hc⟩ => ⟨p, List.mem_cons_of_mem piece hp, hc⟩

/-- A path whose pieces hold no other characters is a path to its
end. -/
theorem pathOf_intercalate {pieces : List (List Char)}
    (h : ∀ piece ∈ pieces, ∀ c ∈ piece, IsPathChar c) :
    pathOf (List.intercalate ['/'] pieces) = List.intercalate ['/'] pieces := by
  have hchars : ∀ c ∈ List.intercalate ['/'] pieces,
      isEdge c = false ∧ decide (c ≠ '?' ∧ c ≠ '#') = true := by
    intro c hc
    rcases of_mem_intercalate hc with rfl | ⟨piece, hpiece, hc⟩
    · decide
    · obtain ⟨hedge, -, hescape, -⟩ := h piece hpiece c hc
      refine ⟨hedge, decide_eq_true ⟨?_, ?_⟩⟩
      · rintro rfl
        exact absurd hescape (by decide)
      · rintro rfl
        exact absurd hescape (by decide)
  -- There is nothing behind the path, and nothing in it ends it.
  have htake : (List.intercalate ['/'] pieces ++ []).takeWhile (fun c => c ≠ '?' ∧ c ≠ '#') =
      List.intercalate ['/'] pieces ++ [] :=
    List.takeWhile_append_of_pos fun c hc => (hchars c hc).2
  rw [List.append_nil] at htake
  rw [pathOf, cleanEnd_eq_self fun c hc => (hchars c hc).1, htake]

end MapBench.Url
