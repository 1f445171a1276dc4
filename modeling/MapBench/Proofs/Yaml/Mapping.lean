import Mathlib.Data.List.TakeWhile
import MapBench.Proofs.Batch.Generate
import MapBench.Proofs.Yaml.Inline
import MapBench.Yaml.Node

/-!
# `MapBench.Proofs.Yaml.Mapping`: mappings on one line

A mapping from names to scalars can be written on one line, between braces
and with commas and colons between its parts. The reader of tokens finds a
name to be a key only at the colon behind it, and puts the token for that
in front of it afterwards. Until then the place of the name has to be kept,
which is why names may not be too long.

* `Member`, `mappingText`: members and the mapping of them, as text.
* `Scanner.Yields`, `Scanner.yields_of_token`: what a reader of tokens
  comes to, and one step towards it.
* `Token.ofText?_mapping`, `Node.ofText?_mapping`: the mapping is read as what
  was written.
-/

set_option autoImplicit false

namespace MapBench.Yaml

open Cursor (onLine)

/-! ### The text of a mapping -/

/-- A scalar on one line: a text in quotes, or a word. A word may be taken
for a number or for nothing, and a text in quotes is always a text. -/
inductive Inline
  | quoted (text : String)
  | word (chars : List Char) (isWord : IsWord chars)

namespace Inline

/-- How a scalar is written. A text in quotes may have any characters, and a
word stands for itself. -/
def chars : Inline → List Char
  | quoted text => quote text.toList
  | word chars _ => chars

/-- What the reader of tokens makes of it. Only words are plain. -/
def token : Inline → Token
  | quoted text => .scalar false text
  | word chars _ => .scalar true (String.ofList chars)

/-- The node that it is. Words are told apart from texts in quotes, since
only a word can be a number or a truth value. -/
def node : Inline → Node
  | quoted text => .scalar false none text
  | word chars _ => .scalar true none (String.ofList chars)

end Inline

/-- A member of a mapping. Its name is short enough for a key: a longer one
would not be taken for a key at the colon behind it. -/
structure Member where
  name : String
  value : Inline
  short : (quote name.toList).length ≤ Scanner.maxKeyLength

namespace Member

/-- A member as text: its name in quotes, a colon, and its value right
behind that. -/
def chars (m : Member) : List Char :=
  quote m.name.toList ++ ':' :: m.value.chars

/-- The tokens of a member. The one for the key comes first, although it is
put in last. -/
def tokens (m : Member) : List Token :=
  [.key, .scalar false m.name, .value, m.value.token]

/-- A member of a mapping as nodes: that of its name and that of its value. -/
def nodes (m : Member) : Node × Node :=
  (.scalar false none m.name, m.value.node)

end Member

/-- What follows a member: further ones, each behind a comma, and the
closing brace. -/
def moreChars : List Member → List Char
  | [] => ['\x7d']
  | m :: ms => ',' :: (m.chars ++ moreChars ms)

/-- The tokens behind a member: those of further members, each behind a
comma, and the end of the mapping. -/
def moreTokens : List Member → List Token
  | [] => [.flowMappingEnd]
  | m :: ms => .flowEntry :: (m.tokens ++ moreTokens ms)

/-- A mapping as text. It has at least one member, so there is nothing
special about an empty one. -/
def mappingText (m : Member) (ms : List Member) : String :=
  String.ofList ('\x7b' :: (m.chars ++ moreChars ms))

/-- All tokens of a mapping, between the two that begin and end it. -/
def mappingTokens (m : Member) (ms : List Member) : List Token :=
  .flowMappingStart :: (m.tokens ++ moreTokens ms)

/-- No text of a mapping ends early, as it would at a character that stands
for its end. -/
theorem nul_notMem_chars (m : Member) : '\x00' ∉ m.chars := by
  have hvalue : '\x00' ∉ m.value.chars := by
    cases m.value with
    | quoted text => exact notMem_quote (.inr rfl)
    | word chars hchars => exact fun h => absurd (hchars.isAlphanum _ h) (by decide)
  have hname : '\x00' ∉ quote m.name.toList := notMem_quote (.inr rfl)
  simp [Member.chars, hname, hvalue]

/-- Nor does what is behind a member, so the reader doesn't take anything
for the end of the text. -/
theorem nul_notMem_moreChars (ms : List Member) : '\x00' ∉ moreChars ms := by
  induction ms with
  | nil => simp [moreChars]
  | cons m ms ih => simp [moreChars, nul_notMem_chars m, ih]

/-- What follows a member begins with a mark: a comma or the closing brace.
So a word that is the value ends there. -/
theorem moreChars_eq_cons (ms : List Member) : ∃ x rest, moreChars ms = x :: rest ∧ isFlowMark x := by
  cases ms with
  | nil => exact ⟨_, _, rfl, by decide⟩
  | cons m ms => exact ⟨_, _, rfl, by decide⟩

/-! ### Steps of the reader of tokens -/

namespace Scanner

/-- The tokens that a reader comes to, given steps enough. More steps than
characters are enough, as each token takes at least one of them. -/
def Yields (s : Scanner) (ts : List Token) : Prop :=
  ∀ n, s.cursor.rest.length < n → (tokensFrom n s).map Array.toList = some ts

/-- Nothing has to become a key. Keys are only required in blocks, and a
mapping on one line has none. -/
def NoneRequired (keys : List KeyStart) : Prop :=
  ∀ k ∈ keys, k.required = false

/-- A place where a key may have begun, given up if it is too far away. This
is done before each token. -/
def refresh (c : Cursor) (k : KeyStart) : KeyStart :=
  if k.possible && (k.line < c.line || k.index + maxKeyLength < c.index) then { k with possible := false }
  else k

/-- A reader without the keys that are too far away. -/
def refreshed (s : Scanner) : Scanner :=
  { s with keys := s.keys.map (refresh s.cursor) }

/-- Giving up a place doesn't make it one that is required. -/
@[simp] theorem refresh_required (c : Cursor) (k : KeyStart) : (refresh c k).required = k.required := by
  unfold refresh
  split <;> rfl

namespace NoneRequired

variable {keys : List KeyStart} {k : KeyStart}

/-- One more place where no key is required leaves none where one is. -/
theorem cons (hk : k.required = false) (h : NoneRequired keys) : NoneRequired (k :: keys) :=
  List.forall_mem_cons.mpr ⟨hk, h⟩

/-- Places may be left out, as when a mapping ends. -/
theorem drop (h : NoneRequired keys) (n : Nat) : NoneRequired (keys.drop n) :=
  fun k hk => h k (List.mem_of_mem_drop hk)

/-- They may be given up. A place that is given up wasn't required, so that
is no error. -/
theorem map_refresh (h : NoneRequired keys) (c : Cursor) : NoneRequired (keys.map (refresh c)) := by
  intro k hk
  obtain ⟨k', hk', rfl⟩ := List.mem_map.mp hk
  rw [refresh_required, h k' hk']

/-- So may the last of them alone, which is what a token does that can't be
a key. -/
theorem modifyHead (h : NoneRequired keys) :
    NoneRequired (keys.modifyHead fun k => { k with possible := false }) := by
  cases keys with
  | nil => exact h
  | cons k keys => exact .cons (h k List.mem_cons_self) (h.drop 1)

end NoneRequired

/-- Where no key is required, none is missed, so giving up places never
fails. -/
theorem dropStaleKeys_eq {s : Scanner} (h : NoneRequired s.keys) :
    s.dropStaleKeys = some s.refreshed := by
  rw [dropStaleKeys, mapM_eq_pure (g := refresh s.cursor)]
  · rfl
  · intro k hk
    simp only [refresh, h k hk]
    split <;> rfl

/-- Outside of blocks no column ends one. So where a mapping stands on its
line doesn't matter. -/
theorem unindent_eq {s : Scanner} (h : s.outerIndents = []) (column : Int) : s.unindent column = s := by
  unfold unindent
  rw [h]
  split
  · rw [closeBlocks, ← h]
  · rfl

/-- A token begins at once if neither a gap nor a comment is before it. -/
theorem toNextToken_eq {s : Scanner} (hblank : isBlank s.cursor.head = false)
    (hbreak : isBreak s.cursor.head = false) (hhash : s.cursor.head ≠ '#') (n : Nat) :
    toNextToken n s = s := by
  cases n with
  | zero => rfl
  | succ n =>
    simp only [isBlank, Bool.or_eq_false_iff, beq_eq_false_iff_ne] at hblank
    rw [toNextToken]
    simp [hblank, hbreak, hhash]

/-- One token is one step, and needs at least one character. Everything that
comes before a token has been taken care of here, so the lemmas about single
tokens need not mention it. -/
theorem yields_of_token {s s' : Scanner} {c : Char} {ts : List Token} (hhead : s.cursor.head = c)
    (hc : isGap c = false ∧ c ≠ '#') (hkeys : NoneRequired s.keys) (hblocks : s.outerIndents = [])
    (htoken : s.refreshed.token = some s') (hlength : s'.cursor.rest.length < s.cursor.rest.length)
    (h : s'.Yields ts) : s.Yields ts := by
  intro n hn
  obtain ⟨n, rfl⟩ : ∃ m, n = m + 1 := ⟨n - 1, by omega⟩
  have hgap : isBlank s.cursor.head = false ∧ isBreak s.cursor.head = false := by
    simp only [isGap, isBreakOrEnd, Bool.or_eq_false_iff] at hc
    rw [hhead]
    exact ⟨hc.1.1, hc.1.2.1⟩
  have hend : s.refreshed.cursor.atEnd = false := by
    have : s.cursor.rest ≠ [] := by
      rintro heq
      rw [heq] at hlength
      exact absurd hlength (Nat.not_lt_zero _)
    simp [refreshed, Cursor.atEnd, this]
  have hunindent : s.refreshed.unindent s.refreshed.cursor.column = s.refreshed :=
    unindent_eq (s := s.refreshed) hblocks _
  rw [tokensFrom, toNextToken_eq hgap.1 hgap.2 (hhead ▸ hc.2), dropStaleKeys_eq hkeys]
  simp only [Option.bind_eq_bind, Option.bind_some]
  rw [hunindent, hend, htoken]
  exact h n (by omega)

/-- A key that isn't required may be given up. -/
theorem dropKey_eq {s : Scanner} (h : NoneRequired s.keys) :
    s.dropKey = some { s with keys := s.keys.modifyHead fun k => { k with possible := false } } := by
  unfold dropKey
  split
  next hnil =>
    rw [hnil, List.modifyHead_nil, ← hnil]
  next k keys hcons =>
    have hk := h k (by simp [hcons])
    simp [hcons, hk]

/-- At the end of the text there is one more token. -/
theorem yields_of_atEnd {s : Scanner} (hend : s.cursor.rest = []) (hkeys : NoneRequired s.keys)
    (hblocks : s.outerIndents = []) : s.Yields (s.tokens.toList ++ [.streamEnd]) := by
  intro n hn
  obtain ⟨n, rfl⟩ : ∃ m, n = m + 1 := ⟨n - 1, by omega⟩
  have hhead : s.cursor.head = '\x00' := by simp [Cursor.head, hend]
  have hend' : s.refreshed.cursor.atEnd = true := by simp [refreshed, Cursor.atEnd, hend]
  have hunindent (column : Int) : s.refreshed.unindent column = s.refreshed :=
    unindent_eq (s := s.refreshed) hblocks column
  have hkeys' : NoneRequired s.refreshed.keys := hkeys.map_refresh _
  rw [tokensFrom, toNextToken_eq (by rw [hhead]; decide) (by rw [hhead]; decide) (by rw [hhead]; decide),
    dropStaleKeys_eq hkeys]
  simp only [Option.bind_eq_bind, Option.bind_some, hunindent, hend', dropKey_eq hkeys']
  simp [refreshed]

/-! Which token begins with a character. -/

section

variable {s : Scanner}

/-- A quote begins a text in quotes. The reader tells tokens by their first
character. -/
theorem token_eq_quoted (h : s.cursor.head = '"') : s.token = s.quoted := by
  simp [token, Cursor.atDocumentMark, h]

/-- A brace begins a mapping, if it stands where a token begins. -/
theorem token_eq_openFlow (h : s.cursor.head = '\x7b') : s.token = s.openFlow .flowMappingStart := by
  simp [token, Cursor.atDocumentMark, h]

/-- A closing brace ends it there. -/
theorem token_eq_closeFlow (h : s.cursor.head = '\x7d') : s.token = s.closeFlow .flowMappingEnd := by
  simp [token, Cursor.atDocumentMark, h]

/-- A comma stands between members there. -/
theorem token_eq_flowComma (h : s.cursor.head = ',') : s.token = s.flowComma := by
  simp [token, Cursor.atDocumentMark, h]

/-- No blank needs to follow the colon behind a text in quotes, as long as
it is right behind it. -/
theorem token_eq_colon (h : s.cursor.head = ':') (hflow : 0 < s.flowLevel)
    (hadjacent : s.cursor.index = s.adjacentAt) : s.token = s.colon := by
  simp [token, Cursor.atDocumentMark, h, hflow, hadjacent]

/-- A letter or a digit begins a word. It is none of the characters that
begin anything else. -/
theorem token_eq_plain (h : s.cursor.head.isAlphanum) : s.token = s.plain := by
  have hne (d : Char) (hd : d.isAlphanum = false) : s.cursor.head ≠ d := ne_of_isAlphanum h hd
  unfold token
  simp only [Cursor.atDocumentMark, beq_false_of_ne (hne '%' rfl), beq_false_of_ne (hne '-' rfl),
    beq_false_of_ne (hne '.' rfl), Bool.and_false, Bool.false_and, Bool.false_eq_true, if_false]
  -- All other tokens begin with a character that is neither a letter nor a digit.
  split <;> first | rfl | exact absurd ‹_› (hne _ (by decide))

end

section

variable {rest : List Char} {i flowLevel adjacentAt : Nat} {tokens : List Token} {keys : List KeyStart}

/-- A reader on the first line that is in no block, but may be in flow
collections. -/
def inline (rest : List Char) (i : Nat) (tokens : List Token) (keys : List KeyStart) (keyAllowed : Bool)
    (flowLevel adjacentAt : Nat) : Scanner :=
  ⟨onLine rest i, tokens.toArray, keys, keyAllowed, -1, [], flowLevel, adjacentAt⟩

/-- The place in front of a token on the first line, where a key may have
begun. -/
def keyOnLine (possible : Bool) (tokenNumber i : Nat) : KeyStart :=
  ⟨possible, false, tokenNumber, i, 1, i⟩

/-- Where a key is allowed, the place is kept. The one before it is given
up. -/
theorem markKey_inline (hkeys : NoneRequired keys) :
    (inline rest i tokens keys true flowLevel adjacentAt).markKey =
      some (inline rest i tokens (keyOnLine true tokens.length i :: keys.drop 1) true flowLevel
        adjacentAt) := by
  have hcolumn : ((-1 : Int) == i) = false := by
    rw [beq_eq_false_iff_ne]
    omega
  have hdrop := dropKey_eq (s := inline rest i tokens keys true flowLevel adjacentAt) hkeys
  simp only [markKey, hdrop, Option.bind_eq_bind, Option.bind_some]
  cases keys <;> simp [inline, onLine, keyOnLine, hcolumn]

/-- Where a key is allowed, a text in quotes may be one. Its place is kept
until it is known whether it is. -/
theorem quoted_key (text : String) (hkeys : NoneRequired keys) :
    (inline (quote text.toList ++ rest) i tokens keys true flowLevel adjacentAt).quoted =
      some (inline rest (i + (quote text.toList).length) (tokens ++ [.scalar false text])
        (keyOnLine true tokens.length i :: keys.drop 1) false flowLevel
        (i + (quote text.toList).length)) := by
  have hscalar (keys : List KeyStart) :
      quotedScalar (inline (quote text.toList ++ rest) i tokens keys true flowLevel adjacentAt).cursor =
        some (text.toList, onLine rest (i + (quote text.toList).length)) :=
    quotedScalar_quote
  rw [quoted, markKey_inline hkeys]
  simp only [Option.bind_eq_bind, Option.bind_some, hscalar]
  simp [inline, emit, onLine]

/-- What is put in front of the last token. A key is only known to be one
when its colon is read, and is marked then. -/
theorem insertIdx_length_append (ts : List Token) (t t' : Token) :
    (ts ++ [t]).insertIdx ts.length t' = ts ++ [t', t] := by
  induction ts with
  | nil => rfl
  | cons x ts ih => simpa using ih

/-- A colon behind what may be a key makes it one. The token for it is put
in front of the text that was read already. -/
theorem colon_key (t : Token) (j : Nat) (hflow : flowLevel ≠ 0) :
    (inline (':' :: rest) i (tokens ++ [t]) (keyOnLine true tokens.length j :: keys) false flowLevel
        adjacentAt).colon =
      some (inline rest (i + 1) (tokens ++ [.key, t, .value]) (keyOnLine false tokens.length j :: keys) false
        flowLevel adjacentAt) := by
  simp [inline, keyOnLine, colon, openBlock, hflow, insertIdx_length_append, skip, emit, Cursor.skip,
    Cursor.next_onLine]

/-- Where no key is allowed, a text in quotes is a value. -/
theorem quoted_value (text : String) :
    (inline (quote text.toList ++ rest) i tokens keys false flowLevel adjacentAt).quoted =
      some (inline rest (i + (quote text.toList).length) (tokens ++ [.scalar false text]) keys false flowLevel
        (i + (quote text.toList).length)) := by
  have hscalar :
      quotedScalar (inline (quote text.toList ++ rest) i tokens keys false flowLevel adjacentAt).cursor =
        some (text.toList, onLine rest (i + (quote text.toList).length)) :=
    quotedScalar_quote
  have hmark : (inline (quote text.toList ++ rest) i tokens keys false flowLevel adjacentAt).markKey =
      some (inline (quote text.toList ++ rest) i tokens keys false flowLevel adjacentAt) := by
    simp [markKey, inline]
  rw [quoted, hmark]
  simp only [Option.bind_eq_bind, Option.bind_some, hscalar]
  simp [inline, emit, onLine]

/-- So is a word in front of a mark. The mark itself isn't read yet. -/
theorem plain_value {cs : List Char} {x : Char} (hcs : IsWord cs) (hx : isFlowMark x) (hi : 0 < i)
    (hflow : 0 < flowLevel) :
    (inline (cs ++ x :: rest) i tokens keys false flowLevel adjacentAt).plain =
      some (inline (x :: rest) (i + cs.length) (tokens ++ [.scalar true (String.ofList cs)]) keys false
        flowLevel adjacentAt) := by
  have hscalar : plainScalar true 0 (onLine (cs ++ x :: rest) i) =
      some (cs, false, onLine (x :: rest) (i + cs.length)) :=
    plainScalar_word hcs hx hi 0
  have hmark : (inline (cs ++ x :: rest) i tokens keys false flowLevel adjacentAt).markKey =
      some (inline (cs ++ x :: rest) i tokens keys false flowLevel adjacentAt) := by
    simp [markKey, inline]
  rw [plain, hmark]
  simp only [Option.bind_eq_bind, Option.bind_some]
  simp [inline, emit, hflow, hscalar]

/-- A comma allows a key again, and gives up the place of the one before. -/
theorem flowComma_inline (hkeys : NoneRequired keys) :
    (inline (',' :: rest) i tokens keys false flowLevel adjacentAt).flowComma =
      some (inline rest (i + 1) (tokens ++ [.flowEntry])
        (keys.modifyHead fun k => { k with possible := false }) true flowLevel adjacentAt) := by
  have hdrop := dropKey_eq (s := inline (',' :: rest) i tokens keys false flowLevel adjacentAt) hkeys
  simp only [flowComma, hdrop, Option.bind_eq_bind, Option.bind_some]
  simp [inline, skip, emit, Cursor.skip, Cursor.next_onLine]

/-- A closing brace ends the innermost collection, and its place for a key
goes with it. -/
theorem closeFlow_inline (hkeys : NoneRequired keys) (t : Token) :
    (inline ('\x7d' :: rest) i tokens keys false (flowLevel + 1) adjacentAt).closeFlow t =
      some (inline rest (i + 1) (tokens ++ [t]) (keys.drop 1) false flowLevel adjacentAt) := by
  have hdrop := dropKey_eq (s := inline ('\x7d' :: rest) i tokens keys false (flowLevel + 1) adjacentAt) hkeys
  simp only [closeFlow, hdrop, Option.bind_eq_bind, Option.bind_some]
  cases keys <;> simp [inline, skip, emit, Cursor.skip, Cursor.next_onLine]

/-- An opening brace begins a collection, in which a key may stand at once. -/
theorem openFlow_inline (hkeys : NoneRequired keys) (hflow : flowLevel < maxFlowLevel) (t : Token) :
    (inline ('\x7b' :: rest) i tokens keys true flowLevel adjacentAt).openFlow t =
      some (inline rest (i + 1) (tokens ++ [t]) (.none :: keyOnLine true tokens.length i :: keys.drop 1)
        true (flowLevel + 1) adjacentAt) := by
  rw [openFlow, markKey_inline hkeys]
  simp only [Option.bind_eq_bind, Option.bind_some]
  simp [inline, skip, emit, Cursor.skip, Cursor.next_onLine, Nat.not_le.mpr hflow]

/-! What the tokens of a mapping come to. -/

variable {ts : List Token}

/-- What begins near enough before a colon is a key. Near enough is what the
bound on names is for. -/
theorem yields_colon {t : Token} {j : Nat} (hnear : i ≤ j + maxKeyLength) (hkeys : NoneRequired keys)
    (hflow : 0 < flowLevel)
    (h : ∀ keys', NoneRequired keys' →
      (inline rest (i + 1) (tokens ++ [.key, t, .value]) keys' false flowLevel i).Yields ts) :
    (inline (':' :: rest) i (tokens ++ [t]) (keyOnLine true tokens.length j :: keys) false flowLevel
      i).Yields ts := by
  -- The colon is near enough for the place of the key to be kept.
  have hfresh : refresh (onLine (':' :: rest) i) (keyOnLine true tokens.length j) =
      keyOnLine true tokens.length j := by
    simp [refresh, onLine, keyOnLine, Nat.not_lt.mpr hnear]
  have hcons (possible : Bool) {keys : List KeyStart} (hkeys : NoneRequired keys) :
      NoneRequired (keyOnLine possible tokens.length j :: keys) :=
    hkeys.cons rfl
  refine yields_of_token (c := ':') rfl (by decide) (hcons true hkeys) rfl
    ((token_eq_colon rfl hflow rfl).trans ?_) (Nat.lt_succ_self _)
    (h _ (hcons false (hkeys.map_refresh (onLine (':' :: rest) i))))
  change (inline (':' :: rest) i (tokens ++ [t])
    (refresh (onLine (':' :: rest) i) _ :: keys.map (refresh (onLine (':' :: rest) i))) false flowLevel
    i).colon = _
  rw [hfresh]
  exact colon_key t j (Nat.ne_of_gt hflow)

/-- A text in quotes with a colon behind it is a key. The two tokens are
read one after the other. -/
theorem yields_key {name : String} (hshort : (quote name.toList).length ≤ maxKeyLength)
    (hkeys : NoneRequired keys) (hflow : 0 < flowLevel)
    (h : ∀ keys' adjacentAt', NoneRequired keys' →
      (inline rest (i + (quote name.toList).length + 1) (tokens ++ [.key, .scalar false name, .value]) keys'
        false flowLevel adjacentAt').Yields ts) :
    (inline (quote name.toList ++ ':' :: rest) i tokens keys true flowLevel adjacentAt).Yields ts := by
  have hkeys' := hkeys.map_refresh (onLine (quote name.toList ++ ':' :: rest) i)
  refine yields_of_token (c := '"') rfl (by decide) hkeys rfl
    ((token_eq_quoted rfl).trans (quoted_key name hkeys')) ?_ ?_
  · simp only [inline, onLine, quote, List.length_append, List.length_cons]
    omega
  · exact yields_colon (by omega) (hkeys'.drop 1) hflow fun keys' => h keys' _

/-- A scalar on one line in front of a mark is a value, in quotes or not. -/
theorem yields_value (v : Inline) {x : Char} (hx : isFlowMark x) (hi : 0 < i) (hkeys : NoneRequired keys)
    (hflow : 0 < flowLevel)
    (h : ∀ keys' adjacentAt', NoneRequired keys' →
      (inline (x :: rest) (i + v.chars.length) (tokens ++ [v.token]) keys' false flowLevel
        adjacentAt').Yields ts) :
    (inline (v.chars ++ x :: rest) i tokens keys false flowLevel adjacentAt).Yields ts := by
  have hkeys' := hkeys.map_refresh (onLine (v.chars ++ x :: rest) i)
  cases v with
  | quoted text =>
    refine yields_of_token (c := '"') rfl (by decide) hkeys rfl
      ((token_eq_quoted rfl).trans (quoted_value text)) ?_ (h _ _ hkeys')
    simp only [inline, onLine, Inline.chars, quote, List.length_append, List.length_cons]
    omega
  | word cs hcs =>
    obtain ⟨c, cs', rfl⟩ := List.exists_cons_of_ne_nil hcs.ne_nil
    have hc := hcs.isAlphanum c List.mem_cons_self
    obtain ⟨hgap, -, -, hhash⟩ := isAlphanum_cases hc
    refine yields_of_token (c := c) rfl ⟨hgap, hhash⟩ hkeys rfl
      ((token_eq_plain (by exact hc)).trans (plain_value hcs hx hi hflow)) ?_ (h _ _ hkeys')
    simp only [inline, onLine, Inline.chars, List.length_append, List.length_cons]
    omega

/-- A member of a mapping in front of a mark: a key and its value. -/
theorem yields_member (m : Member) {x : Char} (hx : isFlowMark x) (hkeys : NoneRequired keys)
    (hflow : 0 < flowLevel)
    (h : ∀ i' keys' adjacentAt', NoneRequired keys' →
      (inline (x :: rest) i' (tokens ++ m.tokens) keys' false flowLevel adjacentAt').Yields ts) :
    (inline (m.chars ++ x :: rest) i tokens keys true flowLevel adjacentAt).Yields ts := by
  have hchars : m.chars ++ x :: rest = quote m.name.toList ++ ':' :: (m.value.chars ++ x :: rest) := by
    simp [Member.chars]
  rw [hchars]
  refine yields_key m.short hkeys hflow fun keys' adjacentAt' hkeys' => ?_
  refine yields_value m.value hx (Nat.succ_pos _) hkeys' hflow fun keys'' adjacentAt'' hkeys'' => ?_
  rw [List.append_assoc]
  exact h _ _ _ hkeys''

/-- What follows a member, up to the end of the text. By induction on the
further members. -/
theorem yields_more (ms : List Member) (hkeys : NoneRequired keys) :
    (inline (moreChars ms) i tokens keys false 1 adjacentAt).Yields
      (tokens ++ moreTokens ms ++ [.streamEnd]) := by
  induction ms generalizing i tokens keys adjacentAt with
  | nil =>
    have hkeys' := hkeys.map_refresh (onLine ['\x7d'] i)
    refine yields_of_token (c := '\x7d') rfl (by decide) hkeys rfl
      ((token_eq_closeFlow rfl).trans (closeFlow_inline hkeys' _)) (Nat.lt_succ_self _) ?_
    exact yields_of_atEnd rfl (hkeys'.drop 1) rfl
  | cons m ms ih =>
    have hkeys' := hkeys.map_refresh (onLine (',' :: (m.chars ++ moreChars ms)) i)
    refine yields_of_token (c := ',') rfl (by decide) hkeys rfl
      ((token_eq_flowComma rfl).trans (flowComma_inline hkeys')) (Nat.lt_succ_self _) ?_
    -- A word as the value of the member ends at the mark that follows.
    obtain ⟨x, rest, hrest, hx⟩ := moreChars_eq_cons ms
    rw [hrest] at ih ⊢
    refine yields_member m hx hkeys'.modifyHead Nat.one_pos fun i' keys'' adjacentAt'' hkeys'' => ?_
    have hmore : (inline (x :: rest) i' (tokens ++ [.flowEntry] ++ m.tokens) keys'' false 1 adjacentAt'').Yields
        (tokens ++ [.flowEntry] ++ m.tokens ++ moreTokens ms ++ [.streamEnd]) :=
      ih hkeys''
    simp only [moreTokens, List.append_assoc, List.cons_append, List.nil_append] at hmore ⊢
    exact hmore

/-- There are enough steps for the characters of a text, since a reader
begins with no more of them. What stands behind a character that ends the
text is left out. -/
theorem length_rest_start (text : String) : (start text).cursor.rest.length ≤ text.length := by
  rw [← String.length_toList]
  exact (List.takeWhile_sublist _).length_le

/-- The whole text of a mapping, from the opening brace on. -/
theorem yields_mapping (m : Member) (ms : List Member) :
    (start (mappingText m ms)).Yields (mappingTokens m ms ++ [.streamEnd]) := by
  have hall : ∀ c ∈ '\x7b' :: (m.chars ++ moreChars ms), decide (c ≠ '\x00') := by
    intro c hc
    rw [decide_eq_true_iff]
    rintro rfl
    simp [nul_notMem_chars m, nul_notMem_moreChars ms] at hc
  have hstart :
      start (mappingText m ms) = inline ('\x7b' :: (m.chars ++ moreChars ms)) 0 [] [.none] true 0 0 := by
    rw [start, Cursor.ofText, mappingText, String.toList_ofList, List.takeWhile_eq_self_iff.mpr hall]
    rfl
  -- A reader starts with one place, where no key may begin.
  have hnone : NoneRequired [.none] := by simp [NoneRequired, KeyStart.none]
  have hkeys := hnone.map_refresh (onLine ('\x7b' :: (m.chars ++ moreChars ms)) 0)
  rw [hstart]
  refine yields_of_token (c := '\x7b') rfl (by decide) hnone rfl
    ((token_eq_openFlow rfl).trans (openFlow_inline hkeys (Nat.zero_lt_succ _) _)) (Nat.lt_succ_self _) ?_
  obtain ⟨x, rest, hrest, hx⟩ := moreChars_eq_cons ms
  rw [hrest]
  refine yields_member m hx (.cons rfl (.cons rfl (hkeys.drop 1))) Nat.one_pos
    fun i' keys' adjacentAt' hkeys' => ?_
  have hmore : (inline (moreChars ms) i' ([.flowMappingStart] ++ m.tokens) keys' false 1 adjacentAt').Yields
      ([.flowMappingStart] ++ m.tokens ++ moreTokens ms ++ [.streamEnd]) :=
    yields_more ms hkeys'
  simp only [hrest, mappingTokens, List.append_assoc, List.cons_append, List.nil_append] at hmore ⊢
  exact hmore

end

end Scanner

/-- A mapping that is written is read as its tokens. The text is short
enough for the steps that the reader is given. -/
theorem Token.ofText?_mapping (m : Member) (ms : List Member) :
    Token.ofText? (mappingText m ms) = some (mappingTokens m ms ++ [.streamEnd]) := by
  have hle := Scanner.length_rest_start (mappingText m ms)
  exact Scanner.yields_mapping m ms _ (by omega)

/-! ### The nodes of a mapping -/

section

variable {depth : Nat} {ts : List Token} {anchors : Anchors}

/-- A scalar is a node by itself, wherever it stands. -/
theorem node_inline (v : Inline) (context : Context) :
    node (depth + 1) context ⟨v.token :: ts, anchors⟩ = some (v.node, ⟨ts, anchors⟩) := by
  cases v <;> simp [node, Inline.token, Inline.node, properties, Anchors.begin', Anchors.complete]

/-- A mapping begins with its token, and its members follow. -/
theorem node_flowMappingStart (context : Context) :
    node (depth + 1) context ⟨.flowMappingStart :: ts, anchors⟩ =
      flowMembers (node depth .flow) (ts.length + 2) [] ⟨ts, anchors⟩ := by
  rw [node]
  simp only [properties, Anchors.begin', Anchors.complete, List.drop_one, List.tail_cons, List.length_cons]
  exact Option.bind_fun_some _

/-- A member is read from its tokens, and the tokens behind it are left. -/
theorem flowMember_tokens (m : Member) :
    flowMember (node (depth + 1) .flow) ⟨m.tokens ++ ts, anchors⟩ = some (m.nodes, ⟨ts, anchors⟩) := by
  have hname : node (depth + 1) .flow ⟨.scalar false m.name :: .value :: m.value.token :: ts, anchors⟩ =
      some (.scalar false none m.name, ⟨.value :: m.value.token :: ts, anchors⟩) :=
    node_inline (.quoted m.name) .flow
  have hkey : endsFlowKey (.scalar false m.name) = false := rfl
  have hvalue : endsFlowValue m.value.token = false := by cases m.value <;> rfl
  simp [flowMember, Member.tokens, optional, memberValue, hname, hkey, hvalue, node_inline, Member.nodes]

/-- The members that follow are read one by one, up to the end of the
mapping. By induction on them, for any that were read before. -/
theorem flowMembers_more (ms : List Member) {n : Nat} (hn : ms.length < n) (rev : List (Node × Node))
    (hrev : rev ≠ []) :
    flowMembers (node (depth + 1) .flow) n rev ⟨moreTokens ms ++ ts, anchors⟩ =
      some (.mapping (rev.reverse ++ ms.map Member.nodes), ⟨ts, anchors⟩) := by
  induction ms generalizing n rev with
  | nil =>
    obtain ⟨n, rfl⟩ : ∃ m, n = m + 1 := ⟨n - 1, by omega⟩
    simp [moreTokens, flowMembers]
  | cons m ms ih =>
    obtain ⟨n, rfl⟩ : ∃ m, n = m + 1 := ⟨n - 1, by omega⟩
    have hmore := ih (n := n) (by simpa using hn) (m.nodes :: rev) (by simp)
    have hstep : flowMembers (node (depth + 1) .flow) (n + 1) rev ⟨moreTokens (m :: ms) ++ ts, anchors⟩ =
        (flowMember (node (depth + 1) .flow) ⟨m.tokens ++ (moreTokens ms ++ ts), anchors⟩).bind fun r =>
          flowMembers (node (depth + 1) .flow) n (r.1 :: rev) r.2 := by
      simp [moreTokens, flowMembers, Member.tokens, hrev]
    rw [hstep, flowMember_tokens, Option.bind_some, hmore]
    simp

/-- All members are read, from the first one on. -/
theorem flowMembers_mapping (m : Member) (ms : List Member) {n : Nat} (hn : ms.length < n) :
    flowMembers (node (depth + 1) .flow) (n + 1) [] ⟨m.tokens ++ (moreTokens ms ++ ts), anchors⟩ =
      some (.mapping ((m :: ms).map Member.nodes), ⟨ts, anchors⟩) := by
  have hstep : flowMembers (node (depth + 1) .flow) (n + 1) [] ⟨m.tokens ++ (moreTokens ms ++ ts), anchors⟩ =
      (flowMember (node (depth + 1) .flow) ⟨m.tokens ++ (moreTokens ms ++ ts), anchors⟩).bind fun r =>
        flowMembers (node (depth + 1) .flow) n [r.1] r.2 := by
    simp [flowMembers, Member.tokens]
  rw [hstep, flowMember_tokens, Option.bind_some, flowMembers_more ms hn [m.nodes] (by simp)]
  rfl

end

/-- There are enough steps for the members, since each has tokens. -/
theorem length_le_moreTokens (ms : List Member) : ms.length ≤ (moreTokens ms).length := by
  induction ms with
  | nil => exact Nat.zero_le _
  | cons m ms ih =>
    simp only [moreTokens, List.length_cons, List.length_append]
    omega

/-- The tokens of a mapping are one document, and it is that mapping. -/
theorem onlyDocument_mapping (m : Member) (ms : List Member) :
    onlyDocument (mappingTokens m ms ++ [.streamEnd]) = some (.mapping ((m :: ms).map Member.nodes)) := by
  have hlength := length_le_moreTokens ms
  have hnode (depth : Nat) : node (depth + 2) .block ⟨mappingTokens m ms ++ [.streamEnd], .empty⟩ =
      some (.mapping ((m :: ms).map Member.nodes), ⟨[.streamEnd], .empty⟩) := by
    rw [mappingTokens, List.cons_append, node_flowMappingStart, List.append_assoc, flowMembers_mapping]
    simp only [List.length_append]
    omega
  have hhead : (mappingTokens m ms ++ [Token.streamEnd]).head? = some .flowMappingStart := rfl
  have hdepth :
      (mappingTokens m ms ++ [Token.streamEnd]).length + 1 = (m.tokens ++ moreTokens ms).length + 1 + 2 := by
    simp [mappingTokens, Nat.add_assoc]
  have hfirst : beginsMarked .flowMappingStart = false := rfl
  rw [onlyDocument, hhead, hdepth]
  simp only [Option.bind_eq_bind, Option.bind_some, hfirst, Bool.false_eq_true, if_false, hnode]
  rfl

/-- A mapping that is written is read as what was written. -/
theorem Node.ofText?_mapping (m : Member) (ms : List Member) :
    Node.ofText? (mappingText m ms) = some (.mapping ((m :: ms).map Member.nodes)) := by
  rw [Node.ofText?, Token.ofText?_mapping, Option.bind_some, onlyDocument_mapping]

end MapBench.Yaml
