import MapBench.Proofs.Session.Remote
import MapBench.Proofs.Store.Ready

/-!
# `MapBench.Proofs.Session.Agreement`: it doesn't matter where a store is

A session with a store file and a session with a server begin with
stores that hold the same. Whatever calls are made of both, they end in
the same way, and the stores hold the same after each of them.

* `IsSafeName`: the names for which this is so.
* `Agree`: what the two sessions have in common at any time.
* `Agree.act`, `Agree.perform`: an operation keeps it, and so does a
  call.
* `trace_eq_of_connect`: all calls together.
-/

set_option autoImplicit false

namespace MapBench

open RemoteSession Std

/-! ### Names -/

/-- A name of ASCII letters, digits and a few marks that isn't made of
dots only. -/
structure IsSafeName (name : String) : Prop where
  ne_empty : name ≠ ""
  ne_dot : name ≠ "."
  ne_dots : name ≠ ".."
  chars : ∀ c ∈ name.toList, c.isAlphanum = true ∨ c ∈ ['-', '_', '.', '~']

instance (name : String) : Decidable (IsSafeName name) :=
  decidable_of_iff (name ≠ "" ∧ name ≠ "." ∧ name ≠ ".." ∧ name.toList.all (fun c =>
      decide (c.isAlphanum = true ∨ c ∈ ['-', '_', '.', '~'])) = true)
    ⟨fun ⟨hne, hdot, hdots, hall⟩ =>
        ⟨hne, hdot, hdots, fun c hc => of_decide_eq_true (List.all_eq_true.mp hall c hc)⟩,
      fun h => ⟨h.ne_empty, h.ne_dot, h.ne_dots,
        List.all_eq_true.mpr fun c hc => decide_eq_true (h.chars c hc)⟩⟩

/-- The characters of safe names are plain, and none of them begins an
escape. -/
theorem isPathChar_of_safe {c : Char} (h : c.isAlphanum = true ∨ c ∈ ['-', '_', '.', '~']) :
    Url.IsPathChar c ∧ c ≠ '%' := by
  have hall : ∀ n < 128, (Char.ofNat n).isAlphanum = true ∨ Char.ofNat n ∈ ['-', '_', '.', '~'] →
      Url.IsPathChar (Char.ofNat n) ∧ Char.ofNat n ≠ '%' := by
    decide
  have hsmall : c.toNat < 128 := by
    rcases h with h | h
    · change (decide (65 ≤ c.val ∧ c.val ≤ 90) ||
        (decide (97 ≤ c.val) && decide (c.val ≤ 122)) ||
        (decide (48 ≤ c.val) && decide (c.val ≤ 57))) = true at h
      simp only [Bool.or_eq_true, Bool.and_eq_true, decide_eq_true_eq, UInt32.le_iff_toNat_le] at h
      show c.val.toNat < 128
      change (((_ ∧ c.val.toNat ≤ 90) ∨ (_ ∧ c.val.toNat ≤ 122)) ∨ (_ ∧ c.val.toNat ≤ 57)) at h
      omega
    · simp only [List.mem_cons, List.not_mem_nil, or_false] at h
      rcases h with rfl | rfl | rfl | rfl <;> decide
  rw [← Char.ofNat_toNat c] at h ⊢
  exact hall c.toNat hsmall h

/-- Without a percent sign no dots are hidden in a piece. -/
theorem plainDots_eq_self {cs : List Char} (h : '%' ∉ cs) : Url.plainDots cs = cs := by
  induction cs with
  | nil => rfl
  | cons c cs ih =>
    rw [List.mem_cons, not_or] at h
    by_cases hdot : c = '.'
    · subst hdot
      rw [Url.plainDots, ih h.2]
    · rw [Url.plainDots]
      · intro e cs' he
        exact h.1 (List.cons.inj he).1.symm
      · intro cs' he
        exact hdot (List.cons.inj he).1

/-- A safe name is plain: none of its characters means anything in an
address. -/
theorem IsSafeName.isPlainName {name : String} (h : IsSafeName name) : Api.IsPlainName name := by
  have hdots : Url.plainDots name.toList = name.toList := plainDots_eq_self fun hmem =>
    (isPathChar_of_safe (h.chars '%' hmem)).2 rfl
  refine ⟨fun hnil => h.ne_empty (String.toList_inj.mp hnil), fun c hc => ?_, fun hdot => ?_,
    fun hdot => ?_⟩
  · exact (isPathChar_of_safe (h.chars c hc)).1
  · rw [hdots] at hdot
    exact h.ne_dot (String.toList_inj.mp hdot)
  · rw [hdots] at hdot
    exact h.ne_dots (String.toList_inj.mp hdot)

/-! ### Sessions in step -/

/-- What a session with a store file and a session with a server have in
common. The writes that one of them keeps are the encoded ones of the
other, and what their stores hold is the same. -/
structure Agree (base pool : String) (handle : Nat) (u : SessionUse Disk LocalSession Batch)
    (v : SessionUse Connection RemoteSession (List UInt8)) : Prop where
  sessions : u.session = ⟨some handle, pool⟩ ∧ v.session = opened base pool ∨
    u.session = ⟨none, pool⟩ ∧ v.session = (opened base pool).close
  prepared : v.prepared = u.prepared.map Batch.encode
  stores : ∃ c, u.place.connection? handle = some c ∧ c.tables = v.place.tables ∧
    c.tables.IsReady pool

namespace Agree

variable {α : Type} {readHost : Url.HostReader} {base pool : String} {handle : Nat}
  {u : SessionUse Disk LocalSession Batch} {v : SessionUse Connection RemoteSession (List UInt8)}

/-- An operation of the store that both sessions ask for ends in the
same way for them. -/
theorem act (h : Agree base pool handle u v) {op : StoreM α}
    {remote : StateM Connection (Except SessionError α)} (hremote : ActsAt v.place remote op)
    (hop : Store.IsUniform pool op) (tell : α → Option Nat) :
    (u.act ((LocalSession.mk (some handle) pool).run op) tell).1 = (v.act remote tell).1 ∧
      Agree base pool handle (u.act ((LocalSession.mk (some handle) pool).run op) tell).2
        (v.act remote tell).2 := by
  obtain ⟨c, hc, htables, hready⟩ := h.stores
  obtain ⟨hresult, htables', hready'⟩ := hop c v.place htables hready
  obtain ⟨hending, hplace⟩ := hremote
  have hlocal := LocalSession.run_of_connection? hc pool op
  constructor
  · rw [SessionUse.act, SessionUse.act, hlocal, Ending.of_mapError_store, hresult, hending]
  · refine ⟨h.sessions, h.prepared, (op.run c).2, ?_, ?_, hready'⟩
    · rw [SessionUse.act, hlocal]
      exact Disk.connection?_putBack hc _
    · rw [SessionUse.act, hplace]
      exact htables'

/-- While both are open, a call ends in the same way for both sessions,
and afterwards they still have as much in common. -/
theorem perform_open (hbase : IsServerUrl readHost base) (hpool : Api.IsPlainName pool)
    {prepared : List Batch} {d : Disk} {c : Connection}
    (h : Agree base pool handle ⟨⟨some handle, pool⟩, prepared, d⟩
      ⟨opened base pool, prepared.map Batch.encode, c⟩)
    (call : SessionCall) (hcall : ∀ object ∈ call.object?, Api.IsPlainName object) :
    (call.perform LocalSession.kind ⟨⟨some handle, pool⟩, prepared, d⟩).1 =
        (call.perform (RemoteSession.kind (Network.ofServer readHost))
          ⟨opened base pool, prepared.map Batch.encode, c⟩).1 ∧
      Agree base pool handle (call.perform LocalSession.kind ⟨⟨some handle, pool⟩, prepared, d⟩).2
        (call.perform (RemoteSession.kind (Network.ofServer readHost))
          ⟨opened base pool, prepared.map Batch.encode, c⟩).2 := by
  have hhas : c.tables.HasPool pool := by
    obtain ⟨c', -, htables, hready⟩ := h.stores
    exact htables ▸ hready.hasPool
  cases call with
  | removeObject object =>
    have hobject := hcall object rfl
    exact h.act (actsAs_removeObject hbase hpool hobject c)
      (Store.isUniform_removeObject pool ⟨pool, object⟩) _
  | writeObject object data =>
    have hobject := hcall object rfl
    exact h.act (actsAs_writeObject hbase hpool hobject data c)
      (Store.isUniform_replaceData pool ⟨pool, object⟩ data) _
  | prepare batch =>
    refine ⟨rfl, .inl ⟨rfl, rfl⟩, ?_, h.stores⟩
    show prepared.map Batch.encode ++ [batch.encode] = (prepared ++ [batch]).map Batch.encode
    rw [List.map_append]
    rfl
  | operate object number =>
    have hobject := hcall object rfl
    -- A prepared write is found under the same number on both sides.
    simp only [SessionCall.perform, List.getElem?_map]
    cases prepared[number]? with
    | none => exact ⟨rfl, h⟩
    | some batch =>
      exact h.act (actsAs_operate hbase hpool hobject batch c)
        (Store.isUniform_writeEntries pool ⟨pool, object⟩ batch) _
  | writeBatch object batch =>
    have hobject := hcall object rfl
    have hlocal : (LocalSession.storage ⟨some handle, pool⟩).writeBatch object batch = _ :=
      StorageSession.writeBatch_of_prepare rfl object
    have hremote : ((opened base pool).storage (Network.ofServer readHost)).writeBatch object batch = _ :=
      StorageSession.writeBatch_of_prepare rfl object
    simp only [SessionCall.perform, LocalSession.kind, RemoteSession.kind, hlocal, hremote]
    exact h.act (actsAs_operate hbase hpool hobject batch c)
      (Store.isUniform_writeEntries pool ⟨pool, object⟩ batch) _
  | mapSize object =>
    have hobject := hcall object rfl
    exact h.act (actsAt_mapSize hbase hpool hobject hhas)
      (Store.isUniform_mapSize pool ⟨pool, object⟩) _
  | close => exact ⟨rfl, .inr ⟨rfl, rfl⟩, rfl, h.stores⟩

/-- After both are closed, a call does nothing. No write can be prepared any
more, on either side, and those that were are of no use. -/
theorem perform_closed {prepared : List Batch} {d : Disk} {c : Connection}
    (h : Agree base pool handle ⟨⟨none, pool⟩, prepared, d⟩
      ⟨(opened base pool).close, prepared.map Batch.encode, c⟩) (call : SessionCall) :
    (call.perform LocalSession.kind ⟨⟨none, pool⟩, prepared, d⟩).1 =
        (call.perform (RemoteSession.kind (Network.ofServer readHost))
          ⟨(opened base pool).close, prepared.map Batch.encode, c⟩).1 ∧
      Agree base pool handle (call.perform LocalSession.kind ⟨⟨none, pool⟩, prepared, d⟩).2
        (call.perform (RemoteSession.kind (Network.ofServer readHost))
          ⟨(opened base pool).close, prepared.map Batch.encode, c⟩).2 := by
  cases call with
  | removeObject object => exact ⟨rfl, h⟩
  | writeObject object data => exact ⟨rfl, h⟩
  | prepare batch =>
    refine ⟨rfl, .inr ⟨rfl, rfl⟩, ?_, h.stores⟩
    show prepared.map Batch.encode ++ [] = (prepared ++ []).map Batch.encode
    rw [List.append_nil, List.append_nil]
  | operate object number =>
    simp only [SessionCall.perform, List.getElem?_map]
    cases prepared[number]? with
    | none => exact ⟨rfl, h⟩
    | some batch => exact ⟨rfl, h⟩
  | writeBatch object batch =>
    have hlocal : (LocalSession.storage ⟨none, pool⟩).writeBatch object batch = _ :=
      StorageSession.writeBatch_of_prepare_error rfl object
    have hremote :
        ((opened base pool).close.storage (Network.ofServer readHost)).writeBatch object batch = _ :=
      StorageSession.writeBatch_of_prepare_error rfl object
    simp only [SessionCall.perform, LocalSession.kind, RemoteSession.kind, hlocal, hremote]
    exact ⟨rfl, h⟩
  | mapSize object => exact ⟨rfl, h⟩
  | close => exact ⟨rfl, .inr ⟨rfl, rfl⟩, rfl, h.stores⟩

/-- A call ends in the same way for both sessions, and afterwards they
still have as much in common. -/
theorem perform (hbase : IsServerUrl readHost base) (hpool : Api.IsPlainName pool)
    (h : Agree base pool handle u v) (call : SessionCall)
    (hcall : ∀ object ∈ call.object?, Api.IsPlainName object) :
    (call.perform LocalSession.kind u).1 =
        (call.perform (RemoteSession.kind (Network.ofServer readHost)) v).1 ∧
      Agree base pool handle (call.perform LocalSession.kind u).2
        (call.perform (RemoteSession.kind (Network.ofServer readHost)) v).2 := by
  obtain ⟨uSession, uPrepared, d⟩ := u
  obtain ⟨vSession, vPrepared, c⟩ := v
  obtain rfl := h.prepared
  rcases h.sessions with ⟨rfl, rfl⟩ | ⟨rfl, rfl⟩
  · exact h.perform_open hbase hpool call hcall
  · exact h.perform_closed call

/-- What can be seen of all calls together is the same. The induction is on
the calls, and `Agree` is what each of them keeps. -/
theorem trace_eq (hbase : IsServerUrl readHost base) (hpool : Api.IsPlainName pool)
    (h : Agree base pool handle u v) (calls : List SessionCall)
    (hcalls : ∀ call ∈ calls, ∀ object ∈ call.object?, Api.IsPlainName object) :
    u.trace LocalSession.kind (fun d => (d.connection? handle).map Connection.tables) calls =
      v.trace (RemoteSession.kind (Network.ofServer readHost)) (fun c => some c.tables) calls := by
  induction calls generalizing u v with
  | nil => rfl
  | cons call calls ih =>
    obtain ⟨hending, hnext⟩ := h.perform hbase hpool call (hcalls call List.mem_cons_self)
    obtain ⟨c, hc, htables, -⟩ := hnext.stores
    have hlook : ((call.perform LocalSession.kind u).2.place.connection? handle).map
        Connection.tables =
        some (call.perform (RemoteSession.kind (Network.ofServer readHost)) v).2.place.tables := by
      rw [hc, Option.map_some, htables]
    have hrest := ih hnext fun call' hcall' => hcalls call' (List.mem_cons_of_mem call hcall')
    simp only [SessionUse.trace]
    rw [hending, hlook, hrest]

end Agree

/-- The tables that a session with a store file works on, as someone
sees them who looks at the store from outside. -/
def LocalSession.look (l : LocalSession) (d : Disk) : Option Tables := do
  let handle ← l.handle
  (d.connection? handle).map Connection.tables

/-- A session with a store file and a session with a server, whose
stores hold the same to begin with, can't be told apart. Whatever calls
are made of both, each call ends in the same way and counts the same,
and after it the stores hold the same. -/
theorem trace_eq_of_connect {readHost : Url.HostReader} {base path pool : String} {d₀ d : Disk}
    {l : LocalSession} {c₀ c : Connection} {r : RemoteSession}
    (hbase : IsServerUrl readHost base) (hpool : IsSafeName pool)
    (hlocal : (LocalSession.connect path pool).run d₀ = (.ok l, d))
    (hremote : (RemoteSession.connect (Network.ofServer readHost) base pool).run c₀ = (.ok r, c))
    (hsame : l.look d = some c.tables) (calls : List SessionCall)
    (hcalls : ∀ call ∈ calls, ∀ object ∈ call.object?, IsSafeName object) :
    (SessionUse.start l d).trace LocalSession.kind l.look calls =
      (SessionUse.start r c).trace (RemoteSession.kind (Network.ofServer readHost))
        (fun c => some c.tables) calls := by
  obtain ⟨handle, c', rfl, hc', hready⟩ := LocalSession.isReady_of_connect hlocal
  have htables : c'.tables = c.tables := by
    have hlook : (LocalSession.mk (some handle) pool).look d = some c'.tables := by
      show (d.connection? handle).map Connection.tables = some c'.tables
      rw [hc', Option.map_some]
    exact Option.some.inj (hlook.symm.trans hsame)
  have hr : r = opened base pool := by
    rw [run_connect hbase hpool.isPlainName] at hremote
    exact eq_opened_of_connected (Prod.mk.inj hremote).1
  subst hr
  have hagree : Agree base pool handle (SessionUse.start ⟨some handle, pool⟩ d)
      (SessionUse.start (opened base pool) c) :=
    ⟨.inl ⟨rfl, rfl⟩, rfl, c', hc', htables, hready⟩
  exact hagree.trace_eq hbase hpool.isPlainName calls fun call hcall object hobject =>
    (hcalls call hcall object hobject).isPlainName

/-- A write that is prepared in two new stores, and applied after an
object was removed. -/
theorem trace_eq_of_connect_newStores :
    let tables : Tables := ⟨some ((∅ : ExtTreeSet String).insert "ben"), some ∅, some ∅⟩
    let d : Disk := ⟨⟨∅, []⟩, #[tables], #[⟨0, false⟩]⟩
    let l : LocalSession := ⟨some 0, "ben"⟩
    let calls : List SessionCall := [.prepare ⟨[⟨"key", [1]⟩]⟩, .removeObject "hw", .operate "hw" 0,
      .mapSize "hw", .close, .mapSize "hw"]
    (SessionUse.start l d).trace LocalSession.kind l.look calls =
      (SessionUse.start (opened "http://localhost:3000" "ben") (Connection.fresh tables)).trace
        (RemoteSession.kind (Network.ofServer Url.asciiHost)) (fun c => some c.tables) calls := by
  intro tables d l calls
  have hbase := isServerUrl_localhost
  have hpool : IsSafeName "ben" := by decide
  have hobject : IsSafeName "hw" := by decide
  have hlocal : (LocalSession.connect ":memory:" "ben").run (Disk.ofTree ⟨∅, []⟩) = (.ok l, d) := rfl
  have hhas : (Connection.fresh tables).tables.HasPool "ben" := ⟨_, rfl, ExtTreeSet.mem_insert_self⟩
  have hremote := run_connect_of_hasPool hbase hpool.isPlainName hhas
  refine trace_eq_of_connect hbase hpool hlocal hremote rfl calls fun call hcall object hname => ?_
  have hcalls : ∀ call ∈ calls, ∀ object ∈ call.object?, object = "hw" := by decide
  rw [hcalls call hcall object hname]
  exact hobject

end MapBench
