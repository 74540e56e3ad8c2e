import Mathlib.Logic.Function.Basic
import Keyring.Proofs.Provider
import Keyring.Proofs.Store.Aging
import Keyring.Service

/-! Calls to one service that overlap. A creation makes its wallet first and stores it later; a deletion reads its
wallet first and deletes it later; every other call is one step. In between, other calls take steps of their own. As
long as no identifier is drawn twice no record is lost, and none changes but for its time of deletion, which is set
once. -/
namespace Keyring

/-! ### Steps -/

/-- The second step of a creation, with the wallet that the first one made. -/
def Service.keep {σ : Type} (v : Service σ) (w : Wallet) : Except Error Wallet × Service σ :=
  match v.store.set w with
  | (.error e, store) => (.error (.ofStore e), { v with store })
  | (.ok (), store) => (.ok w, { v with store })

theorem Service.keep_eq {σ : Type} (v : Service σ) (w : Wallet) :
    v.keep w = if v.store.writable then (.ok w, { v with store := v.store.write w.id w })
      else (.error (.store .io), v) := by
  rw [keep, Store.set]
  by_cases h : v.store.writable = true
  · rw [if_pos h, if_pos h]
  · rw [if_neg h, if_neg h]
    rfl

theorem Service.trash_eq {σ : Type} (v : Service σ) (w : Wallet) (now : Timestamp) :
    v.trash w now = (((v.store.softDelete w now).1.map fun _ => ()).mapError .ofStore,
      { v with store := (v.store.softDelete w now).2 }) := by
  rw [trash]
  rcases v.store.softDelete w now with ⟨_ | _, _⟩ <;> rfl

theorem Registry.id_generate {σ : Type} {r : Registry σ} {c : Chain} {stamp : Stamp} {s : σ} {w : Wallet}
    (h : (r.generate c stamp s).1 = .ok w) : w.id = stamp.id := by
  rw [generate] at h
  split at h
  · cases h
  · exact (Provider.stamped_generate h).1

/-- A call between its steps, with the wallet that it made or read. -/
inductive OpenCall where
  | create (w : Wallet)
  | delete (id : Uuid) (w : Wallet)

/-- A service in use: its source of randomness, and the calls that have started and not finished. -/
structure Traffic (σ : Type) where
  service : Service σ
  source : σ
  calls : Nat → Option OpenCall

namespace Traffic

variable {σ : Type}

/-- What a caller can ask of a service. -/
inductive Request where
  | create (c : Chain) (stamp : Stamp)
  | delete (id : Uuid)
  | get (id : Uuid) (trashed : Bool)
  | list (trashed : Bool)
  | signEvm (c : Chain) (w : Wallet) (order : Evm.Order)
  | signTron (node : Tron.Node) (schedule : List Tron.Poll) (w : Wallet) (order : Tron.Order)

/-- What a step tells the caller. -/
inductive Reply where
  | nothing
  | created (answer : Except Error Wallet)
  | deleted (id : Uuid) (answer : Except Error Unit)
  | got (answer : Except Error Wallet)
  | listed (answer : Except Error (List Wallet))
  | signed (answer : Except Error String)
  | exchanged (exchange : Tron.Exchange)

/-- A call is started and, if it is a creation or a deletion, finished later. The file may stop taking writes and take
them again. -/
inductive Move where
  | start (call : Nat) (r : Request)
  | finish (call : Nat) (now : Timestamp)
  | setWritable (writable : Bool)

/-- The identifiers that a request draws. -/
def Request.newIds : Request → List Uuid
  | create _ stamp => [stamp.id]
  | _ => []

/-- The identifiers that a move draws. -/
def Move.newIds : Move → List Uuid
  | start _ r => r.newIds
  | finish _ _ => []
  | setWritable _ => []

/-- A service that nobody uses yet. -/
def idle (service : Service σ) (source : σ) : Traffic σ := ⟨service, source, fun _ => none⟩

/-- Opens a call. An open call with the same number is given up. -/
def hold (x : Traffic σ) (call : Nat) (o : OpenCall) : Traffic σ :=
  { x with calls := Function.update x.calls call (some o) }

@[simp] theorem service_hold (x : Traffic σ) (call : Nat) (o : OpenCall) : (x.hold call o).service = x.service := rfl

def drop (x : Traffic σ) (call : Nat) : Traffic σ := { x with calls := Function.update x.calls call none }

def start (x : Traffic σ) (call : Nat) : Request → Reply × Traffic σ
  | .create c stamp =>
    match x.service.registry.generate c stamp x.source with
    | (.error e, source) => (.created (.error e), { x with source })
    | (.ok w, source) => (.nothing, { x with source }.hold call (.create w))
  | .delete id =>
    match x.service.get id false with
    | .error e => (.deleted id (.error e), x)
    | .ok w => (.nothing, x.hold call (.delete id w))
  | .get id trashed => (.got (x.service.get id trashed), x)
  | .list trashed => (.listed (x.service.list trashed), x)
  | .signEvm c w order => (.signed (x.service.evmTransaction c w order), x)
  | .signTron node schedule w order => (.exchanged (x.service.tronTransaction node schedule w order), x)

def finish (x : Traffic σ) (call : Nat) (now : Timestamp) : Reply × Traffic σ :=
  match x.calls call with
  | none => (.nothing, x)
  | some (.create w) => (.created (x.service.keep w).1, { x with service := (x.service.keep w).2 }.drop call)
  | some (.delete id w) =>
    (.deleted id (x.service.trash w now).1, { x with service := (x.service.trash w now).2 }.drop call)

def setWritable (x : Traffic σ) (writable : Bool) : Traffic σ :=
  { x with service := { x.service with store := { x.service.store with writable } } }

def step (x : Traffic σ) : Move → Reply × Traffic σ
  | .start call r => x.start call r
  | .finish call now => x.finish call now
  | .setWritable writable => (.nothing, x.setWritable writable)

/-- What is left after some moves. -/
def run (x : Traffic σ) (moves : List Move) : Traffic σ := moves.foldl (fun x move => (x.step move).2) x

theorem run_append_cons (x : Traffic σ) (front : List Move) (move : Move) (back : List Move) :
    x.run (front ++ move :: back) = ((x.run front).step move).2.run back := by
  rw [run, List.foldl_append]
  rfl

/-- A call that no other call disturbs. -/
def alone (x : Traffic σ) (call : Nat) (r : Request) (now : Timestamp) : Reply × Traffic σ :=
  match x.start call r with
  | (.nothing, y) => y.finish call now
  | (reply, y) => (reply, y)

/-! ### Undisturbed calls -/

theorem alone_create (x : Traffic σ) (call : Nat) (c : Chain) (stamp : Stamp) (now : Timestamp) :
    (x.alone call (.create c stamp) now).1 = .created (x.service.create c stamp x.source).1
    ∧ (x.alone call (.create c stamp) now).2.service = (x.service.create c stamp x.source).2.1
    ∧ (x.alone call (.create c stamp) now).2.source = (x.service.create c stamp x.source).2.2 := by
  rw [alone, start, Service.create]
  rcases x.service.registry.generate c stamp x.source with ⟨e | w, source⟩
  · exact ⟨rfl, rfl, rfl⟩
  · simp only [finish, hold, drop, Function.update_self, Service.keep]
    rcases x.service.store.set w with ⟨e | _, store⟩ <;> exact ⟨rfl, rfl, rfl⟩

theorem alone_delete (x : Traffic σ) (call : Nat) (id : Uuid) (now : Timestamp) :
    (x.alone call (.delete id) now).1 = .deleted id (x.service.delete id now).1
    ∧ (x.alone call (.delete id) now).2.service = (x.service.delete id now).2 := by
  rw [alone, start, Service.delete]
  rcases x.service.get id false with e | w
  · exact ⟨rfl, rfl⟩
  · simp only [finish, hold, drop, Function.update_self]
    exact ⟨trivial, trivial⟩

/-! ### What is so between the steps -/

theorem calls_hold {x : Traffic σ} {call other : Nat} {o o' : OpenCall} (h : (x.hold call o).calls other = some o') :
    (other = call ∧ o' = o) ∨ (other ≠ call ∧ x.calls other = some o') := by
  simp only [hold, Function.update_apply] at h
  split at h
  · next hcall => exact .inl ⟨hcall, (Option.some.inj h).symm⟩
  · next hcall => exact .inr ⟨hcall, h⟩

theorem calls_drop {x : Traffic σ} {call other : Nat} {o : OpenCall} (h : (x.drop call).calls other = some o) :
    other ≠ call ∧ x.calls other = some o := by
  simp only [drop, Function.update_apply] at h
  split at h
  · cases h
  · next hcall => exact ⟨hcall, h⟩

/-- The store holds the wallets of a map, all under identifiers that have been drawn. A wallet that is made and not
stored yet has an identifier that no stored wallet has, and no other such wallet. A wallet that was read for a deletion
stands in the store as what it has become. -/
structure Tracks (x : Traffic σ) (m : Records) (used : List Uuid) : Prop where
  represents : x.service.store.table.Represents m
  stored : ∀ id w, m id = some w → id ∈ used
  made : ∀ call w, x.calls call = some (.create w) → w.id ∈ used ∧ m w.id = none
  apart : ∀ call call' w w', x.calls call = some (.create w) → x.calls call' = some (.create w') → w.id = w'.id →
    call = call'
  read : ∀ call id w, x.calls call = some (.delete id w) → w.id = id ∧ ∃ later, m id = some later ∧ w.Ages later

/-- What a reply says of the map before the step and of the one after it. -/
structure Tells (reply : Reply) (m later : Records) : Prop where
  ages : m.Ages later
  created : ∀ w, reply = .created (.ok w) → later w.id = some w
  deleted : ∀ id, reply = .deleted id (.ok ()) →
    ∃ w, m id = some w ∧ ∃ w', later id = some w' ∧ w'.deletedAt.isSome

theorem Tells.of_silent {reply : Reply} (hcreated : ∀ w, reply ≠ .created (.ok w))
    (hdeleted : ∀ id, reply ≠ .deleted id (.ok ())) (m : Records) : Tells reply m m :=
  ⟨.refl m, fun w h => absurd h (hcreated w), fun id h => absurd h (hdeleted id)⟩

theorem not_mem_of_nodup {used new : List Uuid} (h : (used ++ new).Nodup) : ∀ id ∈ new, id ∉ used :=
  fun _ hid hused => List.disjoint_of_nodup_append h hused hid

theorem tracks_idle {v : Service σ} (h : v.store.table = .empty) (s : σ) : (idle v s).Tracks .empty [] where
  represents := by rw [idle, h]; exact .empty
  stored _ _ h := nomatch h
  made _ _ h := nomatch h
  apart _ _ _ _ h := nomatch h
  read _ _ _ h := nomatch h

namespace Tracks

variable {x y : Traffic σ} {m : Records} {used : List Uuid} {call : Nat} {w : Wallet}

/-- A step that opens no call and lets the records age. -/
theorem advance (h : x.Tracks m used) {later : Records} (htable : y.service.store.table.Represents later)
    (hages : m.Ages later) (hstored : ∀ id w, later id = some w → id ∈ used)
    (hcalls : ∀ call o, y.calls call = some o → x.calls call = some o)
    (hmade : ∀ call w, y.calls call = some (.create w) → later w.id = none) : y.Tracks later used where
  represents := htable
  stored := hstored
  made call w hw := ⟨(h.made call w (hcalls _ _ hw)).1, hmade call w hw⟩
  apart call call' w w' hw hw' := h.apart call call' w w' (hcalls _ _ hw) (hcalls _ _ hw')
  read call id w hw := by
    obtain ⟨hid, prior, hprior, hage⟩ := h.read call id w (hcalls _ _ hw)
    obtain ⟨now, hnow, hage'⟩ := hages id prior hprior
    exact ⟨hid, now, hnow, hage.trans hage'⟩

/-- A step that opens no call and leaves the table alone. -/
theorem quiet (h : x.Tracks m used) (htable : y.service.store.table = x.service.store.table)
    (hcalls : ∀ call o, y.calls call = some o → x.calls call = some o) : y.Tracks m used :=
  h.advance (htable ▸ h.represents) (.refl m) h.stored hcalls fun call w hw => (h.made call w (hcalls _ _ hw)).2

theorem more (h : x.Tracks m used) (new : List Uuid) : x.Tracks m (used ++ new) where
  represents := h.represents
  stored id v hv := List.mem_append_left _ (h.stored id v hv)
  made call v hv := ⟨List.mem_append_left _ (h.made call v hv).1, (h.made call v hv).2⟩
  apart := h.apart
  read := h.read

theorem get_eq (h : x.Tracks m used) (id : Uuid) (trashed : Bool) :
    x.service.get id trashed = (m.get id trashed).mapError .ofStore := by
  rw [Service.get, Store.get_eq h.represents]

theorem list_eq (h : x.Tracks m used) (trashed : Bool) :
    ∃ ws, x.service.list trashed = .ok ws
      ∧ ∀ w, w ∈ ws ↔ m w.id = some w ∧ (trashed = true ∨ w.deletedAt = none) := by
  obtain ⟨ws, hws, hmem⟩ := Store.list_eq h.represents trashed
  exact ⟨ws, by rw [Service.list, hws, Except.mapError], hmem⟩

theorem read_of_get {id : Uuid} {trashed : Bool} (h : x.Tracks m used) (hget : x.service.get id trashed = .ok w) :
    m id = some w := by
  rw [h.get_eq, Records.get] at hget
  cases hm : m id with
  | none => simp [hm, Except.mapError] at hget
  | some v =>
    simp only [hm] at hget
    split at hget
    · cases hget
    · cases hget
      rfl

theorem hold_create (h : x.Tracks m used) (call : Nat) (hw : w.id ∉ used) :
    (x.hold call (.create w)).Tracks m (used ++ [w.id]) where
  represents := h.represents
  stored id v hv := List.mem_append_left _ (h.stored id v hv)
  made other v hv := by
    rcases calls_hold hv with ⟨-, heq⟩ | ⟨-, hv⟩
    · cases heq
      refine ⟨List.mem_append_right _ List.mem_cons_self, ?_⟩
      exact Option.eq_none_iff_forall_ne_some.2 fun v hv => hw (h.stored _ v hv)
    · exact ⟨List.mem_append_left _ (h.made other v hv).1, (h.made other v hv).2⟩
  apart a b v v' hv hv' hid := by
    -- The new identifier is no wallet's that was made before, so only the two old calls can agree.
    rcases calls_hold hv with ⟨ha, heq⟩ | ⟨-, hprior⟩ <;> rcases calls_hold hv' with ⟨hb, heq'⟩ | ⟨-, hprior'⟩
    · rw [ha, hb]
    · cases heq
      exact absurd (hid ▸ (h.made b v' hprior').1) hw
    · cases heq'
      exact absurd (hid ▸ (h.made a v hprior).1) hw
    · exact h.apart a b v v' hprior hprior' hid
  read other id v hv := by
    rcases calls_hold hv with ⟨-, heq⟩ | ⟨-, hv⟩
    · cases heq
    · exact h.read other id v hv

theorem hold_delete {id : Uuid} (h : x.Tracks m used) (call : Nat) (hw : m id = some w) :
    (x.hold call (.delete id w)).Tracks m used where
  represents := h.represents
  stored := h.stored
  made other v hv := by
    rcases calls_hold hv with ⟨-, heq⟩ | ⟨-, hv⟩
    · cases heq
    · exact h.made other v hv
  apart a b v v' hv hv' := by
    rcases calls_hold hv with ⟨-, heq⟩ | ⟨-, hv⟩ <;> rcases calls_hold hv' with ⟨-, heq'⟩ | ⟨-, hv'⟩
    · cases heq
    · cases heq
    · cases heq'
    · exact h.apart a b v v' hv hv'
  read other id' v hv := by
    rcases calls_hold hv with ⟨-, heq⟩ | ⟨-, hv⟩
    · cases heq
      exact ⟨h.represents.id _ w hw, w, hw, .refl w⟩
    · exact h.read other id' v hv

/-! ### One step -/

theorem start (h : x.Tracks m used) (call : Nat) (r : Request) (hnew : ∀ id ∈ r.newIds, id ∉ used) :
    (x.start call r).2.Tracks m (used ++ r.newIds) ∧ Tells (x.start call r).1 m m := by
  cases r with
  | create c stamp =>
    rw [Traffic.start]
    rcases hmade : x.service.registry.generate c stamp x.source with ⟨e | w, source⟩
    · have hmore := h.more [stamp.id]
      exact ⟨hmore.quiet rfl fun _ _ ho => ho, .of_silent (by simp) (by simp) m⟩
    · have hid : w.id = stamp.id := Registry.id_generate (by rw [hmade])
      have hquiet : Tracks { x with source } m used := h.quiet rfl fun _ _ ho => ho
      have hhold := hquiet.hold_create call (hnew w.id (by simp [Request.newIds, hid]))
      rw [hid] at hhold
      exact ⟨hhold, .of_silent (by simp) (by simp) m⟩
  | delete id =>
    rw [Traffic.start]
    rcases hread : x.service.get id false with e | w
    · exact ⟨h.more [], .of_silent (by simp) (by simp) m⟩
    · exact ⟨(h.hold_delete call (h.read_of_get hread)).more [], .of_silent (by simp) (by simp) m⟩
  | get | list | signEvm | signTron =>
    rw [Traffic.start]
    exact ⟨h.more [], .of_silent (by simp) (by simp) m⟩

theorem keep (h : x.Tracks m used) (hcall : x.calls call = some (.create w)) :
    ∃ later, ({ x with service := (x.service.keep w).2 }.drop call).Tracks later used
      ∧ Tells (.created (x.service.keep w).1) m later := by
  rw [Service.keep_eq]
  by_cases hwritable : x.service.store.writable = true
  · rw [if_pos hwritable]
    obtain ⟨hused, hnone⟩ := h.made call w hcall
    have hages := Records.ages_put hnone w
    refine ⟨m.put w.id w, h.advance (Store.represents_write h.represents w) hages ?_ ?_ ?_, hages, ?_, by simp⟩
    · intro id v hv
      by_cases hid : id = w.id
      · rwa [hid]
      · rw [m.put_of_ne w hid] at hv
        exact h.stored id v hv
    · exact fun _ _ ho => (calls_drop ho).2
    · intro other v hv
      obtain ⟨hother, hv⟩ := calls_drop hv
      have hid : v.id ≠ w.id := fun heq => hother (h.apart other call v w hv hcall heq)
      rw [m.put_of_ne w hid]
      exact (h.made other v hv).2
    · rintro v ⟨⟩
      exact m.put_self w.id w
  · rw [if_neg hwritable]
    exact ⟨m, h.quiet rfl fun _ _ ho => (calls_drop ho).2, .of_silent (by simp) (by simp) m⟩

theorem trash {id : Uuid} (h : x.Tracks m used) (hcall : x.calls call = some (.delete id w)) (now : Timestamp) :
    ∃ later, ({ x with service := (x.service.trash w now).2 }.drop call).Tracks later used
      ∧ Tells (.deleted id (x.service.trash w now).1) m later := by
  rw [Service.trash_eq]
  by_cases hwritable : x.service.store.writable = true
  · obtain ⟨rfl, v, hv, -⟩ := h.read call id w hcall
    obtain ⟨hanswer, hrepresents, -⟩ := Store.softDelete_eq h.represents hwritable w now
    have hages := m.ages_softDelete w.id now
    refine ⟨(m.softDelete w.id now).2, h.advance hrepresents hages ?_ ?_ ?_, hages, by simp, ?_⟩
    · intro other u hu
      cases hm : m other with
      | none => cases hu.symm.trans (Records.softDelete_eq_none hm now)
      | some u' => exact h.stored other u' hm
    · exact fun _ _ ho => (calls_drop ho).2
    · intro other u hu
      exact Records.softDelete_eq_none (h.made other u (calls_drop hu).2).2 now
    · rintro id heq
      obtain rfl : w.id = id := (Reply.deleted.inj heq).1
      exact ⟨v, hv, Records.isDeleted_softDelete hv now⟩
  · have hfailed : x.service.store.softDelete w now = (.error .io, x.service.store) := by
      rw [Store.softDelete, if_neg hwritable]
    rw [hfailed]
    refine ⟨m, h.quiet rfl fun _ _ ho => (calls_drop ho).2, .of_silent (by simp) ?_ m⟩
    simp [Except.map, Except.mapError]

theorem finish (h : x.Tracks m used) (call : Nat) (now : Timestamp) :
    ∃ later, (x.finish call now).2.Tracks later used ∧ Tells (x.finish call now).1 m later := by
  rw [Traffic.finish]
  split
  · exact ⟨m, h, .of_silent (by simp) (by simp) m⟩
  · next w hcall => exact h.keep hcall
  · next id w hcall => exact h.trash hcall now

/-- Every move keeps the invariant with a map that has aged, and the reply is true of it. -/
theorem step (h : x.Tracks m used) (move : Move) (hnew : ∀ id ∈ move.newIds, id ∉ used) :
    ∃ later, (x.step move).2.Tracks later (used ++ move.newIds) ∧ Tells (x.step move).1 m later := by
  cases move with
  | start call r => exact ⟨m, h.start call r hnew⟩
  | finish call now =>
    rw [Move.newIds, List.append_nil]
    exact h.finish call now
  | setWritable writable =>
    have hquiet : (x.setWritable writable).Tracks m used := h.quiet rfl fun _ _ ho => ho
    rw [Traffic.step]
    exact ⟨m, hquiet.more [], .of_silent (by simp) (by simp) m⟩

/-! ### Runs -/

theorem run (h : x.Tracks m used) {moves : List Move} (hfresh : (used ++ moves.flatMap Move.newIds).Nodup) :
    ∃ later, (x.run moves).Tracks later (used ++ moves.flatMap Move.newIds) ∧ m.Ages later := by
  induction moves generalizing x m used with
  | nil => exact ⟨m, h.more [], .refl m⟩
  | cons move moves ih =>
    rw [List.flatMap_cons, ← List.append_assoc] at hfresh ⊢
    obtain ⟨m', hstep, htells⟩ := h.step move (not_mem_of_nodup (List.nodup_append.1 hfresh).1)
    obtain ⟨later, hrun, hages⟩ := ih hstep hfresh
    exact ⟨later, hrun, htells.ages.trans hages⟩

end Tracks

/-- Whatever happens after a deletion has read its wallet, it goes through when the store takes writes. -/
theorem deleted_of_writable {v : Service σ} {s : σ} {moves : List Move} (hempty : v.store.table = .empty)
    (hfresh : (moves.flatMap Move.newIds).Nodup) {call : Nat} {id : Uuid} {w : Wallet}
    (hcall : ((idle v s).run moves).calls call = some (.delete id w))
    (hwritable : ((idle v s).run moves).service.store.writable = true) (now : Timestamp) :
    (((idle v s).run moves).step (.finish call now)).1 = .deleted id (.ok ()) := by
  obtain ⟨m, htracks, -⟩ := (tracks_idle hempty s).run hfresh
  obtain ⟨rfl, later, hlater, -⟩ := htracks.read call id w hcall
  obtain ⟨hanswer, -, -⟩ := Store.softDelete_eq htracks.represents hwritable w now
  rw [step, finish, hcall]
  simp only [Service.trash_eq, hanswer, Records.softDelete_of_some hlater]
  rfl

/-- Asked for deleted wallets too, the service shows a wallet that this one has become. -/
structure Keeps (x : Traffic σ) (w : Wallet) : Prop where
  get : ∀ call, ∃ later, (x.start call (.get w.id true)).1 = .got (.ok later) ∧ w.Ages later
  list : ∀ call, ∃ ws, (x.start call (.list true)).1 = .listed (.ok ws) ∧ ∃ later ∈ ws, w.Ages later

/-- Nobody who does not ask for deleted wallets sees the wallet, and it cannot be deleted. -/
structure Hides (x : Traffic σ) (id : Uuid) : Prop where
  get : ∀ call, (x.start call (.get id false)).1 = .got (.error .notFound)
  delete : ∀ call, (x.start call (.delete id)).1 = .deleted id (.error .notFound)
  list : ∀ call, ∃ ws, (x.start call (.list false)).1 = .listed (.ok ws) ∧ ∀ w ∈ ws, w.id ≠ id

variable {x : Traffic σ} {m : Records} {used : List Uuid}

theorem keeps_of_ages (h : x.Tracks m used) {w later : Wallet} (hlater : m w.id = some later) (hages : w.Ages later) :
    x.Keeps w where
  get call := by
    refine ⟨later, ?_, hages⟩
    rw [start, h.get_eq, Records.get, hlater]
    simp [Except.mapError]
  list call := by
    obtain ⟨ws, hws, hmem⟩ := h.list_eq true
    refine ⟨ws, by rw [start, hws], later, ?_, hages⟩
    rw [hmem, hages.id]
    exact ⟨hlater, .inl rfl⟩

theorem hides_of_deleted (h : x.Tracks m used) {id : Uuid} {w : Wallet} (hw : m id = some w)
    (hdeleted : w.deletedAt.isSome) : x.Hides id := by
  have hget : x.service.get id false = .error .notFound := by
    rw [h.get_eq, Records.get, hw]
    simp [hdeleted, Except.mapError, Error.ofStore]
  obtain ⟨ws, hws, hmem⟩ := h.list_eq false
  refine ⟨fun call => by rw [start, hget], fun call => by rw [start, hget], fun call => ⟨ws, by rw [start, hws], ?_⟩⟩
  rintro v hv rfl
  obtain ⟨hv, hfresh | hfresh⟩ := (hmem v).1 hv
  · cases hfresh
  · obtain rfl := Option.some.inj (hw.symm.trans hv)
    simp [hfresh] at hdeleted

/-- What stood in the store before a move from `x`, and what its reply said, is still so in `y`. -/
structure Remembers (y x : Traffic σ) (move : Move) : Prop where
  stored : ∀ e ∈ x.service.store.table.entries,
    ∃ w, Wallet.ofBytes? e.2 = some w ∧ e.1 = w.id.toString ∧ y.Keeps w
  created : ∀ w, (x.step move).1 = .created (.ok w) → y.Keeps w
  deleted : ∀ id, (x.step move).1 = .deleted id (.ok ()) →
    y.Hides id ∧ ∃ w, w.id = id ∧ (id.toString, w.toBytes) ∈ x.service.store.table.entries ∧ y.Keeps w

theorem remembers_run (h : x.Tracks m used) (move : Move) {moves : List Move}
    (hfresh : (used ++ (move :: moves).flatMap Move.newIds).Nodup) :
    ((x.step move).2.run moves).Remembers x move := by
  rw [List.flatMap_cons, ← List.append_assoc] at hfresh
  obtain ⟨m', hstep, htells⟩ := h.step move (not_mem_of_nodup (List.nodup_append.1 hfresh).1)
  obtain ⟨later, hrun, hages⟩ := hstep.run hfresh
  refine ⟨?_, ?_, ?_⟩
  · intro e he
    obtain ⟨id, w, hw, heq⟩ := h.represents.entry e he
    obtain rfl := h.represents.id id w hw
    obtain ⟨w', hw', hage⟩ := htells.ages.trans hages w.id w hw
    exact ⟨w, by rw [heq, Wallet.ofBytes?_toBytes], by rw [heq], keeps_of_ages hrun hw' hage⟩
  · intro w hreply
    obtain ⟨w', hw', hage⟩ := hages w.id w (htells.created w hreply)
    exact keeps_of_ages hrun hw' hage
  · intro id hreply
    obtain ⟨w, hw, w', hw', hdeleted⟩ := htells.deleted id hreply
    obtain ⟨v, hv, hage⟩ := hages id w' hw'
    refine ⟨hides_of_deleted hrun hv (hage.isDeleted hdeleted), ?_⟩
    obtain rfl := h.represents.id id w hw
    obtain ⟨u, hu, hage⟩ := htells.ages.trans hages w.id w hw
    exact ⟨w, rfl, h.represents.mem_entries_iff.2 hw, keeps_of_ages hrun hu hage⟩

/-- A call that nobody disturbs is the service's own. However calls overlap, as long as no identifier is drawn twice:
the records that stand in the store at some time stand there ever after, the same but for a time of deletion that is
set once, and so does each wallet that a creation has answered with; once a deletion has gone through the wallet is
gone for all who do not ask for deleted ones, and stays for those who do. -/
theorem run_remembers (σ : Type) :
    (∀ (x : Traffic σ) (call : Nat) (c : Chain) (stamp : Stamp) (now : Timestamp),
      (x.alone call (.create c stamp) now).1 = .created (x.service.create c stamp x.source).1
      ∧ (x.alone call (.create c stamp) now).2.service = (x.service.create c stamp x.source).2.1
      ∧ (x.alone call (.create c stamp) now).2.source = (x.service.create c stamp x.source).2.2)
    ∧ (∀ (x : Traffic σ) (call : Nat) (id : Uuid) (now : Timestamp),
      (x.alone call (.delete id) now).1 = .deleted id (x.service.delete id now).1
      ∧ (x.alone call (.delete id) now).2.service = (x.service.delete id now).2)
    ∧ ∀ (v : Service σ) (s : σ) (front : List Move) (move : Move) (back : List Move),
      v.store.table = .empty → ((front ++ move :: back).flatMap Move.newIds).Nodup →
      ((idle v s).run (front ++ move :: back)).Remembers ((idle v s).run front) move := by
  refine ⟨alone_create, alone_delete, ?_⟩
  intro v s front move back hempty hfresh
  rw [List.flatMap_append] at hfresh
  have hfirst : ([] ++ front.flatMap Move.newIds).Nodup := (List.nodup_append.1 hfresh).1
  obtain ⟨m, hfront, -⟩ := (tracks_idle hempty s).run hfirst
  rw [run_append_cons]
  exact remembers_run hfront move hfresh

/-! ### Two creations and two deletions -/

namespace Sample

/-- The key whose bytes are all 2. -/
def key : PrivateKey := ⟨0x0202020202020202020202020202020202020202020202020202020202020202, by decide, by decide⟩

def wallet : Wallet := Provider.keyWallet ⟨.nil, .epoch⟩ .ethereum Evm.Account.toText key

/-- A service for one chain, without wallets. -/
def service : Service Entropy := ⟨.empty, Registry.empty.register (.forChain .ethereum Entropy.source)⟩

def unused : Traffic Entropy := idle service (.constant 2)

/-- Two creations overlap. -/
def creations : List Move :=
  [.start 0 (.create .ethereum ⟨.nil, .epoch⟩), .start 1 (.create .ethereum ⟨⟨1, by decide⟩, .epoch⟩)]

/-- Two deletions read one wallet. -/
def readings : List Move := [.start 2 (.delete .nil), .start 3 (.delete .nil)]

/-- The wallet that was made first is stored. -/
def stored : Traffic Entropy := ((unused.run creations).step (.finish 0 .epoch)).2

theorem run_pair {σ : Type} (x : Traffic σ) (call call' : Nat) (r r' : Request) :
    x.run [.start call r, .start call' r'] = ((x.start call r).2.start call' r').2 := rfl

theorem generate_eq (stamp : Stamp) : service.registry.generate .ethereum stamp (.constant 2) =
    (.ok (Provider.keyWallet stamp .ethereum Evm.Account.toText key), .constant 2) := by
  have hkey : (PrivateKey.draw Entropy.source (.constant 2)).1 = .ok key := by decide
  have hsource : (PrivateKey.draw Entropy.source (.constant 2)).2 = .constant 2 := by rfl
  show ((PrivateKey.draw Entropy.source (.constant 2)).1.map _, (PrivateKey.draw Entropy.source (.constant 2)).2) = _
  rw [hkey, hsource]
  rfl

theorem start_create {x : Traffic Entropy} (hregistry : x.service.registry = service.registry)
    (hsource : x.source = .constant 2) (call : Nat) (stamp : Stamp) :
    (x.start call (.create .ethereum stamp)).2 =
      x.hold call (.create (Provider.keyWallet stamp .ethereum Evm.Account.toText key)) := by
  rw [start, hregistry, hsource, generate_eq, ← hsource]

theorem run_creations : unused.run creations = (unused.hold 0 (.create wallet)).hold 1
    (.create (Provider.keyWallet ⟨⟨1, by decide⟩, .epoch⟩ .ethereum Evm.Account.toText key)) := by
  rw [creations, run_pair, start_create (x := unused) rfl rfl, start_create (x := unused.hold 0 _) rfl rfl, wallet]

theorem step_created : (unused.run creations).step (.finish 0 .epoch) = (.created (.ok wallet),
    { unused.run creations with service := { service with store := service.store.write .nil wallet } }.drop 0) := by
  have hcall : (unused.run creations).calls 0 = some (.create wallet) := by
    rw [run_creations]
    rfl
  have hservice : (unused.run creations).service = service := by
    rw [run_creations]
    rfl
  rw [step, finish, hcall]
  simp only [Service.keep_eq, hservice]
  rfl

theorem get_stored : stored.service.get .nil false = .ok wallet := by
  have hrepresents := Store.represents_write (s := service.store) .empty wallet
  rw [stored, step_created]
  show ((service.store.write wallet.id wallet).get .nil false).mapError Error.ofStore = _
  rw [Store.get_eq hrepresents]
  rfl

theorem writable_stored : stored.service.store.writable = true := by
  rw [stored, step_created]
  rfl

theorem run_readings : unused.run (creations ++ .finish 0 .epoch :: readings) =
    (stored.hold 2 (.delete .nil wallet)).hold 3 (.delete .nil wallet) := by
  have hread (x : Traffic Entropy) (hget : x.service.get .nil false = .ok wallet) (call : Nat) :
      (x.start call (.delete .nil)).2 = x.hold call (.delete .nil wallet) := by
    rw [start, hget]
  rw [run_append_cons, ← stored, readings, run_pair, hread stored get_stored,
    hread (stored.hold 2 _) (by rw [service_hold, get_stored])]

/-- The first deletion goes through, then the second creation, and then the other deletion. -/
def endings : List Move := [.finish 2 .epoch, .finish 1 .epoch, .finish 3 .epoch]

end Sample

/-- The wallet is stored in the midst of another creation and deleted in the midst of another deletion. After all of
them it is shown to those who ask for deleted wallets, and to nobody else. -/
theorem run_remembers_overlap :
    ((Sample.unused.run Sample.creations).step (.finish 0 .epoch)).1 = .created (.ok Sample.wallet)
    ∧ ((Sample.unused.run (Sample.creations ++ .finish 0 .epoch :: Sample.readings)).step (.finish 2 .epoch)).1 =
      .deleted .nil (.ok ())
    ∧ (Sample.unused.run (Sample.creations ++ .finish 0 .epoch :: (Sample.readings ++ Sample.endings))).Keeps
      Sample.wallet
    ∧ (Sample.unused.run (Sample.creations ++ .finish 0 .epoch :: (Sample.readings ++ Sample.endings))).Hides .nil := by
  obtain ⟨-, -, hremembers⟩ := run_remembers Entropy
  have hcreated : ((Sample.unused.run Sample.creations).step (.finish 0 .epoch)).1 = .created (.ok Sample.wallet) := by
    rw [Sample.step_created]
  have hkeeps := hremembers Sample.service (.constant 2) Sample.creations (.finish 0 .epoch)
    (Sample.readings ++ Sample.endings) rfl (by decide)
  have hhides := hremembers Sample.service (.constant 2) (Sample.creations ++ .finish 0 .epoch :: Sample.readings)
    (.finish 2 .epoch) [.finish 1 .epoch, .finish 3 .epoch] rfl (by decide)
  have hdeleted : ((Sample.unused.run (Sample.creations ++ .finish 0 .epoch :: Sample.readings)).step
      (.finish 2 .epoch)).1 = .deleted .nil (.ok ()) := by
    refine deleted_of_writable (v := Sample.service) (s := .constant 2) (w := Sample.wallet) rfl (by decide) ?_ ?_ .epoch
    · rw [← Sample.unused, Sample.run_readings]
      rfl
    · rw [← Sample.unused, Sample.run_readings, service_hold, service_hold, Sample.writable_stored]
  refine ⟨hcreated, hdeleted, hkeeps.created _ hcreated, ?_⟩
  rw [← List.cons_append, ← List.append_assoc, Sample.endings]
  exact (hhides.deleted _ hdeleted).1

end Traffic
end Keyring
