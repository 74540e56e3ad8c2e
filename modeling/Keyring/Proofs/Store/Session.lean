import Keyring.Proofs.Store.Disk
import Keyring.Proofs.Store.Records

/-! Sessions with a store: calls one after the other, among them the closing of the store and its opening by the
same path. Answer by answer a session goes like one with a map from identifiers to wallets, in which closing and
opening do nothing. -/
namespace Keyring

inductive Call where
  | reopen
  | set (w : Wallet)
  | softDelete (w : Wallet) (now : Timestamp)
  | get (id : Uuid) (trashed : Bool)

/-- A wallet, where the call has one for an answer. -/
abbrev Answer := Except StoreError (Option Wallet)

/-- Makes calls in turn and collects what they answer. -/
def runCalls {σ : Type} (step : σ → Call → Answer × σ) : σ → List Call → List Answer × σ
  | s, [] => ([], s)
  | s, c :: cs => ((step s c).1 :: (runCalls step (step s c).2 cs).1, (runCalls step (step s c).2 cs).2)

/-- A call to the map. -/
def Records.step (m : Records) : Call → Answer × Records
  | .reopen => (.ok none, m)
  | .set w => (.ok none, m.put w.id w)
  | .softDelete w now => ((m.softDelete w.id now).1.map some, (m.softDelete w.id now).2)
  | .get id trashed => ((m.get id trashed).map some, m)

/-- A store in use, the file that it is kept in and the disk with that file. -/
structure Session where
  disk : Disk
  place : Path
  store : Store

namespace Session

/-- A call to the store that a path leads to. -/
def step (path : String) (s : Session) : Call → Answer × Session
  | .reopen =>
    match (s.disk.close s.place s.store).openStore path with
    | (.ok (place, store), disk) => (.ok none, ⟨disk, place, store⟩)
    | (.error e, disk) => (.error e, { s with disk })
  | .set w => ((s.store.set w).1.map fun _ => none, { s with store := (s.store.set w).2 })
  | .softDelete w now =>
    ((s.store.softDelete w now).1.map some, { s with store := (s.store.softDelete w now).2 })
  | .get id trashed => ((s.store.get id trashed).map some, s)

/-- The session is one with a map: its file can be found again, and its store holds what the map does. -/
structure Follows (s : Session) (path : String) (m : Records) : Prop where
  leads : s.disk.Leads path s.place
  writable : s.store.writable = true
  represents : s.store.table.Represents m

variable {s : Session} {path : String} {m : Records}

/-- Each call answers as the map does, and what is left still follows the map. -/
theorem step_follows (h : s.Follows path m) (c : Call) :
    (s.step path c).1 = (m.step c).1 ∧ (s.step path c).2.Follows path (m.step c).2 := by
  cases c with
  | reopen =>
    obtain ⟨disk, hopen, hleads⟩ := Disk.openStore_close h.leads s.store
    simp only [step, hopen]
    exact ⟨rfl, hleads, rfl, h.represents⟩
  | set w =>
    simp only [step, Store.set, if_pos h.writable]
    exact ⟨rfl, h.leads, h.writable, Store.represents_write h.represents w⟩
  | softDelete w now =>
    obtain ⟨hanswer, hrepresents, hwritable⟩ := Store.softDelete_eq h.represents h.writable w now
    exact ⟨by rw [step, Records.step, hanswer], h.leads, hwritable, hrepresents⟩
  | get id trashed => exact ⟨by rw [step, Records.step, Store.get_eq h.represents], h⟩

theorem run_follows (h : s.Follows path m) (calls : List Call) :
    (runCalls (step path) s calls).1 = (runCalls Records.step m calls).1
    ∧ (runCalls (step path) s calls).2.Follows path (runCalls Records.step m calls).2 := by
  induction calls generalizing s m with
  | nil => exact ⟨rfl, h⟩
  | cons c calls ih =>
    obtain ⟨hanswer, hnext⟩ := step_follows h c
    obtain ⟨hanswers, hlast⟩ := ih hnext
    exact ⟨by simp only [runCalls, hanswer, hanswers], hlast⟩

theorem follows_fresh {d e : Disk} {place : Path} (hopen : d.openStore path = (.ok (place, .empty), e)) :
    Follows ⟨e, place, .empty⟩ path .empty :=
  have ⟨hleads, hwritable⟩ := Disk.leads_of_openStore hopen
  ⟨hleads, hwritable, .empty⟩

/-- From a fresh store on, a session of any length answers like the empty map does. It leaves a table that holds
what the map does, in which every key is the text of the identifier in its own value and no two values have one
identifier. -/
theorem run_fresh {d e : Disk} {place : Path} (hopen : d.openStore path = (.ok (place, .empty), e))
    (calls : List Call) :
    (runCalls (step path) ⟨e, place, .empty⟩ calls).1 = (runCalls Records.step .empty calls).1
    ∧ (∀ id w, (id.toString, w.toBytes) ∈ (runCalls (step path) ⟨e, place, .empty⟩ calls).2.store.table.entries ↔
        (runCalls Records.step .empty calls).2 id = some w)
    ∧ (∀ entry ∈ (runCalls (step path) ⟨e, place, .empty⟩ calls).2.store.table.entries,
        ∃ w, Wallet.ofBytes? entry.2 = some w ∧ entry.1 = w.id.toString)
    ∧ ∀ a ∈ (runCalls (step path) ⟨e, place, .empty⟩ calls).2.store.table.entries,
      ∀ b ∈ (runCalls (step path) ⟨e, place, .empty⟩ calls).2.store.table.entries,
      ∀ v w, Wallet.ofBytes? a.2 = some v → Wallet.ofBytes? b.2 = some w → v.id = w.id → a = b := by
  obtain ⟨hanswers, hfollows⟩ := run_follows (follows_fresh hopen) calls
  refine ⟨hanswers, fun id w => hfollows.represents.mem_entries_iff, ?_, ?_⟩
  · intro entry hentry
    exact hfollows.represents.canonical hentry
  · intro a ha b hb v w hv hw hid
    exact hfollows.represents.unique ha hb hv hw hid

/-- A wallet without keys is stored, deleted and, in a store that was opened again, no longer found. -/
theorem run_fresh_trashed :
    (runCalls (step "data/wallets.redb")
      ⟨⟨[["data"]], [(["data", "wallets.redb"], .table .empty)], [["data", "wallets.redb"]]⟩,
        ["data", "wallets.redb"], .empty⟩
      [.set ⟨.nil, "", "", "", .epoch, none, .tron⟩,
        .softDelete ⟨.nil, "stale", "", "", .epoch, none, .tron⟩ .epoch, .reopen, .get .nil false]).1 =
    [.ok none, .ok (some ⟨.nil, "", "", "", .epoch, some .epoch, .tron⟩), .ok none, .error (.notFound .nil)] :=
  (@run_fresh "data/wallets.redb" .empty _ _ rfl _).1

end Session
end Keyring
