import Keyring.Proofs.Provider.Barren
import Keyring.Proofs.Service.Absence
import Keyring.Proofs.Signing
import Keyring.Proofs.Store.Table

/-! What the creation of a wallet comes to. A chain without a provider is refused before anything is drawn, a barren
source is reported, and so is a file that gives out; each leaves the service as it was. Otherwise the new wallet is the
one entry that is added. The private key of a wallet that could not be stored does not turn up later on, unless
somebody brings it. -/
namespace Keyring

variable {σ : Type}

namespace Store

/-- What is reported by the first stage of a write at which the file gives out. -/
def Faults.first (fs : Faults) : Option StoreError := (fs .opening).or ((fs .insertion).or (fs .commit))

/-- To store a wallet either fails with what the file reports first or adds the record. -/
theorem transaction_setting (s : Store) (fs : Faults) (w : Wallet) :
    s.transaction fs (setting fs w) = match fs.first with
      | none => (.ok (), s.write w.id w)
      | some e => (.error e, s) := by
  rw [transaction, working, setting, Faults.first, Faults.check, Faults.check, Faults.check]
  cases fs .opening with
  | some e => rfl
  | none =>
    cases fs .insertion with
    | some e => rfl
    | none => cases fs .commit <;> rfl

end Store

namespace Service

variable {v v' : Service σ} {fs : Store.Faults} {c : Chain} {stamp : Stamp} {s : σ} {w : Wallet} {p : Provider σ}

theorem generate_of_lookup (h : v.registry.lookup c = some p) :
    v.registry.generate c stamp s = p.generate stamp s := by
  rw [Registry.generate, Registry.provider, h]

theorem generate_of_unserved (h : v.registry.lookup c = none) :
    v.registry.generate c stamp s = (.error (.unknownChain (.unserved c)), s) := by
  rw [Registry.generate, Registry.provider, h]

theorem createOn_of_unserved (h : v.registry.lookup c = none) :
    v.createOn fs c stamp s = (.error (.unknownChain (.unserved c)), v) := by
  rw [createOn, generate_of_unserved h]

theorem createOn_of_barren (h : v.registry.lookup c = some p) {fault : GenerationFault} (hbarren : p.Barren s fault) :
    v.createOn fs c stamp s = (.error (.keyGeneration fault), v) := by
  rw [createOn, generate_of_lookup h, Provider.generate_eq_error_iff.2 ⟨fault, rfl, hbarren⟩]

theorem createOn_of_made (h : v.registry.lookup c = some p) (hmade : (p.generate stamp s).1 = .ok w) :
    v.createOn fs c stamp s = match fs.first with
      | none => (.ok w, { v with store := v.store.write w.id w })
      | some e => (.error (.ofStore e), v) := by
  rw [createOn, generate_of_lookup h, hmade]
  dsimp only
  rw [through, Store.transaction_setting]
  cases fs.first <;> rfl

theorem createOn_cases (v : Service σ) (fs : Store.Faults) (c : Chain) (stamp : Stamp) (s : σ) :
    (v.registry.lookup c = none ∧ v.createOn fs c stamp s = (.error (.unknownChain (.unserved c)), v))
    ∨ (∃ p fault, v.registry.lookup c = some p ∧ p.Barren s fault
      ∧ v.createOn fs c stamp s = (.error (.keyGeneration fault), v))
    ∨ ∃ p w, v.registry.lookup c = some p ∧ (p.generate stamp s).1 = .ok w ∧
      ((∃ e, fs.first = some e ∧ v.createOn fs c stamp s = (.error (.ofStore e), v))
      ∨ (fs.first = none ∧ v.createOn fs c stamp s = (.ok w, { v with store := v.store.write w.id w }))) := by
  cases hlookup : v.registry.lookup c with
  | none => exact .inl ⟨rfl, createOn_of_unserved hlookup⟩
  | some p =>
    cases hgenerate : (p.generate stamp s).1 with
    | error e =>
      obtain ⟨fault, -, hbarren⟩ := Provider.generate_eq_error_iff.1 hgenerate
      exact .inr (.inl ⟨p, fault, rfl, hbarren, createOn_of_barren hlookup hbarren⟩)
    | ok w =>
      refine .inr (.inr ⟨p, w, rfl, hgenerate, ?_⟩)
      rw [createOn_of_made hlookup hgenerate]
      cases fs.first with
      | none => exact .inr ⟨rfl, rfl⟩
      | some e => exact .inl ⟨e, rfl, rfl⟩

/-- The second service is the first with one more entry, in which the wallet is found as it is. -/
structure Stored (v v' : Service σ) (w : Wallet) : Prop where
  registry : v'.registry = v.registry
  writable : v'.store.writable = v.store.writable
  entries : ∀ e, e ∈ v'.store.table.entries ↔
    e = (w.id.toString, w.toBytes) ∨ (e ∈ v.store.table.entries ∧ e.1 ≠ w.id.toString)
  found : ∀ trashed, v'.get w.id trashed = .ok w
  others : ∀ id trashed, id ≠ w.id → v'.get id trashed = v.get id trashed

theorem stored_write (hactive : w.deletedAt = none) : Stored v { v with store := v.store.write w.id w } w where
  registry := rfl
  writable := rfl
  entries _ := Table.mem_insert_iff
  found trashed := by
    rw [Service.get, Store.get, Store.record_write_self]
    simp [Wallet.isDeleted, hactive, Except.mapError]
  others id trashed hid := by
    have hkey : Store.key id ≠ Store.key w.id := fun heq => hid (Uuid.toString_injective heq)
    simp only [Service.get, Store.get, Store.record, Store.get?_write_of_ne hkey]

/-- Under a fresh identifier nothing is overwritten. -/
theorem Stored.mem_of_fresh (h : Stored v v' w) (hfresh : v.store.table.get? w.id.toString = none)
    {e : String × ByteArray} (he : e ∈ v.store.table.entries) : e ∈ v'.store.table.entries := by
  refine (h.entries e).2 (.inr ⟨he, fun hkey => ?_⟩)
  rw [Table.mem_entries_iff, hkey, hfresh] at he
  cases he

theorem ofStore_ne (e : StoreError) : (∀ fault, Error.ofStore e ≠ .unknownChain fault)
    ∧ ∀ fault, Error.ofStore e ≠ .keyGeneration fault := by
  cases e <;> exact ⟨fun _ => nofun, fun _ => nofun⟩

theorem stored_of_createOn (h : (v.createOn fs c stamp s).1 = .ok w) :
    w.chain = c ∧ w.deletedAt = none ∧ w.id = stamp.id ∧ Stored v (v.createOn fs c stamp s).2 w := by
  rcases v.createOn_cases fs c stamp s with
    ⟨-, hcreate⟩ | ⟨_, _, -, -, hcreate⟩ | ⟨p, made, hlookup, hmade, ⟨_, -, hcreate⟩ | ⟨-, hcreate⟩⟩
    <;> rw [hcreate] at h ⊢ <;> cases h
  obtain ⟨hid, -, hactive, hchain⟩ := Provider.stamped_generate hmade
  exact ⟨hchain.trans (v.registry.chain_of_lookup c p hlookup), hactive, hid, stored_write hactive⟩

theorem createOn_eq_unknownChain_iff {fault : ChainFault} :
    (v.createOn fs c stamp s).1 = .error (.unknownChain fault) ↔
      v.registry.lookup c = none ∧ fault = .unserved c := by
  constructor
  · intro h
    rcases v.createOn_cases fs c stamp s with
      ⟨hnone, hcreate⟩ | ⟨_, _, -, -, hcreate⟩ | ⟨_, _, -, -, ⟨e, -, hcreate⟩ | ⟨-, hcreate⟩⟩
      <;> rw [hcreate] at h
    · cases h
      exact ⟨hnone, rfl⟩
    · cases h
    · exact absurd (Except.error.inj h) ((ofStore_ne e).1 fault)
    · cases h
  · rintro ⟨hnone, rfl⟩
    rw [createOn_of_unserved hnone]

theorem createOn_eq_keyGeneration_iff {fault : GenerationFault} :
    (v.createOn fs c stamp s).1 = .error (.keyGeneration fault) ↔
      ∃ p, v.registry.lookup c = some p ∧ p.Barren s fault := by
  constructor
  · intro h
    rcases v.createOn_cases fs c stamp s with
      ⟨-, hcreate⟩ | ⟨p, _, hlookup, hbarren, hcreate⟩ | ⟨_, _, -, -, ⟨e, -, hcreate⟩ | ⟨-, hcreate⟩⟩
      <;> rw [hcreate] at h
    · cases h
    · cases h
      exact ⟨p, hlookup, hbarren⟩
    · exact absurd (Except.error.inj h) ((ofStore_ne e).2 fault)
    · cases h
  · rintro ⟨p, hlookup, hbarren⟩
    rw [createOn_of_barren hlookup hbarren]

/-- A creation ends in a new wallet of the chain, which is found under its identifier and is the one entry that is
added; or it ends in an error and everything stays as it was. The chain is refused just when no provider is registered
for it, and nothing is drawn then; a key is missed just when the source is barren; otherwise the file decides. A private
key that could not be stored is in no answer later on, unless somebody brings it. -/
theorem creation_accounted (σ : Type) :
    (∀ (v : Service σ) (c : Chain) (stamp : Stamp) (s : σ),
      ((v.create c stamp s).1, (v.create c stamp s).2.1) = v.createOn (.ofWritable v.store.writable) c stamp s
      ∧ (v.registry.lookup c = none → (v.create c stamp s).2.2 = s))
    ∧ ∀ (v : Service σ) (fs : Store.Faults) (c : Chain) (stamp : Stamp) (s : σ),
      (∀ w, (v.createOn fs c stamp s).1 = .ok w →
        w.chain = c ∧ w.deletedAt = none ∧ w.id = stamp.id ∧ Stored v (v.createOn fs c stamp s).2 w
        ∧ (v.store.table.get? stamp.id.toString = none →
          ∀ e ∈ v.store.table.entries, e ∈ (v.createOn fs c stamp s).2.store.table.entries))
      ∧ (∀ e, (v.createOn fs c stamp s).1 = .error e → (v.createOn fs c stamp s).2 = v)
      ∧ (∀ fault, (v.createOn fs c stamp s).1 = .error (.unknownChain fault) ↔
        v.registry.lookup c = none ∧ fault = .unserved c)
      ∧ (∀ fault, (v.createOn fs c stamp s).1 = .error (.keyGeneration fault) ↔
        ∃ p, v.registry.lookup c = some p ∧ p.Barren s fault)
      ∧ ∀ p w, v.registry.lookup c = some p → (p.generate stamp s).1 = .ok w →
        ((v.createOn fs c stamp s).1 = match fs.first with
          | none => .ok w
          | some e => .error (.ofStore e))
        ∧ (fs.first ≠ none → v.store.Lacks w.privateKey → ∀ steps : List (Store.Faults × Operation σ),
          (∀ step ∈ steps, ¬ step.2.Brings v.registry w.privateKey) →
          ∀ answer ∈ ((v.createOn fs c stamp s).2.attempts steps).1, ¬ Shows answer w.privateKey) := by
  refine ⟨fun v c stamp s => ⟨create_eq_createOn v c stamp s, fun hnone => ?_⟩, fun v fs c stamp s => ?_⟩
  · rw [create, generate_of_unserved hnone]
  refine ⟨?_, fun e => createOn_of_error, fun fault => createOn_eq_unknownChain_iff,
    fun fault => createOn_eq_keyGeneration_iff, ?_⟩
  · intro w hok
    obtain ⟨hchain, hactive, hid, hstored⟩ := stored_of_createOn hok
    exact ⟨hchain, hactive, hid, hstored, fun hfresh e he => hstored.mem_of_fresh (hid ▸ hfresh) he⟩
  · intro p w hlookup hmade
    rw [createOn_of_made hlookup hmade]
    cases hfirst : fs.first with
    | none => exact ⟨rfl, fun h => absurd rfl h⟩
    | some e => exact ⟨rfl, fun _ hlacks steps hsteps => not_shows_attempts hlacks hsteps⟩

/-! ### A creation that cannot be stored -/

namespace Sample

/-- A service for one chain, without wallets. -/
def service : Service Entropy := ⟨.empty, Registry.empty.register (.forChain .ethereum Entropy.source)⟩

/-- The file gives out at the end of a write. -/
def lastStage : Store.Faults
  | .opening | .insertion => none
  | .commit => some .io

theorem lacks_empty (privateKey : String) : Store.Lacks .empty privateKey := fun _ he => nomatch he

end Sample

theorem creation_accounted_sample :
    (Sample.service.createOn Sample.lastStage .ethereum ⟨.nil, .epoch⟩ (.constant 1)).1 = .error (.store .io)
    ∧ (∀ answer ∈ ((Sample.service.createOn Sample.lastStage .ethereum ⟨.nil, .epoch⟩ (.constant 1)).2.attempts
        [(Sample.lastStage, .list true), (Sample.lastStage, .get .nil true)]).1,
      ¬ Shows answer Keyring.Sample.wallet.privateKey)
    ∧ (Sample.service.createOn (.ofWritable true) .ethereum ⟨.nil, .epoch⟩ (.constant 1)).2.get .nil false
      = .ok Keyring.Sample.wallet
    ∧ (Sample.service.create .tron ⟨.nil, .epoch⟩ (.constant 1)).2.2 = .constant 1 := by
  obtain ⟨hcreate, haccounted⟩ := creation_accounted Entropy
  obtain ⟨-, -, -, -, hfailed⟩ := haccounted Sample.service Sample.lastStage .ethereum ⟨.nil, .epoch⟩ (.constant 1)
  obtain ⟨hstored, -, -, -, hmade⟩ :=
    haccounted Sample.service (.ofWritable true) .ethereum ⟨.nil, .epoch⟩ (.constant 1)
  obtain ⟨herror, hunseen⟩ := hfailed _ _ rfl Keyring.Sample.generate_eq
  refine ⟨herror, hunseen nofun (Sample.lacks_empty _) _ ?_, ?_, ?_⟩
  · intro step hstep
    simp only [List.mem_cons, List.not_mem_nil, or_false] at hstep
    rcases hstep with rfl | rfl <;> exact not_false
  · obtain ⟨hok, -⟩ := hmade _ _ rfl Keyring.Sample.generate_eq
    obtain ⟨-, -, -, hnew, -⟩ := hstored _ hok
    exact hnew.found false
  · exact (hcreate Sample.service .tron _ _).2 rfl

end Service
end Keyring
