import Keyring.Proofs.Registry
import Keyring.Proofs.Service.Secrecy
import Keyring.Proofs.Tron.Cancellation

/-! Which provider a service signs with. A registry finds a provider of the right kind for a chain or none at all, so
the only fault of a provider that a caller hears of is that there is none. Where there is one, a wallet of another chain
is turned away before anything else is looked at. -/
namespace Keyring

variable {w : Wallet}

/-! ### Faults that a transaction does not have -/

namespace Evm

theorem Order.check_ne_provider {o : Order} {fault : ProviderFault} : o.check ≠ .error (.provider fault) := by
  intro h
  obtain ⟨c, hc, hfault⟩ := (o.governs_check.refused _ h).exists_fault
  simp only [conditions, feeInRange, contractPatterned, List.mem_cons, List.not_mem_nil, or_false] at hc
  rcases hc with rfl | rfl | rfl | rfl | rfl | rfl | rfl | rfl <;> cases hfault

theorem transact_ne_provider {c : Chain} {order : Order} {fault : ProviderFault} :
    transact c w order ≠ .error (.provider fault) := by
  intro h
  rw [transact] at h
  rcases guard_eq_error_iff.1 h with ⟨-, h⟩ | ⟨-, h⟩
  · cases h
  · rcases bind_eq_error_iff.1 h with h | ⟨t, -, h⟩
    · exact Order.check_ne_provider h
    · rcases bind_eq_error_iff.1 h with h | ⟨key, -, h⟩
      · obtain ⟨_, he⟩ := PrivateKey.parse_eq_error h
        cases he
      · rcases bind_eq_error_iff.1 h with h | ⟨bs, -, h⟩
        · cases PrivateKey.sign_eq_error (map_eq_error_iff.1 h)
        · cases h

end Evm

namespace Tron

variable {node : Node} {order : Order}

theorem Order.check_ne_provider {o : Order} {fault : ProviderFault} : o.check ≠ .error (.provider fault) := by
  intro h
  obtain ⟨c, hc, hfault⟩ := (o.governs_check.refused _ h).exists_fault
  rw [conditions, List.mem_cons] at hc
  rcases hc with rfl | hc
  · cases hfault
  · cases hkind : o.kind with
    | coin =>
      simp only [hkind, coinConditions, List.mem_singleton] at hc
      rw [hc] at hfault
      cases hfault
    | token =>
      simp only [hkind, tokenConditions, List.mem_cons, List.not_mem_nil, or_false] at hc
      rcases hc with rfl | rfl | rfl | rfl <;> cases hfault

theorem prepare_ne_provider {fault : ProviderFault} : prepare w order ≠ .error (.provider fault) := by
  intro h
  rw [prepare] at h
  rcases guard_eq_error_iff.1 h with ⟨-, h⟩ | ⟨-, h⟩
  · cases h
  · rcases bind_eq_error_iff.1 h with h | ⟨t, -, h⟩
    · exact Order.check_ne_provider h
    · rcases bind_eq_error_iff.1 h with h | ⟨key, -, h⟩
      · obtain ⟨_, he⟩ := PrivateKey.parse_eq_error h
        cases he
      · cases h

theorem transact_ne_provider {schedule : List Poll} {fault : ProviderFault} :
    (transact node schedule w order).result ≠ some (.error (.provider fault)) := by
  cases hprepare : prepare w order with
  | error e =>
    rw [transact_of_prepare_error hprepare]
    rintro h
    cases h
    exact prepare_ne_provider hprepare
  | ok prepared =>
    obtain ⟨query, key⟩ := prepared
    rw [result_eq_of_prepare_ok hprepare]
    cases settle schedule with
    | pending | cancelled => simp
    | answered =>
      intro h
      rcases signed_eq_error (Option.some.inj h) with he | ⟨_, he⟩ | ⟨_, he⟩ | ⟨_, he⟩ <;> cases he

end Tron

/-! ### The way to a provider -/

namespace Service

variable {σ : Type} {v : Service σ} {c : Chain} {node : Tron.Node} {schedule : List Tron.Poll}

theorem evmTransaction_of_missing (h : v.registry.lookup c = none) (order : Evm.Order) :
    v.evmTransaction c w order = .error (.provider (.missing c)) := by
  rw [evmTransaction, signer, h]

/-- What is found for a chain of the Ethereum family is a provider that carries the chain. -/
theorem evmTransaction_of_found (hc : c.isEvm = true) {p : Provider σ} (h : v.registry.lookup c = some p)
    (order : Evm.Order) : v.evmTransaction c w order = Evm.transact c w order := by
  have hchain : p.chain = c := v.registry.chain_of_lookup c p h
  rw [evmTransaction, signer, h]
  cases p with
  | bitcoin source | tron source =>
    rw [← hchain] at hc
    cases hc
  | evm chain isEvm source =>
    obtain rfl : chain = c := hchain
    dsimp only
    rw [if_pos rfl]

theorem tronTransaction_of_missing (h : v.registry.lookup .tron = none) (order : Tron.Order) :
    v.tronTransaction node schedule w order = ⟨[], some (.error (.provider (.missing .tron)))⟩ := by
  rw [tronTransaction, signer, h]

theorem tronTransaction_of_found {p : Provider σ} (h : v.registry.lookup .tron = some p) (order : Tron.Order) :
    v.tronTransaction node schedule w order = Tron.transact node schedule w order := by
  have hchain : p.chain = .tron := v.registry.chain_of_lookup .tron p h
  rw [tronTransaction, signer, h]
  cases p with
  | bitcoin source => cases hchain
  | evm chain isEvm source =>
    rw [show chain = .tron from hchain] at isEvm
    cases isEvm
  | tron source => rfl

/-- A service over a registry that providers were put into. -/
def serving (store : Store) (ks : List (Construction σ)) : Service σ := ⟨store, .ofConstructions ks⟩

variable {store : Store} {ks : List (Construction σ)}

open Construction

theorem evmTransaction_eq_provider_iff (hc : c.isEvm = true) (order : Evm.Order) (fault : ProviderFault) :
    (serving store ks).evmTransaction c w order = .error (.provider fault) ↔ ¬ Served ks c ∧ fault = .missing c := by
  by_cases hserved : Served ks c
  · obtain ⟨p, hp⟩ := Registry.exists_lookup_iff.2 hserved
    rw [evmTransaction_of_found hc hp]
    simp [hserved, Evm.transact_ne_provider]
  · rw [evmTransaction_of_missing (Registry.lookup_eq_none_iff.2 hserved)]
    simp [hserved, eq_comm]

theorem evmTransaction_of_foreign (hc : c.isEvm = true) (hserved : Served ks c) (hchain : w.chain ≠ c)
    (order : Evm.Order) :
    (serving store ks).evmTransaction c w order = .error (.unknownChain (.foreignWallet w.id w.chain c)) := by
  obtain ⟨p, hp⟩ := Registry.exists_lookup_iff.2 hserved
  rw [evmTransaction_of_found hc hp, Evm.transact_of_foreign hchain]

theorem tronTransaction_eq_provider_iff (order : Tron.Order) (fault : ProviderFault) :
    ((serving store ks).tronTransaction node schedule w order).result = some (.error (.provider fault)) ↔
      ¬ Served ks .tron ∧ fault = .missing .tron := by
  by_cases hserved : Served ks .tron
  · obtain ⟨p, hp⟩ := Registry.exists_lookup_iff.2 hserved
    rw [tronTransaction_of_found hp]
    simp [hserved, Tron.transact_ne_provider]
  · rw [tronTransaction_of_missing (Registry.lookup_eq_none_iff.2 hserved)]
    simp [hserved, eq_comm]

theorem tronTransaction_of_foreign (hserved : Served ks .tron) (hchain : w.chain ≠ .tron) (order : Tron.Order) :
    (serving store ks).tronTransaction node schedule w order =
      ⟨[], some (.error (.unknownChain (.foreignWallet w.id w.chain .tron)))⟩ := by
  obtain ⟨p, hp⟩ := Registry.exists_lookup_iff.2 hserved
  rw [tronTransaction_of_found hp, Tron.transact_of_prepare_error (Tron.prepare_of_foreign hchain order)]

/-- Whatever providers were put into a registry, and in whatever order, each chain has the last one that was made for
it, of its own kind, and the chains that have one are listed once and in their fixed order. A service over the registry
reports a fault of a provider just when a chain has none, and then says so; where there is one, a wallet of another
chain is refused whatever the order is, and before anything is asked or signed. -/
theorem transaction_dispatched (ks : List (Construction σ)) (store : Store) :
    (∀ c p, (Registry.ofConstructions ks).provider c = .ok p ↔
      ((made ks).filter fun p => p.chain = c).getLast? = some p)
    ∧ (∀ c, ¬ Served ks c → (Registry.ofConstructions ks).provider c = .error (.unknownChain (.unserved c)))
    ∧ (∀ c p, (Registry.ofConstructions ks).provider c = .ok p → ∃ source, p = .forChain c source)
    ∧ (∀ k c, (∀ p, k.make = .ok p → p.chain ≠ c) →
      (Registry.ofConstructions (ks ++ [k])).provider c = (Registry.ofConstructions ks).provider c)
    ∧ ((Registry.ofConstructions ks).chains.Sublist Chain.all ∧ (Registry.ofConstructions ks).chains.Nodup
      ∧ ∀ c, c ∈ (Registry.ofConstructions ks).chains ↔ Served ks c)
    ∧ (∀ (c : Chain) (w : Wallet) (order : Evm.Order), c.isEvm = true →
      (∀ fault, (serving store ks).evmTransaction c w order = .error (.provider fault) ↔
        ¬ Served ks c ∧ fault = .missing c)
      ∧ (Served ks c → w.chain ≠ c →
        (serving store ks).evmTransaction c w order = .error (.unknownChain (.foreignWallet w.id w.chain c))))
    ∧ ∀ (node : Tron.Node) (p : Tron.Poll) (rest : List Tron.Poll) (w : Wallet) (order : Tron.Order),
      (∀ fault, ((serving store ks).tronTransaction node (p :: rest) w order).result = some (.error (.provider fault)) ↔
        ¬ Served ks .tron ∧ fault = .missing .tron)
      ∧ (¬ Served ks .tron → ((serving store ks).tronTransaction node (p :: rest) w order).queries = [])
      ∧ (Served ks .tron → w.chain ≠ .tron →
        (serving store ks).tronTransaction node (p :: rest) w order =
          ⟨[], some (.error (.unknownChain (.foreignWallet w.id w.chain .tron)))⟩
        ∧ (Tron.Phase.run node w order .unbegun (p :: rest)).1 = []) := by
  refine ⟨fun c p => Registry.provider_eq_ok_iff, fun c => Registry.provider_of_unserved,
    fun c p => Registry.forChain_of_provider, fun k c => Registry.provider_append ks,
    ⟨Registry.chains_sublist _, Registry.nodup_chains _, fun c => Registry.mem_chains_iff⟩, ?_, ?_⟩
  · intro c w order hc
    exact ⟨evmTransaction_eq_provider_iff hc order, fun hserved hchain =>
      evmTransaction_of_foreign hc hserved hchain order⟩
  · intro node p rest w order
    refine ⟨tronTransaction_eq_provider_iff order, ?_, ?_⟩
    · intro hserved
      have hnone : (serving store ks).registry.lookup .tron = none := Registry.lookup_eq_none_iff.2 hserved
      rw [tronTransaction_of_missing hnone]
    · intro hserved hchain
      refine ⟨tronTransaction_of_foreign hserved hchain order, ?_⟩
      rw [Tron.Phase.run_of_prepare_error (Tron.prepare_of_foreign hchain order)]

/-- A provider for TRON does not come of a call that asks for an Ethereum one. -/
example (source : Source σ) (w : Wallet) (order : Evm.Order) :
    (serving store [.evm .tron source, .bitcoin source]).evmTransaction .ethereum w order =
      .error (.provider (.missing .ethereum)) := rfl

end Service
end Keyring
