import Keyring.Proofs.Wallet.Signer
import Keyring.Proofs.Tron.Order
import Keyring.Tron.Node

/-! When a node is asked, and what. Each condition on the wallet, the order, the key and the caller's wish to go on
is checked before the node hears of the order; the first one that fails decides the error. -/
namespace Keyring.Tron

variable {wallet : Wallet} {order : Order}

/-- Everything that is asked of a call before the node is, in the order of the checks. -/
def conditions (wallet : Wallet) (order : Order) (p : Poll) : List Condition :=
  wallet.ofChain .tron :: order.conditions ++ [wallet.keyReadable, ⟨p.cancelled = false, (· = .cancelled)⟩]

/-- The request that a transfer comes to: owner, receiving side and amount, with addresses in base-58 text. -/
def Requests (wallet : Wallet) (order : Order) (r : Request) : Prop :=
  match order.kind with
  | .coin => ∃ amount, Amount.Spells order.amount amount.toNat
      ∧ r = .transfer ⟨wallet.address, order.recipient, amount, true⟩
  | .token => ∃ (contract : String) (account : Evm.Account) (amount : Nat), order.contract = some contract
      ∧ Address.toHex order.recipient = .ok (Hex.encode (version :: account.bytes))
      ∧ Amount.Spells order.amount amount ∧ amount < 2 ^ 256
      ∧ r = .contractCall ⟨wallet.address, contract, "transfer(address,uint256)",
          Hex.encode (List.replicate 12 0 ++ account.bytes ++ Bytes.ofNat 32 amount), order.feeLimit, 0, true⟩

theorem requests_of_check {t : Transfer} (h : order.check = .ok t) :
    Requests wallet order (request wallet order t) := by
  have hkind := (Order.check_eq_ok_iff.1 h).2
  rw [Requests]
  cases hk : order.kind with
  | coin =>
    rw [hk] at hkind
    obtain ⟨amount, hamount, rfl⟩ := Order.checkCoin_eq_ok_iff.1 hkind
    exact ⟨amount, hamount, rfl⟩
  | token =>
    rw [hk] at hkind
    obtain ⟨contract, account, amount, hsome, -, -, hamount, hlt, haccount, rfl⟩ :=
      Order.checkToken_eq_ok_iff.1 hkind
    exact ⟨contract, account, amount, hsome, Address.toHex_eq_ok_iff.2 ⟨account, haccount, rfl⟩, hamount, hlt, rfl⟩

theorem prepare_eq_ok_iff {query : Query} {key : PrivateKey} :
    prepare wallet order = .ok (query, key) ↔ wallet.chain = .tron ∧
      ∃ t, order.check = .ok t ∧ PrivateKey.parse wallet.privateKey = .ok key
        ∧ query = ⟨request wallet order t, order.isTest⟩ := by
  simp only [prepare, guard_eq_ok_iff, bind_eq_ok_iff, ne_eq, Decidable.not_not]
  refine and_congr_right fun _ => exists_congr fun t => and_congr_right fun _ => ?_
  constructor
  · rintro ⟨key', hkey, h⟩
    cases h
    exact ⟨hkey, rfl⟩
  · rintro ⟨hkey, rfl⟩
    exact ⟨key, hkey, rfl⟩

theorem governs_prepare (wallet : Wallet) (order : Order) :
    Governs (wallet.ofChain .tron :: order.conditions ++ [wallet.keyReadable]) (prepare wallet order) := by
  rw [prepare]
  refine .guard (by simp [Wallet.ofChain]) rfl fun _ => ?_
  refine (Order.governs_check order).bind fun t _ => ?_
  exact wallet.governs_parse.bind fun key _ => .ok _

/-! ### The exchange -/

theorem transact_of_prepare_error {node : Node} {schedule : List Poll} {e : Error}
    (h : prepare wallet order = .error e) : transact node schedule wallet order = ⟨[], some (.error e)⟩ := by
  rw [transact, h]

theorem queries_of_prepare_ok {node : Node} {p : Poll} {rest : List Poll} {query : Query} {key : PrivateKey}
    (h : prepare wallet order = .ok (query, key)) :
    (transact node (p :: rest) wallet order).queries = if p.cancelled then [] else [query] := by
  rw [transact, h, asks]
  cases p.cancelled <;> rfl

theorem result_of_cancelled {node : Node} {p : Poll} {rest : List Poll} {query : Query} {key : PrivateKey}
    (h : prepare wallet order = .ok (query, key)) (hp : p.cancelled = true) :
    (transact node (p :: rest) wallet order).result = some (.error .cancelled) := by
  rw [transact, h]
  simp [settle, hp]

/-- No answer matters but the answers to the questions that are asked. -/
theorem transact_congr {node node' : Node} {p : Poll} {rest : List Poll}
    (h : ∀ q ∈ (transact node (p :: rest) wallet order).queries, node' q = node q) :
    transact node' (p :: rest) wallet order = transact node (p :: rest) wallet order := by
  cases hprepare : prepare wallet order with
  | error e => rw [transact_of_prepare_error hprepare, transact_of_prepare_error hprepare]
  | ok prepared =>
    obtain ⟨query, key⟩ := prepared
    rw [queries_of_prepare_ok hprepare] at h
    simp only [transact, hprepare]
    cases hp : p.cancelled with
    | true => simp [settle, hp]
    | false =>
      rw [hp] at h
      rw [h query (by simp)]

/-- The node hears of an order at most once, and just when every condition holds. It is then asked for what the
order stands for; otherwise the result is a fault of the first condition that fails. What the node would say to any
other question does not matter. -/
theorem transact_queries (node : Node) (p : Poll) (rest : List Poll) (wallet : Wallet) (order : Order) :
    (transact node (p :: rest) wallet order).queries.length ≤ 1
    ∧ ((transact node (p :: rest) wallet order).queries ≠ [] ↔ ∀ c ∈ conditions wallet order p, c.Holds)
    ∧ ((transact node (p :: rest) wallet order).queries = [] →
        ∃ e, (transact node (p :: rest) wallet order).result = some (.error e)
          ∧ Refused (conditions wallet order p) e)
    ∧ (∀ q ∈ (transact node (p :: rest) wallet order).queries,
        q.isTest = order.isTest ∧ Requests wallet order q.request)
    ∧ ∀ node', (∀ q ∈ (transact node (p :: rest) wallet order).queries, node' q = node q) →
        transact node' (p :: rest) wallet order = transact node (p :: rest) wallet order := by
  have hgoverns := governs_prepare wallet order
  have hsplit : conditions wallet order p =
      (wallet.ofChain .tron :: order.conditions ++ [wallet.keyReadable])
        ++ [⟨p.cancelled = false, (· = .cancelled)⟩] := by
    simp [conditions]
  rw [hsplit]
  cases hprepare : prepare wallet order with
  | error e =>
    have hrefused : Refused ((wallet.ofChain .tron :: order.conditions ++ [wallet.keyReadable])
        ++ [⟨p.cancelled = false, (· = .cancelled)⟩]) e := (hgoverns.refused e hprepare).append_left
    refine ⟨?_, ?_, ?_, ?_, fun _ => transact_congr⟩ <;> rw [transact_of_prepare_error hprepare]
    · simp
    · simpa using hrefused.not_forall
    · exact fun _ => ⟨e, rfl, hrefused⟩
    · simp
  | ok prepared =>
    obtain ⟨query, key⟩ := prepared
    have hholds := hgoverns.holds _ hprepare
    obtain ⟨-, t, ht, -, rfl⟩ := prepare_eq_ok_iff.1 hprepare
    refine ⟨?_, ?_, ?_, ?_, fun _ => transact_congr⟩ <;> rw [queries_of_prepare_ok hprepare]
    · split <;> simp
    · rw [List.forall_mem_append, and_iff_right hholds]
      cases p.cancelled <;> simp
    · intro hnone
      have hp : p.cancelled = true := by
        cases hp : p.cancelled with
        | true => rfl
        | false => simp [hp] at hnone
      exact ⟨_, result_of_cancelled hprepare hp, .append_right hholds (.here (by simp [hp]) rfl)⟩
    · intro q hq
      split at hq
      · cases hq
      · rw [List.mem_singleton.1 hq]
        exact ⟨rfl, requests_of_check ht⟩

end Keyring.Tron
