import Keyring.Proofs.Evm.SignedTransfer
import Keyring.Proofs.Wallet.Signer

/-! When an order is answered, and with which error it is refused. The checks are made in a fixed order, and the first
one that fails decides. What an order says is all that counts, not how its numbers and accounts are spelled. -/
namespace Keyring.Evm

open Secp256k1

/-- The text is `0x` and 40 digits of either case, and nothing else. -/
def Patterned (s : String) : Prop :=
  ∃ ds, s.toList = '0' :: 'x' :: ds ∧ ds.length = 40 ∧ ∀ c ∈ ds, Address.isHexDigit c = true

theorem patterned_iff {s : String} : Patterned s ↔ ∃ a : Account, a.NamedBy s :=
  Account.isEvm_iff.symm.trans Account.exists_namedBy_iff.symm

namespace Order

/-! ### What is asked of an order -/

/-- A fee is from 1 to `2 ^ 128 - 1`. -/
def feeInRange (fee : String) : Condition where
  Holds := ∃ n, Amount.Spells fee n ∧ 0 < n ∧ n < 2 ^ 128
  Fault := (· = .invalidGasSettings)

/-- Tokens need a contract; for coins it is not looked at. -/
def contractPatterned (o : Order) : Condition where
  Holds := o.kind = .token → ∃ s, o.contract = some s ∧ Patterned s
  Fault := (· = .invalidContractAddress)

/-- All that is asked of an order, in the order of the checks. -/
def conditions (o : Order) : List Condition :=
  [⟨Patterned o.recipient, (· = .invalidAddress)⟩,
    o.contractPatterned,
    ⟨∃ n, Amount.Spells o.amount n ∧ n < 2 ^ 256, (· = .invalidAmount)⟩,
    feeInRange o.maxFee,
    feeInRange o.maxPriorityFee,
    ⟨o.gas ≠ 0, (· = .invalidGasSettings)⟩,
    ⟨1 ≤ o.network.toInt, (· = .invalidNetwork)⟩,
    ⟨0 ≤ o.nonce.toInt, (· = .invalidNonce)⟩]

theorem parseAccount_eq_error {fault e : Error} {s : String} (h : parseAccount fault s = .error e) : e = fault := by
  rw [parseAccount] at h
  split at h <;> cases h
  rfl

theorem governs_parseAccount (fault : Error) (s : String) :
    Governs [⟨Patterned s, (· = fault)⟩] (parseAccount fault s) :=
  .single (patterned_iff.trans (exists_congr fun _ => parseAccount_eq_ok_iff.symm)) fun _ => parseAccount_eq_error

theorem checkContract_eq_error {o : Order} {e : Error} (h : o.checkContract = .error e) :
    e = .invalidContractAddress := by
  unfold checkContract at h
  split at h
  · cases h
  · cases h
    rfl
  · exact parseAccount_eq_error (map_eq_error_iff.1 h)

theorem governs_checkContract (o : Order) : Governs [o.contractPatterned] o.checkContract := by
  refine .single ?_ fun _ => checkContract_eq_error
  simp only [checkContract_eq_ok_iff, Contracts]
  cases o.kind with
  | coin => simp
  | token =>
    simp only [true_imp_iff, patterned_iff]
    constructor
    · rintro ⟨s, hs, a, ha⟩
      exact ⟨some a, s, a, hs, ha, rfl⟩
    · rintro ⟨-, s, a, hs, ha, rfl⟩
      exact ⟨s, hs, a, ha⟩

theorem governs_parseFee (fee : String) : Governs [feeInRange fee] (Amount.parseFee fee) :=
  .single (exists_congr fun _ => Amount.parseFee_eq_ok_iff.symm) fun _ => Amount.parseFee_eq_error

theorem governs_check (o : Order) : Governs o.conditions o.check := by
  refine (governs_parseAccount .invalidAddress o.recipient).bind fun recipient _ => ?_
  refine o.governs_checkContract.bind fun contract _ => ?_
  refine (Governs.single (exists_congr fun _ => Amount.parse_eq_ok_iff.symm)
    fun _ => Amount.parse_eq_error).bind fun amount _ => ?_
  refine (governs_parseFee o.maxFee).bind fun maxFee _ => ?_
  refine (governs_parseFee o.maxPriorityFee).bind fun maxPriorityFee _ => ?_
  refine .guard Iff.rfl rfl fun _ => ?_
  refine .guard one_le_toInt_iff.symm rfl fun _ => ?_
  exact .guard zero_le_toInt_iff.symm rfl fun _ => .ok _

/-! ### Orders that say the same -/

/-- The orders say the same: numbers may be spelled with more zeros, accounts in other cases. -/
structure Alike (p q : Order) : Prop where
  kind : p.kind = q.kind
  recipient : ∀ a : Account, a.NamedBy p.recipient ↔ a.NamedBy q.recipient
  contract : p.kind = .token → ∀ a : Account,
    (∃ s, p.contract = some s ∧ a.NamedBy s) ↔ ∃ s, q.contract = some s ∧ a.NamedBy s
  amount : Amount.Alike p.amount q.amount
  maxFee : Amount.Alike p.maxFee q.maxFee
  maxPriorityFee : Amount.Alike p.maxPriorityFee q.maxPriorityFee
  gas : p.gas = q.gas
  network : p.network = q.network
  nonce : p.nonce = q.nonce

theorem parseAccount_congr {s s' : String} (fault : Error) (h : ∀ a : Account, a.NamedBy s ↔ a.NamedBy s') :
    parseAccount fault s = parseAccount fault s' := by
  have hparse : Account.parse? s = Account.parse? s' :=
    Option.ext fun a => by rw [Account.parse?_eq_some_iff, Account.parse?_eq_some_iff, h a]
  rw [parseAccount, parseAccount, hparse]

theorem Alike.contracts {p q : Order} (h : p.Alike q) (contract : Option Account) :
    p.Contracts contract ↔ q.Contracts contract := by
  have hcontract := h.contract
  rw [Contracts, Contracts, ← h.kind]
  cases hkind : p.kind with
  | coin => rfl
  | token =>
    dsimp only
    constructor
    · rintro ⟨s, a, hs, ha, rfl⟩
      obtain ⟨s', hs', ha'⟩ := (hcontract hkind a).1 ⟨s, hs, ha⟩
      exact ⟨s', a, hs', ha', rfl⟩
    · rintro ⟨s', a, hs', ha', rfl⟩
      obtain ⟨s, hs, ha⟩ := (hcontract hkind a).2 ⟨s', hs', ha'⟩
      exact ⟨s, a, hs, ha, rfl⟩

theorem Alike.check {p q : Order} (h : p.Alike q) : p.check = q.check := by
  have hcontract : p.checkContract = q.checkContract :=
    eq_of_ok_iff (fun _ => checkContract_eq_error) (fun _ => checkContract_eq_error) fun contract => by
      rw [checkContract_eq_ok_iff, checkContract_eq_ok_iff, h.contracts contract]
  rw [Order.check, Order.check, parseAccount_congr _ h.recipient, hcontract, h.amount.parse, h.maxFee.parseFee,
    h.maxPriorityFee.parseFee, h.gas, h.network, h.nonce]

end Order

/-! ### The verdict -/

/-- Everything that is asked of a call, in the order of the checks. -/
def conditions (c : Chain) (w : Wallet) (o : Order) : List Condition :=
  w.ofChain c :: o.conditions ++ [w.keyReadable]

/-- The digest of what the order comes to has a signature under the key of the wallet. -/
def Signs (w : Wallet) (o : Order) : Prop :=
  ∀ t key, o.check = .ok t → PrivateKey.parse w.privateKey = .ok key →
    ∃ sig, key.sign (keccak256 t.transaction.preimage) = .ok sig

theorem governs_transact {c : Chain} {w : Wallet} {o : Order} (hsigns : Signs w o) :
    Governs (conditions c w o) (transact c w o) := by
  rw [transact]
  refine .guard (by simp [Wallet.ofChain]) rfl fun _ => ?_
  refine o.governs_check.bind fun t ht => ?_
  refine w.governs_parse.bind fun key hkey => ?_
  obtain ⟨sig, hsig⟩ := hsigns t key ht hkey
  rw [sign_eq_ok_iff.2 ⟨sig, hsig, rfl⟩]
  exact .ok _

theorem answered_iff {c : Chain} {w : Wallet} {o : Order} {text : String} :
    transact c w o = .ok text ↔ w.chain = c ∧ ∃ t key sig, o.check = .ok t ∧ PrivateKey.parse w.privateKey = .ok key ∧
      key.sign (keccak256 t.transaction.preimage) = .ok sig ∧ text = "0x" ++ Hex.encode (t.transaction.signed sig) := by
  simp only [transact, guard_eq_ok_iff, bind_eq_ok_iff, sign_eq_ok_iff, ne_eq, Decidable.not_not]
  refine and_congr_right fun _ => ?_
  constructor
  · rintro ⟨t, ht, key, hkey, _, ⟨sig, hsig, rfl⟩, htext⟩
    cases htext
    exact ⟨t, key, sig, ht, hkey, hsig, rfl⟩
  · rintro ⟨t, key, sig, ht, hkey, hsig, rfl⟩
    exact ⟨t, ht, key, hkey, _, ⟨sig, hsig, rfl⟩, rfl⟩

theorem Order.digits_of_check {o : Order} {t : Transfer} (h : o.check = .ok t) :
    ∀ s ∈ [o.amount, o.maxFee, o.maxPriorityFee], ∀ d ∈ s.toList, d.isDigit := by
  have hstands := check_eq_ok_iff.1 h
  simp only [List.forall_mem_cons, List.not_mem_nil, false_imp_iff, implies_true, and_true]
  exact ⟨hstands.amount.2.1, hstands.maxFee.2.1, hstands.maxPriorityFee.2.1⟩

theorem Order.Alike.transact {p q : Order} (h : p.Alike q) (c : Chain) (w : Wallet) : transact c w p = transact c w q := by
  rw [Evm.transact, Evm.transact, h.check]


/-- Zeros in front of the numbers and the case of the letters of the recipient and of a contract leave an order as it
is, and so does the contract of an order for coins. -/
theorem Order.alike_respelled (o : Order) :
    (∀ i j k, o.amount ≠ "" → o.maxFee ≠ "" → o.maxPriorityFee ≠ "" →
      { o with amount := Amount.padded i o.amount, maxFee := Amount.padded j o.maxFee,
               maxPriorityFee := Amount.padded k o.maxPriorityFee }.Alike o)
    ∧ (∀ ds ds', o.recipient.toList = '0' :: 'x' :: ds → ds'.map Char.toLower = ds.map Char.toLower →
      { o with recipient := String.ofList ('0' :: 'x' :: ds') }.Alike o)
    ∧ (∀ s ds ds', o.contract = some s → s.toList = '0' :: 'x' :: ds → ds'.map Char.toLower = ds.map Char.toLower →
      { o with contract := some (String.ofList ('0' :: 'x' :: ds')) }.Alike o)
    ∧ (o.kind = .coin → ∀ contract, { o with contract := contract }.Alike o) := by
  have hsame : o.Alike o :=
    ⟨rfl, fun _ => Iff.rfl, fun _ _ => Iff.rfl, fun _ => Iff.rfl, fun _ => Iff.rfl, fun _ => Iff.rfl, rfl, rfl, rfl⟩
  refine ⟨?_, ?_, ?_, ?_⟩
  · intro i j k hamount hfee htip
    exact { hsame with
      amount := Amount.alike_padded i hamount
      maxFee := Amount.alike_padded j hfee
      maxPriorityFee := Amount.alike_padded k htip }
  · intro ds ds' hs hcase
    exact { hsame with recipient := Account.namedBy_congr String.toList_ofList hs hcase }
  · intro s ds ds' hcontract hs hcase
    refine { hsame with contract := fun _ a => ?_ }
    have hnamed := Account.namedBy_congr String.toList_ofList hs hcase a
    simp only [hcontract, Option.some.injEq, exists_eq_left', hnamed]
  · intro hkind contract
    exact { hsame with contract := fun htoken => by rw [hkind] at htoken; cases htoken }

/-- An order is answered just when everything that is asked of it holds, and otherwise refused with the error of the
first condition that fails. The answer depends on what the order says alone: zeros in front of a number and the case of
letters change nothing, but any character that is no digit in a number refuses the order. -/
theorem transact_governed (c : Chain) (w : Wallet) (o : Order) (hsigns : Signs w o) :
    ((∃ text, transact c w o = .ok text) ↔ ∀ k ∈ conditions c w o, k.Holds)
    ∧ (∀ e, transact c w o = .error e → Refused (conditions c w o) e)
    ∧ (∀ p : Order, p.Alike o → transact c w p = transact c w o)
    ∧ (∀ i j k, o.amount ≠ "" → o.maxFee ≠ "" → o.maxPriorityFee ≠ "" →
      transact c w { o with amount := Amount.padded i o.amount, maxFee := Amount.padded j o.maxFee,
                            maxPriorityFee := Amount.padded k o.maxPriorityFee } = transact c w o)
    ∧ (∀ ds ds', o.recipient.toList = '0' :: 'x' :: ds → ds'.map Char.toLower = ds.map Char.toLower →
      transact c w { o with recipient := String.ofList ('0' :: 'x' :: ds') } = transact c w o)
    ∧ (∀ s ds ds', o.contract = some s → s.toList = '0' :: 'x' :: ds → ds'.map Char.toLower = ds.map Char.toLower →
      transact c w { o with contract := some (String.ofList ('0' :: 'x' :: ds')) } = transact c w o)
    ∧ (o.kind = .coin → ∀ contract, transact c w { o with contract := contract } = transact c w o)
    ∧ ((∃ s ∈ [o.amount, o.maxFee, o.maxPriorityFee], ∃ d ∈ s.toList, ¬ d.isDigit) →
      ¬ ∃ text, transact c w o = .ok text) := by
  have hgoverns := governs_transact (c := c) hsigns
  obtain ⟨hpadded, hrecipient, hcontract, hcoin⟩ := o.alike_respelled
  refine ⟨?_, hgoverns.refused, fun p hp => hp.transact c w, ?_, ?_, ?_, ?_, ?_⟩
  · constructor
    · rintro ⟨text, htext⟩
      exact hgoverns.holds text htext
    · intro hall
      cases hresult : transact c w o with
      | ok text => exact ⟨text, rfl⟩
      | error e => exact absurd hall (hgoverns.refused e hresult).not_forall
  · exact fun i j k hamount hfee htip => (hpadded i j k hamount hfee htip).transact c w
  · exact fun ds ds' hs hcase => (hrecipient ds ds' hs hcase).transact c w
  · exact fun s ds ds' hsome hs hcase => (hcontract s ds ds' hsome hs hcase).transact c w
  · exact fun hkind contract => (hcoin hkind contract).transact c w
  · rintro ⟨s, hs, d, hd, hdigit⟩ ⟨text, htext⟩
    obtain ⟨-, t, -, -, ht, -⟩ := answered_iff.1 htext
    exact hdigit (Order.digits_of_check ht s hs d hd)

/-! ### An order that is answered -/

namespace Sample

/-- The key whose bytes are all 1. -/
def key : PrivateKey := ⟨0x0101010101010101010101010101010101010101010101010101010101010101, by decide, by decide⟩

def wallet : Wallet := ⟨.nil, "", "", key.encode, .epoch, none, .ethereum⟩

/-- Seven units of the coin to the account 1. -/
def order : Order := ⟨.coin, "0x0000000000000000000000000000000000000001", "7", none, 1, 0, "1", "2", 21000⟩

def transfer : Transfer := ⟨⟨List.replicate 19 0 ++ [1], rfl⟩, none, 7, 1, 0, 21000, 2, 1⟩

theorem check_order : order.check = .ok transfer := by decide

/-- The number that is signed. -/
def digest : Nat := 0xf4e41aefad00ad8e74be4b21055b4dc48679ba234c85d8e7662fdeb9630d6905

theorem digest_eq : Bytes.toNat (keccak256 transfer.transaction.preimage) = digest := by decide +kernel

theorem signable : Signable key.scalar digest :=
  signable_of_states
    (.ofNats 0x74d62d442d533c96e0453792c202457d7444a23dd28ebbd957505b7a7fed9fb0
      0x77ced29a58bf6b5ea667da3a45af2de230abbf55fc278aa7ad82e903341bdfa4)
    (.ofNats 0x453ae6da4b53bb0f23a198b36173fb8db630cbf59eb50f27f927e3d0745b693d
      0x011580bf65726890c755076290bfbe42c74175786a7b371cfa08b758000ac989)
    0x5a77e1f94cb1e21315ef5c774e531a0568a76ea9913c69cb23c049e085b8f14f
    (by decide +kernel) (by decide +kernel) (by decide +kernel) (by decide +kernel)

theorem signs : Signs wallet order := by
  intro t key' ht hkey
  rw [check_order] at ht
  cases ht
  rw [wallet, PrivateKey.parse_encode] at hkey
  cases hkey
  obtain ⟨sig, hsig, -⟩ := signable_iff.1 signable
  refine ⟨sig, ?_⟩
  rw [PrivateKey.sign, digest_eq, hsig]
  rfl

end Sample

/-- The sample is answered, and so it is with zeros in front of its numbers. -/
theorem transact_governed_sample :
    (∃ text, transact .ethereum Sample.wallet Sample.order = .ok text)
    ∧ transact .ethereum Sample.wallet { Sample.order with
        amount := Amount.padded 2 "7", maxFee := Amount.padded 0 "2", maxPriorityFee := Amount.padded 9 "1" }
      = transact .ethereum Sample.wallet Sample.order := by
  obtain ⟨hanswered, -, -, hpadded, -⟩ := transact_governed .ethereum Sample.wallet Sample.order Sample.signs
  refine ⟨hanswered.2 ?_, hpadded 2 0 9 (by decide) (by decide) (by decide)⟩
  rw [conditions, List.cons_append, List.forall_mem_cons, List.forall_mem_append, List.forall_mem_singleton]
  exact ⟨rfl, Sample.order.governs_check.holds _ Sample.check_order, Sample.key, PrivateKey.parse_encode _⟩

end Keyring.Evm
