import Keyring.Proofs.Tron.Inquiry

/-! Which addresses a node hears of. All of them have the pattern of an address, but only the recipient of tokens is
read, so only its checksum holds for sure; a recipient of coins and a contract with a letter mistyped go through. -/
namespace Keyring.Tron

/-- The text is an address: its checksum holds and it names an account. -/
def Genuine (address : String) : Prop := ∃ digits, Address.toHex address = .ok digits

/-- The recipient and a contract have the pattern of an address, and the recipient of tokens is one. -/
def Addresses (order : Order) (request : Request) : Prop :=
  match request with
  | .transfer r => r.recipient = order.recipient ∧ Keyring.Address.isTron r.recipient = true
  | .contractCall r => Genuine order.recipient ∧ order.contract = some r.contract
      ∧ Keyring.Address.isTron r.contract = true

section

variable {wallet : Wallet} {order : Order}

theorem addresses_of_check {t : Transfer} (h : order.check = .ok t) : Addresses order (request wallet order t) := by
  obtain ⟨hpattern, hkind⟩ := Order.check_eq_ok_iff.1 h
  cases hk : order.kind with
  | coin =>
    rw [hk] at hkind
    obtain ⟨amount, -, rfl⟩ := Order.checkCoin_eq_ok_iff.1 hkind
    exact ⟨rfl, hpattern⟩
  | token =>
    rw [hk] at hkind
    obtain ⟨contract, account, amount, hsome, hcontract, -, -, -, haccount, rfl⟩ := Order.checkToken_eq_ok_iff.1 hkind
    exact ⟨⟨_, Address.toHex_eq_ok_iff.2 ⟨account, haccount, rfl⟩⟩, hsome, hcontract⟩

/-! ### Which recipients are refused -/

/-- Nothing but its recipient can be wrong with the order, whichever asset it moves. -/
structure OtherwiseValid (wallet : Wallet) (order : Order) : Prop where
  chain : wallet.chain = .tron
  contract : ∃ contract, order.contract = some contract ∧ Keyring.Address.isTron contract = true
  feeLimit : order.feeLimit ≠ 0
  amount : ∃ n, Amount.Spells order.amount n ∧ n < 2 ^ 64
  key : ∃ key, PrivateKey.parse wallet.privateKey = .ok key

/-- The order is refused for its recipient. -/
def RefusesRecipient (wallet : Wallet) (order : Order) : Prop := prepare wallet order = .error .invalidAddress

theorem refusesRecipient_iff (h : OtherwiseValid wallet order) (kind : AssetKind) :
    RefusesRecipient wallet { order with kind := kind } ↔ { order with kind := kind }.check = .error .invalidAddress := by
  obtain ⟨key, hkey⟩ := h.key
  rw [RefusesRecipient, prepare, if_neg (not_not_intro h.chain)]
  cases { order with kind := kind }.check with
  | error e => simp [error_bind]
  | ok t => simp [ok_bind, hkey]

theorem check_coin_eq_error_iff (h : OtherwiseValid wallet order) :
    { order with kind := .coin }.check = .error .invalidAddress ↔ ¬ Keyring.Address.isTron order.recipient = true := by
  obtain ⟨n, hn, hlt⟩ := h.amount
  have hcoin : { order with kind := .coin }.checkCoin = .ok (.coin (.ofNat n)) :=
    Order.checkCoin_eq_ok_iff.2 ⟨_, by rwa [UInt64.toNat_ofNat_of_lt' hlt], rfl⟩
  rw [Order.check]
  split
  · next hpattern => simp [hcoin, hpattern]
  · next hpattern => simp [hpattern]

theorem Genuine.isTron {address : String} (h : Genuine address) : Keyring.Address.isTron address = true := by
  obtain ⟨digits, hdigits⟩ := h
  obtain ⟨a, ha, -⟩ := Address.toHex_eq_ok_iff.1 hdigits
  rw [Address.parse_eq_ok_iff.1 ha]
  exact Address.isTron_ofAccount a

theorem transferParameter_refused_iff {recipient : String} {amount : Nat} :
    transferParameter recipient amount = .error .invalidAddress ↔ ¬ Genuine recipient := by
  rw [Order.transferParameter_eq_error_iff, Genuine]
  cases hdigits : Address.toHex recipient with
  | ok digits => simp
  | error e => simp [Address.toHex_eq_error hdigits]

theorem check_token_eq_error_iff (h : OtherwiseValid wallet order) :
    { order with kind := .token }.check = .error .invalidAddress ↔ ¬ Genuine order.recipient := by
  obtain ⟨n, hn, hlt⟩ := h.amount
  obtain ⟨contract, hcontract⟩ := h.contract
  have hamount : Amount.parse order.amount = .ok n := Amount.parse_eq_ok_iff.2 ⟨hn, by omega⟩
  have htoken : { order with kind := .token }.checkToken =
      (transferParameter order.recipient n >>= fun parameter => .ok (.token contract parameter order.feeLimit)) := by
    rw [Order.checkToken, Order.contract_eq_ok_iff.2 hcontract, ok_bind, if_neg h.feeLimit, hamount]
    rfl
  rw [Order.check]
  split
  · rw [← transferParameter_refused_iff]
    show { order with kind := .token }.checkToken = _ ↔ transferParameter _ n = _
    rw [htoken]
    cases transferParameter order.recipient n <;> simp [ok_bind, error_bind]
  · next hpattern => exact iff_of_true rfl fun hgenuine => hpattern hgenuine.isTron

end

/-- A node hears of addresses with the right pattern only, and of tokens only for a recipient that is an address.
Orders for coins and for tokens that are alike but for the asset are refused for the same recipients, except for those
that have the pattern and are no addresses: there the order for coins goes through. -/
theorem queries_addressed (node : Node) (schedule : List Poll) (wallet : Wallet) (order : Order) :
    (∀ q ∈ (transact node schedule wallet order).queries, Addresses order q.request)
    ∧ (OtherwiseValid wallet order →
      (RefusesRecipient wallet { order with kind := .coin } ↔ ¬ Keyring.Address.isTron order.recipient = true)
      ∧ (RefusesRecipient wallet { order with kind := .token } ↔ ¬ Genuine order.recipient)
      ∧ (¬ (RefusesRecipient wallet { order with kind := .coin } ↔ RefusesRecipient wallet { order with kind := .token })
        ↔ Keyring.Address.isTron order.recipient = true ∧ ¬ Genuine order.recipient)) := by
  constructor
  · intro q hq
    unfold transact at hq
    cases hprepare : prepare wallet order with
    | error e => simp [hprepare] at hq
    | ok prepared =>
      obtain ⟨query, key⟩ := prepared
      obtain ⟨-, t, ht, -, rfl⟩ := prepare_eq_ok_iff.1 hprepare
      simp only [hprepare] at hq
      split at hq
      · rw [List.mem_singleton.1 hq]
        exact addresses_of_check ht
      · cases hq
  · intro h
    have hcoin := (refusesRecipient_iff h .coin).trans (check_coin_eq_error_iff h)
    have htoken := (refusesRecipient_iff h .token).trans (check_token_eq_error_iff h)
    refine ⟨hcoin, htoken, ?_⟩
    rw [hcoin, htoken]
    have hpattern : Genuine order.recipient → Keyring.Address.isTron order.recipient = true := Genuine.isTron
    tauto

/-! ### A letter mistyped -/

namespace Mistyped

/-- An address with the last letter changed. -/
def recipient : String := "TBREsCfBdPyD612xZnwvGPux7osbXvtzLi"

def wallet : Wallet :=
  ⟨.nil, "TCNkawTmcQgYSU8nP8cHswT1QPjharxJr7", "0x04ab",
    "0x0101010101010101010101010101010101010101010101010101010101010101", .epoch, none, .tron⟩

/-- One unit of the coin. -/
def order : Order := ⟨.coin, recipient, "1", some "TCNkawTmcQgYSU8nP8cHswT1QPjharxJr7", 1, false⟩

theorem toHex_recipient : Address.toHex recipient = .error .invalidAddress := by decide +kernel

theorem not_genuine : ¬ Genuine recipient := by
  rintro ⟨digits, hdigits⟩
  exact nomatch toHex_recipient.symm.trans hdigits

theorem otherwiseValid : OtherwiseValid wallet order := by
  refine ⟨rfl, ⟨_, rfl, by decide⟩, by decide, ⟨1, Amount.decimal?_eq_some_iff.1 (by decide), by decide⟩, ?_⟩
  exact ⟨⟨0x0101010101010101010101010101010101010101010101010101010101010101, by decide, by decide⟩, by decide⟩

end Mistyped

/-- The node is asked to send coins to a text that is no address, and an order for tokens is refused for it. -/
theorem mistyped_asked :
    (transact (fun _ => .error (.request "")) [⟨false, true⟩] Mistyped.wallet Mistyped.order).queries
      = [⟨.transfer ⟨Mistyped.wallet.address, Mistyped.recipient, 1, true⟩, false⟩]
    ∧ Address.toHex Mistyped.recipient = .error .invalidAddress
    ∧ ¬ RefusesRecipient Mistyped.wallet { Mistyped.order with kind := .coin }
    ∧ RefusesRecipient Mistyped.wallet { Mistyped.order with kind := .token } := by
  refine ⟨by decide, Mistyped.toHex_recipient, ?_, ?_⟩
  · unfold RefusesRecipient
    decide
  · exact (refusesRecipient_iff Mistyped.otherwiseValid .token).2
      ((check_token_eq_error_iff Mistyped.otherwiseValid).2 Mistyped.not_genuine)

theorem queries_addressed_mistyped :
    OtherwiseValid Mistyped.wallet Mistyped.order
    ∧ ¬ (RefusesRecipient Mistyped.wallet { Mistyped.order with kind := .coin }
      ↔ RefusesRecipient Mistyped.wallet { Mistyped.order with kind := .token }) := by
  obtain ⟨-, hagree⟩ := queries_addressed (fun _ => .error (.request "")) [] Mistyped.wallet Mistyped.order
  obtain ⟨-, -, hdisagree⟩ := hagree Mistyped.otherwiseValid
  exact ⟨Mistyped.otherwiseValid, hdisagree.2 ⟨by decide, Mistyped.not_genuine⟩⟩

end Keyring.Tron
