import Keyring.Proofs.Amount
import Keyring.Proofs.Condition
import Keyring.Proofs.Tron.Address
import Keyring.Tron.Order

/-! What an order must meet, check by check, and the transfer that comes of one that meets all. -/
namespace Keyring.Tron.Order

/-- The amount is a decimal below `bound`. -/
def amountBelow (o : Order) (bound : Nat) : Condition where
  Holds := ∃ n, Amount.Spells o.amount n ∧ n < bound
  Fault := (· = .invalidAmount)

def coinConditions (o : Order) : List Condition := [o.amountBelow (2 ^ 64)]

def contractNamed (o : Order) : Condition where
  Holds := ∃ contract, o.contract = some contract ∧ Keyring.Address.isTron contract = true
  Fault := (· = .invalidContractAddress)

/-- The recipient is more than the pattern asks for: its checksum holds. -/
def recipientChecked (o : Order) : Condition where
  Holds := ∃ digits, Address.toHex o.recipient = .ok digits
  Fault := (· = .invalidAddress)

def tokenConditions (o : Order) : List Condition :=
  [o.contractNamed, ⟨o.feeLimit ≠ 0, (· = .invalidGasSettings)⟩, o.amountBelow (2 ^ 256), o.recipientChecked]

def conditions (o : Order) : List Condition :=
  ⟨Keyring.Address.isTron o.recipient = true, (· = .invalidAddress)⟩ ::
    match o.kind with
    | .coin => o.coinConditions
    | .token => o.tokenConditions

/-! ### The steps of the check -/

theorem checkCoin_eq (o : Order) :
    o.checkCoin = (Amount.parse o.amount >>= fun amount =>
      if amount < 2 ^ 64 then .ok (.coin (.ofNat amount)) else .error .invalidAmount) := rfl

theorem checkCoin_eq_ok_iff {o : Order} {t : Transfer} :
    o.checkCoin = .ok t ↔ ∃ amount, Amount.Spells o.amount amount.toNat ∧ t = .coin amount := by
  rw [checkCoin_eq, bind_eq_ok_iff]
  constructor
  · rintro ⟨n, hn, ht⟩
    split at ht
    · next hlt =>
      cases ht
      refine ⟨.ofNat n, ?_, rfl⟩
      rw [UInt64.toNat_ofNat_of_lt' hlt]
      exact (Amount.parse_eq_ok_iff.1 hn).1
    · cases ht
  · rintro ⟨amount, hamount, rfl⟩
    have hlt : amount.toNat < 2 ^ 64 := amount.toNat_lt
    refine ⟨amount.toNat, Amount.parse_eq_ok_iff.2 ⟨hamount, by omega⟩, ?_⟩
    rw [if_pos hlt, UInt64.ofNat_toNat]

theorem checkCoin_eq_error {o : Order} {e : Error} (h : o.checkCoin = .error e) : e = .invalidAmount := by
  rw [checkCoin_eq] at h
  rcases bind_eq_error_iff.1 h with h | ⟨n, -, h⟩
  · exact Amount.parse_eq_error h
  · split at h <;> cases h
    rfl

theorem transferParameter_eq_ok_iff {recipient parameter : String} {amount : Nat} :
    transferParameter recipient amount = .ok parameter ↔
      ∃ a, Address.parse recipient = .ok a ∧ parameter = Hex.encode (Token.arguments a amount) := by
  rw [transferParameter]
  cases Address.parse recipient <;> simp [Except.map, eq_comm]

theorem transferParameter_eq_error {recipient : String} {amount : Nat} {e : Error}
    (h : transferParameter recipient amount = .error e) : e = .invalidAddress := by
  rw [transferParameter] at h
  cases ha : Address.parse recipient with
  | ok a => simp [ha, Except.map] at h
  | error e' =>
    rw [ha] at h
    cases h
    exact Address.parse_eq_error ha

theorem transferParameter_eq_error_iff {recipient : String} {amount : Nat} {e : Error} :
    transferParameter recipient amount = .error e ↔ Address.toHex recipient = .error e := by
  rw [transferParameter, Address.toHex]
  cases Address.parse recipient <;> simp [Except.map]

/-- The contract that an order names, if it has the shape of an address. -/
theorem contract_eq_ok_iff {o : Order} {contract : String} :
    Error.invalidContractAddress.ifNone (o.contract.filter Keyring.Address.isTron) = .ok contract ↔
      o.contract = some contract ∧ Keyring.Address.isTron contract = true := by
  rw [Error.ifNone_eq_ok_iff, Option.filter_eq_some_iff]

theorem checkToken_eq_ok_iff {o : Order} {t : Transfer} :
    o.checkToken = .ok t ↔ ∃ contract account amount,
      o.contract = some contract ∧ Keyring.Address.isTron contract = true ∧ o.feeLimit ≠ 0
      ∧ Amount.Spells o.amount amount ∧ amount < 2 ^ 256 ∧ Address.parse o.recipient = .ok account
      ∧ t = .token contract (Hex.encode (Token.arguments account amount)) o.feeLimit := by
  simp only [checkToken, bind_eq_ok_iff, guard_eq_ok_iff, contract_eq_ok_iff, Amount.parse_eq_ok_iff,
    transferParameter_eq_ok_iff]
  constructor
  · rintro ⟨contract, ⟨hsome, hpattern⟩, hlimit, amount, ⟨hamount, hlt⟩, _, ⟨account, haccount, rfl⟩, ht⟩
    cases ht
    exact ⟨contract, account, amount, hsome, hpattern, hlimit, hamount, hlt, haccount, rfl⟩
  · rintro ⟨contract, account, amount, hsome, hpattern, hlimit, hamount, hlt, haccount, rfl⟩
    exact ⟨contract, ⟨hsome, hpattern⟩, hlimit, amount, ⟨hamount, hlt⟩, _, ⟨account, haccount, rfl⟩, rfl⟩

theorem check_eq_ok_iff {o : Order} {t : Transfer} :
    o.check = .ok t ↔ Keyring.Address.isTron o.recipient = true ∧
      match o.kind with
      | .coin => o.checkCoin = .ok t
      | .token => o.checkToken = .ok t := by
  rw [check]
  by_cases hpattern : Keyring.Address.isTron o.recipient = true
  · cases o.kind <;> simp [hpattern]
  · simp [hpattern]

/-! ### Which check refuses an order -/

theorem governs_checkCoin (o : Order) : Governs o.coinConditions o.checkCoin := by
  refine .single ?_ fun e => checkCoin_eq_error
  constructor
  · rintro ⟨n, hn, hlt⟩
    refine ⟨.coin (.ofNat n), checkCoin_eq_ok_iff.2 ⟨_, ?_, rfl⟩⟩
    rwa [UInt64.toNat_ofNat_of_lt' hlt]
  · rintro ⟨t, ht⟩
    obtain ⟨amount, hamount, -⟩ := checkCoin_eq_ok_iff.1 ht
    exact ⟨_, hamount, amount.toNat_lt⟩

theorem governs_contract (o : Order) :
    Governs [o.contractNamed] (Error.invalidContractAddress.ifNone (o.contract.filter Keyring.Address.isTron)) :=
  .single (exists_congr fun _ => contract_eq_ok_iff.symm) fun _ h => (Error.ifNone_eq_error_iff.1 h).2

theorem governs_amount (o : Order) : Governs [o.amountBelow (2 ^ 256)] (Amount.parse o.amount) :=
  .single (exists_congr fun _ => Amount.parse_eq_ok_iff.symm) fun _ => Amount.parse_eq_error

theorem governs_transferParameter (o : Order) (amount : Nat) :
    Governs [o.recipientChecked] (transferParameter o.recipient amount) := by
  refine .single ?_ fun e => transferParameter_eq_error
  constructor
  · rintro ⟨digits, hdigits⟩
    obtain ⟨a, ha, -⟩ := Address.toHex_eq_ok_iff.1 hdigits
    exact ⟨_, transferParameter_eq_ok_iff.2 ⟨a, ha, rfl⟩⟩
  · rintro ⟨parameter, hparameter⟩
    obtain ⟨a, ha, -⟩ := transferParameter_eq_ok_iff.1 hparameter
    exact ⟨_, Address.toHex_eq_ok_iff.2 ⟨a, ha, rfl⟩⟩

theorem governs_checkToken (o : Order) : Governs o.tokenConditions o.checkToken := by
  refine (governs_contract o).bind fun contract _ => ?_
  refine .guard Iff.rfl rfl fun _ => ?_
  refine (governs_amount o).bind fun amount _ => ?_
  exact (governs_transferParameter o amount).bind fun parameter _ => .ok _

theorem governs_check (o : Order) : Governs o.conditions o.check := by
  rw [conditions, check]
  refine .ite fun _ => ?_
  cases o.kind with
  | coin => exact governs_checkCoin o
  | token => exact governs_checkToken o

end Keyring.Tron.Order
