import Keyring.Proofs.Address
import Keyring.Proofs.Hex
import Keyring.Tron.Address

/-! Addresses on TRON that hold an account. Each account has one address and each address one account, and the digits
of the payload say the same as the address. No other text is taken for an address, and no digits of another payload. -/
namespace Keyring.Tron.Address

theorem toHex_eq_ok_iff {address digits : String} :
    toHex address = .ok digits ↔
      ∃ a, parse address = .ok a ∧ digits = Hex.encode (version :: a.bytes) := by
  rw [toHex]
  cases parse address <;> simp [eq_comm]

theorem parse_eq_error {address : String} {e : Error} (h : parse address = .error e) :
    e = .invalidAddress := by
  rw [parse] at h
  split at h <;> cases h
  rfl

/-! ### Accounts and their addresses -/

theorem accountOf?_eq_some_iff {payload : Bytes} {a : Evm.Account} :
    accountOf? payload = some a ↔ payload = version :: a.bytes := by
  cases payload with
  | nil => simp [accountOf?]
  | cons v rest =>
    rw [accountOf?, List.cons.injEq]
    constructor
    · intro h
      split at h
      · next hv =>
        cases h
        exact ⟨hv.1, rfl⟩
      · cases h
    · rintro ⟨rfl, rfl⟩
      simp

theorem exists_eq_version_cons {payload : Bytes} (hlength : payload.length = 21)
    (hhead : payload.head? = some version) : ∃ a : Evm.Account, payload = version :: a.bytes := by
  obtain ⟨rest, rfl⟩ := List.head?_eq_some_iff.1 hhead
  exact ⟨⟨rest, Nat.succ_injective hlength⟩, rfl⟩

theorem isTron_ofAccount (a : Evm.Account) : Keyring.Address.isTron (ofAccount a) = true :=
  Keyring.Address.isTron_encode (by simp)

/-- Every payload that starts with the version byte is written in the pattern of addresses. -/
theorem isTron_encode {payload : Bytes} (hlength : payload.length = 21) (hhead : payload.head? = some version) :
    Keyring.Address.isTron (Base58Check.encode payload) = true := by
  obtain ⟨a, rfl⟩ := exists_eq_version_cons hlength hhead
  exact isTron_ofAccount a

theorem account?_eq_some_iff {address : String} {a : Evm.Account} :
    account? address = some a ↔ address = ofAccount a := by
  constructor
  · intro h
    rw [account?] at h
    split at h
    · obtain ⟨payload, hpayload, ha⟩ := Option.bind_eq_some_iff.1 h
      rw [accountOf?_eq_some_iff] at ha
      rw [ofAccount, ← ha, Base58Check.decode?_eq_some_iff.1 hpayload]
    · cases h
  · rintro rfl
    rw [account?, if_pos (isTron_ofAccount a), ofAccount, Base58Check.decode?_encode, Option.bind_some,
      accountOf?_eq_some_iff]

theorem parse_eq_ok_iff {address : String} {a : Evm.Account} : parse address = .ok a ↔ address = ofAccount a := by
  rw [← account?_eq_some_iff, parse]
  cases account? address <;> simp

/-! ### Addresses and digits -/

theorem toHex_ofAccount (a : Evm.Account) : toHex (ofAccount a) = .ok (Hex.encode (version :: a.bytes)) :=
  toHex_eq_ok_iff.2 ⟨a, parse_eq_ok_iff.2 rfl, rfl⟩

theorem ofHex_eq_ok_iff {digits address : String} :
    ofHex digits = .ok address ↔ ∃ a, Hex.parse digits = .ok (version :: a.bytes) ∧ address = ofAccount a := by
  rw [ofHex]
  cases Hex.parse digits with
  | error fault => simp
  | ok payload =>
    simp only [Except.ok.injEq, ← accountOf?_eq_some_iff]
    cases accountOf? payload <;> simp [eq_comm]

theorem ofHex_encode (a : Evm.Account) : ofHex (Hex.encode (version :: a.bytes)) = .ok (ofAccount a) :=
  ofHex_eq_ok_iff.2 ⟨a, Hex.parse_eq_ok_iff.2 (Hex.spells_encode _), rfl⟩

theorem toHex_eq_error {address : String} {e : Error} (h : toHex address = .error e) : e = .invalidAddress := by
  rw [toHex] at h
  split at h <;> cases h
  exact parse_eq_error ‹_›

theorem ofHex_eq_error {digits : String} {e : Error} (h : ofHex digits = .error e) : e = .invalidAddress := by
  rw [ofHex] at h
  split at h
  · cases h
    rfl
  · split at h <;> cases h
    rfl

/-- The small digits of a payload are 42, the first two of them `4` and `1`. -/
structure PayloadDigits (digits : String) : Prop where
  length : digits.length = 42
  digit : ∀ c ∈ digits.toList, c ∈ "0123456789abcdef".toList
  version : "41".toList <+: digits.toList

theorem payloadDigits_encode (a : Evm.Account) : PayloadDigits (Hex.encode (version :: a.bytes)) where
  length := by simp [← String.length_toList]
  digit _ := Hex.encode_mem
  version := ⟨(Hex.nibbles a.bytes).map Hex.digit, by rw [Hex.toList_encode]; rfl⟩

/-- The address is that of the payload: 34 characters of the pattern, and the payload's digits are its own. -/
structure Carries (address : String) (payload : Bytes) : Prop where
  length_payload : payload.length = 21
  head_payload : payload.head? = some version
  length : address.length = 34
  head : address.toList.head? = some 'T'
  isTron : Keyring.Address.isTron address = true
  toHex : toHex address = .ok (Hex.encode payload)

theorem carries_ofAccount (a : Evm.Account) : Carries (ofAccount a) (version :: a.bytes) := by
  obtain ⟨cs, hs, hlength, -⟩ := Keyring.Address.isTron_iff.1 (isTron_ofAccount a)
  refine ⟨by simp, rfl, ?_, ?_, isTron_ofAccount a, toHex_ofAccount a⟩
  · rw [← String.length_toList, hs, List.length_cons, hlength]
  · rw [hs, List.head?_cons]

/-- Addresses and the small digits of their payloads are inverse to each other over all accounts. An address that is
read gives digits that lead back to it, so no other address has them; digits that are read, with markers and in either
case, give an address that carries their payload. All else is no address. -/
theorem toHex_ofHex_inverse :
    (∀ a : Evm.Account, toHex (ofAccount a) = .ok (Hex.encode (version :: a.bytes))
      ∧ ofHex (Hex.encode (version :: a.bytes)) = .ok (ofAccount a))
    ∧ (∀ address digits, toHex address = .ok digits → PayloadDigits digits ∧ ofHex digits = .ok address)
    ∧ (∀ a b digits, toHex a = .ok digits → toHex b = .ok digits → a = b)
    ∧ (∀ digits address, ofHex digits = .ok address →
        ∃ payload, Hex.parse digits = .ok payload ∧ Carries address payload)
    ∧ (∀ digits payload, Hex.parse digits = .ok payload → payload.length = 21 → payload.head? = some version →
        ∃ address, ofHex digits = .ok address)
    ∧ (∀ s, (¬ ∃ digits, toHex s = .ok digits) → toHex s = .error .invalidAddress)
    ∧ ∀ s, (¬ ∃ address, ofHex s = .ok address) → ofHex s = .error .invalidAddress := by
  have hback : ∀ address digits, toHex address = .ok digits → ofHex digits = .ok address := by
    intro address digits h
    obtain ⟨a, ha, rfl⟩ := toHex_eq_ok_iff.1 h
    rw [ofHex_encode, parse_eq_ok_iff.1 ha]
  refine ⟨fun a => ⟨toHex_ofAccount a, ofHex_encode a⟩, ?_, ?_, ?_, ?_, ?_, ?_⟩
  · intro address digits h
    obtain ⟨a, -, rfl⟩ := toHex_eq_ok_iff.1 h
    exact ⟨payloadDigits_encode a, hback _ _ h⟩
  · intro a b digits ha hb
    have h := (hback a digits ha).symm.trans (hback b digits hb)
    rwa [Except.ok.injEq] at h
  · intro digits address h
    obtain ⟨a, hparse, rfl⟩ := ofHex_eq_ok_iff.1 h
    exact ⟨_, hparse, carries_ofAccount a⟩
  · intro digits payload hparse hlength hhead
    obtain ⟨a, rfl⟩ := exists_eq_version_cons hlength hhead
    exact ⟨_, ofHex_eq_ok_iff.2 ⟨a, hparse, rfl⟩⟩
  · intro s hnone
    cases h : toHex s with
    | ok digits => exact absurd ⟨digits, h⟩ hnone
    | error e => rw [toHex_eq_error h]
  · intro s hnone
    cases h : ofHex s with
    | ok address => exact absurd ⟨address, h⟩ hnone
    | error e => rw [ofHex_eq_error h]

end Keyring.Tron.Address
