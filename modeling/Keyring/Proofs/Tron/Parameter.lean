import Keyring.Proofs.Token
import Keyring.Proofs.Tron.Order

/-! The parameter of a token transfer. It is the call that a chain of the Ethereum family is given for the same account
and amount, without the four bytes of the selector, which a node puts in front by itself. Nothing is lost on the way:
the digits are read back as the address and the amount that they were made of. -/
namespace Keyring.Tron

variable {address parameter : String} {amount : Nat}

/-- The steps to a parameter by way of the digits of the payload: these are read as bytes again, and the first byte is
cut off. -/
def parameterByDigits (address : String) (amount : Nat) : Except Error String := do
  let digits ← Address.toHex address
  match Hex.parse digits with
  | .error _ => .error .invalidAddress
  | .ok payload =>
    if h : (payload.drop 1).length = 20 then .ok (Hex.encode (Token.arguments ⟨payload.drop 1, h⟩ amount))
    else .error .invalidAddress

/-- The digits of an address are read as its payload, so their way leads to the same parameter. -/
theorem parameterByDigits_eq (address : String) (amount : Nat) :
    parameterByDigits address amount = transferParameter address amount := by
  rw [parameterByDigits]
  cases hparse : Address.parse address with
  | error e =>
    have hdigits : Address.toHex address = .error e := by rw [Address.toHex, hparse]
    rw [hdigits, error_bind, Order.transferParameter_eq_error_iff.2 hdigits]
  | ok account =>
    have hdigits := Address.toHex_eq_ok_iff.2 ⟨account, hparse, rfl⟩
    have hpayload := Hex.parse_eq_ok_iff.2 (Hex.spells_encode (version :: account.bytes))
    rw [hdigits, ok_bind, hpayload, Order.transferParameter_eq_ok_iff.2 ⟨account, hparse, rfl⟩]
    exact dif_pos account.length_bytes

/-- The account and the amount that the digits of a parameter are read as. -/
def readParameter? (text : String) : Option (Evm.Account × Nat) :=
  match Hex.parse text with
  | .ok bs => Token.ofArguments? bs
  | .error _ => none

theorem readParameter?_encode (account : Evm.Account) (h : amount < 2 ^ 256) :
    readParameter? (Hex.encode (Token.arguments account amount)) = some (account, amount) := by
  rw [readParameter?, Hex.parse_eq_ok_iff.2 (Hex.spells_encode _)]
  exact Token.ofArguments?_arguments account h

/-- A parameter is read as what it was made of: the amount, and the account of the address. -/
theorem readParameter?_of_ok (h : transferParameter address amount = .ok parameter) (hlt : amount < 2 ^ 256) :
    ∃ account, readParameter? parameter = some (account, amount) ∧ Address.ofAccount account = address := by
  obtain ⟨account, haccount, rfl⟩ := Order.transferParameter_eq_ok_iff.1 h
  exact ⟨account, readParameter?_encode account hlt, (Address.parse_eq_ok_iff.1 haccount).symm⟩

/-- The parameter for an address that is taken is 128 digits: those of the call that moves the same amount to the
account behind the version byte, without its selector, also where the account is cut out of the digits of the address.
Read back it gives the address and the amount, so no two pairs of them share a parameter; and it is refused for the
texts that are no address and for nothing else. -/
theorem transferParameter_faithful :
    (∀ address digits amount, Address.toHex address = .ok digits → amount < 2 ^ 256 →
      ∃ (account : Evm.Account) (parameter : String), Hex.parse digits = .ok (version :: account.bytes)
        ∧ transferParameter address amount = .ok parameter ∧ Hex.SmallDigits 128 parameter
        ∧ parameter = Hex.encode ((Token.transferData account amount).drop 4)
        ∧ (Token.transferData account amount).take 4 = [0xa9, 0x05, 0x9c, 0xbb]
        ∧ readParameter? parameter = some (account, amount) ∧ Address.ofAccount account = address)
    ∧ (∀ address amount, parameterByDigits address amount = transferParameter address amount)
    ∧ (∀ a b m n parameter, m < 2 ^ 256 → n < 2 ^ 256 → transferParameter a m = .ok parameter →
      transferParameter b n = .ok parameter → a = b ∧ m = n)
    ∧ (∀ address amount e, transferParameter address amount = .error e ↔ Address.toHex address = .error e)
    ∧ ∀ address amount e, transferParameter address amount = .error e → e = .invalidAddress := by
  refine ⟨?_, parameterByDigits_eq, ?_, fun _ _ _ => Order.transferParameter_eq_error_iff,
    fun _ _ _ => Order.transferParameter_eq_error⟩
  · intro address digits amount hdigits hlt
    obtain ⟨account, haccount, rfl⟩ := Address.toHex_eq_ok_iff.1 hdigits
    refine ⟨account, Hex.encode (Token.arguments account amount), Hex.parse_eq_ok_iff.2 (Hex.spells_encode _), ?_,
      Hex.smallDigits_encode (Token.length_arguments account amount), rfl, rfl, readParameter?_encode account hlt,
      (Address.parse_eq_ok_iff.1 haccount).symm⟩
    exact Order.transferParameter_eq_ok_iff.2 ⟨account, haccount, rfl⟩
  · intro a b m n parameter hm hn ha hb
    obtain ⟨account, hread, haddress⟩ := readParameter?_of_ok ha hm
    obtain ⟨account', hread', haddress'⟩ := readParameter?_of_ok hb hn
    rw [hread] at hread'
    cases hread'
    exact ⟨haddress.symm.trans haddress', rfl⟩

end Keyring.Tron
