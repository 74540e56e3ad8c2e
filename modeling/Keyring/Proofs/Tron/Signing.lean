import Mathlib.Data.List.Basic
import Keyring.Proofs.Evm.Account
import Keyring.Proofs.Signing

/-! The signing of a transaction in its place. A call either fails and leaves the transaction as it is, or adds one
entry to its signatures and touches nothing else. The entry is made of the key and of the bytes that the raw data
spell; the other fields, the signatures that are there already and the spelling have no part in it. -/
namespace Keyring.Tron

open Secp256k1

/-- The text, once its markers are gone, is an even number of hexadecimal digits. -/
def Paired (s : String) : Prop :=
  (Hex.body s).toList.length % 2 = 0 ∧ ∀ c ∈ (Hex.body s).toList, Address.isHexDigit c = true

theorem paired_iff {s : String} : Paired s ↔ ∃ bs, Hex.Spells s bs := by
  constructor
  · rintro ⟨heven, hdigits⟩
    have hlength : (Hex.body s).toList.length = 2 * ((Hex.body s).toList.length / 2) := by omega
    obtain ⟨bs, -, hbs⟩ := Hex.exists_bytes_of_digits _ hlength fun c hc => by
      rw [← Evm.Account.isHexDigit_eq, hdigits c hc]
    exact ⟨bs, hbs⟩
  · rintro ⟨bs, hbs⟩
    refine ⟨?_, Evm.Account.isHexDigit_of_map_toLower hbs⟩
    have hlength := congrArg List.length hbs
    rw [List.length_map, Hex.length_encode] at hlength
    omega

namespace Transaction

/-! ### One call -/

/-- Signs a transaction where it stands: it is changed by the last step alone. -/
def signInPlace (key : PrivateKey) : ExceptT Error (StateM Transaction) Unit := do
  let tx ← get
  let raw ← ofExcept tx.raw
  let sig ← ofExcept (key.sign (sha256 raw))
  modify fun tx => { tx with signatures := tx.signatures ++ [Hex.encode sig.bytes] }

/-- The answer of a call, and the transaction after it. -/
def call (key : PrivateKey) (tx : Transaction) : Except Error Unit × Transaction := (signInPlace key).run.run tx

section

variable {α β : Type} (tx : Transaction) (f : α → ExceptT Error (StateM Transaction) β)

theorem run_get_bind (f : Transaction → ExceptT Error (StateM Transaction) β) :
    (get >>= f).run.run tx = (f tx).run.run tx := rfl

theorem run_ok_bind (a : α) : (ofExcept (.ok a : Except Error α) >>= f).run.run tx = (f a).run.run tx := rfl

/-- After a step that fails nothing is done. -/
theorem run_error_bind (e : Error) : (ofExcept (.error e : Except Error α) >>= f).run.run tx = (.error e, tx) := rfl

end

/-- A call in place is a signature and, if there is none, the transaction as it was. -/
theorem call_eq (key : PrivateKey) (tx : Transaction) :
    call key tx =
      match tx.sign key with
      | .ok signed => (.ok (), signed)
      | .error e => (.error e, tx) := by
  rw [call, signInPlace, run_get_bind, sign_eq]
  cases tx.raw with
  | error e => rw [run_error_bind, error_bind]
  | ok raw =>
    rw [run_ok_bind, ok_bind]
    cases key.sign (sha256 raw) with
    | error e => rw [run_error_bind, error_bind]
    | ok sig =>
      rw [run_ok_bind, ok_bind]
      rfl

variable {key : PrivateKey} {tx : Transaction} {raw : Bytes}

/-- What a key adds to the signatures of a transaction with these bytes. -/
def entry (key : PrivateKey) (raw : Bytes) : Except Error String :=
  (key.sign (sha256 raw)).map fun sig => Hex.encode sig.bytes

theorem smallDigits_of_entry {text : String} (h : entry key raw = .ok text) : Hex.SmallDigits 130 text := by
  obtain ⟨sig, -, rfl⟩ := map_eq_ok_iff.1 h
  exact Hex.smallDigits_encode sig.length_bytes

/-- The transaction with more signatures behind those that it has. -/
def appended (tx : Transaction) (entries : List String) : Transaction :=
  { tx with signatures := tx.signatures ++ entries }

theorem appended_appended (tx : Transaction) (front back : List String) :
    (tx.appended front).appended back = tx.appended (front ++ back) := by
  simp only [appended, List.append_assoc]

theorem sign_of_raw (h : tx.raw = .ok raw) : tx.sign key = (entry key raw).map fun text => tx.appended [text] := by
  rw [sign_eq, h, ok_bind, entry]
  cases key.sign (sha256 raw) <;> rfl

theorem call_of_entry {text : String} (hraw : tx.raw = .ok raw) (h : entry key raw = .ok text) :
    call key tx = (.ok (), tx.appended [text]) := by
  rw [call_eq, sign_of_raw hraw, h]
  rfl

theorem call_of_entry_error {e : Error} (hraw : tx.raw = .ok raw) (h : entry key raw = .error e) :
    call key tx = (.error e, tx) := by
  rw [call_eq, sign_of_raw hraw, h]
  rfl

theorem entry_eq_error {e : Error} (h : entry key raw = .error e) : e = .signing .nonce :=
  PrivateKey.sign_eq_error (map_eq_error_iff.1 h)

theorem call_of_unpaired (h : ¬ Paired tx.rawDataHex) :
    ∃ fault, call key tx = (.error (.signing (.rawData fault)), tx) := by
  obtain ⟨fault, hfault⟩ := sign_of_unspelled key fun bs hbs => h (paired_iff.2 ⟨bs, hbs⟩)
  refine ⟨fault, ?_⟩
  rw [call_eq, hfault]

theorem exists_raw_iff : (∃ raw, tx.raw = .ok raw) ↔ Paired tx.rawDataHex := by
  rw [paired_iff]
  exact exists_congr fun _ => raw_eq_ok_iff

/-- A call adds one entry, or fails for a fault of signing and leaves the transaction as it is. -/
theorem call_cases (key : PrivateKey) (tx : Transaction) :
    (∃ fault, call key tx = (.error (.signing fault), tx))
      ∨ ∃ text, Hex.SmallDigits 130 text ∧ call key tx = (.ok (), tx.appended [text]) := by
  by_cases hpaired : Paired tx.rawDataHex
  · obtain ⟨raw, hraw⟩ := exists_raw_iff.2 hpaired
    cases hentry : entry key raw with
    | ok text => exact .inr ⟨text, smallDigits_of_entry hentry, call_of_entry hraw hentry⟩
    | error e =>
      obtain rfl := entry_eq_error hentry
      exact .inl ⟨.nonce, call_of_entry_error hraw hentry⟩
  · obtain ⟨fault, hfault⟩ := call_of_unpaired hpaired
    exact .inl ⟨.rawData fault, hfault⟩

/-- Where the nonce allows a signature, only raw data that are no pairs of digits make a call fail. -/
theorem call_fails_iff (hsigns : ∀ raw, tx.raw = .ok raw → ∃ sig, key.sign (sha256 raw) = .ok sig) :
    (∃ e left, call key tx = (.error e, left)) ↔ ¬ Paired tx.rawDataHex := by
  constructor
  · rintro ⟨e, left, hcall⟩ hpaired
    obtain ⟨raw, hraw⟩ := exists_raw_iff.2 hpaired
    obtain ⟨sig, hsig⟩ := hsigns raw hraw
    have hentry : entry key raw = .ok (Hex.encode sig.bytes) := by rw [entry, hsig, Except.map]
    rw [call_of_entry hraw hentry] at hcall
    cases hcall
  · intro hpaired
    obtain ⟨fault, hfault⟩ := call_of_unpaired hpaired
    exact ⟨_, tx, hfault⟩

/-! ### Call after call -/

/-- The answers of some calls with one key, one after the other, and the transaction after them. -/
def calls (key : PrivateKey) : Nat → Transaction → List (Except Error Unit) × Transaction
  | 0, tx => ([], tx)
  | k + 1, tx => ((call key tx).1 :: (calls key k (call key tx).2).1, (calls key k (call key tx).2).2)

/-- No call changes the bytes that are signed, so each one adds what the first one does. -/
theorem calls_of_entry {text : String} (hraw : tx.raw = .ok raw) (h : entry key raw = .ok text) (k : Nat) :
    calls key k tx = (List.replicate k (.ok ()), tx.appended (List.replicate k text)) := by
  induction k generalizing tx with
  | zero => simp only [calls, appended, List.replicate_zero, List.append_nil]
  | succ k ih =>
    have hnext : (tx.appended [text]).raw = .ok raw := hraw
    rw [calls, call_of_entry hraw h, ih hnext, appended_appended]
    rfl

theorem calls_of_error {e : Error} (h : call key tx = (.error e, tx)) (k : Nat) :
    calls key k tx = (List.replicate k (.error e), tx) := by
  induction k with
  | zero => rfl
  | succ k ih =>
    rw [calls, h, ih]
    rfl

/-- Texts that differ in their markers and in the case of letters spell the same bytes. -/
theorem raw_congr {tx' : Transaction}
    (h : (Hex.body tx'.rawDataHex).toList.map Char.toLower = (Hex.body tx.rawDataHex).toList.map Char.toLower) :
    tx'.raw = .ok raw ↔ tx.raw = .ok raw := by
  rw [raw_eq_ok_iff, raw_eq_ok_iff, Hex.Spells, Hex.Spells, h]

/-- A call fails for a fault of signing and leaves the transaction as it is, or adds one entry and does nothing else;
where the nonce allows a signature it fails just when the raw data are not pairs of digits. For a key and some bytes
there is one entry, which any number of calls on any transaction with these bytes add each time, however the bytes are
spelled. -/
theorem call_framed (key : PrivateKey) :
    (∀ tx, (∃ fault, call key tx = (.error (.signing fault), tx))
      ∨ ∃ text, Hex.SmallDigits 130 text ∧ call key tx = (.ok (), { tx with signatures := tx.signatures ++ [text] }))
    ∧ (∀ tx, ¬ Paired tx.rawDataHex → ∃ fault, call key tx = (.error (.signing (.rawData fault)), tx))
    ∧ (∀ tx, (∀ raw, tx.raw = .ok raw → ∃ sig, key.sign (sha256 raw) = .ok sig) →
      ((∃ e left, call key tx = (.error e, left)) ↔ ¬ Paired tx.rawDataHex))
    ∧ (∀ raw, (key.sign (sha256 raw) = .error (.signing .nonce)
        ∧ ∀ tx, tx.raw = .ok raw → ∀ k, calls key k tx = (List.replicate k (.error (.signing .nonce)), tx))
      ∨ ∃ text, Hex.SmallDigits 130 text ∧ ∀ tx, tx.raw = .ok raw → ∀ k, calls key k tx =
        (List.replicate k (.ok ()), { tx with signatures := tx.signatures ++ List.replicate k text }))
    ∧ ∀ tx tx' : Transaction,
      (Hex.body tx'.rawDataHex).toList.map Char.toLower = (Hex.body tx.rawDataHex).toList.map Char.toLower →
      ∀ raw, tx'.raw = .ok raw ↔ tx.raw = .ok raw := by
  refine ⟨call_cases key, fun tx => call_of_unpaired, fun tx => call_fails_iff, ?_, fun tx tx' h raw => raw_congr h⟩
  intro raw
  cases hentry : entry key raw with
  | ok text => exact .inr ⟨text, smallDigits_of_entry hentry, fun tx hraw => calls_of_entry hraw hentry⟩
  | error e =>
    obtain rfl := entry_eq_error hentry
    exact .inl ⟨map_eq_error_iff.1 hentry, fun tx hraw => calls_of_error (call_of_entry_error hraw hentry)⟩

/-- The sample does not fail, and is signed again and again with the same entry. -/
theorem call_framed_sample :
    (¬ ∃ e left, call Sample.key Sample.transaction = (.error e, left))
    ∧ ∃ text, Hex.SmallDigits 130 text ∧ ∀ k, calls Sample.key k Sample.transaction =
      (List.replicate k (.ok ()), { Sample.transaction with signatures := List.replicate k text }) := by
  obtain ⟨-, -, hfails, hcalls, -⟩ := call_framed Sample.key
  have hsignable : Signable Sample.key.scalar (Bytes.toNat (sha256 [0x0a, 0x02])) := by
    rw [Sample.digest_eq]
    exact Sample.signable
  obtain ⟨sig, hsig, -⟩ := PrivateKey.sign_attests hsignable
  constructor
  · rw [hfails Sample.transaction, not_not]
    · exact exists_raw_iff.1 ⟨_, Sample.raw_eq⟩
    · intro raw hraw
      exact ⟨sig, Except.ok.inj (Sample.raw_eq.symm.trans hraw) ▸ hsig⟩
  · rcases hcalls [0x0a, 0x02] with ⟨herror, -⟩ | ⟨text, htext, hall⟩
    · rw [hsig] at herror
      cases herror
    · exact ⟨text, htext, hall Sample.transaction Sample.raw_eq⟩

end Transaction
end Keyring.Tron
