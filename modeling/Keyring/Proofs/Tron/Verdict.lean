import Keyring.Proofs.Hex
import Keyring.Proofs.Sequence
import Keyring.Proofs.Wallet.Signer
import Keyring.Tron.Node

/-! What becomes of a node's answer. A transaction without complaint is signed over the bytes that its digits spell;
a complaint is passed on as it stands, unless it says that the balance does not suffice. -/
namespace Keyring.Tron

theorem occursIn_iff {part text : List Char} : occursIn part text = true ↔ part <:+: text := by
  induction text with
  | nil => simp [occursIn]
  | cons c cs ih => simp [occursIn, ih, List.infix_cons_iff]

/-- How a complaint is reported: as a shortage if it speaks of one anywhere, and otherwise in the given words. -/
def Complains (complaint report : String) (e : Error) : Prop :=
  ("balance is not sufficient".toList <:+: complaint.toList ∧ e = .insufficientBalance)
    ∨ (¬ "balance is not sufficient".toList <:+: complaint.toList
      ∧ ∃ fault, e = .nodeReply fault ∧ fault.message = report)

theorem mentionsShortage_iff {s : String} :
    mentionsShortage s = true ↔ "balance is not sufficient".toList <:+: s.toList := occursIn_iff

/-! ### What is accepted -/

theorem accept_rejected (code message : String) :
    ∃ e, accept (.error (.rejected code message)) = .error e ∧ Complains message (code ++ ": " ++ message) e := by
  rw [accept]
  split
  · next h => exact ⟨_, rfl, .inl ⟨mentionsShortage_iff.1 h, rfl⟩⟩
  · next h => exact ⟨_, rfl, .inr ⟨fun hin => h (mentionsShortage_iff.2 hin), _, rfl, rfl⟩⟩

theorem accept_reported {tx : Transaction} (h : tx.error ≠ "") :
    ∃ e, accept (.ok tx) = .error e ∧ Complains tx.error tx.error e := by
  rw [accept]
  split
  · next hshort => exact ⟨_, rfl, .inl ⟨mentionsShortage_iff.1 hshort, rfl⟩⟩
  · next hshort => exact ⟨_, rfl, .inr ⟨fun hin => hshort (mentionsShortage_iff.2 hin), _, rfl, rfl⟩⟩

theorem accept_silent {tx : Transaction} (h : tx.error = "") :
    accept (.ok tx) = if tx.rawDataHex = "" then .error (.nodeReply .noRawData) else .ok tx := by
  have hshort : mentionsShortage "" = false := rfl
  simp [accept, h, hshort]

theorem accept_eq_ok_iff {reply : Reply} {tx : Transaction} :
    accept reply = .ok tx ↔ reply = .ok tx ∧ tx.error = "" ∧ tx.rawDataHex ≠ "" := by
  constructor
  · intro h
    cases reply with
    | error e =>
      cases e with
      | rejected code message =>
        obtain ⟨e, he, -⟩ := accept_rejected code message
        rw [he] at h
        cases h
      | _ => cases h
    | ok tx' =>
      by_cases herror : tx'.error = ""
      · rw [accept_silent herror] at h
        split at h <;> cases h
        exact ⟨rfl, herror, ‹_›⟩
      · obtain ⟨e, he, -⟩ := accept_reported herror
        rw [he] at h
        cases h
  · rintro ⟨rfl, herror, hraw⟩
    rw [accept_silent herror, if_neg hraw]

theorem accept_eq_error {reply : Reply} {e : Error} (h : accept reply = .error e) :
    e = .insufficientBalance ∨ (∃ fault, e = .nodeReply fault) ∨ ∃ fault, e = .node fault := by
  unfold accept at h
  split at h
  · split at h <;> cases h <;> simp
  · cases h
    simp
  · split at h
    · cases h
      simp
    · split at h
      · cases h
        simp
      · split at h <;> cases h
        simp

/-! ### What is signed -/

theorem raw_eq_ok_iff {tx : Transaction} {bs : Bytes} : tx.raw = .ok bs ↔ Hex.Spells tx.rawDataHex bs := by
  rw [← Hex.parse_eq_ok_iff, Transaction.raw]
  cases Hex.parse tx.rawDataHex <;> simp

theorem raw_eq_error {tx : Transaction} (h : ∀ bs, ¬ Hex.Spells tx.rawDataHex bs) :
    ∃ fault, tx.raw = .error (.signing (.rawData fault)) := by
  rw [Transaction.raw]
  split
  · next bs hbs => exact absurd (Hex.parse_eq_ok_iff.1 hbs) (h bs)
  · exact ⟨_, rfl⟩

theorem sign_eq (key : PrivateKey) (tx : Transaction) :
    tx.sign key = (tx.raw >>= fun raw => key.sign (sha256 raw) >>= fun sig =>
      .ok { tx with signatures := tx.signatures ++ [Hex.encode sig.bytes] }) := rfl

theorem sign_eq_ok_iff {key : PrivateKey} {tx signed : Transaction} :
    tx.sign key = .ok signed ↔ ∃ raw sig, Hex.Spells tx.rawDataHex raw ∧ key.sign (sha256 raw) = .ok sig
      ∧ signed = { tx with signatures := tx.signatures ++ [Hex.encode sig.bytes] } := by
  simp only [sign_eq, bind_eq_ok_iff, raw_eq_ok_iff]
  constructor
  · rintro ⟨raw, hraw, sig, hsig, h⟩
    cases h
    exact ⟨raw, sig, hraw, hsig, rfl⟩
  · rintro ⟨raw, sig, hraw, hsig, rfl⟩
    exact ⟨raw, hraw, sig, hsig, rfl⟩

theorem sign_of_unspelled (key : PrivateKey) {tx : Transaction} (h : ∀ bs, ¬ Hex.Spells tx.rawDataHex bs) :
    ∃ fault, tx.sign key = .error (.signing (.rawData fault)) := by
  obtain ⟨fault, hfault⟩ := raw_eq_error h
  refine ⟨fault, ?_⟩
  rw [sign_eq, hfault, error_bind]

theorem sign_of_unsignable {key : PrivateKey} {tx : Transaction} {raw : Bytes} {e : Error}
    (hraw : Hex.Spells tx.rawDataHex raw) (h : key.sign (sha256 raw) = .error e) : tx.sign key = .error e := by
  rw [sign_eq, bind_eq_error_iff]
  exact .inr ⟨raw, raw_eq_ok_iff.2 hraw, by rw [h, error_bind]⟩

theorem sign_eq_error {key : PrivateKey} {tx : Transaction} {e : Error} (h : tx.sign key = .error e) :
    ∃ fault, e = .signing fault := by
  rw [sign_eq] at h
  rcases bind_eq_error_iff.1 h with h | ⟨raw, -, h⟩
  · rw [Transaction.raw] at h
    split at h <;> cases h
    exact ⟨_, rfl⟩
  · rcases bind_eq_error_iff.1 h with h | ⟨sig, -, h⟩
    · exact ⟨_, PrivateKey.sign_eq_error h⟩
    · cases h

/-- The faults of what comes of an answer are the node's or those of a signature. -/
theorem signed_eq_error {reply : Reply} {key : PrivateKey} {e : Error}
    (h : accept reply >>= Transaction.sign key = .error e) :
    e = .insufficientBalance ∨ (∃ fault, e = .nodeReply fault) ∨ (∃ fault, e = .node fault)
      ∨ ∃ fault, e = .signing fault := by
  rcases bind_eq_error_iff.1 h with h | ⟨tx, -, h⟩
  · rcases accept_eq_error h with he | he | he
    · exact .inl he
    · exact .inr (.inl he)
    · exact .inr (.inr (.inl he))
  · exact .inr (.inr (.inr (sign_eq_error h)))

end Keyring.Tron
