import Keyring.Proofs.Signing
import Keyring.Proofs.Tron.Cancellation

/-! Signatures over nothing. An answer of a node is refused when its digits are the empty text, but that is not the
only text without bytes: one that is all markers has none either, and it goes on to be signed. -/
namespace Keyring.Tron

open Secp256k1

/-! ### Texts without bytes -/

/-- The texts that have markers and no digits behind them. -/
def bareMarkers : List String := ["0x", "0X", "0x0x", "0x0X"]

theorem stripAnyMarker_eq_nil_iff {cs : List Char} :
    Hex.stripAnyMarker cs = [] ↔ cs = [] ∨ cs = ['0', 'x'] ∨ cs = ['0', 'X'] := by
  fun_cases Hex.stripAnyMarker cs <;> grind

theorem stripMarkers_eq_nil_iff {cs : List Char} :
    Hex.stripAnyMarker (Hex.stripMarker cs) = [] ↔ cs = [] ∨ cs ∈ bareMarkers.map String.toList := by
  rw [stripAnyMarker_eq_nil_iff]
  fun_cases Hex.stripMarker cs with
  | case1 rest => simp [bareMarkers]
  | case2 _ hmarked =>
    have hsmall : cs ≠ ['0', 'x', '0', 'x'] := fun h => hmarked _ h
    have hlarge : cs ≠ ['0', 'x', '0', 'X'] := fun h => hmarked _ h
    simp [bareMarkers, hsmall, hlarge]

/-- No bytes are spelled by the empty text and by the bare markers, and by nothing else. -/
theorem spells_nil_iff {s : String} : Hex.Spells s [] ↔ s = "" ∨ s ∈ bareMarkers := by
  have hbody : Hex.Spells s [] ↔ Hex.stripAnyMarker (Hex.stripMarker s.toList) = [] := by
    rw [Hex.Spells, Hex.body, String.toList_ofList]
    exact List.map_eq_nil_iff
  rw [hbody, stripMarkers_eq_nil_iff, String.toList_eq_nil_iff, List.mem_map_of_injective fun _ _ => String.toList_inj.1]

theorem spells_of_mem_bareMarkers {s : String} (h : s ∈ bareMarkers) : s ≠ "" ∧ Hex.Spells s [] := by
  refine ⟨?_, spells_nil_iff.2 (.inr h)⟩
  rintro rfl
  exact absurd h (by decide)

/-! ### What is signed -/

/-- The node was asked for the order of a wallet with this key, and its answer is there. -/
structure Answered (node : Node) (schedule : List Poll) (wallet : Wallet) (order : Order) (key : PrivateKey)
    (answer : Transaction) : Prop where
  asked : ∃ query, prepare wallet order = .ok (query, key) ∧ node query = .ok answer
  settled : settle schedule = .answered

section

variable {node : Node} {schedule : List Poll} {wallet : Wallet} {order : Order} {key : PrivateKey}
  {answer : Transaction}

theorem Answered.result_eq (h : Answered node schedule wallet order key answer) :
    (transact node schedule wallet order).result = some (accept (.ok answer) >>= Transaction.sign key) := by
  obtain ⟨query, hprepare, hanswer⟩ := h.asked
  rw [← hanswer]
  exact (result_eq_answered_iff hprepare).2 h.settled

/-- A signed transaction goes back to an answer that was accepted. -/
theorem answered_of_result {tx : Transaction} (h : (transact node schedule wallet order).result = some (.ok tx)) :
    ∃ answer key, Answered node schedule wallet order key answer ∧ answer.rawDataHex ≠ ""
      ∧ answer.sign key = .ok tx := by
  cases hprepare : prepare wallet order with
  | error e =>
    rw [transact_of_prepare_error hprepare] at h
    cases h
  | ok prepared =>
    obtain ⟨query, key⟩ := prepared
    rw [result_eq_of_prepare_ok hprepare] at h
    split at h
    · cases h
    · cases h
    · next hsettled =>
      obtain ⟨answer, haccept, hsign⟩ := bind_eq_ok_iff.1 (Option.some.inj h)
      obtain ⟨hanswer, -, hraw⟩ := accept_eq_ok_iff.1 haccept
      exact ⟨answer, key, ⟨⟨query, hprepare, hanswer⟩, hsettled⟩, hraw, hsign⟩

end

/-- A transaction is signed over the bytes of the node's answer, and these are none just when the answer was bare
markers: the empty text is refused and so is what spells no bytes, but bare markers are signed. -/
theorem transact_signs (node : Node) (schedule : List Poll) (wallet : Wallet) (order : Order) :
    (∀ tx, (transact node schedule wallet order).result = some (.ok tx) →
      ∃ answer key raw sig, Answered node schedule wallet order key answer
        ∧ tx = { answer with signatures := answer.signatures ++ [Hex.encode sig.bytes] }
        ∧ tx.raw = .ok raw ∧ key.sign (sha256 raw) = .ok sig
        ∧ tx.rawDataHex ≠ "" ∧ (raw = [] ↔ tx.rawDataHex ∈ bareMarkers))
    ∧ ∀ key answer, Answered node schedule wallet order key answer → answer.error = "" →
      (answer.rawDataHex = "" →
        (transact node schedule wallet order).result = some (.error (.nodeReply .noRawData)))
      ∧ ((∀ raw, ¬ Hex.Spells answer.rawDataHex raw) →
        ∃ fault, (transact node schedule wallet order).result = some (.error (.signing (.rawData fault))))
      ∧ (answer.rawDataHex ∈ bareMarkers →
        (transact node schedule wallet order).result = some (key.sign (sha256 []) >>= fun sig =>
          .ok { answer with signatures := answer.signatures ++ [Hex.encode sig.bytes] })) := by
  constructor
  · intro tx htx
    obtain ⟨answer, key, hanswered, hnonempty, hsign⟩ := answered_of_result htx
    obtain ⟨raw, sig, hspells, hsig, rfl⟩ := sign_eq_ok_iff.1 hsign
    refine ⟨answer, key, raw, sig, hanswered, rfl, raw_eq_ok_iff.2 hspells, hsig, hnonempty, ?_⟩
    constructor
    · rintro rfl
      exact (spells_nil_iff.1 hspells).resolve_left hnonempty
    · intro hbare
      have hnone := Hex.parse_eq_ok_iff.2 (spells_of_mem_bareMarkers hbare).2
      rw [Hex.parse_eq_ok_iff.2 hspells] at hnone
      exact Except.ok.inj hnone
  · intro key answer hanswered herror
    rw [hanswered.result_eq, accept_silent herror]
    refine ⟨?_, ?_, ?_⟩
    · intro hempty
      rw [if_pos hempty, error_bind]
    · intro hunspelled
      have hnonempty : answer.rawDataHex ≠ "" := fun h => hunspelled [] (spells_nil_iff.2 (.inl h))
      obtain ⟨fault, hfault⟩ := sign_of_unspelled key hunspelled
      exact ⟨fault, by rw [if_neg hnonempty, ok_bind, hfault]⟩
    · intro hbare
      obtain ⟨hnonempty, hspells⟩ := spells_of_mem_bareMarkers hbare
      rw [if_neg hnonempty, ok_bind, sign_eq, raw_eq_ok_iff.2 hspells, ok_bind]

/-! ### A signature over nothing -/

namespace Bare

def wallet : Wallet :=
  ⟨.nil, "TCNkawTmcQgYSU8nP8cHswT1QPjharxJr7", "0x04ab", Sample.key.encode, .epoch, none, .tron⟩

def order : Order := ⟨.coin, "TLrPF5aTqtqLxFo1Y69jpQvZ2T4ydkX9pC", "1", none, 1, false⟩

/-- An answer with nothing to sign but a marker. -/
def answer : Transaction := { Transaction.empty with rawDataHex := "0x" }

theorem prepare_eq :
    prepare wallet order = .ok (⟨.transfer ⟨wallet.address, order.recipient, 1, true⟩, false⟩, Sample.key) := by
  decide

theorem answered (answer : Transaction) :
    Answered (fun _ => .ok answer) [⟨false, true⟩] wallet order Sample.key answer :=
  ⟨⟨_, prepare_eq, rfl⟩, rfl⟩

/-- The number that is signed. -/
def digest : Nat := 0xe3b0c44298fc1c149afbf4c8996fb92427ae41e4649b934ca495991b7852b855

theorem digest_eq : Bytes.toNat (sha256 []) = digest := by decide +kernel

theorem signable : Signable Sample.key.scalar digest :=
  signable_of_states
    (.ofNats 0x69d9caf29ea5154d0169b70b6dd39c11760ab658025516db722db744be3d2f86
      0xd64a647dc3755de1b90230757eb5c58134e676fcf41829605f002b5b14e84d2c)
    (.ofNats 0x679fc65b46539f7543c2d7dc4e84288c17c95dcb2220b20a2c06e3f35b60d166
      0x5bd94d2a39f9c7f4f5d394d6c36bf61e24e65b8330d7f55244be6bc9daf5693a)
    0x961c6215b26ddb5ece027353da6a484dc109a5715143f27e60cdac2c344986ad
    (by decide +kernel) (by decide +kernel) (by decide +kernel) (by decide +kernel)

theorem sign_nothing : ∃ sig, Sample.key.sign (sha256 []) = .ok sig := by
  obtain ⟨sig, hsig, -⟩ := PrivateKey.sign_attests (by rw [digest_eq]; exact signable)
  exact ⟨sig, hsig⟩

end Bare

/-- A node that has nothing to sign but a marker gets a signature on it. -/
theorem bare_marker_signed :
    ∃ tx, (transact (fun _ => .ok Bare.answer) [⟨false, true⟩] Bare.wallet Bare.order).result = some (.ok tx)
      ∧ tx.rawDataHex = "0x" ∧ tx.raw = .ok [] ∧ tx.signatures.length = 1 := by
  have haccept : accept (.ok Bare.answer) = .ok Bare.answer := accept_eq_ok_iff.2 ⟨rfl, rfl, by decide⟩
  have hspells : Hex.Spells Bare.answer.rawDataHex [] := (spells_of_mem_bareMarkers (by decide)).2
  obtain ⟨sig, hsig⟩ := Bare.sign_nothing
  have hsigned := sign_eq_ok_iff.2 ⟨[], sig, hspells, hsig, rfl⟩
  refine ⟨{ Bare.answer with signatures := Bare.answer.signatures ++ [Hex.encode sig.bytes] }, ?_, rfl,
    raw_eq_ok_iff.2 hspells, rfl⟩
  rw [(Bare.answered _).result_eq, haccept, ok_bind, hsigned]

theorem transact_signs_bare :
    (transact (fun _ => .ok Transaction.empty) [⟨false, true⟩] Bare.wallet Bare.order).result
      = some (.error (.nodeReply .noRawData))
    ∧ ∃ tx, (transact (fun _ => .ok Bare.answer) [⟨false, true⟩] Bare.wallet Bare.order).result = some (.ok tx)
      ∧ tx.rawDataHex ≠ "" ∧ tx.rawDataHex ∈ bareMarkers := by
  obtain ⟨-, hrefused⟩ := transact_signs (fun _ => .ok Transaction.empty) [⟨false, true⟩] Bare.wallet Bare.order
  obtain ⟨hsigned, hbare⟩ := transact_signs (fun _ => .ok Bare.answer) [⟨false, true⟩] Bare.wallet Bare.order
  refine ⟨(hrefused Sample.key _ (Bare.answered _) rfl).1 rfl, ?_⟩
  have hresult := (hbare Sample.key _ (Bare.answered _) rfl).2.2 (by decide)
  obtain ⟨sig, hsig⟩ := Bare.sign_nothing
  rw [hsig, ok_bind] at hresult
  obtain ⟨answer, key, raw, sig', -, -, -, -, hnonempty, -⟩ := hsigned _ hresult
  exact ⟨_, hresult, hnonempty, show "0x" ∈ bareMarkers by decide⟩

end Keyring.Tron
