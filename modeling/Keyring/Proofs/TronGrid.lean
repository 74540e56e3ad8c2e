import Keyring.Proofs.Tron.Verdict
import Keyring.Service
import Keyring.TronGrid

/-! Which answers of the web service lead to a signature. The status, the shape of the body, the flag on a call to a
contract, the complaint and the digits of the transaction are each judged in turn, and one fault among them is
enough to refuse. -/
namespace Keyring.TronGrid

open Tron

/-- The answer to a call says `true` in the field `result` of its own `result`. -/
def SaysAccepted (body : String) : Prop :=
  ∃ v, Json.parse? body = some v ∧
    ∃ result transaction, v.slots? ["result", "transaction"] = some [.given result, transaction] ∧
      ∃ code message, result.slots? ["result", "code", "message"] = some [.given (.bool true), code, message]

theorem asBool?_eq_true_iff {slot : Json.Slot} :
    slot.orElse Json.asBool? false = some true ↔ slot = .given (.bool true) := by
  cases slot with
  | given v => cases v <;> simp [Json.Slot.orElse, Json.asBool?]
  | absent => simp [Json.Slot.orElse]
  | short => simp [Json.Slot.orElse]

theorem ofResult?_accepted_iff {v : Json} {accepted : Bool} {code message : String}
    (h : ContractCallResponse.ofResult? v = some (accepted, code, message)) :
    accepted = true ↔ ∃ c m, v.slots? ["result", "code", "message"] = some [.given (.bool true), c, m] := by
  rw [ContractCallResponse.ofResult?] at h
  split at h
  · next slot c m hslots =>
    obtain ⟨accepted', haccepted, h⟩ := Option.bind_eq_some_iff.1 h
    obtain ⟨code', -, h⟩ := Option.bind_eq_some_iff.1 h
    obtain ⟨message', -, h⟩ := Option.bind_eq_some_iff.1 h
    cases h
    rw [hslots]
    simp only [Option.some.injEq, List.cons.injEq, and_true, exists_and_left, exists_eq']
    rw [← asBool?_eq_true_iff, haccepted, Option.some.injEq]
  · cases h

/-- A call counts as accepted only if the answer says so in so many words: what is left out stands for a refusal. -/
theorem accepted_iff {body : String} {r : ContractCallResponse} (h : ContractCallResponse.ofText? body = some r) :
    r.accepted = true ↔ SaysAccepted body := by
  obtain ⟨v, hv, h⟩ := Option.bind_eq_some_iff.1 h
  rw [ContractCallResponse.ofJson?] at h
  split at h
  · next result transaction hslots =>
    obtain ⟨⟨accepted, code, message⟩, hresult, h⟩ := Option.bind_eq_some_iff.1 h
    obtain ⟨tx, -, h⟩ := Option.bind_eq_some_iff.1 h
    cases h
    simp only [SaysAccepted, hv, Option.some.injEq, exists_eq_left', hslots, List.cons.injEq, and_true]
    cases result with
    | given result => simpa using ofResult?_accepted_iff hresult
    | absent =>
      cases hresult
      simp
    | short =>
      cases hresult
      simp
  · cases h

/-! ### The judgement -/

/-- The body is of the type that its endpoint answers with. -/
def Parses (request : Request) (body : String) : Prop :=
  match request with
  | .transfer _ => ∃ tx, Transaction.ofText? body = some tx
  | .contractCall _ => ∃ r, ContractCallResponse.ofText? body = some r

/-- The body holds a transaction, and no refusal of a call. -/
def Offers (request : Request) (body : String) (tx : Transaction) : Prop :=
  match request with
  | .transfer _ => Transaction.ofText? body = some tx
  | .contractCall _ =>
    SaysAccepted body ∧ ∃ code message, ContractCallResponse.ofText? body = some ⟨true, code, message, tx⟩

/-- What a status and a body lead to: the one way to a signature, and the error for each way to miss it. -/
structure Judged (request : Request) (key : PrivateKey) (status : Nat) (body : String)
    (result : Except Error Transaction) : Prop where
  signed : ∀ signed, result = .ok signed ↔ ∃ tx raw sig, status = 200 ∧ Offers request body tx
    ∧ tx.error = "" ∧ tx.rawDataHex ≠ "" ∧ Hex.Spells tx.rawDataHex raw ∧ key.sign (sha256 raw) = .ok sig
    ∧ signed = { tx with signatures := tx.signatures ++ [Hex.encode sig.bytes] }
  badStatus : status ≠ 200 → result = .error (.node (.status status body))
  unreadable : status = 200 → ¬ Parses request body → ∃ reason, result = .error (.node (.malformed reason))
  refused : ∀ call r, status = 200 → request = .contractCall call → ContractCallResponse.ofText? body = some r →
    ¬ SaysAccepted body → ∃ e, result = .error e ∧ Complains r.message (r.code ++ ": " ++ r.message) e
  reported : ∀ tx, status = 200 → Offers request body tx → tx.error ≠ "" →
    ∃ e, result = .error e ∧ Complains tx.error tx.error e
  withoutData : ∀ tx, status = 200 → Offers request body tx → tx.error = "" → tx.rawDataHex = "" →
    ∃ fault, result = .error (.nodeReply fault) ∧ fault.message = "transaction has no raw_data_hex"
  misspelled : ∀ tx, status = 200 → Offers request body tx → tx.error = "" → tx.rawDataHex ≠ "" →
    (∀ raw, ¬ Hex.Spells tx.rawDataHex raw) → ∃ fault, result = .error (.signing (.rawData fault))
  unsignable : ∀ tx raw e, status = 200 → Offers request body tx → tx.error = "" → tx.rawDataHex ≠ "" →
    Hex.Spells tx.rawDataHex raw → key.sign (sha256 raw) = .error e → result = .error e

theorem readBody_eq_ok_iff {request : Request} {body : String} {tx : Transaction} :
    readBody request body = .ok tx ↔ Offers request body tx := by
  cases request with
  | transfer r =>
    simp only [readBody, Offers]
    cases Transaction.ofText? body <;> simp
  | contractCall r =>
    simp only [readBody, Offers]
    cases hr : ContractCallResponse.ofText? body with
    | none => simp
    | some r =>
      obtain ⟨accepted, code, message, tx'⟩ := r
      have haccepted := accepted_iff hr
      cases accepted <;> simp_all

theorem readBody_unreadable {request : Request} {body : String} (h : ¬ Parses request body) :
    ∃ reason, readBody request body = .error (.malformed reason) := by
  cases request with
  | transfer r =>
    have hnone : Transaction.ofText? body = none := Option.eq_none_iff_forall_ne_some.2 fun tx htx => h ⟨tx, htx⟩
    exact ⟨_, by rw [readBody, hnone]⟩
  | contractCall r =>
    have hnone : ContractCallResponse.ofText? body = none :=
      Option.eq_none_iff_forall_ne_some.2 fun r hr => h ⟨r, hr⟩
    exact ⟨_, by rw [readBody, hnone]⟩

theorem readBody_refused {call : ContractCallRequest} {body : String} {r : ContractCallResponse}
    (hr : ContractCallResponse.ofText? body = some r) (h : ¬ SaysAccepted body) :
    readBody (.contractCall call) body = .error (.rejected r.code r.message) := by
  have haccepted : ¬ r.accepted = true := fun haccepted => h ((accepted_iff hr).1 haccepted)
  rw [readBody, hr]
  simp [haccepted]

theorem reply_of_ok {request : Request} {status : Nat} {body : String} (h : status = 200) :
    reply request (.answered status body) = readBody request body := if_pos h

theorem reply_eq_ok_iff {request : Request} {status : Nat} {body : String} {tx : Transaction} :
    reply request (.answered status body) = .ok tx ↔ status = 200 ∧ Offers request body tx := by
  rw [← readBody_eq_ok_iff, reply]
  split <;> simp [*]

theorem judged_reply (request : Request) (key : PrivateKey) (status : Nat) (body : String) :
    Judged request key status body (accept (reply request (.answered status body)) >>= Transaction.sign key) := by
  have hrefuse {e : Error} (h : accept (reply request (.answered status body)) = .error e) :
      accept (reply request (.answered status body)) >>= Transaction.sign key = .error e := by
    rw [h, error_bind]
  have hpass {tx : Transaction} (hstatus : status = 200) (htx : Offers request body tx) (herror : tx.error = "")
      (hraw : tx.rawDataHex ≠ "") :
      accept (reply request (.answered status body)) >>= Transaction.sign key = tx.sign key := by
    rw [accept_eq_ok_iff.2 ⟨reply_eq_ok_iff.2 ⟨hstatus, htx⟩, herror, hraw⟩, ok_bind]
  constructor
  case signed =>
    intro signed
    simp only [bind_eq_ok_iff, accept_eq_ok_iff, reply_eq_ok_iff, sign_eq_ok_iff]
    constructor
    · rintro ⟨tx, ⟨⟨hstatus, htx⟩, herror, hraw⟩, raw, sig, hspells, hsig, rfl⟩
      exact ⟨tx, raw, sig, hstatus, htx, herror, hraw, hspells, hsig, rfl⟩
    · rintro ⟨tx, raw, sig, hstatus, htx, herror, hraw, hspells, hsig, rfl⟩
      exact ⟨tx, ⟨⟨hstatus, htx⟩, herror, hraw⟩, raw, sig, hspells, hsig, rfl⟩
  case badStatus =>
    intro hstatus
    apply hrefuse
    rw [reply, if_neg hstatus]
    rfl
  case unreadable =>
    intro hstatus hparses
    obtain ⟨reason, hreason⟩ := readBody_unreadable hparses
    refine ⟨reason, hrefuse ?_⟩
    rw [reply_of_ok hstatus, hreason]
    rfl
  case refused =>
    rintro call r hstatus rfl hr hrefusal
    obtain ⟨e, he, hcomplains⟩ := accept_rejected r.code r.message
    refine ⟨e, hrefuse ?_, hcomplains⟩
    rw [reply_of_ok hstatus, readBody_refused hr hrefusal, he]
  case reported =>
    intro tx hstatus htx herror
    obtain ⟨e, he, hcomplains⟩ := accept_reported herror
    refine ⟨e, hrefuse ?_, hcomplains⟩
    rw [reply_eq_ok_iff.2 ⟨hstatus, htx⟩, he]
  case withoutData =>
    intro tx hstatus htx herror hraw
    refine ⟨.noRawData, hrefuse ?_, rfl⟩
    rw [reply_eq_ok_iff.2 ⟨hstatus, htx⟩, accept_silent herror, if_pos hraw]
  case misspelled =>
    intro tx hstatus htx herror hraw hspells
    rw [hpass hstatus htx herror hraw]
    exact sign_of_unspelled key hspells
  case unsignable =>
    intro tx raw e hstatus htx herror hraw hspells he
    rw [hpass hstatus htx herror hraw]
    exact sign_of_unsignable hspells he

variable {σ : Type}

/-- Once an order is in order and its answer awaited, the status and body that the web service sends decide the
result. -/
theorem tronTransaction_judged (v : Service σ) (config : Config) (send : HttpRequest → HttpOutcome)
    (schedule : List Poll) (wallet : Wallet) (order : Order) {source : Source σ} {query : Query} {key : PrivateKey}
    {status : Nat} {body : String} (hsigner : v.signer .tron = .ok (.tron source))
    (hprepare : prepare wallet order = .ok (query, key)) (hsettle : settle schedule = .answered)
    (hsend : send (request config query) = .answered status body) :
    ∃ result, (v.tronTransaction (node config send) schedule wallet order).result = some result
      ∧ Judged query.request key status body result := by
  refine ⟨_, ?_, judged_reply query.request key status body⟩
  rw [Service.tronTransaction, hsigner]
  simp only [transact, hprepare, hsettle, node, hsend]

/-- A wallet with the smallest key. -/
def smallWallet : Wallet where
  id := .nil
  address := "TBREsCfBdPyD612xZnwvGPux7osbXvtzLh"
  publicKey := ""
  privateKey := "0000000000000000000000000000000000000000000000000000000000000001"
  createdAt := .epoch
  deletedAt := none
  chain := .tron

/-- An order for one coin on the test network. -/
def smallOrder : Order := ⟨.coin, "TBREsCfBdPyD612xZnwvGPux7osbXvtzLh", "1", none, 0, true⟩

/-- A service that cannot build transactions leaves the smallest order unsigned. -/
theorem tronTransaction_of_bad_gateway :
    ((⟨.empty, .full Entropy.source⟩ : Service Entropy).tronTransaction
      (node ⟨defaultMainnetUrl, defaultTestnetUrl, none, 5⟩ fun _ => .answered 502 "upstream down")
      [⟨false, true⟩] smallWallet smallOrder).result = some (.error (.node (.status 502 "upstream down"))) := by
  obtain ⟨result, hresult, hjudged⟩ := @tronTransaction_judged _ (⟨.empty, .full Entropy.source⟩ : Service Entropy)
    ⟨defaultMainnetUrl, defaultTestnetUrl, none, 5⟩ (fun _ => .answered 502 "upstream down") [⟨false, true⟩]
    smallWallet smallOrder Entropy.source ⟨.transfer ⟨smallWallet.address, smallOrder.recipient, 1, true⟩, true⟩
    ⟨1, by decide, by decide⟩ 502 "upstream down" rfl rfl rfl rfl
  rw [hresult, hjudged.badStatus (by decide)]

end Keyring.TronGrid
