import Keyring.Proofs.Evm.Verdict
import Keyring.Proofs.Service.Interleaving
import Keyring.Proofs.Store.Alike
import Keyring.Proofs.Tron.Inquiry
import Keyring.Service

/-! What a private key has an influence on. Two services that differ in private keys only are asked the same things. A
node is asked the same questions by both, and what they answer is the same but for the private keys in the records they
return and for the signatures. Whether a digest can be signed at all is for a key to say, so in the one case that it
cannot, a signature that the other service gives is missing and its absence is reported. -/
namespace Keyring

open Secp256k1

variable {w w' : Wallet}

/-! ### Signatures -/

namespace Evm

/-- What is answered with for a transaction. The signature is all of it that a key decides. -/
def answer (tx : Transaction) : Option Signature → Except Error String
  | some sig => .ok ("0x" ++ Hex.encode (tx.signed sig))
  | none => .error (.signing .nonce)

/-- The order comes to a transaction, whose digest is left for the key of the wallet to sign. -/
structure LeftToSign (w : Wallet) (order : Order) (tx : Transaction) (digest : Nat) (key : PrivateKey) : Prop where
  check : ∃ t, order.check = .ok t ∧ tx = t.transaction
  key : PrivateKey.parse w.privateKey = .ok key
  digest : digest = Bytes.toNat (keccak256 tx.preimage)

theorem transact_eq_answer {c : Chain} {order : Order} {t : Transfer} {key : PrivateKey} (hchain : w.chain = c)
    (hcheck : order.check = .ok t) (hkey : PrivateKey.parse w.privateKey = .ok key) :
    transact c w order =
      answer t.transaction (sign? key.scalar (Bytes.toNat (keccak256 t.transaction.preimage))) := by
  rw [transact, if_neg (not_not.2 hchain), hcheck, hkey, ok_bind, ok_bind, Transaction.sign, PrivateKey.sign]
  cases sign? key.scalar (Bytes.toNat (keccak256 t.transaction.preimage)) <;> rfl

theorem transact_of_foreign {c : Chain} (hchain : w.chain ≠ c) (order : Order) :
    transact c w order = .error (.unknownChain (.foreignWallet w.id w.chain c)) := by
  rw [transact, if_pos hchain]
  rfl

theorem transact_of_check_error {c : Chain} {order : Order} {e : Error} (hchain : w.chain = c)
    (hcheck : order.check = .error e) : transact c w order = .error e := by
  rw [transact, if_neg (not_not.2 hchain), hcheck]
  rfl

theorem transact_alike (h : w.Alike w') {c : Chain} (hc : c ≠ .bitcoin) (order : Order) :
    transact c w order = transact c w' order
    ∨ ∃ tx digest key key', LeftToSign w order tx digest key ∧ LeftToSign w' order tx digest key'
      ∧ transact c w order = answer tx (sign? key.scalar digest)
      ∧ transact c w' order = answer tx (sign? key'.scalar digest) := by
  by_cases hchain : w.chain = c
  · rcases h.key with hkey | hbitcoin | ⟨key, key', hkey, hkey'⟩
    · rw [h.eq_of_key hkey]
      exact .inl rfl
    · exact absurd (hchain.symm.trans hbitcoin) hc
    · -- Keys that differ can both be read, so once the order is checked each call comes to a signature.
      cases hcheck : order.check with
      | error e =>
        refine .inl ?_
        rw [transact_of_check_error hchain hcheck, transact_of_check_error (h.chain ▸ hchain) hcheck]
      | ok t =>
        exact .inr ⟨t.transaction, _, key, key', ⟨⟨t, hcheck, rfl⟩, hkey, rfl⟩, ⟨⟨t, hcheck, rfl⟩, hkey', rfl⟩,
          transact_eq_answer hchain hcheck hkey, transact_eq_answer (h.chain ▸ hchain) hcheck hkey'⟩
  · refine .inl ?_
    rw [transact_of_foreign hchain, transact_of_foreign (h.chain ▸ hchain), h.id, h.chain]

end Evm

namespace Tron

def answer (tx : Transaction) : Option Signature → Except Error Transaction
  | some sig => .ok { tx with signatures := tx.signatures ++ [Hex.encode sig.bytes] }
  | none => .error (.signing .nonce)

/-- The answer to an order holds a transaction, whose digest is left for the key of the wallet to sign. -/
structure LeftToSign (node : Node) (schedule : List Poll) (w : Wallet) (order : Order) (tx : Transaction)
    (digest : Nat) (key : PrivateKey) : Prop where
  answered : settle schedule = .answered
  asked : ∃ query, prepare w order = .ok (query, key) ∧ accept (node query) = .ok tx
  digest : ∃ raw, tx.raw = .ok raw ∧ digest = Bytes.toNat (sha256 raw)

theorem request_alike (h : w.Alike w') (order : Order) (t : Transfer) : request w order t = request w' order t := by
  cases t <;> simp only [request, h.address]

theorem prepare_of_foreign (hchain : w.chain ≠ .tron) (order : Order) :
    prepare w order = .error (.unknownChain (.foreignWallet w.id w.chain .tron)) := by
  rw [prepare, if_pos hchain]
  rfl

theorem prepare_of_check_error {order : Order} {e : Error} (hchain : w.chain = .tron)
    (hcheck : order.check = .error e) : prepare w order = .error e := by
  rw [prepare, if_neg (not_not.2 hchain), hcheck]
  rfl

/-- Both calls are refused with one error, or put one question to the node. -/
theorem prepare_alike (h : w.Alike w') (order : Order) :
    prepare w order = prepare w' order
    ∨ ∃ query key key', prepare w order = .ok (query, key) ∧ prepare w' order = .ok (query, key') := by
  by_cases hchain : w.chain = .tron
  · rcases h.key with hkey | hbitcoin | ⟨key, key', hkey, hkey'⟩
    · rw [h.eq_of_key hkey]
      exact .inl rfl
    · exact nomatch hchain.symm.trans hbitcoin
    · cases hcheck : order.check with
      | error e =>
        refine .inl ?_
        rw [prepare_of_check_error hchain hcheck, prepare_of_check_error (h.chain ▸ hchain) hcheck]
      | ok t =>
        refine .inr ⟨_, key, key', prepare_eq_ok_iff.2 ⟨hchain, t, hcheck, hkey, rfl⟩,
          prepare_eq_ok_iff.2 ⟨h.chain ▸ hchain, t, hcheck, hkey', ?_⟩⟩
        rw [request_alike h]
  · refine .inl ?_
    rw [prepare_of_foreign hchain, prepare_of_foreign (h.chain ▸ hchain), h.id, h.chain]

theorem signed_alike (reply : Reply) (key key' : PrivateKey) :
    accept reply >>= Transaction.sign key = accept reply >>= Transaction.sign key'
    ∨ ∃ tx raw, accept reply = .ok tx ∧ tx.raw = .ok raw
      ∧ accept reply >>= Transaction.sign key = answer tx (sign? key.scalar (Bytes.toNat (sha256 raw)))
      ∧ accept reply >>= Transaction.sign key' = answer tx (sign? key'.scalar (Bytes.toNat (sha256 raw))) := by
  have hsign : ∀ (tx : Transaction) (raw : Bytes) (key : PrivateKey), tx.raw = .ok raw →
      tx.sign key = answer tx (sign? key.scalar (Bytes.toNat (sha256 raw))) := by
    intro tx raw key hraw
    rw [Transaction.sign, hraw, ok_bind, PrivateKey.sign]
    cases sign? key.scalar (Bytes.toNat (sha256 raw)) <;> rfl
  cases accept reply with
  | error e =>
    rw [error_bind, error_bind]
    exact .inl rfl
  | ok tx =>
    rw [ok_bind, ok_bind]
    cases hraw : tx.raw with
    | error e =>
      refine .inl ?_
      rw [Transaction.sign, Transaction.sign, hraw, error_bind, error_bind]
    | ok raw => exact .inr ⟨tx, raw, rfl, hraw, hsign tx raw key hraw, hsign tx raw key' hraw⟩

theorem transact_alike (h : w.Alike w') (node : Node) (schedule : List Poll) (order : Order) :
    (transact node schedule w order).queries = (transact node schedule w' order).queries
    ∧ ((transact node schedule w order).result = (transact node schedule w' order).result
      ∨ ∃ tx digest key key', LeftToSign node schedule w order tx digest key
        ∧ LeftToSign node schedule w' order tx digest key'
        ∧ (transact node schedule w order).result = some (answer tx (sign? key.scalar digest))
        ∧ (transact node schedule w' order).result = some (answer tx (sign? key'.scalar digest))) := by
  rcases prepare_alike h order with hsame | ⟨query, key, key', hprepare, hprepare'⟩
  · rw [transact, transact, hsame]
    exact ⟨rfl, .inl rfl⟩
  · simp only [transact, hprepare, hprepare']
    refine ⟨trivial, ?_⟩
    cases hsettle : settle schedule with
    | pending | cancelled => exact .inl rfl
    | answered =>
      rcases signed_alike (node query) key key' with hsigned | ⟨tx, raw, haccept, hraw, hsig, hsig'⟩
      · exact .inl (congrArg some hsigned)
      · exact .inr ⟨tx, _, key, key', ⟨hsettle, ⟨query, hprepare, haccept⟩, raw, hraw, rfl⟩,
          ⟨hsettle, ⟨query, hprepare', haccept⟩, raw, hraw, rfl⟩, congrArg some hsig, congrArg some hsig'⟩

end Tron

/-! ### Calls and replies -/

namespace Dialogue

inductive Call where
  | get (id : Uuid) (trashed : Bool)
  | list (trashed : Bool)
  | delete (id : Uuid) (now : Timestamp)
  | supported
  | signEvm (c : Chain) (w : Wallet) (order : Evm.Order)
  | signTron (node : Tron.Node) (schedule : List Tron.Poll) (w : Wallet) (order : Tron.Order)

/-- The calls are the same but for the private keys in what they are given. -/
inductive Call.Alike : Call → Call → Prop where
  | refl (c : Call) : Call.Alike c c
  | signEvm (c : Chain) {w w' : Wallet} (h : w.Alike w') (order : Evm.Order) :
    Call.Alike (.signEvm c w order) (.signEvm c w' order)
  | signTron (node : Tron.Node) (schedule : List Tron.Poll) {w w' : Wallet} (h : w.Alike w') (order : Tron.Order) :
    Call.Alike (.signTron node schedule w order) (.signTron node schedule w' order)

/-- Each digest that the call comes to has a signature under its key. -/
def Call.Signable : Call → Prop
  | .signEvm _ w order =>
    ∀ tx digest key, Evm.LeftToSign w order tx digest key → ∃ sig, sign? key.scalar digest = some sig
  | .signTron node schedule w order =>
    ∀ tx digest key, Tron.LeftToSign node schedule w order tx digest key → ∃ sig, sign? key.scalar digest = some sig
  | _ => True

inductive Reply where
  | wallet (answer : Except Error Wallet)
  | wallets (answer : Except Error (List Wallet))
  | deleted (answer : Except Error Unit)
  | chains (cs : List Chain)
  | signed (answer : Except Error String)
  | exchanged (x : Tron.Exchange)

namespace Reply

/-- What is shown of the wallets in a reply. -/
def texts : Reply → List String
  | wallet (.ok w) => [w.view.toText]
  | wallets (.ok ws) => ws.map fun w => w.view.toText
  | _ => []

/-- What the node is asked on the way to a reply. -/
def queries : Reply → List Tron.Query
  | exchanged x => x.queries
  | _ => []

def error? : Reply → Option Error
  | wallet (.error e) | wallets (.error e) | deleted (.error e) | signed (.error e) => some e
  | exchanged ⟨_, some (.error e)⟩ => some e
  | _ => none

theorem error?_signed (tx : Evm.Transaction) (sig : Option Signature) :
    (signed (Evm.answer tx sig)).error? = if sig = none then some (.signing .nonce) else none := by
  cases sig <;> rfl

theorem error?_exchanged (queries : List Tron.Query) (tx : Tron.Transaction) (sig : Option Signature) :
    (exchanged ⟨queries, some (Tron.answer tx sig)⟩).error? =
      if sig = none then some (.signing .nonce) else none := by
  cases sig <;> rfl

/-- The replies are the same but for the private keys of wallets and the signatures of transactions. -/
inductive Agree : Reply → Reply → Prop where
  | wallet {a b : Except Error Wallet} (h : Both Wallet.Alike a b) : Agree (.wallet a) (.wallet b)
  | wallets {a b : Except Error (List Wallet)} (h : Both (List.Forall₂ Wallet.Alike) a b) :
    Agree (.wallets a) (.wallets b)
  | same (r : Reply) : Agree r r
  | signed (tx : Evm.Transaction) (digest : Nat) (key key' : PrivateKey) :
    Agree (.signed (Evm.answer tx (sign? key.scalar digest))) (.signed (Evm.answer tx (sign? key'.scalar digest)))
  | exchanged (queries : List Tron.Query) (tx : Tron.Transaction) (digest : Nat) (key key' : PrivateKey) :
    Agree (.exchanged ⟨queries, some (Tron.answer tx (sign? key.scalar digest))⟩)
      (.exchanged ⟨queries, some (Tron.answer tx (sign? key'.scalar digest))⟩)

namespace Agree

variable {r r' : Reply}

theorem texts (h : Agree r r') : r.texts = r'.texts := by
  cases h with
  | wallet h =>
    cases h with
    | error e => rfl
    | ok h => simp only [Reply.texts, h.view]
  | wallets h =>
    cases h with
    | error e => rfl
    | ok h =>
      simp only [Reply.texts]
      induction h with
      | nil => rfl
      | cons h _ ih => rw [List.map_cons, List.map_cons, h.view, ih]
  | same => rfl
  | signed | exchanged => simp only [Reply.texts]

theorem queries (h : Agree r r') : r.queries = r'.queries := by
  cases h <;> simp only [Reply.queries]

/-- One fails as the other does, unless there is no signature. -/
theorem error? (h : Agree r r') :
    r.error? = r'.error? ∨ r.error? = some (.signing .nonce) ∨ r'.error? = some (.signing .nonce) := by
  cases h with
  | wallet h => cases h <;> exact .inl rfl
  | wallets h => cases h <;> exact .inl rfl
  | same => exact .inl rfl
  | signed tx digest key key' =>
    rw [error?_signed, error?_signed]
    cases sign? key.scalar digest <;> cases sign? key'.scalar digest <;> simp
  | exchanged queries tx digest key key' =>
    rw [error?_exchanged, error?_exchanged]
    cases sign? key.scalar digest <;> cases sign? key'.scalar digest <;> simp

end Agree

/-- The replies agree, and fail alike if every digest can be signed. -/
structure Concealed (signable : Prop) (r r' : Reply) : Prop where
  agree : Agree r r'
  error? : signable → r.error? = r'.error?

namespace Concealed

variable {signable : Prop} {r r' : Reply}

theorem same (r : Reply) : Concealed signable r r := ⟨.same r, fun _ => rfl⟩

theorem wallet {a b : Except Error Wallet} (h : Both Wallet.Alike a b) :
    Concealed signable (.wallet a) (.wallet b) where
  agree := .wallet h
  error? := fun _ => by cases h <;> rfl

theorem wallets {a b : Except Error (List Wallet)} (h : Both (List.Forall₂ Wallet.Alike) a b) :
    Concealed signable (.wallets a) (.wallets b) where
  agree := .wallets h
  error? := fun _ => by cases h <;> rfl

/-- What is signed or not fails alike where there are signatures. -/
theorem of_signatures {sig sig' : Option Signature} (agree : Agree r r')
    (hr : r.error? = if sig = none then some (.signing .nonce) else none)
    (hr' : r'.error? = if sig' = none then some (.signing .nonce) else none)
    (h : signable → (∃ s, sig = some s) ∧ ∃ s, sig' = some s) : Concealed signable r r' where
  agree := agree
  error? := by
    intro hsignable
    obtain ⟨⟨s, rfl⟩, s', rfl⟩ := h hsignable
    rw [hr, hr', if_neg (by simp), if_neg (by simp)]

end Concealed
end Reply

variable {σ : Type} {v v' : Service σ}

def step (v : Service σ) : Call → Reply × Service σ
  | .get id trashed => (.wallet (v.get id trashed), v)
  | .list trashed => (.wallets (v.list trashed), v)
  | .delete id now => (.deleted (v.delete id now).1, (v.delete id now).2)
  | .supported => (.chains v.supported, v)
  | .signEvm c w order => (.signed (v.evmTransaction c w order), v)
  | .signTron node schedule w order => (.exchanged (v.tronTransaction node schedule w order), v)

/-- Calls one after the other, and their replies. -/
def run (v : Service σ) : List Call → List Reply × Service σ
  | [] => ([], v)
  | c :: cs => ((step v c).1 :: (run (step v c).2 cs).1, (run (step v c).2 cs).2)

/-! ### Two services -/

/-- The services have the same providers, and stores that differ in private keys only. -/
structure Twins (v v' : Service σ) : Prop where
  registry : v.registry = v'.registry
  store : v.store.Alike v'.store

namespace Twins

theorem get (h : Twins v v') (id : Uuid) (trashed : Bool) : Both Wallet.Alike (v.get id trashed) (v'.get id trashed) :=
  (h.store.get id trashed).mapError _

theorem list (h : Twins v v') (trashed : Bool) :
    Both (List.Forall₂ Wallet.Alike) (v.list trashed) (v'.list trashed) :=
  (h.store.list trashed).mapError _

theorem delete (h : Twins v v') (id : Uuid) (now : Timestamp) :
    (v.delete id now).1 = (v'.delete id now).1 ∧ Twins (v.delete id now).2 (v'.delete id now).2 := by
  have hget := h.get id false
  rw [Service.delete, Service.delete]
  generalize v.get id false = x at hget ⊢
  generalize v'.get id false = y at hget ⊢
  cases hget with
  | error e => exact ⟨rfl, h⟩
  | ok halike =>
    dsimp only
    obtain ⟨hanswer, hstore⟩ := h.store.softDelete halike now
    rw [Service.trash_eq, Service.trash_eq]
    refine ⟨?_, h.registry, hstore⟩
    dsimp only
    generalize (v.store.softDelete _ now).1 = x at hanswer ⊢
    generalize (v'.store.softDelete _ now).1 = y at hanswer ⊢
    cases hanswer <;> rfl

theorem evmTransaction (h : Twins v v') (c : Chain) (hw : w.Alike w') (order : Evm.Order) :
    Reply.Concealed (Call.Signable (.signEvm c w order) ∧ Call.Signable (.signEvm c w' order))
      (.signed (v.evmTransaction c w order)) (.signed (v'.evmTransaction c w' order)) := by
  rw [Service.evmTransaction, Service.evmTransaction, Service.signer, Service.signer, ← h.registry]
  split
  · exact .same _
  · next chain isEvm source _ =>
    split
    · have hchain : chain ≠ .bitcoin := by
        rintro rfl
        cases isEvm
      rcases Evm.transact_alike hw hchain order with hsame | ⟨tx, digest, key, key', hleft, hleft', hsig, hsig'⟩
      · rw [hsame]
        exact .same _
      · rw [hsig, hsig']
        exact .of_signatures (.signed tx digest key key') (Reply.error?_signed ..) (Reply.error?_signed ..)
          fun hs => ⟨hs.1 tx digest key hleft, hs.2 tx digest key' hleft'⟩
    · exact .same _
  · exact .same _

theorem tronTransaction (h : Twins v v') (node : Tron.Node) (schedule : List Tron.Poll) (hw : w.Alike w')
    (order : Tron.Order) :
    Reply.Concealed
      (Call.Signable (.signTron node schedule w order) ∧ Call.Signable (.signTron node schedule w' order))
      (.exchanged (v.tronTransaction node schedule w order))
      (.exchanged (v'.tronTransaction node schedule w' order)) := by
  rw [Service.tronTransaction, Service.tronTransaction, Service.signer, Service.signer, ← h.registry]
  split
  · exact .same _
  · obtain ⟨hqueries, hresult⟩ := Tron.transact_alike hw node schedule order
    generalize Tron.transact node schedule w order = x at hqueries hresult ⊢
    generalize Tron.transact node schedule w' order = y at hqueries hresult ⊢
    obtain ⟨queries, result⟩ := x
    obtain ⟨queries', result'⟩ := y
    obtain rfl : queries = queries' := hqueries
    rcases hresult with hsame | ⟨tx, digest, key, key', hleft, hleft', hsig, hsig'⟩
    · obtain rfl : result = result' := hsame
      exact .same _
    · obtain rfl : result = _ := hsig
      obtain rfl : result' = _ := hsig'
      exact .of_signatures (.exchanged queries tx digest key key') (Reply.error?_exchanged ..)
        (Reply.error?_exchanged ..) fun hs => ⟨hs.1 tx digest key hleft, hs.2 tx digest key' hleft'⟩
  · exact .same _

theorem step (h : Twins v v') {c c' : Call} (hc : c.Alike c') :
    Reply.Concealed (c.Signable ∧ c'.Signable) (step v c).1 (step v' c').1 ∧ Twins (step v c).2 (step v' c').2 := by
  cases hc with
  | signEvm c hw order => exact ⟨h.evmTransaction c hw order, h⟩
  | signTron node schedule hw order => exact ⟨h.tronTransaction node schedule hw order, h⟩
  | refl =>
    cases c with
    | get id trashed => exact ⟨.wallet (h.get id trashed), h⟩
    | list trashed => exact ⟨.wallets (h.list trashed), h⟩
    | delete id now =>
      obtain ⟨hanswer, hnext⟩ := h.delete id now
      refine ⟨?_, hnext⟩
      simp only [Dialogue.step, hanswer]
      exact .same _
    | supported =>
      refine ⟨?_, h⟩
      simp only [Dialogue.step, Service.supported, h.registry]
      exact .same _
    | signEvm c w order => exact ⟨h.evmTransaction c (.refl w) order, h⟩
    | signTron node schedule w order => exact ⟨h.tronTransaction node schedule (.refl w) order, h⟩

theorem run (h : Twins v v') {cs cs' : List Call} (hcs : List.Forall₂ Call.Alike cs cs') :
    List.Forall₂ Reply.Agree (run v cs).1 (run v' cs').1
    ∧ ((∀ c ∈ cs, c.Signable) → (∀ c ∈ cs', c.Signable) →
        (run v cs).1.map Reply.error? = (run v' cs').1.map Reply.error?)
    ∧ Twins (run v cs).2 (run v' cs').2 := by
  induction hcs generalizing v v' with
  | nil => exact ⟨.nil, fun _ _ => rfl, h⟩
  | cons hc _ ih =>
    obtain ⟨hreply, hnext⟩ := h.step hc
    obtain ⟨hreplies, herrors, hlast⟩ := ih hnext
    refine ⟨.cons hreply.agree hreplies, fun hs hs' => ?_, hlast⟩
    rw [List.forall_mem_cons] at hs hs'
    rw [Dialogue.run, Dialogue.run, List.map_cons, List.map_cons, hreply.error? ⟨hs.1, hs'.1⟩, herrors hs.2 hs'.2]

end Twins

/-- Two services that differ in private keys only go alike through any calls that differ in them only: what is shown of
wallets is the same, the node is asked the same questions, and every reply is the same but for private keys and
signatures. So each call fails or succeeds for both, with the same error, unless one of them has no signature. If
every digest that the calls come to can be signed, all errors are the same. -/
theorem run_conceals {cs cs' : List Call} (h : Twins v v') (hcs : List.Forall₂ Call.Alike cs cs') :
    (run v cs).1.map Reply.texts = (run v' cs').1.map Reply.texts
    ∧ (run v cs).1.map Reply.queries = (run v' cs').1.map Reply.queries
    ∧ List.Forall₂ Reply.Agree (run v cs).1 (run v' cs').1
    ∧ List.Forall₂ (fun r r' => r.error? = r'.error? ∨ r.error? = some (.signing .nonce)
        ∨ r'.error? = some (.signing .nonce)) (run v cs).1 (run v' cs').1
    ∧ ((∀ c ∈ cs, c.Signable) → (∀ c ∈ cs', c.Signable) →
        (run v cs).1.map Reply.error? = (run v' cs').1.map Reply.error?)
    ∧ Twins (run v cs).2 (run v' cs').2 := by
  obtain ⟨hreplies, herrors, htwins⟩ := h.run hcs
  refine ⟨?_, ?_, hreplies, hreplies.imp fun _ _ => Reply.Agree.error?, herrors, htwins⟩
  · rw [← List.forall₂_eq_eq_eq, List.forall₂_map_left_iff, List.forall₂_map_right_iff]
    exact hreplies.imp fun _ _ => Reply.Agree.texts
  · rw [← List.forall₂_eq_eq_eq, List.forall₂_map_left_iff, List.forall₂_map_right_iff]
    exact hreplies.imp fun _ _ => Reply.Agree.queries

namespace Sample

def wallet (privateKey : String) : Wallet := { Evm.Sample.wallet with privateKey }

def service (privateKey : String) : Service Entropy :=
  ⟨Store.empty.write .nil (wallet privateKey), .full Entropy.source⟩

def calls (privateKey : String) : List Call :=
  [.get .nil false, .signEvm .ethereum (wallet privateKey) Evm.Sample.order, .delete .nil .epoch, .get .nil false,
    .list true]

section

variable {text text' : String} {key key' : PrivateKey}

theorem wallet_alike (h : PrivateKey.parse text = .ok key) (h' : PrivateKey.parse text' = .ok key') :
    (wallet text).Alike (wallet text') where
  view := by simp only [Wallet.view, wallet]
  key := .inr (.inr ⟨key, key', h, h'⟩)

theorem twins (h : PrivateKey.parse text = .ok key) (h' : PrivateKey.parse text' = .ok key') :
    Twins (service text) (service text') where
  registry := rfl
  store := Store.Alike.write ⟨.refl _, rfl⟩ .nil (wallet_alike h h')

theorem calls_alike (h : PrivateKey.parse text = .ok key) (h' : PrivateKey.parse text' = .ok key') :
    List.Forall₂ Call.Alike (calls text) (calls text') :=
  .cons (.refl _) (.cons (.signEvm .ethereum (wallet_alike h h') Evm.Sample.order)
    (.cons (.refl _) (.cons (.refl _) (.cons (.refl _) .nil))))

theorem calls_signable (h : PrivateKey.parse text = .ok key) (hkey : Signable key.scalar Evm.Sample.digest) :
    ∀ c ∈ calls text, c.Signable := by
  rw [calls, List.forall_mem_cons, List.forall_mem_cons, List.forall_mem_cons, List.forall_mem_cons,
    List.forall_mem_singleton]
  refine ⟨trivial, ?_, trivial, trivial, trivial⟩
  rintro tx digest key' ⟨⟨t, ht, rfl⟩, hkey', rfl⟩
  rw [Evm.Sample.check_order] at ht
  cases ht
  obtain rfl : key = key' := Except.ok.inj (h.symm.trans hkey')
  obtain ⟨sig, hsig, -⟩ := signable_iff.1 hkey
  exact ⟨sig, by rw [Evm.Sample.digest_eq, hsig]⟩

end

/-- The key 1. -/
def unit : PrivateKey := ⟨1, by decide, by decide⟩

/-- The key of the sample, without the mark in front of its digits. -/
def bare : String := "0101010101010101010101010101010101010101010101010101010101010101"

theorem parse_bare : PrivateKey.parse bare = .ok Evm.Sample.key := by decide +kernel

end Sample

/-- A wallet is read, signs, is deleted, looked for and listed: with the key 1 and with another key, and with two
spellings of one key. -/
theorem run_conceals_sample :
    (run (Sample.service Sample.unit.encode) (Sample.calls Sample.unit.encode)).1.map Reply.texts =
      (run (Sample.service Evm.Sample.key.encode) (Sample.calls Evm.Sample.key.encode)).1.map Reply.texts
    ∧ (run (Sample.service Sample.bare) (Sample.calls Sample.bare)).1.map Reply.error? =
      (run (Sample.service Evm.Sample.key.encode) (Sample.calls Evm.Sample.key.encode)).1.map Reply.error? := by
  have hunit := PrivateKey.parse_encode Sample.unit
  have hkey := PrivateKey.parse_encode Evm.Sample.key
  obtain ⟨htexts, -⟩ := run_conceals (Sample.twins hunit hkey) (Sample.calls_alike hunit hkey)
  obtain ⟨-, -, -, -, herrors, -⟩ :=
    run_conceals (Sample.twins Sample.parse_bare hkey) (Sample.calls_alike Sample.parse_bare hkey)
  exact ⟨htexts, herrors (Sample.calls_signable Sample.parse_bare Evm.Sample.signable)
    (Sample.calls_signable hkey Evm.Sample.signable)⟩

end Dialogue
end Keyring
