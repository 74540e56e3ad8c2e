import Mathlib.Data.List.Forall2
import Keyring.PrivateKey
import Keyring.Proofs.Wallet.Record
import Keyring.Store

/-! Stores that differ in private keys and nothing else. Where two wallets have different keys both must be readable,
unless the chain never reads them. What such stores answer differs in private keys only, and what operations leave of
them still does. -/
namespace Keyring

variable {α α' β β' ε ε' : Type}

/-! ### Related outcomes -/

/-- Both fail with one error, or both succeed with values that are related. -/
inductive Both (R : α → β → Prop) : Except ε α → Except ε β → Prop where
  | error (e : ε) : Both R (.error e) (.error e)
  | ok {a : α} {b : β} (related : R a b) : Both R (.ok a) (.ok b)

namespace Both

variable {R : α → β → Prop} {S : α' → β' → Prop} {x : Except ε α} {y : Except ε β}

theorem mapError (h : Both R x y) (g : ε → ε') : Both R (x.mapError g) (y.mapError g) := by
  cases h with
  | error e => exact .error (g e)
  | ok related => exact .ok related

theorem map (h : Both R x y) {f : α → α'} {g : β → β'} (hfg : ∀ a b, R a b → S (f a) (g b)) :
    Both S (x.map f) (y.map g) := by
  cases h with
  | error e => exact .error e
  | ok related => exact .ok (hfg _ _ related)

theorem mapM {f : α → Except ε α'} {g : β → Except ε β'} (hfg : ∀ a b, R a b → Both S (f a) (g b)) {as : List α}
    {bs : List β} (h : List.Forall₂ R as bs) : Both (List.Forall₂ S) (as.mapM f) (bs.mapM g) := by
  induction h with
  | nil => exact .ok .nil
  | @cons a b as bs hab _ ih =>
    rw [List.mapM_cons, List.mapM_cons]
    have hhead := hfg a b hab
    -- The head decides first, and with an error the rest is not looked at.
    generalize f a = x at hhead ⊢
    generalize g b = y at hhead ⊢
    generalize as.mapM f = xs at ih ⊢
    generalize bs.mapM g = ys at ih ⊢
    cases hhead with
    | error e => exact .error e
    | ok related =>
      cases ih with
      | error e => exact .error e
      | ok rest => exact .ok (.cons related rest)

end Both

/-- Related lists are still related when both are sorted by what related entries agree on. -/
theorem forall₂_mergeSort {R : α → β → Prop} {r : α → α → Bool} {s : β → β → Bool}
    (hrs : ∀ a b a' b', R a b → R a' b' → r a a' = s b b') {as : List α} {bs : List β} (h : List.Forall₂ R as bs) :
    List.Forall₂ R (as.mergeSort r) (bs.mergeSort s) := by
  obtain ⟨hlength, hzip⟩ := List.forall₂_iff_zip.1 h
  have hpair : ∀ z ∈ as.zip bs, R z.1 z.2 := fun _ hz => hzip hz
  -- Both are the sides of one list of pairs, sorted by its first sides.
  have hleft : as.mergeSort r = ((as.zip bs).mergeSort fun z z' => r z.1 z'.1).map Prod.fst := by
    have hsame : ∀ z ∈ as.zip bs, ∀ z' ∈ as.zip bs, r z.1 z'.1 = r z.1 z'.1 := fun _ _ _ _ => rfl
    rw [List.map_mergeSort hsame, List.map_fst_zip (Nat.le_of_eq hlength)]
  have hright : bs.mergeSort s = ((as.zip bs).mergeSort fun z z' => r z.1 z'.1).map Prod.snd := by
    have hsame : ∀ z ∈ as.zip bs, ∀ z' ∈ as.zip bs, r z.1 z'.1 = s z.2 z'.2 := fun z hz z' hz' =>
      hrs _ _ _ _ (hpair z hz) (hpair z' hz')
    rw [List.map_mergeSort hsame, List.map_snd_zip (Nat.le_of_eq hlength.symm)]
  rw [hleft, hright, List.forall₂_map_left_iff, List.forall₂_map_right_iff, List.forall₂_same]
  exact fun z hz => hpair z (List.mem_mergeSort.1 hz)

/-! ### Wallets -/

/-- The wallets differ in the private key at most, and not in whether it can be read by those who read it. -/
structure Wallet.Alike (w w' : Wallet) : Prop where
  view : w.view = w'.view
  key : w.privateKey = w'.privateKey ∨ w.chain = .bitcoin
    ∨ ∃ key key', PrivateKey.parse w.privateKey = .ok key ∧ PrivateKey.parse w'.privateKey = .ok key'

namespace Wallet.Alike

variable {w w' : Wallet}

theorem refl (w : Wallet) : w.Alike w := ⟨rfl, .inl rfl⟩

theorem id (h : w.Alike w') : w.id = w'.id := congrArg WalletView.id h.view

theorem address (h : w.Alike w') : w.address = w'.address := congrArg WalletView.address h.view

theorem chain (h : w.Alike w') : w.chain = w'.chain := congrArg WalletView.chain h.view

theorem createdAt (h : w.Alike w') : w.createdAt = w'.createdAt := congrArg WalletView.createdAt h.view

theorem isDeleted (h : w.Alike w') : w.isDeleted = w'.isDeleted :=
  congrArg (fun v => v.deletedAt.isSome) h.view

theorem eq_of_key (h : w.Alike w') (hkey : w.privateKey = w'.privateKey) : w = w' := by
  have hview := h.view
  cases w
  cases w'
  simp only [Wallet.view, WalletView.mk.injEq] at hview hkey
  obtain ⟨rfl, rfl, rfl, rfl, rfl, rfl⟩ := hview
  rw [hkey]

theorem trash (h : w.Alike w') (now : Timestamp) : (w.trash now).Alike (w'.trash now) := by
  rw [Wallet.trash, Wallet.trash, ← h.isDeleted]
  split
  · exact h
  · refine ⟨?_, h.key⟩
    have hview := h.view
    simp only [Wallet.view, WalletView.mk.injEq] at hview ⊢
    exact ⟨hview.1, hview.2.1, hview.2.2.1, hview.2.2.2.1, hview.2.2.2.2.1, trivial⟩

end Wallet.Alike

/-! ### Tables -/

/-- The values are the same, or the stored forms of wallets that differ in private keys only. -/
def ValuesAlike (bs bs' : ByteArray) : Prop :=
  bs = bs' ∨ ∃ w w', Wallet.ofBytes? bs = some w ∧ Wallet.ofBytes? bs' = some w' ∧ w.Alike w'

theorem ValuesAlike.reads {bs bs' : ByteArray} (h : ValuesAlike bs bs') :
    (Wallet.ofBytes? bs = none ∧ Wallet.ofBytes? bs' = none)
    ∨ ∃ w w', Wallet.ofBytes? bs = some w ∧ Wallet.ofBytes? bs' = some w' ∧ w.Alike w' := by
  rcases h with rfl | halike
  · cases Wallet.ofBytes? bs with
    | none => exact .inl ⟨rfl, rfl⟩
    | some w => exact .inr ⟨w, w, rfl, rfl, .refl w⟩
  · exact .inr halike

theorem Wallet.Alike.toBytes {w w' : Wallet} (h : w.Alike w') : ValuesAlike w.toBytes w'.toBytes :=
  .inr ⟨w, w', Wallet.ofBytes?_toBytes w, Wallet.ofBytes?_toBytes w', h⟩

/-- Entry by entry, in the order of the keys. -/
def EntriesAlike (es es' : List (String × ByteArray)) : Prop :=
  List.Forall₂ (fun e e' => e.1 = e'.1 ∧ ValuesAlike e.2 e'.2) es es'

namespace EntriesAlike

variable {es es' : List (String × ByteArray)} {bs bs' : ByteArray}

theorem refl (es : List (String × ByteArray)) : EntriesAlike es es := List.forall₂_same.2 fun _ _ => ⟨rfl, .inl rfl⟩

theorem insertEntry (h : EntriesAlike es es') (key : String) (hvalue : ValuesAlike bs bs') :
    EntriesAlike (Table.insertEntry key bs es) (Table.insertEntry key bs' es') := by
  induction h with
  | nil => exact .cons ⟨rfl, hvalue⟩ .nil
  | @cons e e' es es' hhead hrest ih =>
    obtain ⟨k, v⟩ := e
    obtain ⟨k', v'⟩ := e'
    obtain ⟨rfl, hv⟩ := hhead
    rw [Table.insertEntry, Table.insertEntry]
    split
    · exact .cons ⟨rfl, hvalue⟩ (.cons ⟨rfl, hv⟩ hrest)
    · split
      · exact .cons ⟨rfl, hv⟩ ih
      · exact .cons ⟨rfl, hvalue⟩ hrest

theorem lookup (h : EntriesAlike es es') (key : String) :
    (es.lookup key = none ∧ es'.lookup key = none)
    ∨ ∃ bs bs', es.lookup key = some bs ∧ es'.lookup key = some bs' ∧ ValuesAlike bs bs' := by
  induction h with
  | nil => exact .inl ⟨rfl, rfl⟩
  | @cons e e' es es' hhead _ ih =>
    obtain ⟨k, v⟩ := e
    obtain ⟨k', v'⟩ := e'
    obtain ⟨rfl, hv⟩ := hhead
    rw [List.lookup_cons, List.lookup_cons]
    cases key == k with
    | true => exact .inr ⟨v, v', rfl, rfl, hv⟩
    | false => exact ih

end EntriesAlike

/-! ### Stores -/

/-- The stores differ in private keys only. -/
structure Store.Alike (s s' : Store) : Prop where
  entries : EntriesAlike s.table.entries s'.table.entries
  writable : s.writable = s'.writable

namespace Store.Alike

variable {s s' : Store} {w w' : Wallet}

theorem record (h : s.Alike s') (id : Uuid) : Both Wallet.Alike (s.record id) (s'.record id) := by
  rw [Store.record, Store.record, Table.get?, Table.get?]
  rcases h.entries.lookup (key id) with ⟨hnone, hnone'⟩ | ⟨bs, bs', hbs, hbs', hvalues⟩
  · rw [hnone, hnone']
    exact .error _
  · rw [hbs, hbs']
    dsimp only
    rcases hvalues.reads with ⟨hnone, hnone'⟩ | ⟨w, w', hw, hw', halike⟩
    · rw [hnone, hnone']
      exact .error _
    · rw [hw, hw']
      exact .ok halike

theorem get (h : s.Alike s') (id : Uuid) (trashed : Bool) :
    Both Wallet.Alike (s.get id trashed) (s'.get id trashed) := by
  have hrecord := h.record id
  rw [Store.get, Store.get]
  generalize s.record id = x at hrecord ⊢
  generalize s'.record id = y at hrecord ⊢
  cases hrecord with
  | error e => exact .error e
  | ok halike =>
    dsimp only
    rw [← halike.isDeleted]
    split
    · exact .error _
    · exact .ok halike

theorem write (h : s.Alike s') (id : Uuid) (hw : w.Alike w') : (s.write id w).Alike (s'.write id w') where
  entries := h.entries.insertEntry (key id) hw.toBytes
  writable := h.writable

theorem softDelete (h : s.Alike s') (hw : w.Alike w') (now : Timestamp) :
    Both Wallet.Alike (s.softDelete w now).1 (s'.softDelete w' now).1
    ∧ (s.softDelete w now).2.Alike (s'.softDelete w' now).2 := by
  have hrecord := h.record w.id
  rw [Store.softDelete, Store.softDelete, ← h.writable, ← hw.id]
  split
  · generalize s.record w.id = x at hrecord ⊢
    generalize s'.record w.id = y at hrecord ⊢
    cases hrecord with
    | error e => exact ⟨.error e, h⟩
    | ok halike =>
      dsimp only
      rw [← halike.isDeleted]
      split
      · exact ⟨.ok halike, h⟩
      · exact ⟨.ok (halike.trash now), h.write w.id (halike.trash now)⟩
  · exact ⟨.error _, h⟩

theorem records (h : s.Alike s') : Both (List.Forall₂ Wallet.Alike) s.records s'.records := by
  refine .mapM (fun e e' he => ?_) h.entries
  rcases he.2.reads with ⟨hnone, hnone'⟩ | ⟨w, w', hw, hw', halike⟩
  · rw [hnone, hnone']
    exact .error _
  · rw [hw, hw']
    exact .ok halike

theorem list (h : s.Alike s') (trashed : Bool) :
    Both (List.Forall₂ Wallet.Alike) (s.list trashed) (s'.list trashed) := by
  refine h.records.map fun ws ws' hws => forall₂_mergeSort ?_ ?_
  · intro a b a' b' hab hab'
    rw [hab.createdAt, hab'.createdAt]
  · refine List.rel_filter (fun a b hab => ?_) hws
    dsimp only
    rw [hab.isDeleted]

end Store.Alike
end Keyring
