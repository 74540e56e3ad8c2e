import Keyring.Proofs.Store.Records

/-! What becomes of records. A wallet in the store ages: its time of deletion is set at some time and stays then, and
the rest of it never changes. -/
namespace Keyring

/-- A later state of a wallet: it differs in its time of deletion at most, and not in one that it has already. -/
structure Wallet.Ages (w later : Wallet) : Prop where
  kept : later = { w with deletedAt := later.deletedAt }
  once : ∀ time, w.deletedAt = some time → later.deletedAt = some time

namespace Wallet.Ages

theorem refl (w : Wallet) : w.Ages w := ⟨rfl, fun _ h => h⟩

theorem trans {u v w : Wallet} (h : u.Ages v) (h' : v.Ages w) : u.Ages w where
  kept := by rw [h'.kept, h.kept]
  once time htime := h'.once time (h.once time htime)

theorem id {w later : Wallet} (h : w.Ages later) : later.id = w.id := by rw [h.kept]

theorem isDeleted {w later : Wallet} (h : w.Ages later) (hw : w.deletedAt.isSome) : later.deletedAt.isSome := by
  obtain ⟨time, htime⟩ := Option.isSome_iff_exists.1 hw
  rw [h.once time htime, Option.isSome_some]

end Wallet.Ages

/-- Every wallet of a map stands in a later one, aged. -/
def Records.Ages (m later : Records) : Prop := ∀ id w, m id = some w → ∃ w', later id = some w' ∧ w.Ages w'

namespace Records

variable {m : Records} {id other : Uuid}

theorem Ages.refl (m : Records) : m.Ages m := fun _ w h => ⟨w, h, .refl w⟩

theorem Ages.trans {m₁ m₂ m₃ : Records} (h : m₁.Ages m₂) (h' : m₂.Ages m₃) : m₁.Ages m₃ := by
  intro id w hw
  obtain ⟨v, hv, hage⟩ := h id w hw
  obtain ⟨u, hu, hage'⟩ := h' id v hv
  exact ⟨u, hu, hage.trans hage'⟩

theorem ages_put (h : m id = none) (w : Wallet) : m.Ages (m.put id w) := by
  intro other v hv
  have hne : other ≠ id := by
    rintro rfl
    cases h.symm.trans hv
  exact ⟨v, by rw [m.put_of_ne w hne, hv], .refl v⟩

theorem softDelete_of_none (h : m id = none) (now : Timestamp) : m.softDelete id now = (.error (.notFound id), m) := by
  rw [softDelete, h]

theorem softDelete_of_some {w : Wallet} (h : m id = some w) (now : Timestamp) :
    m.softDelete id now = (.ok { w with deletedAt := w.deletedAt.or (some now) },
      m.put id { w with deletedAt := w.deletedAt.or (some now) }) := by
  rw [softDelete, h]

theorem ages_softDelete (m : Records) (id : Uuid) (now : Timestamp) : m.Ages (m.softDelete id now).2 := by
  cases hm : m id with
  | none => rw [softDelete_of_none hm]; exact .refl m
  | some w =>
    rw [softDelete_of_some hm]
    intro other v hv
    by_cases hother : other = id
    · subst hother
      obtain rfl : w = v := Option.some.inj (hm.symm.trans hv)
      exact ⟨_, put_self .., rfl, fun time htime => by rw [htime, Option.some_or]⟩
    · exact ⟨v, (put_of_ne m _ hother).trans hv, .refl v⟩

theorem softDelete_eq_none (h : m other = none) (now : Timestamp) : (m.softDelete id now).2 other = none := by
  cases hm : m id with
  | none => rwa [softDelete_of_none hm]
  | some w =>
    have hother : other ≠ id := by
      rintro rfl
      cases h.symm.trans hm
    rw [softDelete_of_some hm]
    exact (put_of_ne m _ hother).trans h

theorem isDeleted_softDelete {w : Wallet} (h : m id = some w) (now : Timestamp) :
    ∃ later, (m.softDelete id now).2 id = some later ∧ later.deletedAt.isSome := by
  rw [softDelete_of_some h]
  refine ⟨_, put_self .., ?_⟩
  rw [Option.isSome_or, Option.isSome_some, Bool.or_true]

end Records

end Keyring
