import Mathlib.Data.List.Forall2
import Keyring.Error

/-! Steps that may fail, one after the other: the whole succeeds when every step does, and fails with the fault of
the first step that fails. -/
namespace Keyring

variable {α β : Type}

theorem ok_bind (a : α) (f : α → Except Error β) : Except.ok a >>= f = f a := rfl

theorem error_bind (e : Error) (f : α → Except Error β) : Except.error e >>= f = .error e := rfl

theorem bind_eq_ok_iff {ε : Type} {x : Except ε α} {f : α → Except ε β} {b : β} :
    x >>= f = .ok b ↔ ∃ a, x = .ok a ∧ f a = .ok b := by
  cases x <;> simp [bind, Except.bind]

theorem bind_eq_error_iff {x : Except Error α} {f : α → Except Error β} {e : Error} :
    x >>= f = .error e ↔ x = .error e ∨ ∃ a, x = .ok a ∧ f a = .error e := by
  cases x <;> simp [bind, Except.bind]

theorem map_eq_ok_iff {f : α → β} {x : Except Error α} {b : β} : x.map f = .ok b ↔ ∃ a, x = .ok a ∧ f a = b := by
  cases x <;> simp [Except.map]

theorem map_eq_error_iff {f : α → β} {x : Except Error α} {e : Error} : x.map f = .error e ↔ x = .error e := by
  cases x <;> simp [Except.map]

/-- Steps that fail with one error only are told apart by their answers. -/
theorem eq_of_ok_iff {x y : Except Error α} {e : Error} (hx : ∀ e', x = .error e' → e' = e)
    (hy : ∀ e', y = .error e' → e' = e) (h : ∀ a, x = .ok a ↔ y = .ok a) : x = y := by
  cases x with
  | ok a => exact ((h a).1 rfl).symm
  | error ex =>
    cases y with
    | ok b => exact (h b).2 rfl
    | error ey => rw [hx ex rfl, hy ey rfl]

/-- A step for each entry of a list: when none fails, the answers are those of the entries. -/
theorem mapM_ok {ε : Type} {f : α → Except ε β} {as : List α} (h : ∀ a ∈ as, ∃ b, f a = .ok b) :
    ∃ bs, as.mapM f = .ok bs ∧ ∀ b, b ∈ bs ↔ ∃ a ∈ as, f a = .ok b := by
  induction as with
  | nil => exact ⟨[], rfl, by simp⟩
  | cons a as ih =>
    rw [List.forall_mem_cons] at h
    obtain ⟨b, hb⟩ := h.1
    obtain ⟨bs, hbs, hmem⟩ := ih h.2
    refine ⟨b :: bs, by rw [List.mapM_cons, hb, hbs]; rfl, fun c => ?_⟩
    simp [hb, hmem, eq_comm]

/-- The steps answer with a list just when each answers with the entry at its place. -/
theorem mapM_eq_ok_iff {ε : Type} {f : α → Except ε β} {as : List α} {bs : List β} :
    as.mapM f = .ok bs ↔ List.Forall₂ (fun a b => f a = .ok b) as bs := by
  induction as generalizing bs with
  | nil =>
    rw [List.forall₂_nil_left_iff]
    exact ⟨fun h => (Except.ok.inj h).symm, fun h => h ▸ rfl⟩
  | cons a as ih =>
    rw [List.mapM_cons, List.forall₂_cons_left_iff, bind_eq_ok_iff]
    simp only [bind_eq_ok_iff, ih]
    constructor
    · rintro ⟨b, hb, bs', hbs', h⟩
      cases h
      exact ⟨b, bs', hb, hbs', rfl⟩
    · rintro ⟨b, bs', hb, hbs', rfl⟩
      exact ⟨b, hb, bs', hbs', rfl⟩

theorem exists_mem_of_mapM {ε : Type} {f : α → Except ε β} {as : List α} {bs : List β} (h : as.mapM f = .ok bs) {b : β}
    (hb : b ∈ bs) : ∃ a ∈ as, f a = .ok b := by
  have hpairs := mapM_eq_ok_iff.1 h
  clear h
  induction hpairs with
  | nil => cases hb
  | @cons a b' as bs hhead _ ih =>
    rcases List.mem_cons.1 hb with rfl | hb
    · exact ⟨a, List.mem_cons_self, hhead⟩
    · obtain ⟨a', ha', hread⟩ := ih hb
      exact ⟨a', List.mem_cons_of_mem _ ha', hread⟩

theorem guard_eq_ok_iff {c : Prop} [Decidable c] {e : Error} {f : PUnit → Except Error α} {a : α} :
    (if c then throw e >>= f else f ⟨⟩) = .ok a ↔ ¬ c ∧ f ⟨⟩ = .ok a := by
  by_cases h : c <;> simp [h, throw, throwThe, MonadExceptOf.throw, bind, Except.bind]

theorem guard_eq_error_iff {c : Prop} [Decidable c] {e e' : Error} {f : PUnit → Except Error α} :
    (if c then throw e >>= f else f ⟨⟩) = .error e' ↔ (c ∧ e' = e) ∨ (¬ c ∧ f ⟨⟩ = .error e') := by
  by_cases h : c <;> simp [h, throw, throwThe, MonadExceptOf.throw, bind, Except.bind, eq_comm]

end Keyring
