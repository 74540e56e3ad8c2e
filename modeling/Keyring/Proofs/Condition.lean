import Keyring.Proofs.Sequence

/-! Conditions that are checked in a fixed order. A call is governed by a list of them when it succeeds only if all
hold, and otherwise fails with a fault of the first that does not. Lists of conditions are put together as the steps
of the calls are. -/
namespace Keyring

/-- What is asked, and what is reported when it does not hold. -/
structure Condition where
  Holds : Prop
  Fault : Error → Prop

/-- The error is a fault of the first condition that does not hold. -/
inductive Refused : List Condition → Error → Prop where
  | here {c : Condition} {cs : List Condition} {e : Error} (fails : ¬ c.Holds) (fault : c.Fault e) :
    Refused (c :: cs) e
  | later {c : Condition} {cs : List Condition} {e : Error} (holds : c.Holds) (rest : Refused cs e) :
    Refused (c :: cs) e

namespace Refused

variable {cs ds : List Condition} {e : Error}

theorem append_left (h : Refused cs e) : Refused (cs ++ ds) e := by
  induction h with
  | here fails fault => exact .here fails fault
  | later holds _ ih => exact .later holds ih

theorem append_right (hcs : ∀ c ∈ cs, c.Holds) (h : Refused ds e) : Refused (cs ++ ds) e := by
  induction cs with
  | nil => exact h
  | cons c cs ih =>
    have ⟨hc, hrest⟩ := List.forall_mem_cons.1 hcs
    exact .later hc (ih hrest)

/-- There is no error that is not the fault of a condition. -/
theorem exists_fault (h : Refused cs e) : ∃ c ∈ cs, c.Fault e := by
  induction h with
  | here _ fault => exact ⟨_, List.mem_cons_self, fault⟩
  | later _ _ ih =>
    obtain ⟨c, hc, hfault⟩ := ih
    exact ⟨c, List.mem_cons_of_mem _ hc, hfault⟩

/-- What is refused does not meet all conditions. -/
theorem not_forall (h : Refused cs e) : ¬ ∀ c ∈ cs, c.Holds := by
  induction h with
  | here fails _ => exact fun hall => fails (hall _ List.mem_cons_self)
  | later _ _ ih => exact fun hall => ih fun c hc => hall c (List.mem_cons_of_mem _ hc)

end Refused

/-- The conditions decide whether a call succeeds, and with which error it fails. -/
structure Governs {α : Type} (cs : List Condition) (x : Except Error α) : Prop where
  holds : ∀ a, x = .ok a → ∀ c ∈ cs, c.Holds
  refused : ∀ e, x = .error e → Refused cs e

namespace Governs

variable {α β : Type} {cs ds : List Condition} {x : Except Error α}

theorem ok (a : α) : Governs [] (.ok a : Except Error α) where
  holds _ _ _ hc := nomatch hc
  refused _ h := nomatch h

/-- One check by itself, which succeeds just when the condition holds. -/
theorem single {P : Prop} {Fault : Error → Prop} (holds : P ↔ ∃ a, x = .ok a)
    (fault : ∀ e, x = .error e → Fault e) :
    Governs [⟨P, Fault⟩] x where
  holds a h c hc := by
    rw [List.mem_singleton.1 hc]
    exact holds.2 ⟨a, h⟩
  refused e h := by
    refine .here (fun hP => ?_) (fault e h)
    obtain ⟨a, ha⟩ := holds.1 hP
    rw [h] at ha
    cases ha

theorem bind {f : α → Except Error β} (hx : Governs cs x) (hf : ∀ a, x = .ok a → Governs ds (f a)) :
    Governs (cs ++ ds) (x >>= f) where
  holds b h c hc := by
    obtain ⟨a, ha, hb⟩ := bind_eq_ok_iff.1 h
    rcases List.mem_append.1 hc with hc | hc
    · exact hx.holds a ha c hc
    · exact (hf a ha).holds b hb c hc
  refused e h := by
    rcases bind_eq_error_iff.1 h with h | ⟨a, ha, he⟩
    · exact (hx.refused e h).append_left
    · exact .append_right (hx.holds a ha) ((hf a ha).refused e he)

/-- A check that stops with one error. -/
theorem guard {c : Condition} {P : Prop} [Decidable P] {e : Error} {f : PUnit → Except Error α}
    (hc : c.Holds ↔ ¬ P) (he : c.Fault e) (hf : ¬ P → Governs cs (f ⟨⟩)) :
    Governs (c :: cs) (if P then throw e >>= f else f ⟨⟩) where
  holds a h := by
    obtain ⟨hP, h⟩ := guard_eq_ok_iff.1 h
    exact List.forall_mem_cons.2 ⟨hc.2 hP, (hf hP).holds a h⟩
  refused e' h := by
    rcases guard_eq_error_iff.1 h with ⟨hP, rfl⟩ | ⟨hP, h⟩
    · exact .here (fun h => hc.1 h hP) he
    · exact .later (hc.2 hP) ((hf hP).refused e' h)

/-- A call that ends in an error unless the condition holds. -/
theorem ite {P : Prop} [Decidable P] {e : Error} (hx : P → Governs cs x) :
    Governs (⟨P, (· = e)⟩ :: cs) (if P then x else .error e) where
  holds a h := by
    split at h
    · next hP => exact List.forall_mem_cons.2 ⟨hP, (hx hP).holds a h⟩
    · cases h
  refused e' h := by
    split at h
    · next hP => exact .later hP ((hx hP).refused e' h)
    · next hP =>
      cases h
      exact .here hP rfl

end Governs
end Keyring
