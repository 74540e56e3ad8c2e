import Keyring.Store.Table

/-! Tables by their entries. An entry stands in a table just when it is what is found under its key, and tables with
the same entries are the same. -/
namespace Keyring.Table

theorem lookup_eq_some_of_mem {entries : List (String × ByteArray)} (h : entries.Pairwise fun a b => a.1 < b.1)
    {e : String × ByteArray} (he : e ∈ entries) : entries.lookup e.1 = some e.2 := by
  induction entries with
  | nil => cases he
  | cons head rest ih =>
    obtain ⟨hhead, hrest⟩ := List.pairwise_cons.1 h
    rcases List.mem_cons.1 he with rfl | he
    · exact List.lookup_cons_self
    · have hne : e.1 ≠ head.1 := fun heq => String.lt_irrefl _ (heq ▸ hhead e he)
      rw [List.lookup_cons, beq_false_of_ne hne]
      exact ih hrest he

theorem mem_entries_iff {t : Table} {e : String × ByteArray} : e ∈ t.entries ↔ t.get? e.1 = some e.2 := by
  constructor
  · exact lookup_eq_some_of_mem t.sorted
  · intro h
    obtain ⟨front, back, hentries, -⟩ := List.lookup_eq_some_iff.1 h
    rw [hentries]
    exact List.mem_append_right _ List.mem_cons_self

theorem mem_insert_iff {t : Table} {key : String} {value : ByteArray} {e : String × ByteArray} :
    e ∈ (t.insert key value).entries ↔ e = (key, value) ∨ (e ∈ t.entries ∧ e.1 ≠ key) := by
  obtain ⟨other, found⟩ := e
  rw [mem_entries_iff, mem_entries_iff]
  by_cases hkey : other = key
  · subst hkey
    simp [eq_comm]
  · simp [t.get?_insert_of_ne value hkey, hkey]

/-- The order is no freedom: what stands in a table decides it. -/
theorem eq_of_mem_iff {t t' : Table} (h : ∀ e, e ∈ t.entries ↔ e ∈ t'.entries) : t = t' := by
  have hirrefl : ∀ a : String × ByteArray, ¬ a.1 < a.1 := fun a => String.lt_irrefl a.1
  have hnodup {u : Table} : u.entries.Nodup := by
    refine u.sorted.imp ?_
    rintro a _ hab rfl
    exact hirrefl a hab
  have hperm : t.entries.Perm t'.entries := (List.perm_ext_iff_of_nodup hnodup hnodup).2 h
  refine Table.ext (hperm.eq_of_pairwise ?_ t.sorted t'.sorted)
  intro a b _ _ hab hba
  exact absurd (String.lt_trans hab hba) (hirrefl a)

end Keyring.Table
