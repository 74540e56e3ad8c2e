/-! Tables: byte strings under texts, each text at most once and in ascending order. The order is part of the type,
so tables with the same entries are equal. -/
namespace Keyring

structure Table where
  entries : List (String × ByteArray)
  sorted : entries.Pairwise fun a b => a.1 < b.1

namespace Table

@[ext] theorem ext {s t : Table} (h : s.entries = t.entries) : s = t := by
  cases s; cases t; cases h; rfl

def empty : Table := ⟨[], .nil⟩

instance : Inhabited Table := ⟨empty⟩

def get? (t : Table) (key : String) : Option ByteArray := t.entries.lookup key

def insertEntry (key : String) (value : ByteArray) : List (String × ByteArray) → List (String × ByteArray)
  | [] => [(key, value)]
  | (k, v) :: rest =>
    if key < k then (key, value) :: (k, v) :: rest
    else if k < key then (k, v) :: insertEntry key value rest
    else (key, value) :: rest

theorem mem_insertEntry {key : String} {value : ByteArray} {entries : List (String × ByteArray)}
    {e : String × ByteArray} (h : e ∈ insertEntry key value entries) : e.1 = key ∨ e ∈ entries := by
  induction entries with
  | nil => simp_all [insertEntry]
  | cons head rest ih =>
    simp only [insertEntry] at h
    split at h
    · grind
    · split at h <;> grind

theorem sorted_insertEntry (key : String) (value : ByteArray) {entries : List (String × ByteArray)}
    (h : entries.Pairwise fun a b => a.1 < b.1) :
    (insertEntry key value entries).Pairwise fun a b => a.1 < b.1 := by
  induction entries with
  | nil => simp [insertEntry]
  | cons head rest ih =>
    obtain ⟨hhead, hrest⟩ := List.pairwise_cons.1 h
    simp only [insertEntry]
    split
    · next hlt =>
      refine List.pairwise_cons.2 ⟨fun e he => ?_, h⟩
      rcases List.mem_cons.1 he with rfl | he
      · exact hlt
      · exact String.lt_trans hlt (hhead e he)
    · split
      · next hlt =>
        refine List.pairwise_cons.2 ⟨fun e he => ?_, ih hrest⟩
        rcases mem_insertEntry he with he | he
        · exact he ▸ hlt
        · exact hhead e he
      · next hle hge =>
        have heq : key = head.1 := String.le_antisymm (String.not_lt.1 hge) (String.not_lt.1 hle)
        exact List.pairwise_cons.2 ⟨fun e he => heq ▸ hhead e he, hrest⟩

/-- Puts a value under a key, in place of what was there. -/
def insert (t : Table) (key : String) (value : ByteArray) : Table :=
  ⟨insertEntry key value t.entries, sorted_insertEntry key value t.sorted⟩

@[simp] theorem get?_empty (key : String) : empty.get? key = none := rfl

theorem lookup_insertEntry_self (key : String) (value : ByteArray) (entries : List (String × ByteArray)) :
    (insertEntry key value entries).lookup key = some value := by
  induction entries with
  | nil => simp [insertEntry]
  | cons head rest ih =>
    simp only [insertEntry]
    split
    · simp
    · split
      · next hlt =>
        have hne : key ≠ head.1 := fun h => String.lt_irrefl _ (h ▸ hlt)
        rw [List.lookup_cons, beq_false_of_ne hne, ih]
      · simp

theorem lookup_insertEntry_of_ne {key other : String} (value : ByteArray) (entries : List (String × ByteArray))
    (hne : other ≠ key) : (insertEntry key value entries).lookup other = entries.lookup other := by
  induction entries with
  | nil => rw [insertEntry, List.lookup_cons, beq_false_of_ne hne]
  | cons head rest ih =>
    simp only [insertEntry]
    split
    · rw [List.lookup_cons, beq_false_of_ne hne]
    · split
      · rw [List.lookup_cons, ih, List.lookup_cons]
      · next hle hge =>
        have heq : key = head.1 := String.le_antisymm (String.not_lt.1 hge) (String.not_lt.1 hle)
        rw [List.lookup_cons, List.lookup_cons, beq_false_of_ne hne, beq_false_of_ne (heq ▸ hne)]

@[simp] theorem get?_insert_self (t : Table) (key : String) (value : ByteArray) :
    (t.insert key value).get? key = some value := lookup_insertEntry_self key value t.entries

theorem get?_insert_of_ne (t : Table) {key other : String} (value : ByteArray) (hne : other ≠ key) :
    (t.insert key value).get? other = t.get? other := lookup_insertEntry_of_ne value t.entries hne

end Table
end Keyring
