import Mathlib.Data.List.DropRight
import Keyring.Text.Blank

/-! Texts without the white space at their ends. Trimming gives the one text that has none there and becomes the given
text when white space is put to its ends, so the result does not depend on how much of it there is. -/
namespace Keyring.Text

/-- White space only. -/
def Blank (cs : List Char) : Prop := ∀ c ∈ cs, isBlank c = true

/-- No white space at either end. -/
def Trimmed (s : String) : Prop :=
  (∀ c ∈ s.toList.head?, isBlank c = false) ∧ ∀ c ∈ s.toList.getLast?, isBlank c = false

/-- The second text is the first one with white space put to its ends. -/
def Padded (t s : String) : Prop := ∃ front back, Blank front ∧ Blank back ∧ s.toList = front ++ t.toList ++ back

theorem toList_trim (s : String) : (trim s).toList = (s.toList.dropWhile isBlank).rdropWhile isBlank := by
  rw [trim, String.toList_ofList]
  rfl

theorem padded_trim (s : String) : Padded (trim s) s := by
  refine ⟨s.toList.takeWhile isBlank, (s.toList.dropWhile isBlank).rtakeWhile isBlank,
    fun c => List.mem_takeWhile_imp, fun c => List.mem_rtakeWhile_imp, ?_⟩
  rw [toList_trim, List.append_assoc, List.rdropWhile_append_rtakeWhile, List.takeWhile_append_dropWhile]

theorem trimmed_trim (s : String) : Trimmed (trim s) := by
  rw [Trimmed, toList_trim]
  constructor
  · -- What is left at the end starts where the rest behind the blanks in front does.
    intro c hc
    obtain ⟨back, hback⟩ := List.rdropWhile_prefix isBlank (l := s.toList.dropWhile isBlank)
    have hfront : (s.toList.dropWhile isBlank).head? = some c := by
      rw [← hback, List.head?_append, hc, Option.some_or]
    have hnot := List.head?_dropWhile_not isBlank s.toList
    rwa [hfront] at hnot
  · intro c hc
    have hne : (s.toList.dropWhile isBlank).rdropWhile isBlank ≠ [] := by
      intro hnil
      rw [hnil] at hc
      cases hc
    have hnot := List.rdropWhile_last_not isBlank _ hne
    rw [List.getLast?_eq_some_getLast hne, Option.mem_some] at hc
    rwa [hc, Bool.not_eq_true] at hnot

/-- A text without white space at its ends is left as it is. -/
theorem trim_eq_self {s : String} (h : Trimmed s) : trim s = s := by
  have hfront : s.toList.dropWhile isBlank = s.toList := by
    rw [List.dropWhile_eq_self_iff]
    intro hl
    rw [h.1 _ (by rw [Option.mem_def, List.head?_eq_getElem?, List.getElem?_eq_getElem hl]), Bool.false_eq_true]
    exact not_false
  have hback : s.toList.rdropWhile isBlank = s.toList := by
    rw [List.rdropWhile_eq_self_iff]
    intro hne
    rw [h.2 _ (by rw [Option.mem_def, List.getLast?_eq_some_getLast hne]), Bool.false_eq_true]
    exact not_false
  rw [← String.toList_inj, toList_trim, hfront, hback]

theorem trim_trim (s : String) : trim (trim s) = trim s := trim_eq_self (trimmed_trim s)

theorem rdropWhile_append_blank {cs back : List Char} (hback : Blank back) :
    (cs ++ back).rdropWhile isBlank = cs.rdropWhile isBlank := by
  rw [List.rdropWhile, List.reverse_append, List.dropWhile_append_of_pos fun c hc => hback c (List.mem_reverse.1 hc)]
  rfl

/-- White space at the ends of a text does not change what is left of it. -/
theorem trim_of_padded {s t : String} (h : Padded t s) : trim s = trim t := by
  obtain ⟨front, back, hfront, hback, hs⟩ := h
  rw [← String.toList_inj, toList_trim, toList_trim, hs, List.append_assoc, List.dropWhile_append_of_pos hfront,
    List.dropWhile_append]
  split
  · next hblank =>
    have hnone : back.dropWhile isBlank = [] := List.dropWhile_eq_nil_iff.2 hback
    rw [hnone, List.isEmpty_iff.1 hblank]
  · exact rdropWhile_append_blank hback

theorem trim_eq_empty_iff {s : String} : trim s = "" ↔ Blank s.toList := by
  constructor
  · intro h
    obtain ⟨front, back, hfront, hback, hs⟩ := padded_trim s
    rw [h, String.toList_empty, List.append_nil] at hs
    rw [hs]
    exact List.forall_mem_append.2 ⟨hfront, hback⟩
  · intro h
    have hpadded : Padded "" s := ⟨s.toList, [], h, nofun, by simp⟩
    rw [trim_of_padded hpadded, trim_eq_self ⟨by simp, by simp⟩]

end Keyring.Text
