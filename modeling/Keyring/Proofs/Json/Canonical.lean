import Keyring.Json.Record
import Keyring.Proofs.Json.Text

/-! The canonical form of a value keeps the value: each key stands once, in ascending order and with the last of its
values, and nothing else is changed. It is its own canonical form. Both hold just as long as no object is taken for a
quote, before or after its keys are put in order. -/
namespace Keyring.Json

/-- Keys in ascending order, each once. -/
def Ascending (members : List (String × Json)) : Prop := members.Pairwise fun a b => a.1 < b.1

/-- The second value is the first one with its members in order, each with the last value of its key. -/
inductive Kept : Json → Json → Prop
  | null : Kept null null
  | bool (b : Bool) : Kept (bool b) (bool b)
  | int (n : Int) : Kept (int n) (int n)
  | float (bits : UInt64) : Kept (float bits) (float bits)
  | string (s : String) : Kept (string s) (string s)
  | array {us ws : List Json} (hlength : us.length = ws.length)
    (hitems : ∀ (i : Nat) (u w : Json), us[i]? = some u → ws[i]? = some w → Kept u w) : Kept (array us) (array ws)
  | object {ms ns : List (String × Json)} (hascending : Ascending ns)
    (hkeys : ∀ k, k ∈ ns.map (·.1) ↔ k ∈ ms.map (·.1))
    (hvalues : ∀ k u w, get? k (object ms) = some u → (k, w) ∈ ns → Kept u w) : Kept (object ms) (object ns)

mutual

/-- No object in the value has the key of a quote in front, or as the least of its keys. A member that a later one with
its key replaces may hold such objects. -/
def Unquoted : Json → Prop
  | array items => ItemsUnquoted items
  | object members =>
    isQuote members = false ∧ (quoteKey ∈ members.map (·.1) → ∃ k ∈ members.map (·.1), k < quoteKey)
      ∧ MembersUnquoted members
  | _ => True

def ItemsUnquoted : List Json → Prop
  | [] => True
  | v :: rest => v.Unquoted ∧ ItemsUnquoted rest

def MembersUnquoted : List (String × Json) → Prop
  | [] => True
  | (k, v) :: rest => (k ∈ rest.map (·.1) ∨ v.Unquoted) ∧ MembersUnquoted rest

end

mutual

/-- The value is in canonical form. -/
def Settled : Json → Prop
  | unreadable => False
  | array items => ItemsSettled items
  | object members => isQuote members = false ∧ Ascending members ∧ MembersSettled members
  | _ => True

def ItemsSettled : List Json → Prop
  | [] => True
  | v :: rest => v.Settled ∧ ItemsSettled rest

def MembersSettled : List (String × Json) → Prop
  | [] => True
  | (_, v) :: rest => v.Settled ∧ MembersSettled rest

end

/-! ### Parts of values -/

theorem itemsPlain_iff {items : List Json} : ItemsPlain items ↔ ∀ v ∈ items, v.Plain := by
  induction items with
  | nil => simp [ItemsPlain]
  | cons v rest ih => rw [ItemsPlain, ih, List.forall_mem_cons]

theorem membersPlain_iff {members : List (String × Json)} : MembersPlain members ↔ ∀ m ∈ members, m.2.Plain := by
  induction members with
  | nil => simp [MembersPlain]
  | cons m rest ih => rw [MembersPlain, ih, List.forall_mem_cons]

theorem itemsUnquoted_iff {items : List Json} : ItemsUnquoted items ↔ ∀ v ∈ items, v.Unquoted := by
  induction items with
  | nil => simp [ItemsUnquoted]
  | cons v rest ih => rw [ItemsUnquoted, ih, List.forall_mem_cons]

theorem itemsSettled_iff {items : List Json} : ItemsSettled items ↔ ∀ v ∈ items, v.Settled := by
  induction items with
  | nil => simp [ItemsSettled]
  | cons v rest ih => rw [ItemsSettled, ih, List.forall_mem_cons]

theorem membersSettled_iff {members : List (String × Json)} : MembersSettled members ↔ ∀ m ∈ members, m.2.Settled := by
  induction members with
  | nil => simp [MembersSettled]
  | cons m rest ih => rw [MembersSettled, ih, List.forall_mem_cons]

theorem itemsDepth_le_iff {items : List Json} {d : Nat} : itemsDepth items ≤ d ↔ ∀ v ∈ items, v.depth ≤ d := by
  induction items with
  | nil => simp [itemsDepth]
  | cons v rest ih => rw [itemsDepth, Nat.max_le, ih, List.forall_mem_cons]

theorem membersDepth_le_iff {members : List (String × Json)} {d : Nat} :
    membersDepth members ≤ d ↔ ∀ m ∈ members, m.2.depth ≤ d := by
  induction members with
  | nil => simp [membersDepth]
  | cons m rest ih => rw [membersDepth, Nat.max_le, ih, List.forall_mem_cons]

/-! ### Members by their keys -/

theorem get?_cons (k : String) (m : String × Json) (rest : List (String × Json)) :
    get? k (object (m :: rest)) = (get? k (object rest)).or (if m.1 = k then some m.2 else none) := by
  rw [get?, get?, List.reverse_cons, List.find?_append]
  cases rest.reverse.find? fun m => m.1 == k with
  | some found => rfl
  | none =>
    by_cases hk : m.1 = k <;> simp [hk]

theorem get?_eq_none_iff {k : String} {members : List (String × Json)} :
    get? k (object members) = none ↔ k ∉ members.map (·.1) := by
  induction members with
  | nil => simp [get?]
  | cons m rest ih =>
    rw [get?_cons, Option.or_eq_none_iff, ih, List.map_cons, List.mem_cons, not_or, and_comm, eq_comm (a := k)]
    simp

theorem exists_get? {k : String} {members : List (String × Json)} (h : k ∈ members.map (·.1)) :
    ∃ v, get? k (object members) = some v :=
  Option.ne_none_iff_exists'.1 fun hnone => get?_eq_none_iff.1 hnone h

theorem mem_of_get? {k : String} {v : Json} {members : List (String × Json)} (h : get? k (object members) = some v) :
    (k, v) ∈ members := by
  obtain ⟨m, hm, rfl⟩ := Option.map_eq_some_iff.1 h
  have hkey := List.find?_some hm
  have hmem := List.mem_of_find?_eq_some hm
  rw [← beq_iff_eq.1 hkey]
  exact List.mem_reverse.1 hmem

theorem get?_of_lt {k : String} {members : List (String × Json)} (h : ∀ m ∈ members, k < m.1) :
    get? k (object members) = none := by
  rw [get?_eq_none_iff]
  intro hk
  obtain ⟨m, hm, rfl⟩ := List.mem_map.1 hk
  exact String.lt_irrefl _ (h m hm)

theorem get?_of_mem {k : String} {v : Json} {members : List (String × Json)} (hascending : Ascending members)
    (h : (k, v) ∈ members) : get? k (object members) = some v := by
  induction members with
  | nil => cases h
  | cons m rest ih =>
    obtain ⟨hfirst, hrest⟩ := List.pairwise_cons.1 hascending
    rw [get?_cons]
    rcases List.mem_cons.1 h with rfl | h
    · rw [get?_of_lt hfirst, Option.none_or, if_pos rfl]
    · rw [ih hrest h, Option.some_or]

theorem membersUnquoted_of_get? {members : List (String × Json)}
    (h : ∀ k v, get? k (object members) = some v → v.Unquoted) : MembersUnquoted members := by
  induction members with
  | nil => trivial
  | cons m rest ih =>
    refine ⟨Decidable.or_iff_not_imp_left.2 fun hlast => h m.1 m.2 ?_, ih fun k v hget => h k v ?_⟩
    · rw [get?_cons, get?_eq_none_iff.2 hlast, Option.none_or, if_pos rfl]
    · rw [get?_cons, hget, Option.some_or]

theorem MembersUnquoted.get? {k : String} {v : Json} {members : List (String × Json)} (h : MembersUnquoted members)
    (hget : get? k (object members) = some v) : v.Unquoted := by
  induction members with
  | nil => cases hget
  | cons m rest ih =>
    obtain ⟨hfirst, hrest⟩ := h
    rw [get?_cons] at hget
    cases hlast : Json.get? k (object rest) with
    | some u =>
      rw [hlast, Option.some_or, Option.some.injEq] at hget
      exact ih hrest (hget ▸ hlast)
    | none =>
      rw [hlast, Option.none_or] at hget
      split at hget
      · next hk =>
        cases hget
        exact hfirst.resolve_left (hk ▸ get?_eq_none_iff.1 hlast)
      · cases hget

/-! ### Putting a member in its place -/

theorem mem_keys_put {k key : String} {v : Json} {members : List (String × Json)} :
    k ∈ (put key v members).map (·.1) ↔ k = key ∨ k ∈ members.map (·.1) := by
  induction members with
  | nil => simp [put]
  | cons m rest ih =>
    rw [put]
    split
    · simp
    · split
      · simp only [List.map_cons, List.mem_cons, ih]
        exact or_left_comm
      · next hle hge =>
        have heq : key = m.1 := String.le_antisymm (String.not_lt.1 hge) (String.not_lt.1 hle)
        simp [heq]

theorem ascending_put {key : String} {v : Json} {members : List (String × Json)} (h : Ascending members) :
    Ascending (put key v members) := by
  induction members with
  | nil => exact List.pairwise_singleton _ _
  | cons m rest ih =>
    obtain ⟨hfirst, hrest⟩ := List.pairwise_cons.1 h
    rw [put]
    split
    · next hlt =>
      refine List.pairwise_cons.2 ⟨fun e he => ?_, h⟩
      rcases List.mem_cons.1 he with rfl | he
      · exact hlt
      · exact String.lt_trans hlt (hfirst e he)
    · split
      · next hlt =>
        refine List.pairwise_cons.2 ⟨fun e he => ?_, ih hrest⟩
        rcases mem_keys_put.1 (List.mem_map_of_mem (f := (·.1)) he) with hkey | hkey
        · exact hkey ▸ hlt
        · obtain ⟨e', he', heq⟩ := List.mem_map.1 hkey
          exact heq ▸ hfirst e' he'
      · next hle hge =>
        have heq : key = m.1 := String.le_antisymm (String.not_lt.1 hge) (String.not_lt.1 hle)
        exact List.pairwise_cons.2 ⟨fun e he => heq ▸ hfirst e he, hrest⟩

/-- A key behind all others goes to the end. -/
theorem put_of_lt {key : String} {v : Json} {members : List (String × Json)} (h : ∀ m ∈ members, m.1 < key) :
    put key v members = members ++ [(key, v)] := by
  induction members with
  | nil => rfl
  | cons m rest ih =>
    obtain ⟨hfirst, hrest⟩ := List.forall_mem_cons.1 h
    rw [put, if_neg (String.lt_asymm hfirst), if_pos hfirst, ih hrest, List.cons_append]

theorem get?_put {key : String} {v : Json} {members : List (String × Json)} (h : Ascending members) (k : String) :
    get? k (object (put key v members)) = if key = k then some v else get? k (object members) := by
  induction members with
  | nil => rw [put, get?_cons, show get? k (object []) = none from rfl, Option.none_or]
  | cons m rest ih =>
    obtain ⟨hfirst, hrest⟩ := List.pairwise_cons.1 h
    rw [put]
    split
    · next hlt =>
      rw [get?_cons]
      split
      · next hk =>
        have hnone : get? k (object (m :: rest)) = none :=
          get?_of_lt (List.forall_mem_cons.2 ⟨hk ▸ hlt, fun e he => String.lt_trans (hk ▸ hlt) (hfirst e he)⟩)
        rw [hnone, Option.none_or]
      · rw [Option.or_none]
    · split
      · rw [get?_cons, ih hrest, get?_cons]
        split <;> simp
      · next hle hge =>
        have heq : key = m.1 := String.le_antisymm (String.not_lt.1 hge) (String.not_lt.1 hle)
        rw [get?_cons, get?_cons, ← heq]
        split
        · next hk =>
          rw [get?_of_lt fun e he => hk ▸ heq ▸ hfirst e he, Option.none_or]
        · rw [Option.or_none]

/-! ### From a value to its canonical form -/

section

variable {quoted? : String → Option Json} {ms done ns : List (String × Json)}

theorem membersCanonical?_cons {k : String} {v : Json}
    (h : membersCanonical? quoted? done ((k, v) :: ms) = some ns) :
    ∃ w, v.canonical? quoted? = some w ∧ membersCanonical? quoted? (put k w done) ms = some ns := by
  rw [membersCanonical?] at h
  split at h
  · cases h
  · next w hw => exact ⟨w, hw, h⟩

theorem ascending_of_membersCanonical? (hdone : Ascending done) (h : membersCanonical? quoted? done ms = some ns) :
    Ascending ns := by
  induction ms generalizing done with
  | nil =>
    cases h
    exact hdone
  | cons m rest ih =>
    obtain ⟨w, -, hrest⟩ := membersCanonical?_cons h
    exact ih (ascending_put hdone) hrest

theorem mem_keys_membersCanonical? (h : membersCanonical? quoted? done ms = some ns) (k : String) :
    k ∈ ns.map (·.1) ↔ k ∈ ms.map (·.1) ∨ k ∈ done.map (·.1) := by
  induction ms generalizing done with
  | nil =>
    cases h
    simp
  | cons m rest ih =>
    obtain ⟨w, -, hrest⟩ := membersCanonical?_cons h
    rw [ih hrest, mem_keys_put, List.map_cons, List.mem_cons, or_left_comm, or_assoc]

/-- Under a key stands the last of its values, or what stood there before if there is none. -/
theorem get?_membersCanonical? (hdone : Ascending done) (h : membersCanonical? quoted? done ms = some ns) (k : String) :
    get? k (object ns) =
      match get? k (object ms) with
      | some u => u.canonical? quoted?
      | none => get? k (object done) := by
  induction ms generalizing done with
  | nil =>
    cases h
    rfl
  | cons m rest ih =>
    obtain ⟨w, hw, hrest⟩ := membersCanonical?_cons h
    rw [ih (ascending_put hdone) hrest, get?_cons, get?_put hdone]
    cases get? k (object rest) with
    | some u => rfl
    | none =>
      by_cases hk : m.1 = k
      · simp [hk, hw]
      · simp [hk]

theorem members_of_canonical? (hquote : isQuote ms = false) {w : Json} (h : (object ms).canonical? quoted? = some w) :
    ∃ ns, membersCanonical? quoted? [] ms = some ns ∧ w = object ns := by
  rw [canonical?, hquote, if_neg Bool.false_ne_true] at h
  obtain ⟨ns, hns, rfl⟩ := Option.map_eq_some_iff.1 h
  exact ⟨ns, hns, rfl⟩

theorem itemsCanonical?_cons {u : Json} {us ws : List Json} (h : itemsCanonical? quoted? (u :: us) = some ws) :
    ∃ w rest, u.canonical? quoted? = some w ∧ itemsCanonical? quoted? us = some rest ∧ ws = w :: rest := by
  rw [itemsCanonical?] at h
  split at h
  · cases h
  · next w hw =>
    obtain ⟨rest, hrest, rfl⟩ := Option.map_eq_some_iff.1 h
    exact ⟨w, rest, hw, hrest, rfl⟩

theorem canonical?_of_itemsCanonical? {us ws : List Json} (h : itemsCanonical? quoted? us = some ws) {i : Nat}
    {u w : Json} (hu : us[i]? = some u) (hw : ws[i]? = some w) : u.canonical? quoted? = some w := by
  induction us generalizing ws i with
  | nil => cases hu
  | cons u' us ih =>
    obtain ⟨w', rest, hfirst, hrest, rfl⟩ := itemsCanonical?_cons h
    cases i with
    | zero =>
      cases hu
      cases hw
      exact hfirst
    | succ i => exact ih hrest hu hw

end

mutual

/-- Where nothing is taken for a quote, the canonical form keeps the value. -/
theorem kept_of_canonical? (quoted? : String → Option Json) : ∀ (u w : Json), u.Unquoted →
    u.canonical? quoted? = some w → Kept u w
  | null, _, _, h => by
    cases h
    exact .null
  | bool b, _, _, h => by
    cases h
    exact .bool b
  | int n, _, _, h => by
    cases h
    exact .int n
  | float bits, _, _, h => by
    cases h
    exact .float bits
  | string s, _, _, h => by
    cases h
    exact .string s
  | unreadable, _, _, h => nomatch h
  | array us, w, hu, h => by
    rw [canonical?] at h
    obtain ⟨ws, hws, rfl⟩ := Option.map_eq_some_iff.1 h
    obtain ⟨hlength, hitems⟩ := items_kept quoted? us ws hu hws
    exact .array hlength hitems
  | object ms, w, hu, h => by
    obtain ⟨hquote, -, hmembers⟩ := hu
    obtain ⟨ns, hns, rfl⟩ := members_of_canonical? hquote h
    have hnil : Ascending [] := .nil
    have hascending := ascending_of_membersCanonical? hnil hns
    refine .object hascending (fun k => ?_) fun k u w hget hmem => ?_
    · rw [mem_keys_membersCanonical? hns, List.map_nil, or_iff_left List.not_mem_nil]
    · have hcanonical := get?_membersCanonical? hnil hns k
      rw [hget, get?_of_mem hascending hmem] at hcanonical
      exact members_kept quoted? ms hmembers k u w hget hcanonical.symm

theorem items_kept (quoted? : String → Option Json) : ∀ (us ws : List Json), ItemsUnquoted us →
    itemsCanonical? quoted? us = some ws →
    us.length = ws.length ∧ ∀ (i : Nat) (u w : Json), us[i]? = some u → ws[i]? = some w → Kept u w
  | [], _, _, h => by
    cases h
    exact ⟨rfl, by simp⟩
  | u :: us, ws, hu, h => by
    obtain ⟨w, rest, hw, hrest, rfl⟩ := itemsCanonical?_cons h
    have hfirst := kept_of_canonical? quoted? u w hu.1 hw
    obtain ⟨hlength, hitems⟩ := items_kept quoted? us rest hu.2 hrest
    refine ⟨by rw [List.length_cons, List.length_cons, hlength], fun i u' w' hu' hw' => ?_⟩
    cases i with
    | zero =>
      cases hu'
      cases hw'
      exact hfirst
    | succ i => exact hitems i u' w' hu' hw'

theorem members_kept (quoted? : String → Option Json) : ∀ (ms : List (String × Json)), MembersUnquoted ms →
    ∀ (k : String) (u w : Json), get? k (object ms) = some u → u.canonical? quoted? = some w → Kept u w
  | [], _, _, _, _, hget, _ => nomatch hget
  | (k, v) :: rest, hms, k', u, w, hget, h => by
    rw [get?_cons] at hget
    cases hlast : get? k' (object rest) with
    | some u' =>
      rw [hlast, Option.some_or, Option.some.injEq] at hget
      exact members_kept quoted? rest hms.2 k' u w (hget ▸ hlast) h
    | none =>
      rw [hlast, Option.none_or] at hget
      split at hget
      · next hk =>
        cases hget
        obtain rfl : k = k' := hk
        exact kept_of_canonical? quoted? v w (hms.1.resolve_left (get?_eq_none_iff.1 hlast)) h
      · cases hget

end

/-! ### What is kept -/

section

variable {us ws : List Json} {ms ns : List (String × Json)} {u w : Json}

theorem exists_item (hlength : us.length = ws.length) (hw : w ∈ ws) : ∃ (i : Nat) (u : Json), us[i]? = some u
    ∧ ws[i]? = some w := by
  obtain ⟨i, hi⟩ := List.mem_iff_getElem?.1 hw
  have hlt : i < us.length := hlength ▸ (List.getElem?_eq_some_iff.1 hi).1
  exact ⟨i, us[i], List.getElem?_eq_getElem hlt, hi⟩

/-- The key of a quote is not the first in order if it is not the least. -/
theorem isQuote_of_ascending (hascending : Ascending ns)
    (hleast : quoteKey ∈ ns.map (·.1) → ∃ k ∈ ns.map (·.1), k < quoteKey) : isQuote ns = false := by
  cases ns with
  | nil => rfl
  | cons m rest =>
    refine beq_eq_false_iff_ne.2 fun hquote => ?_
    obtain ⟨k, hk, hlt⟩ := hleast (List.mem_cons.2 (.inl hquote.symm))
    rcases List.mem_cons.1 hk with rfl | hk
    · exact String.lt_irrefl _ (hquote ▸ hlt)
    · obtain ⟨e, he, rfl⟩ := List.mem_map.1 hk
      exact String.lt_irrefl _ (String.lt_trans hlt (hquote ▸ (List.pairwise_cons.1 hascending).1 e he))

theorem Kept.settled (h : Kept u w) (hu : u.Unquoted) : w.Settled := by
  induction h with
  | null | bool | int | float | string => trivial
  | array hlength _ ih =>
    refine itemsSettled_iff.2 fun w hw => ?_
    obtain ⟨i, u, hi, hwi⟩ := exists_item hlength hw
    exact ih i u w hi hwi (itemsUnquoted_iff.1 hu u (List.mem_of_getElem? hi))
  | object hascending hkeys _ ih =>
    obtain ⟨-, hleast, hmembers⟩ := hu
    refine ⟨isQuote_of_ascending hascending fun hquote => ?_, hascending, membersSettled_iff.2 fun m hm => ?_⟩
    · obtain ⟨k, hk, hlt⟩ := hleast ((hkeys _).1 hquote)
      exact ⟨k, (hkeys k).2 hk, hlt⟩
    · obtain ⟨u, hget⟩ := exists_get? ((hkeys m.1).1 (List.mem_map_of_mem hm))
      exact ih m.1 u m.2 hget hm (hmembers.get? hget)

theorem Kept.plain (h : Kept u w) (hu : u.Plain) : w.Plain := by
  induction h with
  | null | bool | int | float | string => exact hu
  | array hlength _ ih =>
    refine itemsPlain_iff.2 fun w hw => ?_
    obtain ⟨i, u, hi, hwi⟩ := exists_item hlength hw
    exact ih i u w hi hwi (itemsPlain_iff.1 hu u (List.mem_of_getElem? hi))
  | object _ hkeys _ ih =>
    refine membersPlain_iff.2 fun m hm => ?_
    obtain ⟨u, hget⟩ := exists_get? ((hkeys m.1).1 (List.mem_map_of_mem hm))
    exact ih m.1 u m.2 hget hm (membersPlain_iff.1 hu _ (mem_of_get? hget))

theorem Kept.depth_le (h : Kept u w) : w.depth ≤ u.depth := by
  induction h with
  | null | bool | int | float | string => exact Nat.le_refl _
  | array hlength _ ih =>
    refine Nat.succ_le_succ (itemsDepth_le_iff.2 fun w hw => ?_)
    obtain ⟨i, u, hi, hwi⟩ := exists_item hlength hw
    exact Nat.le_trans (ih i u w hi hwi) (itemsDepth_le_iff.1 (Nat.le_refl _) u (List.mem_of_getElem? hi))
  | object _ hkeys _ ih =>
    refine Nat.succ_le_succ (membersDepth_le_iff.2 fun m hm => ?_)
    obtain ⟨u, hget⟩ := exists_get? ((hkeys m.1).1 (List.mem_map_of_mem hm))
    exact Nat.le_trans (ih m.1 u m.2 hget hm) (membersDepth_le_iff.1 (Nat.le_refl _) _ (mem_of_get? hget))

end

/-! ### Values in canonical form -/

mutual

theorem canonical?_of_settled (quoted? : String → Option Json) : ∀ w : Json, w.Settled →
    w.canonical? quoted? = some w
  | null, _ | bool _, _ | int _, _ | float _, _ | string _, _ => rfl
  | unreadable, hw => hw.elim
  | array ws, hw => by
    rw [canonical?, itemsCanonical?_of_settled quoted? ws hw, Option.map_some]
  | object ns, ⟨hquote, hascending, hmembers⟩ => by
    rw [canonical?, hquote, if_neg Bool.false_ne_true, membersCanonical?_of_settled quoted? ns [] hmembers hascending,
      Option.map_some, List.nil_append]

theorem itemsCanonical?_of_settled (quoted? : String → Option Json) : ∀ ws : List Json, ItemsSettled ws →
    itemsCanonical? quoted? ws = some ws
  | [], _ => rfl
  | w :: rest, ⟨hw, hrest⟩ => by
    rw [itemsCanonical?, canonical?_of_settled quoted? w hw]
    exact congrArg (Option.map (w :: ·)) (itemsCanonical?_of_settled quoted? rest hrest)

theorem membersCanonical?_of_settled (quoted? : String → Option Json) : ∀ ns done : List (String × Json),
    MembersSettled ns → Ascending (done ++ ns) → membersCanonical? quoted? done ns = some (done ++ ns)
  | [], done, _, _ => by rw [membersCanonical?, List.append_nil]
  | (k, w) :: rest, done, ⟨hw, hrest⟩, hascending => by
    have hlast : ∀ m ∈ done, m.1 < k := fun m hm =>
      (List.pairwise_append.1 hascending).2.2 m hm (k, w) List.mem_cons_self
    rw [List.append_cons] at hascending ⊢
    rw [membersCanonical?, canonical?_of_settled quoted? w hw]
    simp only [put_of_lt hlast]
    exact membersCanonical?_of_settled quoted? rest _ hrest hascending

end

/-! ### Where something is taken for a quote -/

/-- An object that is a quote of a text. -/
def quoting (s : String) : Json := object [(quoteKey, string s)]

theorem eq_quoting {ms : List (String × Json)} (h : isQuote ms = true) {s : String} (hs : quotedText? ms = some s) :
    object ms = quoting s := by
  match ms, h, hs with
  | [(k, string t)], h, hs =>
    cases hs
    rw [quoting, show k = quoteKey from beq_iff_eq.1 h]

theorem isQuote_of_keys {ms : List (String × Json)} (h : ∀ k, k ∈ ms.map (·.1) ↔ k = quoteKey) : isQuote ms = true := by
  cases ms with
  | nil => cases (h quoteKey).2 rfl
  | cons m rest => exact beq_iff_eq.2 ((h m.1).1 List.mem_cons_self)

section

variable {quoted? again? : String → Option Json} (hquoted : ∀ s t, quoted? s ≠ some (quoting t))
include hquoted

/-- What is read is no quote itself: it would have been made of an object that starts with the key of one. -/
theorem canonical?_ne_quoting (u : Json) (s : String) : u.canonical? quoted? ≠ some (quoting s) := by
  intro h
  cases u with
  | null | bool | int | float | string | unreadable => cases h
  | array us =>
    obtain ⟨ws, -, hws⟩ := Option.map_eq_some_iff.1 h
    cases hws
  | object ms =>
    cases hquote : isQuote ms with
    | true =>
      rw [canonical?, hquote, if_pos rfl] at h
      obtain ⟨t, -, ht⟩ := Option.bind_eq_some_iff.1 h
      exact hquoted t s ht
    | false =>
      obtain ⟨ns, hns, heq⟩ := members_of_canonical? hquote h
      cases heq
      have hkeys := mem_keys_membersCanonical? hns
      simp only [List.map_nil, List.not_mem_nil, or_false, List.map_cons, List.mem_singleton] at hkeys
      rw [isQuote_of_keys fun k => (hkeys k).symm] at hquote
      cases hquote

/-- What is read has no key of a quote in front if it is read again as it is. -/
theorem isQuote_of_again {u : Json} {ns : List (String × Json)} (hread : u.canonical? quoted? = some (object ns))
    (hagain : (object ns).canonical? again? = some (object ns)) : isQuote ns = false := by
  refine Bool.eq_false_iff.2 fun hquote => ?_
  rw [canonical?, if_pos hquote] at hagain
  obtain ⟨s, hs, -⟩ := Option.bind_eq_some_iff.1 hagain
  exact canonical?_ne_quoting hquoted u s (eq_quoting hquote hs ▸ hread)

/-- A value that is kept, and of which what is read is read again as it is, has nothing in it that is taken for a
quote. -/
theorem Kept.unquoted {u w : Json} (hkept : Kept u w) (hread : u.canonical? quoted? = some w)
    (hagain : w.canonical? again? = some w) : u.Unquoted := by
  induction hkept with
  | null | bool | int | float | string => trivial
  | array hlength _ ih =>
    obtain ⟨ws, hread, heq⟩ := Option.map_eq_some_iff.1 hread
    cases heq
    obtain ⟨ws, hagain, heq⟩ := Option.map_eq_some_iff.1 hagain
    cases heq
    refine itemsUnquoted_iff.2 fun u hu => ?_
    obtain ⟨i, w, hwi, hi⟩ := exists_item hlength.symm hu
    exact ih i u w hi hwi (canonical?_of_itemsCanonical? hread hi hwi) (canonical?_of_itemsCanonical? hagain hwi hwi)
  | @object ms ns hascending hkeys hvalues ih =>
    have hfront : isQuote ns = false := isQuote_of_again hquoted hread hagain
    have hquote : isQuote ms = false := by
      refine Bool.eq_false_iff.2 fun hquote => ?_
      rw [canonical?, if_pos hquote] at hread
      obtain ⟨s, hs, -⟩ := Option.bind_eq_some_iff.1 hread
      cases eq_quoting hquote hs
      rw [isQuote_of_keys fun k => by rw [hkeys, List.map_singleton, List.mem_singleton]] at hfront
      cases hfront
    obtain ⟨ns', hread, heq⟩ := members_of_canonical? hquote hread
    cases heq
    obtain ⟨ns', hagain, heq⟩ := members_of_canonical? hfront hagain
    cases heq
    refine ⟨hquote, fun hmem => ?_, membersUnquoted_of_get? fun k u hget => ?_⟩
    · rw [← hkeys] at hmem
      cases ns with
      | nil => cases hmem
      | cons m rest =>
        rcases List.mem_cons.1 hmem with heq | hmem
        · exact absurd heq.symm (beq_eq_false_iff_ne.1 hfront)
        · obtain ⟨e, he, heq⟩ := List.mem_map.1 hmem
          exact ⟨m.1, (hkeys m.1).1 List.mem_cons_self, heq ▸ (List.pairwise_cons.1 hascending).1 e he⟩
    · have hread := get?_membersCanonical? .nil hread k
      have hagain := get?_membersCanonical? .nil hagain k
      obtain ⟨w, hw⟩ := exists_get? ((hkeys k).2 (List.mem_map_of_mem (f := (·.1)) (mem_of_get? hget)))
      rw [hget, hw] at hread
      rw [hw] at hagain
      exact ih k u w hget (mem_of_get? hw) hread.symm hagain.symm

end

theorem ofQuote?_ne_quoting (fuel : Nat) (s t : String) : ofQuote? fuel s ≠ some (quoting t) := by
  induction fuel generalizing s t with
  | zero => nofun
  | succ fuel ih =>
    intro h
    rw [ofQuote?] at h
    split at h
    · cases h
    · next v _ =>
      split at h
      · exact canonical?_ne_quoting ih v t h
      · cases h

variable {limit : Nat} {u w : Json}

theorem asValue?_kept (hu : u.Unquoted) (h : asValue? limit u = some w) : Kept u w := by
  rw [asValue?, Option.ite_none_right_eq_some] at h
  exact kept_of_canonical? _ u w hu h.2

theorem depth_le_of_asValue? (h : asValue? limit u = some w) : u.depth ≤ limit := by
  rw [asValue?, Option.ite_none_right_eq_some] at h
  exact h.1

theorem asValue?_of_settled (hw : w.Settled) (hdepth : w.depth ≤ limit) : asValue? limit w = some w := by
  rw [asValue?, if_pos hdepth, canonical?_of_settled _ w hw]

/-- A value is kept and read again as it is just when nothing in it is taken for a quote. -/
theorem unquoted_iff {limit' : Nat} (h : asValue? limit u = some w) (hdepth : w.depth ≤ limit') :
    u.Unquoted ↔ Kept u w ∧ asValue? limit' w = some w := by
  refine ⟨fun hu => ?_, fun ⟨hkept, hagain⟩ => ?_⟩
  · have hkept := asValue?_kept hu h
    exact ⟨hkept, asValue?_of_settled (hkept.settled hu) hdepth⟩
  · rw [asValue?, Option.ite_none_right_eq_some] at h hagain
    exact hkept.unquoted (fun s => ofQuote?_ne_quoting s.length s) h.2 hagain.2

end Keyring.Json
