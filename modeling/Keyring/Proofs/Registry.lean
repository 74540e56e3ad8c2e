import Mathlib.Data.List.Basic
import Keyring.Registry

/-! What a registry holds after providers were put into it, in any order and number: for each chain the last one that
was made for it, of the kind that the chain calls for. A provider that cannot be made is not put in. -/
namespace Keyring

variable {σ : Type}

/-! ### Providers that are made -/

/-- A call that makes a provider. -/
inductive Construction (σ : Type) where
  | bitcoin (source : Source σ)
  | evm (chain : Chain) (source : Source σ)
  | tron (source : Source σ)

namespace Construction

def make : Construction σ → Except Error (Provider σ)
  | bitcoin source => .ok (.bitcoin source)
  | evm chain source => Provider.forEvm chain source
  | tron source => .ok (.tron source)

/-- The providers that come of some calls; a call that is refused brings none. -/
def made (ks : List (Construction σ)) : List (Provider σ) := ks.filterMap fun k => k.make.toOption

/-- One of the providers is for the chain. -/
def Served (ks : List (Construction σ)) (c : Chain) : Prop := ∃ p ∈ made ks, p.chain = c

theorem mem_made_iff {ks : List (Construction σ)} {p : Provider σ} : p ∈ made ks ↔ ∃ k ∈ ks, k.make = .ok p := by
  rw [made, List.mem_filterMap]
  refine exists_congr fun k => and_congr_right fun _ => ?_
  cases k.make <;> simp [Except.toOption]

end Construction

/-- A provider is of the kind that its chain calls for. -/
theorem Provider.eq_forChain (p : Provider σ) : ∃ source, p = .forChain p.chain source := by
  cases p with
  | bitcoin source | tron source => exact ⟨source, rfl⟩
  | evm chain isEvm source =>
    refine ⟨source, ?_⟩
    cases chain with
    | bitcoin | tron => cases isEvm
    | ethereum | polygon | binance => rfl

/-! ### Registration -/

namespace Registry

open Construction

theorem lookup_register (r : Registry σ) (p : Provider σ) (c : Chain) :
    (r.register p).lookup c = if p.chain = c then some p else r.lookup c := by
  by_cases hc : p.chain = c
  · rw [if_pos hc, ← hc, lookup_register_self]
  · rw [if_neg hc, lookup_register_of_ne r p (Ne.symm hc)]

/-- The last provider for a chain is found, and before there is one what was registered at first. -/
theorem lookup_foldl_register (ps : List (Provider σ)) (r : Registry σ) (c : Chain) :
    (ps.foldl register r).lookup c = ((ps.filter fun p => p.chain = c).getLast?).or (r.lookup c) := by
  induction ps generalizing r with
  | nil => rfl
  | cons p ps ih =>
    rw [List.foldl_cons, ih, lookup_register]
    by_cases hc : p.chain = c
    · rw [if_pos hc, List.filter_cons_of_pos (by simpa using hc), List.getLast?_cons]
      cases (ps.filter fun p => p.chain = c).getLast? <;> rfl
    · rw [if_neg hc, List.filter_cons_of_neg (by simpa using hc)]

/-- The registry after the providers that come of some calls were put into it. -/
def ofConstructions (ks : List (Construction σ)) : Registry σ := .ofList (made ks)

variable {ks : List (Construction σ)} {c : Chain}

theorem lookup_ofConstructions (ks : List (Construction σ)) (c : Chain) :
    (ofConstructions ks).lookup c = ((made ks).filter fun p => p.chain = c).getLast? := by
  rw [ofConstructions, ofList, lookup_foldl_register]
  exact Option.or_none

theorem lookup_eq_none_iff : (ofConstructions ks).lookup c = none ↔ ¬ Served ks c := by
  rw [lookup_ofConstructions, List.getLast?_eq_none_iff, List.filter_eq_nil_iff]
  simp [Served]

theorem exists_lookup_iff : (∃ p, (ofConstructions ks).lookup c = some p) ↔ Served ks c := by
  rw [← Option.ne_none_iff_exists', ne_eq, lookup_eq_none_iff, not_not]

/-- What is found is made by the last call that makes a provider for the chain. -/
theorem provider_eq_ok_iff {p : Provider σ} :
    (ofConstructions ks).provider c = .ok p ↔ ((made ks).filter fun p => p.chain = c).getLast? = some p := by
  rw [← lookup_ofConstructions, provider]
  cases (ofConstructions ks).lookup c <;> simp

theorem provider_of_unserved (h : ¬ Served ks c) :
    (ofConstructions ks).provider c = .error (.unknownChain (.unserved c)) := by
  rw [provider, lookup_eq_none_iff.2 h]

theorem forChain_of_provider {p : Provider σ} (h : (ofConstructions ks).provider c = .ok p) :
    ∃ source, p = .forChain c source := by
  rw [provider_eq_ok_iff, ← lookup_ofConstructions] at h
  obtain ⟨source, hp⟩ := p.eq_forChain
  exact ⟨source, (ofConstructions ks).chain_of_lookup c p h ▸ hp⟩

/-- One more call leaves a chain alone that it makes no provider for. -/
theorem provider_append (ks : List (Construction σ)) {k : Construction σ} (h : ∀ p, k.make = .ok p → p.chain ≠ c) :
    (ofConstructions (ks ++ [k])).provider c = (ofConstructions ks).provider c := by
  have hnone : (made [k]).filter (fun p => p.chain = c) = [] := by
    rw [List.filter_eq_nil_iff]
    intro p hp
    obtain ⟨k', hk', hmake⟩ := mem_made_iff.1 hp
    rw [List.mem_singleton.1 hk'] at hmake
    simpa using h p hmake
  have hlookup : (ofConstructions (ks ++ [k])).lookup c = (ofConstructions ks).lookup c := by
    rw [lookup_ofConstructions, lookup_ofConstructions, made, List.filterMap_append, List.filter_append, ← made, ← made,
      hnone, List.append_nil]
  rw [provider, provider, hlookup]

theorem mem_chains_iff : c ∈ (ofConstructions ks).chains ↔ Served ks c := by
  rw [chains, List.mem_filter, and_iff_right c.mem_all, Option.isSome_iff_exists, exists_lookup_iff]

theorem chains_sublist (r : Registry σ) : r.chains.Sublist Chain.all := List.filter_sublist

theorem nodup_chains (r : Registry σ) : r.chains.Nodup := by
  have hall : Chain.all.Nodup := by decide
  exact hall.sublist r.chains_sublist

end Registry
end Keyring
