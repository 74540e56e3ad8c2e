import Keyring.Proofs.Provider

/-! Sources that give no key. A key is looked for in block after block, so a draw fails when the source does, before
any block was a key, or when its tries are used up; a master key is made from one seed or not at all. A provider fails
to make a wallet just when its source is barren in this way. -/
namespace Keyring

open Secp256k1

variable {σ : Type}

namespace PrivateKey

/-- Blocks in a row that are no keys, from one state of the source to another. -/
inductive Misses (source : Source σ) : Nat → σ → σ → Prop where
  | none (s : σ) : Misses source 0 s s
  | block {k : Nat} {s t u : σ} {block : { bs : Bytes // bs.length = 32 }} (fills : source.fill 32 s = (.ok block, t))
      (invalid : ¬ (0 < Bytes.toNat block.val ∧ Bytes.toNat block.val < order)) (rest : Misses source k t u) :
      Misses source (k + 1) s u

/-- No key is found in so many tries, for the given reason. -/
inductive Fails (source : Source σ) (tries : Nat) (s : σ) : GenerationFault → σ → Prop where
  | source {k : Nat} {t u : σ} {reason : String} (tried : k < tries) (misses : Misses source k s t)
      (fails : source.fill 32 t = (.error reason, u)) : Fails source tries s (.source reason) u
  | noScalar {t : σ} (misses : Misses source tries s t) : Fails source tries s .noScalar t

variable {source : Source σ} {tries : Nat} {s t u : σ} {fault : GenerationFault}

theorem ofNat?_of_not {n : Nat} (h : ¬ (0 < n ∧ n < order)) : ofNat? n = none := dif_neg h

theorem exists_ofNat? {n : Nat} (h : 0 < n ∧ n < order) : ∃ key, ofNat? n = some key := ⟨_, dif_pos h⟩

/-- After a block the draw fails just when the block is no key and the rest of the tries fail. -/
theorem fails_succ_iff {block : { bs : Bytes // bs.length = 32 }} (hfill : source.fill 32 s = (.ok block, t)) :
    Fails source (tries + 1) s fault u ↔
      ¬ (0 < Bytes.toNat block.val ∧ Bytes.toNat block.val < order) ∧ Fails source tries t fault u := by
  constructor
  · rintro (⟨htried, hmisses, hfails⟩ | hmisses)
    · cases hmisses with
      | none => cases hfill.symm.trans hfails
      | block hfill' hinvalid hrest =>
        cases hfill.symm.trans hfill'
        exact ⟨hinvalid, .source (Nat.lt_of_succ_lt_succ htried) hrest hfails⟩
    · cases hmisses with
      | block hfill' hinvalid hrest =>
        cases hfill.symm.trans hfill'
        exact ⟨hinvalid, .noScalar hrest⟩
  · rintro ⟨hinvalid, ⟨htried, hmisses, hfails⟩ | hmisses⟩
    · exact .source (Nat.succ_lt_succ htried) (.block hfill hinvalid hmisses) hfails
    · exact .noScalar (.block hfill hinvalid hmisses)

theorem fails_of_error {reason : String} (hfill : source.fill 32 s = (.error reason, t)) :
    Fails source (tries + 1) s fault u ↔ fault = .source reason ∧ u = t := by
  constructor
  · rintro (⟨htried, hmisses, hfails⟩ | hmisses)
    · cases hmisses with
      | none =>
        cases hfill.symm.trans hfails
        exact ⟨rfl, rfl⟩
      | block hfill' => cases hfill.symm.trans hfill'
    · cases hmisses with
      | block hfill' => cases hfill.symm.trans hfill'
  · rintro ⟨rfl, rfl⟩
    exact .source (Nat.succ_pos _) (.none s) hfill

theorem drawWithin_eq_error_iff {e : Error} :
    drawWithin source tries s = (.error e, u) ↔ ∃ fault, e = .keyGeneration fault ∧ Fails source tries s fault u := by
  induction tries generalizing s with
  | zero =>
    rw [drawWithin]
    constructor
    · intro h
      cases h
      exact ⟨_, rfl, .noScalar (.none _)⟩
    · rintro ⟨fault, rfl, ⟨htried, -, -⟩ | hmisses⟩
      · cases htried
      · cases hmisses
        rfl
  | succ tries ih =>
    rw [drawWithin]
    rcases hfill : source.fill 32 s with ⟨reason | block, t⟩
    · simp only [fails_of_error hfill, Prod.mk.injEq, Except.error.injEq]
      constructor
      · rintro ⟨rfl, rfl⟩
        exact ⟨_, rfl, rfl, rfl⟩
      · rintro ⟨fault, rfl, rfl, rfl⟩
        exact ⟨rfl, rfl⟩
    · dsimp only
      by_cases hscalar : 0 < Bytes.toNat block.val ∧ Bytes.toNat block.val < order
      · obtain ⟨key, hkey⟩ := exists_ofNat? hscalar
        simp [hkey, fails_succ_iff hfill, hscalar]
      · rw [ofNat?_of_not hscalar]
        simp only [fails_succ_iff hfill, hscalar, not_false_eq_true, true_and, ih]

end PrivateKey

namespace Provider

variable {stamp : Stamp} {s : σ} {fault : GenerationFault}

/-- The source of a provider gives no key, for the given reason. -/
def Barren (s : σ) (fault : GenerationFault) : Provider σ → Prop
  | bitcoin source => (∃ reason t, source.fill 256 s = (.error reason, t) ∧ fault = .source reason)
      ∨ ∃ seed t, source.fill 256 s = (.ok seed, t) ∧ Bitcoin.MasterKey.ofSeed? seed.val = none ∧ fault = .masterKey
  | evm _ _ source | tron source => ∃ t, PrivateKey.Fails source 16 s fault t

theorem draw_eq_error_iff {source : Source σ} {e : Error} :
    (PrivateKey.draw source s).1 = .error e ↔
      ∃ fault, e = .keyGeneration fault ∧ ∃ t, PrivateKey.Fails source 16 s fault t := by
  rw [PrivateKey.draw]
  constructor
  · intro h
    obtain ⟨fault, he, hfails⟩ := PrivateKey.drawWithin_eq_error_iff.1 (Prod.ext h rfl)
    exact ⟨fault, he, _, hfails⟩
  · rintro ⟨fault, he, t, hfails⟩
    rw [PrivateKey.drawWithin_eq_error_iff.2 ⟨fault, he, hfails⟩]

theorem drawMaster_eq_error_iff {source : Source σ} {e : Error} :
    (drawMaster source s).1 = .error e ↔ ∃ fault, e = .keyGeneration fault ∧ (bitcoin source).Barren s fault := by
  constructor
  · intro h
    rcases drawMaster_eq_iff.1 (Prod.ext h rfl) with ⟨reason, hfill, hdrawn⟩ | ⟨seed, hfill, hdrawn⟩
    · cases hdrawn
      exact ⟨_, rfl, .inl ⟨reason, _, hfill, rfl⟩⟩
    · obtain ⟨hnone, rfl⟩ := Error.ifNone_eq_error_iff.1 hdrawn
      exact ⟨_, rfl, .inr ⟨seed, _, hfill, hnone, rfl⟩⟩
  · rintro ⟨fault, rfl, ⟨reason, t, hfill, rfl⟩ | ⟨seed, t, hfill, hnone, rfl⟩⟩
    · rw [drawMaster_eq_iff.2 (.inl ⟨reason, hfill, rfl⟩)]
    · rw [drawMaster_eq_iff.2 (.inr ⟨seed, hfill, Error.ifNone_eq_error_iff.2 ⟨hnone, rfl⟩⟩)]

/-- No wallet is made just when the source is barren. -/
theorem generate_eq_error_iff {p : Provider σ} {e : Error} :
    (p.generate stamp s).1 = .error e ↔ ∃ fault, e = .keyGeneration fault ∧ p.Barren s fault := by
  cases p with
  | bitcoin source =>
    rw [generate]
    show (drawMaster source s).1.map _ = _ ↔ _
    rw [map_eq_error_iff]
    exact drawMaster_eq_error_iff
  | evm chain isEvm source =>
    rw [generate]
    show (PrivateKey.draw source s).1.map _ = _ ↔ _
    rw [map_eq_error_iff]
    exact draw_eq_error_iff
  | tron source =>
    rw [generate]
    show (PrivateKey.draw source s).1.map _ = _ ↔ _
    rw [map_eq_error_iff]
    exact draw_eq_error_iff

end Provider
end Keyring
