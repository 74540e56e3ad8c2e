import Keyring.Provider

/-! Registries of providers: at most one for each chain, and each under the chain that it serves. -/
namespace Keyring

structure Registry (σ : Type) where
  lookup : Chain → Option (Provider σ)
  chain_of_lookup : ∀ c p, lookup c = some p → p.chain = c

namespace Registry

variable {σ : Type}

def empty : Registry σ := ⟨fun _ => none, by simp⟩

/-- Puts a provider under its chain, in place of an earlier one. -/
def register (r : Registry σ) (p : Provider σ) : Registry σ where
  lookup c := if c = p.chain then some p else r.lookup c
  chain_of_lookup c q h := by
    split at h
    · next hc => cases h; exact hc.symm
    · exact r.chain_of_lookup c q h

theorem lookup_register_self (r : Registry σ) (p : Provider σ) : (r.register p).lookup p.chain = some p := by
  simp [register]

theorem lookup_register_of_ne (r : Registry σ) (p : Provider σ) {c : Chain} (hne : c ≠ p.chain) :
    (r.register p).lookup c = r.lookup c := by
  simp [register, hne]

def ofList (ps : List (Provider σ)) : Registry σ := ps.foldl register empty

/-- One provider for every chain. -/
def full (source : Source σ) : Registry σ := ofList (Chain.all.map fun c => .forChain c source)

def provider (r : Registry σ) (c : Chain) : Except Error (Provider σ) :=
  match r.lookup c with
  | some p => .ok p
  | none => .error (.unknownChain (.unserved c))

/-- The chains that are served. -/
def chains (r : Registry σ) : List Chain := Chain.all.filter fun c => (r.lookup c).isSome

/-- A new wallet from the provider of a chain. -/
def generate (r : Registry σ) (c : Chain) (stamp : Stamp) (s : σ) : Except Error Wallet × σ :=
  match r.provider c with
  | .error e => (.error e, s)
  | .ok p => p.generate stamp s

end Registry
end Keyring
