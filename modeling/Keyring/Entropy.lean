import Keyring.Bytes

/-! Sources of random bytes. A source answers a request for `n` bytes with `n` bytes or with a reason for
having none, and moves its state on; providers that share a state draw from it in turn. -/
namespace Keyring

structure Source (σ : Type) where
  fill : (n : Nat) → σ → Except String { bs : Bytes // bs.length = n } × σ

namespace Source

/-- Draws from one part of a larger state. -/
def focus {σ τ : Type} (get : τ → σ) (set : σ → τ → τ) (source : Source σ) : Source τ where
  fill n t :=
    let (answer, s) := source.fill n (get t)
    (answer, set s t)

end Source

/-- A finite stretch of bytes, drawn from the front. -/
structure Tape where
  rest : Bytes
  /-- How many bytes have been drawn. -/
  drawn : Nat

namespace Tape

def ofBytes (bs : Bytes) : Tape := ⟨bs, 0⟩

/-- A request for more than is left draws nothing. -/
def draw (n : Nat) (t : Tape) : Except String { bs : Bytes // bs.length = n } × Tape :=
  if h : n ≤ t.rest.length then
    (.ok ⟨t.rest.take n, by simp [h]⟩, ⟨t.rest.drop n, t.drawn + n⟩)
  else (.error "stream exhausted", t)

def source : Source Tape := ⟨draw⟩

end Tape

/-- What a source can be made of. -/
inductive Entropy where
  | tape (tape : Tape)
  | constant (byte : UInt8)
  | failing (reason : String)

namespace Entropy

def draw (n : Nat) : Entropy → Except String { bs : Bytes // bs.length = n } × Entropy
  | tape t =>
    let (answer, rest) := t.draw n
    (answer, tape rest)
  | constant b => (.ok ⟨List.replicate n b, by simp⟩, constant b)
  | failing reason => (.error reason, failing reason)

def source : Source Entropy := ⟨draw⟩

end Entropy
end Keyring
