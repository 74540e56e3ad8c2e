import Keyring.Entropy

/-! Streams of bytes. A source that hands out a stream delivers what comes next in it, and goes on from the place that
it has come to, also after a request that it refused. So the bytes of a stretch are the same from wherever in front of
it they are looked at, and stretches that follow each other are one longer stretch. -/
namespace Keyring

/-- A source with its place in a stream. A request that is refused may lose bytes of the stream, but none come twice. -/
structure Stream (σ : Type) extends Source σ where
  /-- How many bytes of the stream are gone. -/
  drawn : σ → Nat
  /-- The bytes of the stream that are yet to come. -/
  ahead : σ → Nat → UInt8
  delivers {n : Nat} {s t : σ} {block : { bs : Bytes // bs.length = n }} (h : fill n s = (.ok block, t)) :
    drawn t = drawn s + n ∧ block.val = (List.range n).map (ahead s)
  moves {n : Nat} {s t : σ} {answer : Except String { bs : Bytes // bs.length = n }} (h : fill n s = (answer, t)) :
    drawn s ≤ drawn t ∧ ∀ i, ahead t i = ahead s (drawn t - drawn s + i)

namespace Stream

variable {σ : Type} (stream : Stream σ) {s t u : σ} {m n k : Nat}

/-- Behind the next `m` bytes of the stream, `n` bytes. -/
def stretch (s : σ) (m n : Nat) : Bytes := (List.range n).map fun i => stream.ahead s (m + i)

@[simp] theorem length_stretch (s : σ) (m n : Nat) : (stream.stretch s m n).length = n := by simp [stretch]

theorem stretch_add (s : σ) (m n k : Nat) :
    stream.stretch s m (n + k) = stream.stretch s m n ++ stream.stretch s (m + n) k := by
  rw [stretch, stretch, stretch, List.range_add, List.map_append, List.map_map]
  refine congrArg (_ ++ ·) (List.map_congr_left fun i _ => ?_)
  rw [Function.comp_apply, Nat.add_assoc]

theorem drop_stretch (s : σ) (m n k : Nat) :
    (stream.stretch s m (n + k)).drop n = stream.stretch s (m + n) k := by
  rw [stretch_add, List.drop_left' (length_stretch ..)]

/-- The second state is further on in the stream of the first, or at the same place. -/
def Onward (s t : σ) : Prop :=
  stream.drawn s ≤ stream.drawn t ∧ ∀ i, stream.ahead t i = stream.ahead s (stream.drawn t - stream.drawn s + i)

theorem onward_refl (s : σ) : stream.Onward s s := ⟨Nat.le_refl _, fun i => by rw [Nat.sub_self, Nat.zero_add]⟩

variable {stream}

theorem Onward.trans (hst : stream.Onward s t) (htu : stream.Onward t u) : stream.Onward s u := by
  obtain ⟨hst, hs⟩ := hst
  obtain ⟨htu, ht⟩ := htu
  refine ⟨Nat.le_trans hst htu, fun i => ?_⟩
  rw [ht, hs]
  congr 1
  omega

theorem onward_of_fill {answer : Except String { bs : Bytes // bs.length = n }}
    (h : stream.fill n s = (answer, t)) : stream.Onward s t :=
  stream.moves h

theorem Onward.stretch (h : stream.Onward s t) (m n : Nat) :
    stream.stretch t m n = stream.stretch s (stream.drawn t - stream.drawn s + m) n :=
  List.map_congr_left fun i _ => by rw [h.2, Nat.add_assoc]

theorem eq_stretch_of_fill {block : { bs : Bytes // bs.length = n }} (h : stream.fill n s = (.ok block, t)) :
    block.val = stream.stretch s 0 n := by
  rw [(stream.delivers h).2]
  exact List.map_congr_left fun i _ => by rw [Nat.zero_add]

end Stream

/-- A tape is a stream that ends. A request for more than is left is refused and loses nothing. -/
def Tape.stream : Stream Tape where
  toSource := Tape.source
  drawn := Tape.drawn
  ahead t i := t.rest.getD i 0
  delivers {n s t block} h := by
    simp only [source, draw] at h
    split at h
    · next hle =>
      cases h
      refine ⟨rfl, List.ext_getElem (by simp [hle]) fun i hi _ => ?_⟩
      simp only [List.length_take] at hi
      simp [List.getElem?_eq_getElem (show i < s.rest.length by omega)]
    · cases h
  moves {n s t answer} h := by
    simp only [source, draw] at h
    split at h
    · cases h
      exact ⟨Nat.le_add_right _ _, fun i => by simp⟩
    · cases h
      exact ⟨Nat.le_refl _, fun i => by simp⟩

end Keyring
