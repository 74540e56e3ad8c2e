import Mathlib.Data.List.Chain
import Keyring.Proofs.Entropy
import Keyring.Proofs.Provider.Barren

/-! What a provider takes of a stream. A draw of a key goes through the blocks in turn and stops behind the first that
is a key; a master key takes one seed. Whatever a call comes to, the next one starts where it stopped, so the stretches
of the calls lie one behind the other and no byte goes into two wallets. -/
namespace Keyring

open Secp256k1

variable {σ : Type}

namespace PrivateKey

/-- A key is found within so many tries: the first block that is one. -/
inductive Finds (source : Source σ) (tries : Nat) (s : σ) (key : PrivateKey) (u : σ) : Prop where
  | block {k : Nat} {t : σ} {block : { bs : Bytes // bs.length = 32 }} (tried : k < tries) (misses : Misses source k s t)
      (fills : source.fill 32 t = (.ok block, u)) (scalar : Bytes.toNat block.val = key.scalar)

variable {source : Source σ} {tries : Nat} {s t u : σ} {key : PrivateKey}

theorem not_finds_of_error {reason : String} (hfill : source.fill 32 s = (.error reason, t)) :
    ¬ Finds source tries s key u := by
  rintro ⟨-, hmisses, hfills, -⟩
  cases hmisses with
  | none => cases hfill.symm.trans hfills
  | block hfill' => cases hfill.symm.trans hfill'

theorem finds_succ_iff {block : { bs : Bytes // bs.length = 32 }} (hfill : source.fill 32 s = (.ok block, t)) :
    Finds source (tries + 1) s key u ↔ (Bytes.toNat block.val = key.scalar ∧ u = t)
      ∨ (¬ (0 < Bytes.toNat block.val ∧ Bytes.toNat block.val < order) ∧ Finds source tries t key u) := by
  constructor
  · rintro ⟨htried, hmisses, hfills, hscalar⟩
    cases hmisses with
    | none =>
      cases hfill.symm.trans hfills
      exact .inl ⟨hscalar, rfl⟩
    | block hfill' hinvalid hrest =>
      cases hfill.symm.trans hfill'
      exact .inr ⟨hinvalid, .block (Nat.lt_of_succ_lt_succ htried) hrest hfills hscalar⟩
  · rintro (⟨hscalar, rfl⟩ | ⟨hinvalid, htried, hmisses, hfills, hscalar⟩)
    · exact .block (Nat.succ_pos _) (.none s) hfill hscalar
    · exact .block (Nat.succ_lt_succ htried) (.block hfill hinvalid hmisses) hfills hscalar

theorem drawWithin_eq_ok_iff : drawWithin source tries s = (.ok key, u) ↔ Finds source tries s key u := by
  induction tries generalizing s with
  | zero =>
    rw [drawWithin]
    refine iff_of_false (fun h => ?_) fun h => ?_
    · cases h
    · obtain ⟨htried, -⟩ := h
      cases htried
  | succ tries ih =>
    rw [drawWithin]
    rcases hfill : source.fill 32 s with ⟨reason | block, t⟩
    · refine iff_of_false (fun h => ?_) (not_finds_of_error hfill)
      cases h
    · rw [finds_succ_iff hfill]
      dsimp only
      by_cases hscalar : 0 < Bytes.toNat block.val ∧ Bytes.toNat block.val < order
      · obtain ⟨drawn, hdrawn⟩ := exists_ofNat? hscalar
        have hsame : drawn = key ↔ Bytes.toNat block.val = key.scalar := by
          rw [← ofNat?_eq_some_iff, hdrawn, Option.some.injEq]
        simp only [hdrawn, hscalar, and_self, not_true_eq_false, false_and, or_false, Prod.mk.injEq, Except.ok.injEq,
          hsame, @eq_comm _ t u]
      · have hkey : Bytes.toNat block.val ≠ key.scalar := fun h => hscalar (h ▸ ⟨key.pos, key.lt_order⟩)
        simp only [ofNat?_of_not hscalar, hscalar, hkey, not_false_eq_true, false_and, true_and, false_or, ih]

end PrivateKey

namespace Stream

variable {stream : Stream σ} {s t u : σ} {k : Nat} {stamp : Stamp}

/-- Of the bytes that are yet to come, 32 behind `k` times 32. -/
def block (stream : Stream σ) (s : σ) (k : Nat) : Bytes := stream.stretch s (32 * k) 32

/-- So many blocks have been drawn one after the other, and none of them is a key. -/
structure Passes (stream : Stream σ) (k : Nat) (s t : σ) : Prop where
  misses : PrivateKey.Misses stream.toSource k s t
  drawn : stream.drawn t = stream.drawn s + 32 * k
  invalid : ∀ i < k, ¬ (0 < Bytes.toNat (stream.block s i) ∧ Bytes.toNat (stream.block s i) < order)

theorem onward_of_misses (h : PrivateKey.Misses stream.toSource k s t) : stream.Onward s t := by
  induction h with
  | none s => exact stream.onward_refl s
  | block hfill _ _ ih => exact (onward_of_fill hfill).trans ih

theorem block_of_onward (h : stream.Onward s t) (hdrawn : stream.drawn t = stream.drawn s + 32 * k) (i : Nat) :
    stream.block t i = stream.block s (k + i) := by
  rw [block, block, h.stretch, hdrawn]
  congr 1
  omega

theorem passes_of_misses (h : PrivateKey.Misses stream.toSource k s t) : stream.Passes k s t := by
  induction h with
  | none s => exact ⟨.none s, rfl, fun i hi => absurd hi (Nat.not_lt_zero i)⟩
  | @block k s t u given hfill hinvalid hmisses ih =>
    obtain ⟨-, hdrawn, hrest⟩ := ih
    have hgone : stream.drawn t = stream.drawn s + 32 * 1 := (stream.delivers hfill).1
    have hblock : given.val = stream.block s 0 := eq_stretch_of_fill hfill
    refine ⟨.block hfill hinvalid hmisses, by omega, fun i hi => ?_⟩
    cases i with
    | zero => rwa [← hblock]
    | succ i =>
      have hlater := hrest i (Nat.lt_of_succ_lt_succ hi)
      rwa [block_of_onward (onward_of_fill hfill) hgone, Nat.add_comm] at hlater

/-- What a draw of a key comes to. -/
inductive KeyDraw (stream : Stream σ) (s : σ) : Except Error PrivateKey → σ → Prop where
  | found {k : Nat} {u t : σ} {given : { bs : Bytes // bs.length = 32 }} {key : PrivateKey} (tried : k < 16)
      (passed : stream.Passes k s u) (fills : stream.fill 32 u = (.ok given, t))
      (scalar : Bytes.toNat (stream.block s k) = key.scalar)
      (drawn : stream.drawn t = stream.drawn s + 32 * (k + 1)) : KeyDraw stream s (.ok key) t
  | exhausted {t : σ} (passed : stream.Passes 16 s t) : KeyDraw stream s (.error (.keyGeneration .noScalar)) t
  | refused {k : Nat} {u t : σ} {reason : String} (tried : k < 16) (passed : stream.Passes k s u)
      (refuses : stream.fill 32 u = (.error reason, t)) :
      KeyDraw stream s (.error (.keyGeneration (.source reason))) t

theorem block_of_passes (h : stream.Passes k s u) {given : { bs : Bytes // bs.length = 32 }}
    (hfill : stream.fill 32 u = (.ok given, t)) :
    given.val = stream.block s k ∧ stream.drawn t = stream.drawn s + 32 * (k + 1) := by
  have hgiven : given.val = stream.block u 0 := eq_stretch_of_fill hfill
  rw [hgiven, block_of_onward (onward_of_misses h.misses) h.drawn, (stream.delivers hfill).1, h.drawn]
  exact ⟨rfl, by omega⟩

theorem draw_iff {answer : Except Error PrivateKey} :
    PrivateKey.draw stream.toSource s = (answer, t) ↔ stream.KeyDraw s answer t := by
  rw [PrivateKey.draw]
  cases answer with
  | ok key =>
    rw [PrivateKey.drawWithin_eq_ok_iff]
    constructor
    · rintro ⟨htried, hmisses, hfills, hscalar⟩
      have hpasses := passes_of_misses hmisses
      obtain ⟨hblock, hdrawn⟩ := block_of_passes hpasses hfills
      exact .found htried hpasses hfills (hblock ▸ hscalar) hdrawn
    · rintro ⟨htried, hpasses, hfills, hscalar, -⟩
      exact .block htried hpasses.misses hfills ((block_of_passes hpasses hfills).1 ▸ hscalar)
  | error e =>
    rw [PrivateKey.drawWithin_eq_error_iff]
    constructor
    · rintro ⟨fault, rfl, ⟨htried, hmisses, hfails⟩ | hmisses⟩
      · exact .refused htried (passes_of_misses hmisses) hfails
      · exact .exhausted (passes_of_misses hmisses)
    · rintro (_ | hpasses | ⟨htried, hpasses, hrefuses⟩)
      · exact ⟨_, rfl, .noScalar hpasses.misses⟩
      · exact ⟨_, rfl, .source htried hpasses.misses hrefuses⟩

/-- What a draw of a master key comes to, with the way from a seed to a master key. -/
inductive SeedDraw (stream : Stream σ) (make : Bytes → Option Bitcoin.MasterKey) (s : σ) :
    Except Error Bitcoin.MasterKey → σ → Prop where
  | made {t : σ} {given : { bs : Bytes // bs.length = 256 }} {m : Bitcoin.MasterKey}
      (fills : stream.fill 256 s = (.ok given, t)) (drawn : stream.drawn t = stream.drawn s + 256)
      (valid : make (stream.stretch s 0 256) = some m) : SeedDraw stream make s (.ok m) t
  | unfit {t : σ} {given : { bs : Bytes // bs.length = 256 }} (fills : stream.fill 256 s = (.ok given, t))
      (drawn : stream.drawn t = stream.drawn s + 256) (invalid : make (stream.stretch s 0 256) = none) :
      SeedDraw stream make s (.error (.keyGeneration .masterKey)) t
  | refused {t : σ} {reason : String} (refuses : stream.fill 256 s = (.error reason, t)) :
      SeedDraw stream make s (.error (.keyGeneration (.source reason))) t

/-- A request for a seed that is answered delivers the next 256 bytes of the stream. -/
theorem seedDraw_iff {make : Bytes → Option Bitcoin.MasterKey} {answer : Except Error Bitcoin.MasterKey} :
    stream.SeedDraw make s answer t ↔
      (∃ reason, stream.fill 256 s = (.error reason, t) ∧ .error (.keyGeneration (.source reason)) = answer)
        ∨ ∃ seed, stream.fill 256 s = (.ok seed, t)
          ∧ (Error.keyGeneration .masterKey).ifNone (make seed.val) = answer := by
  constructor
  · rintro (⟨hfills, -, hvalid⟩ | ⟨hfills, -, hinvalid⟩ | hrefuses)
    · refine .inr ⟨_, hfills, ?_⟩
      rw [eq_stretch_of_fill hfills, hvalid, Error.ifNone]
    · refine .inr ⟨_, hfills, ?_⟩
      rw [eq_stretch_of_fill hfills, hinvalid, Error.ifNone]
    · exact .inl ⟨_, hrefuses, rfl⟩
  · rintro (⟨reason, hrefuses, rfl⟩ | ⟨seed, hfills, rfl⟩)
    · exact .refused hrefuses
    · have hdrawn := (stream.delivers hfills).1
      rw [eq_stretch_of_fill hfills]
      cases hmake : make (stream.stretch s 0 256) with
      | some m => exact .made hfills hdrawn hmake
      | none => exact .unfit hfills hdrawn hmake

theorem drawMaster_iff {answer : Except Error Bitcoin.MasterKey} :
    Provider.drawMaster stream.toSource s = (answer, t) ↔ stream.SeedDraw Bitcoin.MasterKey.ofSeed? s answer t :=
  Provider.drawMaster_eq_iff.trans seedDraw_iff.symm

/-! ### One call -/

/-- How the account of a key is written on a chain that has accounts. -/
def accountText : Chain → Evm.Account → String
  | .tron => Tron.Address.ofAccount
  | _ => Evm.Account.toText

/-- What a call for a new wallet comes to, by what is drawn for it. -/
def Comes (stream : Stream σ) (stamp : Stamp) (s : σ) (c : Chain) (answer : Except Error Wallet) (t : σ) : Prop :=
  match c with
  | .bitcoin => ∃ drawn, stream.SeedDraw Bitcoin.MasterKey.ofSeed? s drawn t
      ∧ answer = drawn.map (Provider.masterWallet stamp)
  | c => ∃ drawn, stream.KeyDraw s drawn t ∧ answer = drawn.map (Provider.keyWallet stamp c (accountText c))

theorem map_draw_iff {α β : Type} {f : α → β} {x : Except Error α × σ} {answer : Except Error β} :
    (x.1.map f, x.2) = (answer, t) ↔ ∃ drawn, x = (drawn, t) ∧ answer = drawn.map f := by
  obtain ⟨drawn, u⟩ := x
  simp only [Prod.mk.injEq]
  constructor
  · rintro ⟨rfl, rfl⟩
    exact ⟨drawn, ⟨rfl, rfl⟩, rfl⟩
  · rintro ⟨_, ⟨rfl, rfl⟩, rfl⟩
    exact ⟨rfl, rfl⟩

theorem generate_iff {c : Chain} {answer : Except Error Wallet} :
    (Provider.forChain c stream.toSource).generate stamp s = (answer, t) ↔ stream.Comes stamp s c answer t := by
  have hkey (c : Chain) :
      ((PrivateKey.draw stream.toSource s).1.map (Provider.keyWallet stamp c (accountText c)),
        (PrivateKey.draw stream.toSource s).2) = (answer, t)
      ↔ ∃ drawn, stream.KeyDraw s drawn t ∧ answer = drawn.map (Provider.keyWallet stamp c (accountText c)) := by
    simp only [map_draw_iff, draw_iff]
  cases c with
  | bitcoin =>
    show ((Provider.drawMaster stream.toSource s).1.map (Provider.masterWallet stamp),
      (Provider.drawMaster stream.toSource s).2) = (answer, t) ↔ _
    simp only [map_draw_iff, drawMaster_iff]
    rfl
  | _ => exact hkey _

theorem onward_of_keyDraw {drawn : Except Error PrivateKey} (h : stream.KeyDraw s drawn t) : stream.Onward s t := by
  cases h with
  | found _ hpasses hfills => exact (onward_of_misses hpasses.misses).trans (onward_of_fill hfills)
  | exhausted hpasses => exact onward_of_misses hpasses.misses
  | refused _ hpasses hrefuses => exact (onward_of_misses hpasses.misses).trans (onward_of_fill hrefuses)

theorem onward_of_seedDraw {make : Bytes → Option Bitcoin.MasterKey} {drawn : Except Error Bitcoin.MasterKey}
    (h : stream.SeedDraw make s drawn t) : stream.Onward s t := by
  cases h with
  | made hfills => exact onward_of_fill hfills
  | unfit hfills => exact onward_of_fill hfills
  | refused hrefuses => exact onward_of_fill hrefuses

theorem Comes.onward {c : Chain} {answer : Except Error Wallet} (h : stream.Comes stamp s c answer t) :
    stream.Onward s t := by
  cases c with
  | bitcoin =>
    obtain ⟨drawn, hdrawn, -⟩ := h
    exact onward_of_seedDraw hdrawn
  | _ =>
    obtain ⟨drawn, hdrawn, -⟩ := h
    exact onward_of_keyDraw hdrawn

theorem onward_generate (stream : Stream σ) (c : Chain) (stamp : Stamp) (s : σ) :
    stream.Onward s ((Provider.forChain c stream.toSource).generate stamp s).2 :=
  (generate_iff.1 rfl).onward

/-! ### What a wallet is made of -/

/-- The wallet that is made of the bytes of a stretch: of all of them as a seed, or of the last 32 as a key. -/
def walletOf? (stamp : Stamp) (bs : Bytes) : Chain → Option Wallet
  | .bitcoin => (Bitcoin.MasterKey.ofSeed? bs).map (Provider.masterWallet stamp)
  | c => (PrivateKey.ofNat? (Bytes.toNat (bs.drop (bs.length - 32)))).map (Provider.keyWallet stamp c (accountText c))

theorem key_of_keyDraw {key : PrivateKey} (h : stream.KeyDraw s (.ok key) t) :
    let bs := stream.stretch s 0 (stream.drawn t - stream.drawn s)
    PrivateKey.ofNat? (Bytes.toNat (bs.drop (bs.length - 32))) = some key := by
  cases h with
  | @found k _ _ _ _ _ _ _ hscalar hdrawn =>
    have hlength : stream.drawn t - stream.drawn s = 32 * k + 32 := by omega
    dsimp only
    rw [hlength, length_stretch, Nat.add_sub_cancel, drop_stretch, Nat.zero_add, PrivateKey.ofNat?_eq_some_iff]
    exact hscalar

theorem master_of_seedDraw {make : Bytes → Option Bitcoin.MasterKey} {m : Bitcoin.MasterKey}
    (h : stream.SeedDraw make s (.ok m) t) : make (stream.stretch s 0 (stream.drawn t - stream.drawn s)) = some m := by
  obtain ⟨-, hdrawn, hvalid⟩ := h
  rw [hdrawn, Nat.add_sub_cancel_left, hvalid]

theorem Comes.walletOf? {c : Chain} {w : Wallet} (h : stream.Comes stamp s c (.ok w) t) :
    walletOf? stamp (stream.stretch s 0 (stream.drawn t - stream.drawn s)) c = some w := by
  cases c with
  | bitcoin =>
    obtain ⟨drawn, hdrawn, hw⟩ := h
    obtain ⟨m, rfl, rfl⟩ := map_eq_ok_iff.1 hw.symm
    exact Option.map_eq_some_iff.2 ⟨m, master_of_seedDraw hdrawn, rfl⟩
  | _ =>
    obtain ⟨drawn, hdrawn, hw⟩ := h
    obtain ⟨key, rfl, rfl⟩ := map_eq_ok_iff.1 hw.symm
    exact Option.map_eq_some_iff.2 ⟨key, key_of_keyDraw hdrawn, rfl⟩

/-! ### Calls in turn -/

/-- A call for a new wallet, its answer and what went of the stream meanwhile. -/
structure Generation where
  stamp : Stamp
  chain : Chain
  answer : Except Error Wallet
  /-- The place in the stream at which the call began. -/
  first : Nat
  taken : Bytes

/-- The place in the stream at which the call stopped. -/
def Generation.last (g : Generation) : Nat := g.first + g.taken.length

/-- Calls one after the other, each for a wallet of some chain. -/
def generations (stream : Stream σ) : List (Stamp × Chain) → σ → List Generation
  | [], _ => []
  | (stamp, c) :: calls, s =>
    let made := (Provider.forChain c stream.toSource).generate stamp s
    ⟨stamp, c, made.1, stream.drawn s, stream.stretch s 0 (stream.drawn made.2 - stream.drawn s)⟩
      :: stream.generations calls made.2

theorem head_generations {calls : List (Stamp × Chain)} {g : Generation}
    (h : g ∈ (stream.generations calls s).head?) : g.first = stream.drawn s := by
  cases calls with
  | nil => cases h
  | cons call calls =>
    cases h
    rfl

/-- Every call begins further on in the stream, and comes to what it would come to by itself. -/
theorem comes_of_mem {calls : List (Stamp × Chain)} {g : Generation} (h : g ∈ stream.generations calls s) :
    ∃ u t, stream.Onward s u ∧ g.first = stream.drawn u ∧ g.taken = stream.stretch u 0 (stream.drawn t - stream.drawn u)
      ∧ stream.Comes g.stamp u g.chain g.answer t := by
  induction calls generalizing s with
  | nil => cases h
  | cons call calls ih =>
    rw [generations] at h
    rcases List.mem_cons.1 h with rfl | h
    · exact ⟨s, _, stream.onward_refl s, rfl, rfl, generate_iff.1 rfl⟩
    · obtain ⟨u, t, honward, hrest⟩ := ih h
      exact ⟨u, t, (stream.onward_generate call.2 call.1 s).trans honward, hrest⟩

theorem isChain_generations (stream : Stream σ) (calls : List (Stamp × Chain)) (s : σ) :
    (stream.generations calls s).IsChain fun g h => h.first = g.last := by
  induction calls generalizing s with
  | nil => exact .nil
  | cons call calls ih =>
    rw [generations, List.isChain_cons]
    refine ⟨fun g hg => ?_, ih _⟩
    have hle := (stream.onward_generate call.2 call.1 s).1
    rw [head_generations hg, Generation.last]
    dsimp only
    rw [length_stretch]
    omega

theorem pairwise_of_isChain {gs : List Generation} (h : gs.IsChain fun g h => h.first = g.last) :
    gs.Pairwise fun g h => g.last ≤ h.first := by
  have : IsTrans Generation fun g h => g.last ≤ h.first :=
    ⟨fun _ g _ hle hle' => hle.trans ((Nat.le_add_right g.first _).trans hle')⟩
  exact List.isChain_iff_pairwise.1 (h.imp fun g h heq => heq.ge)

/-- The calls lie one behind the other in the stream, from a state on. Each comes to what it would come to by itself,
and a wallet is made of nothing but the bytes that its own call has taken. -/
structure Apart (stream : Stream σ) (s : σ) (gs : List Generation) : Prop where
  begins : ∀ g ∈ gs.head?, g.first = stream.drawn s
  follows : gs.IsChain fun g h => h.first = g.last
  apart : gs.Pairwise fun g h => g.last ≤ h.first
  placed : ∀ g ∈ gs, g.taken = stream.stretch s (g.first - stream.drawn s) g.taken.length
  comes : ∀ g ∈ gs, ∃ u t, stream.Onward s u ∧ stream.drawn u = g.first ∧ stream.drawn t = g.last
    ∧ stream.Comes g.stamp u g.chain g.answer t
  made : ∀ g ∈ gs, ∀ w, g.answer = .ok w → walletOf? g.stamp g.taken g.chain = some w

theorem apart_generations (stream : Stream σ) (calls : List (Stamp × Chain)) (s : σ) :
    stream.Apart s (stream.generations calls s) where
  begins g := head_generations
  follows := stream.isChain_generations calls s
  apart := pairwise_of_isChain (stream.isChain_generations calls s)
  placed g hg := by
    obtain ⟨u, t, honward, hfirst, htaken, -⟩ := comes_of_mem hg
    rw [htaken, length_stretch, honward.stretch, hfirst, Nat.add_zero]
  comes g hg := by
    obtain ⟨u, t, honward, hfirst, htaken, hcomes⟩ := comes_of_mem hg
    refine ⟨u, t, honward, hfirst.symm, ?_, hcomes⟩
    have hle := hcomes.onward.1
    rw [Generation.last, htaken, length_stretch, hfirst]
    omega
  made g hg w hw := by
    obtain ⟨u, t, -, -, htaken, hcomes⟩ := comes_of_mem hg
    rw [htaken]
    exact (hw ▸ hcomes).walletOf?

/-- A call for a new wallet draws from a stream as far as it must: blocks of 32 bytes up to the first of 16 that is a
key, or one seed of 256 bytes. It stops at a request that is refused, with the words of the source. Calls in turn, for
whatever chains, take stretches of the stream that follow each other, so no byte goes into two wallets. -/
theorem generations_apart (stream : Stream σ) :
    (∀ (c : Chain) (stamp : Stamp) (s t : σ) (answer : Except Error Wallet),
      (Provider.forChain c stream.toSource).generate stamp s = (answer, t) ↔ stream.Comes stamp s c answer t)
    ∧ (∀ reason, (Error.keyGeneration (.source reason)).message
      = "key generation failed: randomness source failed: " ++ reason)
    ∧ ∀ (calls : List (Stamp × Chain)) (s : σ), stream.Apart s (stream.generations calls s) := by
  refine ⟨fun c stamp s t answer => generate_iff, fun reason => ?_, stream.apart_generations⟩
  have hwords : "key generation failed: " ++ "randomness source failed: "
      = "key generation failed: randomness source failed: " := by decide
  show "key generation failed: " ++ ("randomness source failed: " ++ reason) = _
  rw [← String.append_assoc, hwords]

namespace Sample

/-- A block that is no key, one that is, and a rest that is too short for another one. -/
def tape : Tape := .ofBytes (List.replicate 32 0 ++ List.replicate 42 1)

def spent : Tape := ⟨List.replicate 10 1, 64⟩

def calls : List (Stamp × Chain) := [(⟨.nil, .epoch⟩, .ethereum), (⟨.nil, .epoch⟩, .tron), (⟨.nil, .epoch⟩, .bitcoin)]

end Sample

/-- The first call passes over a block of zeros, and the others end with the words of the tape. -/
theorem generations_apart_tape :
    Tape.stream.Apart Sample.tape (Tape.stream.generations Sample.calls Sample.tape)
    ∧ (Tape.stream.generations Sample.calls Sample.tape).map (fun g => (g.first, g.last)) =
      [(0, 64), (64, 64), (64, 64)]
    ∧ Tape.stream.Comes ⟨.nil, .epoch⟩ Sample.spent .tron (.error (.keyGeneration (.source "stream exhausted")))
      Sample.spent
    ∧ (Error.keyGeneration (.source "stream exhausted")).message =
      "key generation failed: randomness source failed: stream exhausted" := by
  obtain ⟨hcomes, hmessage, hapart⟩ := generations_apart Tape.stream
  refine ⟨hapart Sample.calls Sample.tape, by decide, (hcomes .tron _ _ _ _).1 rfl, ?_⟩
  exact (hmessage "stream exhausted").trans (by decide)

end Stream
end Keyring
