import Mathlib.Data.List.Induction
import Mathlib.Logic.Function.Basic
import Keyring.Proofs.Service.Interleaving
import Keyring.Proofs.Store.Transaction
import Keyring.Service

/-! Callers that compete to delete one wallet. Some delete it in the store, which is one step; others ask the service,
which looks for the wallet first and deletes it in a second step. The steps of all callers come in any order, each with
what the clock says then. The first deletion that is committed sets the time, and every other one finds it set. -/
namespace Keyring

/-! ### One deletion after the other -/

/-- What a wallet has become when deletions were committed at some times; the first of them counts. -/
def Wallet.trashedBy (w : Wallet) (commits : List Timestamp) : Wallet :=
  { w with deletedAt := w.deletedAt.or commits.head? }

namespace Wallet

variable {w : Wallet} {commits : List Timestamp}

@[simp] theorem trashedBy_nil (w : Wallet) : w.trashedBy [] = w := by simp [trashedBy]

theorem trashedBy_append (h : commits ≠ []) (more : List Timestamp) :
    w.trashedBy (commits ++ more) = w.trashedBy commits := by
  obtain ⟨first, rest, rfl⟩ := List.exists_cons_of_ne_nil h
  rfl

theorem isDeleted_trashedBy : (w.trashedBy commits).isDeleted = true ↔ w.isDeleted = true ∨ commits ≠ [] := by
  cases hw : w.deletedAt <;> cases commits <;> simp [trashedBy, isDeleted, hw]

theorem trash_trashedBy (w : Wallet) (commits : List Timestamp) (now : Timestamp) :
    (w.trashedBy commits).trash now = w.trashedBy (commits ++ [now]) := by
  by_cases hdeleted : (w.trashedBy commits).isDeleted = true
  · rw [trash, if_pos hdeleted]
    rcases isDeleted_trashedBy.1 hdeleted with hw | hcommits
    · obtain ⟨t, ht⟩ := Option.isSome_iff_exists.1 hw
      simp [trashedBy, ht]
    · rw [trashedBy_append hcommits]
  · rw [trash, if_neg hdeleted]
    rw [isDeleted_trashedBy, not_or, not_not] at hdeleted
    obtain ⟨hw, rfl⟩ := hdeleted
    have hnone : w.deletedAt = none := by simpa [isDeleted] using hw
    simp [trashedBy, hnone]

end Wallet

/-! ### The race -/

/-- Who deletes: in the store, with a copy of the wallet, or through the service, by its identifier. -/
inductive Caller where
  | store (w : Wallet)
  | service

/-- How far a caller has come. -/
inductive Progress where
  | waiting
  | found (w : Wallet)
  | trashed (answer : Except StoreError Wallet)
  | deleted (answer : Except Error Unit)

def Progress.isDone : Progress → Bool
  | trashed _ | deleted _ => true
  | _ => false

def Progress.isSuccess : Progress → Bool
  | trashed (.ok _) | deleted (.ok _) => true
  | _ => false

/-- The service, how far everybody has come, and what the clock said in each deletion that was committed, in turn. -/
structure Race (ι σ : Type) where
  service : Service σ
  progress : ι → Progress
  commits : List Timestamp

namespace Race

variable {ι σ : Type} {x : Race ι σ} {callers : ι → Caller} {w : Wallet} {n : ι → Nat} {i j : ι} {now : Timestamp}

def start (v : Service σ) : Race ι σ := ⟨v, fun _ => .waiting, []⟩

/-- The outcome of a write transaction: one that went through was committed. -/
def wrote {ε α : Type} (x : Race ι σ) (now : Timestamp) (answer : Except ε α) (service : Service σ) : Race ι σ :=
  { x with service, commits := if answer.isOk then x.commits ++ [now] else x.commits }

/-! ### What is so between the steps -/

/-- Where a caller can be who has had so many turns. -/
inductive Placed (w : Wallet) (commits : List Timestamp) : Caller → Nat → Progress → Prop where
  | waiting {caller : Caller} : Placed w commits caller 0 .waiting
  | found (active : w.isDeleted = false) : Placed w commits .service 1 (.found w)
  | trashed {copy : Wallet} {k : Nat} (committed : commits ≠ []) :
    Placed w commits (.store copy) (k + 1) (.trashed (.ok (w.trashedBy commits)))
  | deleted {k : Nat} (committed : commits ≠ []) : Placed w commits .service (k + 2) (.deleted (.ok ()))
  | missed {k : Nat} (gone : w.isDeleted = true ∨ commits ≠ []) :
    Placed w commits .service (k + 1) (.deleted (.error .notFound))

namespace Placed

variable {commits : List Timestamp} {caller : Caller} {k : Nat} {p : Progress}

theorem later (h : Placed w commits caller k p) (now : Timestamp) : Placed w (commits ++ [now]) caller k p := by
  cases h with
  | waiting => exact .waiting
  | found active => exact .found active
  | trashed committed =>
    rw [← Wallet.trashedBy_append committed [now]]
    exact .trashed (by simp)
  | deleted => exact .deleted (by simp)
  | missed => exact .missed (.inr (by simp))

theorem again (h : Placed w commits caller k p) (hdone : p.isDone = true) : Placed w commits caller (k + 1) p := by
  cases h with
  | waiting | found => cases hdone
  | trashed committed => exact .trashed committed
  | deleted committed => exact .deleted committed
  | missed gone => exact .missed gone

theorem of_waiting (h : Placed w commits caller k .waiting) : k = 0 := by
  cases h
  rfl

theorem of_found {found : Wallet} (h : Placed w commits caller k (.found found)) :
    found = w ∧ caller = .service ∧ k = 1 := by
  cases h
  exact ⟨rfl, rfl, rfl⟩

theorem of_trashed {answer : Except StoreError Wallet} (h : Placed w commits caller k (.trashed answer)) :
    answer = .ok (w.trashedBy commits) ∧ commits ≠ [] := by
  cases h with
  | trashed committed => exact ⟨rfl, committed⟩

theorem of_deleted {answer : Except Error Unit} (h : Placed w commits caller k (.deleted answer)) :
    caller = .service ∧ ((answer = .ok () ∧ commits ≠ [])
      ∨ (answer = .error .notFound ∧ (w.isDeleted = true ∨ commits ≠ []))) := by
  cases h with
  | deleted committed => exact ⟨rfl, .inl ⟨rfl, committed⟩⟩
  | missed gone => exact ⟨rfl, .inr ⟨rfl, gone⟩⟩

theorem of_store {copy : Wallet} (h : Placed w commits (.store copy) (k + 1) p) :
    p = .trashed (.ok (w.trashedBy commits)) := by
  cases h
  rfl

theorem of_service (h : Placed w commits .service (k + 2) p) :
    p = .deleted (.ok ()) ∨ p = .deleted (.error .notFound) := by
  cases h with
  | deleted => exact .inl rfl
  | missed => exact .inr rfl

theorem of_success (h : Placed w commits .service k p) (hsuccess : p.isSuccess = true) : p = .deleted (.ok ()) := by
  cases h with
  | deleted => rfl
  | waiting | found | missed => cases hsuccess

/-- A caller that has not had a turn is waiting. -/
theorem eq_waiting (h : Placed w commits caller 0 p) : p = .waiting := by
  cases h
  rfl

end Placed

/-- The store has what the first deletion has made of the wallet, every caller is where it can be after its turns, and
what was committed was committed by a caller that succeeded. -/
structure Steady (w : Wallet) (callers : ι → Caller) (x : Race ι σ) (n : ι → Nat) : Prop where
  record : x.service.store.record w.id = .ok (w.trashedBy x.commits)
  writable : x.service.store.writable = true
  placed : ∀ i, Placed w x.commits (callers i) (n i) (x.progress i)
  winner : x.commits ≠ [] → ∃ i, (x.progress i).isSuccess = true

theorem steady_start {v : Service σ} (hrecord : v.store.record w.id = .ok w) (hwritable : v.store.writable = true) :
    Steady w callers (start v) fun _ => 0 where
  record := by rw [start, Wallet.trashedBy_nil, hrecord]
  writable := hwritable
  placed _ := .waiting
  winner h := absurd rfl h

/-- What a caller of the service finds. -/
theorem Steady.get_eq (h : Steady w callers x n) :
    (x.service.get w.id false = .ok w ∧ w.isDeleted = false)
    ∨ (x.service.get w.id false = .error .notFound ∧ (w.isDeleted = true ∨ x.commits ≠ [])) := by
  rw [Service.get, Store.get, h.record]
  by_cases hdeleted : (w.trashedBy x.commits).isDeleted = true
  · refine .inr ⟨?_, Wallet.isDeleted_trashedBy.1 hdeleted⟩
    simp [hdeleted, Except.mapError, Error.ofStore]
  · have hactive := Wallet.isDeleted_trashedBy.not.1 hdeleted
    rw [not_or, not_not, Bool.not_eq_true] at hactive
    rw [hactive.2, Wallet.trashedBy_nil]
    exact .inl ⟨by simp [hactive.1, Except.mapError], hactive.1⟩

theorem Steady.trash_eq (h : Steady w callers x n) (now : Timestamp) :
    (x.service.trash w now).1 = .ok ()
    ∧ (x.service.trash w now).2.store.record w.id = .ok (w.trashedBy (x.commits ++ [now]))
    ∧ (x.service.trash w now).2.store.writable = true := by
  obtain ⟨hanswer, hrecord, hwritable⟩ := Store.softDelete_of_record h.writable h.record now
  rw [Service.trash_eq, hanswer, ← Wallet.trash_trashedBy]
  exact ⟨rfl, hrecord, hwritable⟩

/-! ### What callers are told -/

namespace Steady

/-- A caller that deletes in the store has been told, after one turn, what stands there. -/
theorem trashed_of_pos (h : Steady w callers x n) {copy : Wallet} (hcaller : callers i = .store copy) (hpos : 0 < n i) :
    x.progress i = .trashed (.ok (w.trashedBy x.commits)) := by
  have hplaced := h.placed i
  obtain ⟨k, hk⟩ := Nat.exists_eq_succ_of_ne_zero (Nat.ne_of_gt hpos)
  rw [hcaller, hk] at hplaced
  exact hplaced.of_store

/-- A caller that asks the service has its answer after two turns. -/
theorem deleted_of_two_le (h : Steady w callers x n) (hcaller : callers i = .service) (hturns : 2 ≤ n i) :
    x.progress i = .deleted (.ok ()) ∨ x.progress i = .deleted (.error .notFound) := by
  have hplaced := h.placed i
  obtain ⟨k, hk⟩ := Nat.exists_eq_add_of_le' hturns
  rw [hcaller, hk] at hplaced
  exact hplaced.of_service

theorem told (h : Steady w callers x n) {answer : Except Error Unit} (hi : x.progress i = .deleted answer) :
    callers i = .service ∧ ((answer = .ok () ∧ x.commits ≠ [])
      ∨ (answer = .error .notFound ∧ (w.isDeleted = true ∨ x.commits ≠ []))) := by
  have hplaced := h.placed i
  rw [hi] at hplaced
  exact hplaced.of_deleted

/-- What is returned of a wallet that was active has the time of the first deletion. -/
theorem first (h : Steady w callers x n) (hactive : w.isDeleted = false) {answer : Except StoreError Wallet}
    (hi : x.progress i = .trashed answer) :
    ∃ last t, answer = .ok last ∧ x.commits.head? = some t ∧ last = { w with deletedAt := some t } := by
  have hplaced := h.placed i
  rw [hi] at hplaced
  obtain ⟨hanswer, hcommits⟩ := hplaced.of_trashed
  obtain ⟨t, rest, hlist⟩ := List.exists_cons_of_ne_nil hcommits
  have hnone : w.deletedAt = none := by simpa [Wallet.isDeleted] using hactive
  exact ⟨_, t, hanswer, by rw [hlist, List.head?_cons], by rw [Wallet.trashedBy, hlist, hnone]; rfl⟩

/-- Where all callers only ask the service and one of them is done, one of them has deleted the wallet. -/
theorem exists_deleted (h : Steady w callers x n) (hservice : ∀ i, callers i = .service) (hactive : w.isDeleted = false)
    {answer : Except Error Unit} (hi : x.progress i = .deleted answer) : ∃ j, x.progress j = .deleted (.ok ()) := by
  have hcommits : x.commits ≠ [] := by
    rcases (h.told hi).2 with ⟨-, hcommits⟩ | ⟨-, hgone⟩
    · exact hcommits
    · exact hgone.resolve_left (by rw [hactive]; exact Bool.false_ne_true)
  obtain ⟨j, hj⟩ := h.winner hcommits
  have hplaced := h.placed j
  rw [hservice j] at hplaced
  exact ⟨j, hplaced.of_success hj⟩

end Steady

/-! ### Steps -/

variable [DecidableEq ι] {id : Uuid}

/-- A caller comes further. -/
def reach (x : Race ι σ) (i : ι) (p : Progress) : Race ι σ := { x with progress := Function.update x.progress i p }

/-- The next step of a caller. One that is done takes no more. -/
def step (x : Race ι σ) (id : Uuid) (callers : ι → Caller) (i : ι) (now : Timestamp) : Race ι σ :=
  match callers i, x.progress i with
  | .store w, .waiting =>
    let (answer, store) := x.service.store.softDelete w now
    (x.wrote now answer { x.service with store }).reach i (.trashed answer)
  | .service, .waiting =>
    match x.service.get id false with
    | .ok w => x.reach i (.found w)
    | .error e => x.reach i (.deleted (.error e))
  | .service, .found w =>
    let (answer, service) := x.service.trash w now
    (x.wrote now answer service).reach i (.deleted answer)
  | _, _ => x

def run (x : Race ι σ) (id : Uuid) (callers : ι → Caller) (schedule : List (ι × Timestamp)) : Race ι σ :=
  schedule.foldl (fun x turn => x.step id callers turn.1 turn.2) x

/-- How many turns a caller has had. -/
def turns (schedule : List (ι × Timestamp)) (i : ι) : Nat := (schedule.map Prod.fst).count i

@[simp] theorem progress_reach_self (x : Race ι σ) (i : ι) (p : Progress) : (x.reach i p).progress i = p := by
  simp [reach]

theorem progress_reach_of_ne (h : j ≠ i) (p : Progress) : (x.reach i p).progress j = x.progress j := by
  simp [reach, h]

theorem step_store (hcaller : callers i = .store w) (hp : x.progress i = .waiting) :
    x.step id callers i now = (x.wrote now (x.service.store.softDelete w now).1
      { x.service with store := (x.service.store.softDelete w now).2 }).reach i
        (.trashed (x.service.store.softDelete w now).1) := by
  rw [step, hcaller, hp]

theorem step_waiting (hcaller : callers i = .service) (hp : x.progress i = .waiting) :
    x.step id callers i now =
      match x.service.get id false with
      | .ok w => x.reach i (.found w)
      | .error e => x.reach i (.deleted (.error e)) := by
  rw [step, hcaller, hp]

theorem step_found (hcaller : callers i = .service) (hp : x.progress i = .found w) :
    x.step id callers i now =
      (x.wrote now (x.service.trash w now).1 (x.service.trash w now).2).reach i
        (.deleted (x.service.trash w now).1) := by
  rw [step, hcaller, hp]

theorem step_done (h : (x.progress i).isDone = true) : x.step id callers i now = x := by
  rw [step]
  cases callers i <;> cases hp : x.progress i <;> simp_all [Progress.isDone]

theorem progress_step_of_ne (h : j ≠ i) : (x.step id callers i now).progress j = x.progress j := by
  rw [step]
  split
  · exact progress_reach_of_ne h _
  · split <;> exact progress_reach_of_ne h _
  · exact progress_reach_of_ne h _
  · rfl

/-- Two turns of a caller that nobody disturbs are a deletion by the service. -/
theorem step_step (hcaller : callers i = .service) (hp : x.progress i = .waiting) (later : Timestamp) :
    ((x.step id callers i now).step id callers i later).progress i = .deleted (x.service.delete id later).1
    ∧ ((x.step id callers i now).step id callers i later).service = (x.service.delete id later).2 := by
  rw [step_waiting hcaller hp, Service.delete]
  cases x.service.get id false with
  | error e =>
    rw [step_done (by rw [progress_reach_self]; rfl)]
    exact ⟨progress_reach_self x i _, rfl⟩
  | ok w =>
    rw [step_found hcaller (progress_reach_self x i _)]
    exact ⟨progress_reach_self _ i _, rfl⟩

namespace Steady

/-- One caller comes further and commits nothing. -/
theorem reach (h : Steady w callers x n) {p : Progress} (hp : Placed w x.commits (callers i) (n i + 1) p)
    (hprior : (x.progress i).isSuccess = false) :
    Steady w callers (x.reach i p) (Function.update n i (n i + 1)) where
  record := h.record
  writable := h.writable
  placed j := by
    by_cases hj : j = i
    · subst hj
      rw [progress_reach_self, Function.update_self]
      exact hp
    · rw [progress_reach_of_ne hj, Function.update_of_ne hj]
      exact h.placed j
  winner hcommits := by
    obtain ⟨j, hj⟩ := h.winner hcommits
    have hne : j ≠ i := by
      rintro rfl
      rw [hprior] at hj
      cases hj
    exact ⟨j, by rw [progress_reach_of_ne hne, hj]⟩

/-- One caller comes further by a deletion that is committed. -/
theorem commit (h : Steady w callers x n) {service : Service σ} {p : Progress}
    (hrecord : service.store.record w.id = .ok (w.trashedBy (x.commits ++ [now])))
    (hwritable : service.store.writable = true)
    (hp : Placed w (x.commits ++ [now]) (callers i) (n i + 1) p) (hsuccess : p.isSuccess = true) :
    Steady w callers (Race.reach { x with service, commits := x.commits ++ [now] } i p)
      (Function.update n i (n i + 1)) where
  record := hrecord
  writable := hwritable
  placed j := by
    by_cases hj : j = i
    · subst hj
      rw [progress_reach_self, Function.update_self]
      exact hp
    · rw [progress_reach_of_ne hj, Function.update_of_ne hj]
      exact (h.placed j).later now
  winner _ := ⟨i, by rw [progress_reach_self, hsuccess]⟩

/-- A turn of a caller that is done. -/
theorem idle (h : Steady w callers x n) (hdone : (x.progress i).isDone = true) :
    Steady w callers x (Function.update n i (n i + 1)) where
  record := h.record
  writable := h.writable
  placed j := by
    by_cases hj : j = i
    · subst hj
      rw [Function.update_self]
      exact (h.placed j).again hdone
    · rw [Function.update_of_ne hj]
      exact h.placed j
  winner := h.winner

theorem step (h : Steady w callers x n) (hcallers : ∀ i copy, callers i = .store copy → copy.id = w.id) (i : ι)
    (now : Timestamp) : Steady w callers (x.step w.id callers i now) (Function.update n i (n i + 1)) := by
  have hplaced := h.placed i
  -- A caller that waits can be of either kind; one that has found the wallet asks the service.
  cases hp : x.progress i with
  | waiting =>
    cases hcaller : callers i with
    | store copy =>
      have hid := hcallers i copy hcaller
      obtain ⟨hanswer, hrecord, hwritable⟩ := Store.softDelete_of_record h.writable (hid ▸ h.record) now
      rw [step_store hcaller hp, hanswer, Wallet.trash_trashedBy]
      rw [hid, Wallet.trash_trashedBy] at hrecord
      refine h.commit hrecord hwritable ?_ rfl
      rw [hcaller]
      exact .trashed (by simp)
    | service =>
      have hprior : (x.progress i).isSuccess = false := by rw [hp]; rfl
      rw [step_waiting hcaller hp]
      rcases h.get_eq with ⟨hget, hactive⟩ | ⟨hget, hgone⟩
      · rw [hget]
        refine h.reach ?_ hprior
        rw [hp] at hplaced
        rw [hcaller, hplaced.of_waiting]
        exact .found hactive
      · rw [hget]
        refine h.reach ?_ hprior
        rw [hcaller]
        exact .missed hgone
  | found v =>
    rw [hp] at hplaced
    obtain ⟨hv, hcaller, hk⟩ := hplaced.of_found
    rw [hv] at hp
    obtain ⟨hanswer, hrecord, hwritable⟩ := h.trash_eq now
    have hnext : Placed w (x.commits ++ [now]) (callers i) (n i + 1) (.deleted (.ok ())) := by
      rw [hcaller, hk]
      exact .deleted (by simp)
    rw [step_found hcaller hp, hanswer]
    exact h.commit hrecord hwritable hnext rfl
  | trashed | deleted =>
    have hdone : (x.progress i).isDone = true := by rw [hp]; rfl
    rw [step_done hdone]
    exact h.idle hdone

/-- A caller that has found the wallet deletes it, whatever others do meanwhile. -/
theorem step_of_found (h : Steady w callers x n) (hcaller : callers i = .service)
    (hi : x.progress i = .found w ∨ x.progress i = .deleted (.ok ())) (j : ι) (now : Timestamp) :
    (x.step w.id callers j now).progress i = .found w
    ∨ (x.step w.id callers j now).progress i = .deleted (.ok ()) := by
  by_cases hij : i = j
  · subst hij
    rcases hi with hi | hi
    · rw [step_found hcaller hi, progress_reach_self, (h.trash_eq now).1]
      exact .inr rfl
    · rw [step_done (by rw [hi]; rfl)]
      exact .inr hi
  · rw [progress_step_of_ne hij]
    exact hi

end Steady

/-! ### Schedules -/

theorem run_append (x : Race ι σ) (id : Uuid) (callers : ι → Caller) (front back : List (ι × Timestamp)) :
    x.run id callers (front ++ back) = (x.run id callers front).run id callers back := List.foldl_append

theorem turns_append_singleton (schedule : List (ι × Timestamp)) (i : ι) (now : Timestamp) :
    turns (schedule ++ [(i, now)]) = Function.update (turns schedule) i (turns schedule i + 1) := by
  funext j
  by_cases hj : j = i
  · subst hj
    simp [turns]
  · simp [turns, hj, Ne.symm hj]

theorem steady_run {v : Service σ} (hrecord : v.store.record w.id = .ok w) (hwritable : v.store.writable = true)
    (hcallers : ∀ i copy, callers i = .store copy → copy.id = w.id) (schedule : List (ι × Timestamp)) :
    Steady w callers ((start v).run w.id callers schedule) (turns schedule) := by
  induction schedule using List.reverseRecOn with
  | nil => exact steady_start hrecord hwritable
  | append_singleton front turn ih =>
    obtain ⟨i, now⟩ := turn
    rw [run_append, turns_append_singleton]
    exact ih.step hcallers i now

theorem run_of_found (h : Steady w callers x n) (hcallers : ∀ i copy, callers i = .store copy → copy.id = w.id)
    (hcaller : callers i = .service) (hi : x.progress i = .found w ∨ x.progress i = .deleted (.ok ()))
    (schedule : List (ι × Timestamp)) :
    (x.run w.id callers schedule).progress i = .found w
    ∨ (x.run w.id callers schedule).progress i = .deleted (.ok ()) := by
  induction schedule generalizing x n with
  | nil => exact hi
  | cons turn rest ih => exact ih (h.step hcallers turn.1 turn.2) (h.step_of_found hcaller hi turn.1 turn.2)

/-- What the callers are told, and how that goes with the record at the end and with the first deletion. -/
structure Agrees (v : Service σ) (w : Wallet) (callers : ι → Caller) (schedule : List (ι × Timestamp))
    (x : Race ι σ) : Prop where
  trashed : ∀ i copy, callers i = .store copy → i ∈ schedule.map Prod.fst →
    ∃ last, x.progress i = .trashed (.ok last) ∧ x.service.store.record w.id = .ok last
  first : w.isDeleted = false → ∀ i answer, x.progress i = .trashed answer →
    ∃ last t, answer = .ok last ∧ x.commits.head? = some t ∧ last = { w with deletedAt := some t }
  deleted : ∀ i, callers i = .service → 2 ≤ turns schedule i →
    x.progress i = .deleted (.ok ()) ∨ x.progress i = .deleted (.error .notFound)
  told : ∀ i answer, x.progress i = .deleted answer → answer = .ok () ∨ answer = .error .notFound
  missed : ∀ i front now back, schedule = front ++ (i, now) :: back → i ∉ front.map Prod.fst →
    x.progress i = .deleted (.error .notFound) →
    w.isDeleted = true ∨ ((start v).run w.id callers front).commits ≠ []
  winner : (∀ i, callers i = .service) → w.isDeleted = false → (∃ i answer, x.progress i = .deleted answer) →
    ∃ i, x.progress i = .deleted (.ok ())

/-- A caller that does not find the wallet came too late: had the first step found it, the second would have deleted
it. -/
theorem gone_of_missed {v : Service σ} (hrecord : v.store.record w.id = .ok w) (hwritable : v.store.writable = true)
    (hcallers : ∀ i copy, callers i = .store copy → copy.id = w.id) {front back : List (ι × Timestamp)}
    (hfresh : i ∉ front.map Prod.fst)
    (hi : ((start v).run w.id callers (front ++ (i, now) :: back)).progress i = .deleted (.error .notFound)) :
    w.isDeleted = true ∨ ((start v).run w.id callers front).commits ≠ [] := by
  obtain ⟨hcaller, -⟩ := (steady_run hrecord hwritable hcallers (front ++ (i, now) :: back)).told hi
  have hfront := steady_run hrecord hwritable hcallers front
  have hwaiting : ((start v).run w.id callers front).progress i = .waiting := by
    have hplaced := hfront.placed i
    rw [turns, List.count_eq_zero.2 hfresh] at hplaced
    exact hplaced.eq_waiting
  rcases hfront.get_eq with ⟨hget, -⟩ | ⟨-, hgone⟩
  · have hfound : (((start v).run w.id callers front).step w.id callers i now).progress i = .found w := by
      rw [step_waiting hcaller hwaiting, hget, progress_reach_self]
    have hend := run_of_found (hfront.step hcallers i now) hcallers hcaller (.inl hfound) back
    have hrun : (start v).run w.id callers (front ++ (i, now) :: back) =
        (((start v).run w.id callers front).step w.id callers i now).run w.id callers back := by
      rw [run_append]
      rfl
    rw [← hrun, hi] at hend
    simp at hend
  · exact hgone

theorem agrees_run {v : Service σ} (hrecord : v.store.record w.id = .ok w) (hwritable : v.store.writable = true)
    (hcallers : ∀ i copy, callers i = .store copy → copy.id = w.id) (schedule : List (ι × Timestamp)) :
    Agrees v w callers schedule ((start v).run w.id callers schedule) := by
  have hsteady := steady_run hrecord hwritable hcallers schedule
  constructor
  case trashed =>
    intro i copy hcaller hturn
    exact ⟨_, hsteady.trashed_of_pos hcaller (List.count_pos_iff.2 hturn), hsteady.record⟩
  case first => exact fun hactive i answer hi => hsteady.first hactive hi
  case deleted => exact fun i hcaller hturns => hsteady.deleted_of_two_le hcaller hturns
  case told => exact fun i answer hi => (hsteady.told hi).2.imp And.left And.left
  case missed =>
    rintro i front now back rfl hfresh hi
    exact gone_of_missed hrecord hwritable hcallers hfresh hi
  case winner =>
    rintro hservice hactive ⟨i, answer, hi⟩
    exact hsteady.exists_deleted hservice hactive hi

/-- Two turns in a row of a caller of the service are a deletion by the service. Take any number of callers that delete
one stored wallet, on a file that takes writes, and their turns in any order. All that delete in the store are told what
stands there at the end, with the time of the first deletion that was committed. All that ask the service are told that
the wallet is deleted or that it is not found, the latter only if it was deleted before they looked; and if all callers
ask the service, one of them deletes the wallet. -/
theorem race_agrees (v : Service σ) (w : Wallet) (callers : ι → Caller) (schedule : List (ι × Timestamp))
    (hrecord : v.store.record w.id = .ok w) (hwritable : v.store.writable = true)
    (hcallers : ∀ i copy, callers i = .store copy → copy.id = w.id) :
    (∀ (x : Race ι σ) (i : ι) (now later : Timestamp), callers i = .service → x.progress i = .waiting →
      ((x.step w.id callers i now).step w.id callers i later).progress i = .deleted (x.service.delete w.id later).1
      ∧ ((x.step w.id callers i now).step w.id callers i later).service = (x.service.delete w.id later).2)
    ∧ Agrees v w callers schedule ((start v).run w.id callers schedule) :=
  ⟨fun _ _ _ later hcaller hp => step_step hcaller hp later, agrees_run hrecord hwritable hcallers schedule⟩

namespace Sample

def wallet : Wallet := ⟨.nil, "", "", "", .epoch, none, .tron⟩

def service : Service Unit := ⟨Store.empty.write .nil wallet, .empty⟩

def rivals (i : Bool) : Caller := if i then .store { wallet with address := "stale" } else .service

def schedule : List (Bool × Timestamp) := [(false, .epoch), (true, .epoch), (false, .epoch)]

end Sample

/-- Between the two steps of a caller of the service another caller deletes the wallet in the store. -/
theorem race_agrees_between :
    (∃ last t, ((start Sample.service).run Sample.wallet.id Sample.rivals Sample.schedule).progress true
        = .trashed (.ok last)
      ∧ ((start Sample.service).run Sample.wallet.id Sample.rivals Sample.schedule).service.store.record
        Sample.wallet.id = .ok last
      ∧ last = { Sample.wallet with deletedAt := some t })
    ∧ (((start Sample.service).run Sample.wallet.id Sample.rivals Sample.schedule).progress false = .deleted (.ok ())
      ∨ ((start Sample.service).run Sample.wallet.id Sample.rivals Sample.schedule).progress false
        = .deleted (.error .notFound)) := by
  obtain ⟨-, hagrees⟩ := race_agrees Sample.service Sample.wallet Sample.rivals Sample.schedule
    (Store.record_write_self _ _ _) rfl (by rintro (_ | _) copy h <;> cases h; rfl)
  refine ⟨?_, hagrees.deleted false rfl (by decide)⟩
  obtain ⟨last, hlast, hrecord⟩ := hagrees.trashed true _ rfl (by decide)
  obtain ⟨last', t, hanswer, -, hdeleted⟩ := hagrees.first rfl true _ hlast
  cases hanswer
  exact ⟨last, t, hlast, hrecord, hdeleted⟩

end Race
end Keyring
