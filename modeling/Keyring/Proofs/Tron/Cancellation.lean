import Keyring.Proofs.Tron.Inquiry
import Keyring.Proofs.Tron.Verdict
import Keyring.Proofs.TronGrid

/-! A call that its caller may cancel. The call is polled; each poll looks for a cancellation first, and for the answer
of the node after that. The node is asked by the first look for its answer, so a caller who cancels in time keeps the
question from being asked, and one who cancels later gets the answer of a poll that has begun. What the call does poll
by poll comes to what is said of its schedule as a whole. -/
namespace Keyring.Tron

/-! ### Moments -/

/-- What happens while a call is pending. Between the two looks of a poll the caller may cancel, and the answer may
come. -/
inductive Moment where
  | cancel
  | answer
  | poll (cancels answers : Bool)
deriving DecidableEq

def Moment.cancels : Moment → Bool
  | cancel => true
  | answer => false
  | poll cancels _ => cancels

def Moment.answers : Moment → Bool
  | cancel => false
  | answer => true
  | poll _ answers => answers

/-- What has happened by the end of some moments. -/
def Poll.after (now : Poll) (moments : List Moment) : Poll :=
  ⟨now.cancelled || moments.any Moment.cancels, now.ready || moments.any Moment.answers⟩

/-- What the polls among some moments find. -/
def pollsFrom (now : Poll) : List Moment → List Poll
  | [] => []
  | .cancel :: rest => pollsFrom { now with cancelled := true } rest
  | .answer :: rest => pollsFrom { now with ready := true } rest
  | .poll cancels answers :: rest =>
    ⟨now.cancelled, now.ready || answers⟩ :: pollsFrom ⟨now.cancelled || cancels, now.ready || answers⟩ rest

def polls (moments : List Moment) : List Poll := pollsFrom ⟨false, false⟩ moments

theorem pollsFrom_append (now : Poll) (front back : List Moment) :
    pollsFrom now (front ++ back) = pollsFrom now front ++ pollsFrom (now.after front) back := by
  induction front generalizing now with
  | nil => simp [pollsFrom, Poll.after]
  | cons m front ih => cases m <;> simp [pollsFrom, Poll.after, ih, Moment.cancels, Moment.answers, Bool.or_assoc]

/-- A poll is one of the moments, and finds what happened before it and, of the answer, what happens meanwhile. -/
theorem exists_moment_of_pollsFrom {now p : Poll} {moments : List Moment} {front back : List Poll}
    (h : pollsFrom now moments = front ++ p :: back) :
    ∃ before c a later, moments = before ++ .poll c a :: later ∧ pollsFrom now before = front
      ∧ p = ⟨(now.after before).cancelled, (now.after before).ready || a⟩ := by
  induction moments generalizing now front with
  | nil => simp [pollsFrom] at h
  | cons m moments ih =>
    cases m with
    | cancel =>
      obtain ⟨before, c, a, later, rfl, hfront, hp⟩ := ih h
      exact ⟨.cancel :: before, c, a, later, rfl, hfront, by simpa [Poll.after, Moment.cancels, Moment.answers] using hp⟩
    | answer =>
      obtain ⟨before, c, a, later, rfl, hfront, hp⟩ := ih h
      exact ⟨.answer :: before, c, a, later, rfl, hfront, by simpa [Poll.after, Moment.cancels, Moment.answers] using hp⟩
    | poll cancels answers =>
      rw [pollsFrom] at h
      cases front with
      | nil =>
        obtain ⟨hp, -⟩ := List.cons.inj h
        exact ⟨[], cancels, answers, moments, rfl, rfl, by simp [← hp, Poll.after]⟩
      | cons q front =>
        obtain ⟨hq, hrest⟩ := List.cons.inj h
        obtain ⟨before, c, a, later, rfl, hfront, hp⟩ := ih hrest
        refine ⟨.poll cancels answers :: before, c, a, later, rfl, by rw [pollsFrom, hfront, hq], ?_⟩
        simpa [Poll.after, Moment.cancels, Moment.answers, Bool.or_assoc] using hp

theorem polls_append_poll (front back : List Moment) (c a : Bool) :
    ∃ rest, polls (front ++ .poll c a :: back) =
      polls front ++ ⟨front.any Moment.cancels, front.any Moment.answers || a⟩ :: rest := by
  refine ⟨pollsFrom ⟨front.any Moment.cancels || c, front.any Moment.answers || a⟩ back, ?_⟩
  simp [polls, pollsFrom_append, pollsFrom, Poll.after]

theorem exists_moment_of_polls {p : Poll} {moments : List Moment} {front back : List Poll}
    (h : polls moments = front ++ p :: back) :
    ∃ before c a later, moments = before ++ .poll c a :: later ∧ polls before = front
      ∧ p = ⟨before.any Moment.cancels, before.any Moment.answers || a⟩ := by
  obtain ⟨before, c, a, later, hmoments, hfront, hp⟩ := exists_moment_of_pollsFrom h
  exact ⟨before, c, a, later, hmoments, hfront, by simpa [Poll.after] using hp⟩

theorem cancels_of_mem_polls {q : Poll} {moments : List Moment} (hq : q ∈ polls moments) (h : q.cancelled = true) :
    ∃ m ∈ moments, m.cancels = true := by
  obtain ⟨front, back, hpolls⟩ := List.append_of_mem hq
  obtain ⟨before, c, a, later, rfl, -, rfl⟩ := exists_moment_of_polls hpolls
  obtain ⟨m, hm, hcancels⟩ := List.any_eq_true.1 h
  exact ⟨m, List.mem_append_left _ hm, hcancels⟩

theorem answers_of_mem_polls {q : Poll} {moments : List Moment} (hq : q ∈ polls moments) (h : q.ready = true) :
    ∃ m ∈ moments, m.answers = true := by
  obtain ⟨front, back, hpolls⟩ := List.append_of_mem hq
  obtain ⟨before, c, a, later, rfl, -, rfl⟩ := exists_moment_of_polls hpolls
  rcases Bool.or_eq_true_iff.1 h with h | h
  · obtain ⟨m, hm, hanswers⟩ := List.any_eq_true.1 h
    exact ⟨m, List.mem_append_left _ hm, hanswers⟩
  · exact ⟨.poll c a, by simp, h⟩

/-! ### How a schedule settles -/

theorem settle_eq_cancelled_iff {schedule : List Poll} :
    settle schedule = .cancelled ↔
      ∃ front p back, schedule = front ++ p :: back ∧ p.cancelled = true ∧ ∀ q ∈ front, q.ready = false := by
  induction schedule with
  | nil => simp [settle]
  | cons q rest ih =>
    rw [settle]
    constructor
    · intro h
      split at h
      · next hq => exact ⟨[], q, rest, rfl, hq, by simp⟩
      · split at h
        · cases h
        · next hready =>
          obtain ⟨front, p, back, rfl, hp, hfront⟩ := ih.1 h
          exact ⟨q :: front, p, back, rfl, hp, by simpa [hready] using hfront⟩
    · rintro ⟨front, p, back, hschedule, hp, hfront⟩
      cases front with
      | nil =>
        obtain ⟨rfl, -⟩ := List.cons.inj hschedule
        rw [if_pos hp]
      | cons q' front =>
        obtain ⟨rfl, rfl⟩ := List.cons.inj hschedule
        obtain ⟨hready, hfront⟩ := List.forall_mem_cons.1 hfront
        rw [hready, ih.2 ⟨front, p, back, rfl, hp, hfront⟩]
        simp

theorem settle_eq_answered_iff {schedule : List Poll} :
    settle schedule = .answered ↔
      ∃ front p back, schedule = front ++ p :: back ∧ p.ready = true ∧ ∀ q ∈ front ++ [p], q.cancelled = false := by
  induction schedule with
  | nil => simp [settle]
  | cons q rest ih =>
    rw [settle]
    constructor
    · intro h
      split at h
      · cases h
      · next hcancelled =>
        split at h
        · next hq => exact ⟨[], q, rest, rfl, hq, by simpa using hcancelled⟩
        · obtain ⟨front, p, back, rfl, hp, hfront⟩ := ih.1 h
          exact ⟨q :: front, p, back, rfl, hp, List.forall_mem_cons.2 ⟨by simpa using hcancelled, hfront⟩⟩
    · rintro ⟨front, p, back, hschedule, hp, hfront⟩
      cases front with
      | nil =>
        obtain ⟨rfl, -⟩ := List.cons.inj hschedule
        rw [List.forall_mem_singleton.1 hfront, hp]
        simp
      | cons q' front =>
        obtain ⟨rfl, rfl⟩ := List.cons.inj hschedule
        obtain ⟨hcancelled, hfront⟩ := List.forall_mem_cons.1 hfront
        rw [hcancelled, ih.2 ⟨front, p, back, rfl, hp, hfront⟩]
        simp

/-- What is settled stays so, whatever else is found. -/
theorem settle_append {front : List Poll} (h : settle front ≠ .pending) (back : List Poll) :
    settle (front ++ back) = settle front := by
  induction front with
  | nil => exact absurd rfl h
  | cons p front ih =>
    rw [List.cons_append, settle, settle]
    rw [settle] at h
    split
    · rfl
    · split
      · rfl
      · next hcancelled hready =>
        rw [if_neg hcancelled, if_neg hready] at h
        exact ih h

/-! ### The call, poll by poll -/

/-- What a call does that others notice. -/
inductive Deed where
  | ask (query : Query)
  | sign (tx : Transaction)

def Deed.query? : Deed → Option Query
  | ask query => some query
  | sign _ => none

/-- A call between two polls. -/
inductive Phase where
  | unbegun
  | waiting (query : Query) (key : PrivateKey)
  | ended (result : Except Error Transaction)

def Phase.result : Phase → Option (Except Error Transaction)
  | ended result => some result
  | _ => none

/-- What is signed of an answer, if it is accepted. -/
def signing (reply : Reply) : List Deed :=
  match accept reply with
  | .ok tx => [.sign tx]
  | .error _ => []

/-- The two looks of a poll, with what is done ahead of the second one. -/
def look (node : Node) (query : Query) (key : PrivateKey) (first : List Deed) (p : Poll) : List Deed × Phase :=
  if p.cancelled then ([], .ended (.error .cancelled))
  else if p.ready then
    (first ++ signing (node query), .ended (accept (node query) >>= Transaction.sign key))
  else (first, .waiting query key)

namespace Phase

/-- The first poll checks the wallet, the order and the key, and if it finds no cancellation it asks the node. -/
def poll (node : Node) (wallet : Wallet) (order : Order) (p : Poll) : Phase → List Deed × Phase
  | unbegun =>
    match prepare wallet order with
    | .error e => ([], ended (.error e))
    | .ok (query, key) => look node query key [.ask query] p
  | waiting query key => look node query key [] p
  | ended result => ([], ended result)

def run (node : Node) (wallet : Wallet) (order : Order) : Phase → List Poll → List Deed × Phase
  | phase, [] => ([], phase)
  | phase, p :: rest =>
    ((phase.poll node wallet order p).1 ++ (run node wallet order (phase.poll node wallet order p).2 rest).1,
      (run node wallet order (phase.poll node wallet order p).2 rest).2)

variable {node : Node} {wallet : Wallet} {order : Order}

theorem run_ended (result : Except Error Transaction) (schedule : List Poll) :
    run node wallet order (ended result) schedule = ([], ended result) := by
  induction schedule with
  | nil => rfl
  | cons p rest ih => simp [run, poll, ih]

/-- What is left to do once the node is asked depends on how the schedule settles. -/
theorem run_waiting (query : Query) (key : PrivateKey) (schedule : List Poll) :
    run node wallet order (waiting query key) schedule =
      match settle schedule with
      | .pending => ([], waiting query key)
      | .cancelled => ([], ended (.error .cancelled))
      | .answered => (signing (node query), ended (accept (node query) >>= Transaction.sign key)) := by
  induction schedule with
  | nil => rfl
  | cons p rest ih =>
    rw [run, poll, look, settle]
    split
    · simp [run_ended]
    · split
      · simp [run_ended]
      · simp [ih]

/-- A call that is refused when it is first polled asks for nothing and signs nothing. -/
theorem run_of_prepare_error {e : Error} (h : prepare wallet order = .error e) (p : Poll) (rest : List Poll) :
    run node wallet order unbegun (p :: rest) = ([], ended (.error e)) := by
  rw [run, poll, h]
  simp only [run_ended, List.append_nil]

/-- The first poll is like any other but for the question, which it asks unless it finds a cancellation. -/
theorem run_unbegun {query : Query} {key : PrivateKey} (h : prepare wallet order = .ok (query, key)) (p : Poll)
    (rest : List Poll) :
    run node wallet order unbegun (p :: rest) =
      ((if p.cancelled then [] else [.ask query]) ++ (run node wallet order (waiting query key) (p :: rest)).1,
        (run node wallet order (waiting query key) (p :: rest)).2) := by
  rw [run, run, poll, poll, h]
  simp only [look]
  split
  · rfl
  · split <;> simp [run_ended]

end Phase

variable {node : Node} {wallet : Wallet} {order : Order}

theorem query?_signing (reply : Reply) : (signing reply).filterMap Deed.query? = [] := by
  rw [signing]
  split <;> rfl

/-- What a call does poll by poll: the questions that reach the node and the result are those of the exchange. -/
theorem transact_eq_run (node : Node) (wallet : Wallet) (order : Order) (p : Poll) (rest : List Poll) :
    transact node (p :: rest) wallet order =
      ⟨(Phase.run node wallet order .unbegun (p :: rest)).1.filterMap Deed.query?,
        (Phase.run node wallet order .unbegun (p :: rest)).2.result⟩ := by
  cases hprepare : prepare wallet order with
  | error e =>
    rw [transact_of_prepare_error hprepare, Phase.run_of_prepare_error hprepare]
    rfl
  | ok prepared =>
    obtain ⟨query, key⟩ := prepared
    rw [Phase.run_unbegun hprepare, Phase.run_waiting, transact, hprepare, asks]
    have hasked : (if !p.cancelled then [query] else []) =
        (if p.cancelled then [] else [Deed.ask query]).filterMap Deed.query? := by
      cases p.cancelled <;> rfl
    dsimp only
    rw [List.filterMap_append, hasked]
    cases settle (p :: rest) <;> simp [Phase.result, query?_signing]

/-! ### Who wins -/

/-- What comes of an answer is never that the caller has cancelled. -/
theorem signed_ne_cancelled (reply : Reply) (key : PrivateKey) :
    accept reply >>= Transaction.sign key ≠ .error .cancelled := by
  intro h
  rcases signed_eq_error h with he | ⟨_, he⟩ | ⟨_, he⟩ | ⟨_, he⟩ <;> cases he

theorem result_eq_of_prepare_ok {query : Query} {key : PrivateKey} (h : prepare wallet order = .ok (query, key))
    (schedule : List Poll) :
    (transact node schedule wallet order).result =
      match settle schedule with
      | .pending => none
      | .cancelled => some (.error .cancelled)
      | .answered => some (accept (node query) >>= Transaction.sign key) := by
  cases hsettle : settle schedule <;> simp only [transact, h, hsettle]

theorem result_eq_cancelled_iff {query : Query} {key : PrivateKey} (h : prepare wallet order = .ok (query, key))
    {schedule : List Poll} :
    (transact node schedule wallet order).result = some (.error .cancelled) ↔ settle schedule = .cancelled := by
  rw [result_eq_of_prepare_ok h]
  cases settle schedule <;> simp [signed_ne_cancelled]

theorem result_eq_answered_iff {query : Query} {key : PrivateKey} (h : prepare wallet order = .ok (query, key))
    {schedule : List Poll} :
    (transact node schedule wallet order).result = some (accept (node query) >>= Transaction.sign key) ↔
      settle schedule = .answered := by
  rw [result_eq_of_prepare_ok h]
  cases settle schedule <;> simp [(signed_ne_cancelled (node query) key).symm]

/-- A result is not changed by what happens later. -/
theorem transact_append {front : List Poll} {result : Except Error Transaction}
    (h : (transact node front wallet order).result = some result) (hfront : front ≠ []) (back : List Poll) :
    transact node (front ++ back) wallet order = transact node front wallet order := by
  cases hprepare : prepare wallet order with
  | error e => rw [transact_of_prepare_error hprepare, transact_of_prepare_error hprepare]
  | ok prepared =>
    obtain ⟨query, key⟩ := prepared
    have hsettled : settle front ≠ .pending := by
      intro hpending
      rw [result_eq_of_prepare_ok hprepare, hpending] at h
      cases h
    obtain ⟨p, rest, rfl⟩ := List.exists_cons_of_ne_nil hfront
    simp only [transact, hprepare]
    rw [settle_append hsettled, List.cons_append, asks, asks]

/-- How a call goes that passes its checks: whether the node is asked, who wins, and what is signed. -/
structure Raced (node : Node) (query : Query) (key : PrivateKey) (moments : List Moment) (x : Exchange)
    (deeds : List Deed) : Prop where
  unasked : ∀ front c a back, moments = front ++ .poll c a :: back → polls front = [] →
    (∃ m ∈ front, m.cancels = true) → x.queries = [] ∧ x.result = some (.error .cancelled)
  asked : ∀ front c a back, moments = front ++ .poll c a :: back → polls front = [] →
    (∀ m ∈ front, m.cancels = false) → x.queries = [query]
  cancelled : x.result = some (.error .cancelled) ↔ ∃ front c a back, moments = front ++ .poll c a :: back
    ∧ (∃ m ∈ front, m.cancels = true) ∧ ∀ q ∈ polls front, q.ready = false
  answered : x.result = some (accept (node query) >>= Transaction.sign key) ↔ ∃ front c a back,
    moments = front ++ .poll c a :: back ∧ (∀ m ∈ front, m.cancels = false)
      ∧ ∃ m ∈ front ++ [.poll c a], m.answers = true
  hanging : (∀ m ∈ moments, m.answers = false) → ∀ front c a back, moments = front ++ .poll c a :: back →
    (∃ m ∈ front, m.cancels = true) → x.result = some (.error .cancelled)
  unsigned : x.result = some (.error .cancelled) → ∀ tx, .sign tx ∉ deeds

theorem settle_polls_cancelled_iff {moments : List Moment} :
    settle (polls moments) = .cancelled ↔ ∃ front c a back, moments = front ++ .poll c a :: back
      ∧ (∃ m ∈ front, m.cancels = true) ∧ ∀ q ∈ polls front, q.ready = false := by
  rw [settle_eq_cancelled_iff]
  constructor
  · rintro ⟨front, p, back, hpolls, hp, hfront⟩
    obtain ⟨before, c, a, later, hmoments, rfl, rfl⟩ := exists_moment_of_polls hpolls
    exact ⟨before, c, a, later, hmoments, List.any_eq_true.1 hp, hfront⟩
  · rintro ⟨front, c, a, back, rfl, hcancels, hfront⟩
    obtain ⟨rest, hpolls⟩ := polls_append_poll front back c a
    exact ⟨polls front, _, rest, hpolls, List.any_eq_true.2 hcancels, hfront⟩

theorem settle_polls_answered_iff {moments : List Moment} :
    settle (polls moments) = .answered ↔ ∃ front c a back, moments = front ++ .poll c a :: back
      ∧ (∀ m ∈ front, m.cancels = false) ∧ ∃ m ∈ front ++ [.poll c a], m.answers = true := by
  rw [settle_eq_answered_iff]
  constructor
  · rintro ⟨front, p, back, hpolls, hp, hfront⟩
    obtain ⟨before, c, a, later, hmoments, -, rfl⟩ := exists_moment_of_polls hpolls
    refine ⟨before, c, a, later, hmoments, ?_, ?_⟩
    · simpa using hfront _ (List.mem_append_right _ (List.mem_singleton_self _))
    · simpa [Moment.answers, or_and_right, exists_or] using hp
  · rintro ⟨front, c, a, back, rfl, hfront, hanswers⟩
    obtain ⟨rest, hpolls⟩ := polls_append_poll front back c a
    refine ⟨polls front, _, rest, hpolls, ?_, ?_⟩
    · simpa [Moment.answers, or_and_right, exists_or] using hanswers
    · have hnone : ∀ m ∈ front, ¬ m.cancels = true := by simpa using hfront
      rw [List.forall_mem_append, List.forall_mem_singleton]
      constructor
      · intro q hq
        by_contra hcancelled
        obtain ⟨m, hm, hcancels⟩ := cancels_of_mem_polls hq (by simpa using hcancelled)
        exact hnone m hm hcancels
      · simpa using hfront

theorem raced_transact {query : Query} {key : PrivateKey} (h : prepare wallet order = .ok (query, key))
    {moments : List Moment} (hpolled : polls moments ≠ []) :
    Raced node query key moments (transact node (polls moments) wallet order)
      (Phase.run node wallet order .unbegun (polls moments)).1 := by
  have hcancelled : (transact node (polls moments) wallet order).result = some (.error .cancelled) ↔ _ :=
    (result_eq_cancelled_iff h).trans settle_polls_cancelled_iff
  constructor
  case unasked =>
    rintro front c a back rfl hfirst hcancels
    refine ⟨?_, hcancelled.2 ⟨front, c, a, back, rfl, hcancels, by simp [hfirst]⟩⟩
    obtain ⟨rest, hpolls⟩ := polls_append_poll front back c a
    rw [hpolls, hfirst, List.nil_append, queries_of_prepare_ok h, if_pos (List.any_eq_true.2 hcancels)]
  case asked =>
    rintro front c a back rfl hfirst hcancels
    obtain ⟨rest, hpolls⟩ := polls_append_poll front back c a
    rw [hpolls, hfirst, List.nil_append, queries_of_prepare_ok h, if_neg (by simpa using hcancels)]
  case cancelled => exact hcancelled
  case answered => exact (result_eq_answered_iff h).trans settle_polls_answered_iff
  case hanging =>
    rintro hnone front c a back rfl hcancels
    refine hcancelled.2 ⟨front, c, a, back, rfl, hcancels, fun q hq => ?_⟩
    by_contra hready
    obtain ⟨m, hm, hanswers⟩ := answers_of_mem_polls hq (by simpa using hready)
    simp [hnone m (List.mem_append_left _ hm)] at hanswers
  case unsigned =>
    intro hresult tx
    have hsettle := (result_eq_cancelled_iff h).1 hresult
    obtain ⟨p, rest, hpolls⟩ := List.exists_cons_of_ne_nil hpolled
    rw [hpolls] at hsettle ⊢
    rw [Phase.run_unbegun h, Phase.run_waiting, hsettle, List.append_nil]
    split <;> simp

/-- A call that is polled does poll by poll what is said of it as a whole. If its checks fail it reports the first that
does, cancelled or not. Otherwise a caller who has cancelled by the first poll keeps the node from being asked, and else
it is asked once; the call ends as cancelled just when a poll, no later than the first that finds the answer, begins
after the cancellation; and then nothing is signed. Nothing that happens later changes a result. -/
theorem transact_raced (node : Node) (wallet : Wallet) (order : Order) (moments : List Moment)
    (hpolled : polls moments ≠ []) :
    transact node (polls moments) wallet order =
        ⟨(Phase.run node wallet order .unbegun (polls moments)).1.filterMap Deed.query?,
          (Phase.run node wallet order .unbegun (polls moments)).2.result⟩
    ∧ (∀ e, prepare wallet order = .error e →
        transact node (polls moments) wallet order = ⟨[], some (.error e)⟩
        ∧ Refused (wallet.ofChain .tron :: order.conditions ++ [wallet.keyReadable]) e)
    ∧ (∀ query key, prepare wallet order = .ok (query, key) →
        Raced node query key moments (transact node (polls moments) wallet order)
          (Phase.run node wallet order .unbegun (polls moments)).1)
    ∧ ∀ result later, (transact node (polls moments) wallet order).result = some result →
        transact node (polls (moments ++ later)) wallet order = transact node (polls moments) wallet order := by
  refine ⟨?_, ?_, ?_, ?_⟩
  · obtain ⟨p, rest, hpolls⟩ := List.exists_cons_of_ne_nil hpolled
    rw [hpolls, transact_eq_run]
  · exact fun e h => ⟨transact_of_prepare_error h, (governs_prepare wallet order).refused e h⟩
  · exact fun query key h => raced_transact h hpolled
  · intro result later h
    rw [polls, pollsFrom_append]
    exact transact_append h hpolled _

/-- The cancellation and the answer come between two polls, and the second poll sees the cancellation first; a caller
who cancels only while that poll looks for the answer is too late. -/
theorem transact_raced_overtaken :
    (transact (fun _ => .error (.request "")) (polls [.poll false false, .cancel, .answer, .poll false false])
        TronGrid.smallWallet TronGrid.smallOrder).result = some (.error .cancelled)
    ∧ (transact (fun _ => .error (.request "")) (polls [.poll false false, .poll true true])
        TronGrid.smallWallet TronGrid.smallOrder).result = some (.error (.node (.request ""))) := by
  have hprepare : prepare TronGrid.smallWallet TronGrid.smallOrder =
      .ok (⟨.transfer ⟨TronGrid.smallWallet.address, TronGrid.smallOrder.recipient, 1, true⟩, true⟩,
        ⟨1, by decide, by decide⟩) := rfl
  constructor
  · obtain ⟨-, -, hraced, -⟩ := transact_raced (fun _ => .error (.request "")) TronGrid.smallWallet
      TronGrid.smallOrder [.poll false false, .cancel, .answer, .poll false false] (by decide)
    refine (hraced _ _ hprepare).cancelled.2
      ⟨[.poll false false, .cancel, .answer], false, false, [], rfl, ⟨.cancel, by decide, rfl⟩, by decide⟩
  · obtain ⟨-, -, hraced, -⟩ := transact_raced (fun _ => .error (.request "")) TronGrid.smallWallet
      TronGrid.smallOrder [.poll false false, .poll true true] (by decide)
    refine (hraced _ _ hprepare).answered.2
      ⟨[.poll false false], true, true, [], rfl, by decide, .poll true true, by decide, rfl⟩

end Keyring.Tron
