import EpicFlow.Proofs.Cleanup
import EpicFlow.Proofs.DecisionLog

/-!
# Each poll of the monitor, as a table of rules

The monitor's loop (`Monitor.loop`) is written as a program: it keeps the run, what it last saw
of the worker and of the card, the last progress, the interval and the count of unreachable
polls in mutable variables, and it leaves a poll from nine places. This module reads it as a
table of rules.

A poll learns, in order, whether its wait was cut short by cancellation, the worker's status,
the outcome of reading the card, and the clock (`Poll`, made by `observe`). It learns each only
when the one before let it: a cancelled poll asks the worker nothing, and a failed status query
reads no card. `verdict` settles the poll by the first rule that applies: cancellation, then a
failed status query, then the card's rules (`cardRule`: a complete card, a card without
requirements marked completed, a corrupt card, the last unreachable poll allowed, any other
failure to read it), then the worker's (`workerRule`: a worker that is gone, progress, no
progress for the longest wait). What it settles (`Settled`) is carried out by `conclude`: the
run ends and is stored, the watch fails, or the run is written when it changed and the next
poll starts.

`loop_succ` proves that each poll of the loop is `observe` followed by `conclude` of the
verdict, for every worker, mailbox and world, so for every sequence of status replies, card
outcomes and cancellation times. The rest follows from the table. The unreachable polls counted
are the consecutive ones since the last card read (`replay_unreachable`), so with at least one
allowed, the watch ends for an unreachable card exactly at the poll that reaches the limit. And
every answer of a watch is a terminal run as it was stored, or a failure that is neither an
unreachable nor a corrupt card (`loop_answers`).

The loop polls at most `maxPolls` times. Its last way out, a run marked stuck once they are
spent, is no rule of the table.

Main statements:

* `loop_succ`: a poll is its observations, then the first rule that applies.
* `replay_unreachable`: the count of unreachable polls through a run of the rules.
* `loop_answers`: what every watch answers.
* `watch_follows_poll_rules`: the watch, configured from settings, follows the table.
-/

set_option autoImplicit false

namespace EpicFlow

/-- Sequencing flows is associative. -/
theorem Flow.bind_assoc {σ τ ε α β γ : Type} (f : Flow σ τ ε α) (g : α → τ → σ → Flow σ τ ε β)
    (h : β → τ → σ → Flow σ τ ε γ) : (f.bind g).bind h = f.bind fun a t s => (g a t s).bind h := by
  induction f with
  | done s t r => cases r <;> rfl
  | wait s w k ih =>
    show Flow.wait s w (fun s' => ((k s').bind g).bind h) = Flow.wait s w fun s' => (k s').bind _
    simp only [ih]

theorem Job.bind_assoc {σ τ ε α β γ : Type} (m : Job σ τ ε α) (f : α → Job σ τ ε β)
    (g : β → Job σ τ ε γ) : (m >>= f) >>= g = m >>= fun a => f a >>= g := by
  funext t s
  exact Flow.bind_assoc (m t s) f fun b => g b

namespace Eng

@[simp] theorem now_bind {α : Type} (k : Nat → Eng α) (t : Conductor) (h : Host) :
    (Eng.now >>= k) t h = k h.now t h := rfl

/-- A sleep that cancellation may cut short never fails. -/
theorem sleepOrCancel_ok (env : Host → Host → Prop) (ns : Nat) (t : Conductor) (x : Host) :
    (Eng.sleepOrCancel ns t x).Ends env (fun _ _ r => ∃ b, r = .ok b) := by
  unfold sleepOrCancel
  rw [host_bind]
  cases x.cancelAt with
  | none => exact fun _ _ => ⟨_, rfl⟩
  | some c =>
    dsimp only
    -- cancelled already, cancelled during the sleep, or not cancelled: at most one wait
    by_cases hnow : c ≤ x.now
    · rw [if_pos hnow]
      exact ⟨_, rfl⟩
    · rw [if_neg hnow]
      by_cases hwake : c ≤ wakeAfter x.now ns
      · rw [if_pos hwake]
        exact fun _ _ => ⟨_, rfl⟩
      · rw [if_neg hwake]
        exact fun _ _ => ⟨_, rfl⟩

end Eng

/-- Writing a run's latest state fails only for a run off the record or a second running run of
its epic, never for a card. -/
theorem Store.updateRun_error {s : Store} {r : Run} {e : EngineError} (h : s.updateRun r = .error e) :
    (∀ m, e ≠ .cardUnreachable m) ∧ (∀ m, e ≠ .cardCorruption m) := by
  unfold Store.updateRun at h
  split at h
  · cases h
    exact ⟨(fun _ he => by cases he), (fun _ he => by cases he)⟩
  · split at h
    · cases h
      exact ⟨(fun _ he => by cases he), (fun _ he => by cases he)⟩
    · cases h

theorem Run.with_lastCardStatus_of_eq {r : Run} {c : Option String} (h : r.lastCardStatus = c) :
    { r with lastCardStatus := c } = r := by
  cases r
  cases h
  rfl

/-- The store holds the run as it stands: the row of its id has its status, its signals and
its last card status. -/
def Run.StoredIn (run : Run) (store : Store) : Prop :=
  ∃ row, store.run? run.runId = some row ∧ row.status = run.status ∧ row.signals = run.signals ∧
    row.lastCardStatus = run.lastCardStatus

namespace Monitor

/-! ### The table -/

/-- What one poll learns, in the order it looks: a poll whose wait was cut short by
cancellation learns nothing more, one whose status query failed reads no card, and any other
has the worker's status, the outcome of reading the card, and the millisecond after it. -/
inductive Poll where
  | cancelled
  | statusFailed
  | read (status : WorkerStatus) (card : Except EngineError CardView) (now : Nat)

/-- The observations of one poll, made as the watch makes them. -/
def observe (w : Worker Eng) (mb : Mailbox Eng) (s : Watch) : Eng Poll := do
  if ← Eng.sleepOrCancel s.interval then return .cancelled
  match ← Job.attempt (w.status s.run.runId) with
  | .error _ => return .statusFailed
  | .ok status =>
    let card ← Job.attempt (CardBook.pullAndRead mb s.run.cardId)
    return .read status card (← Eng.now)

/-- The poll found its card unreachable. -/
def Poll.unreachable : Poll → Bool
  | .read _ (.error (.cardUnreachable _)) _ => true
  | _ => false

/-- What a poll settles: the run ends with a status and a reason, the watch fails, or the next
poll starts from a new state, after the run is written when it changed. -/
inductive Settled where
  | ends (run : Run) (status : RunStatus) (reason : Option Rationale)
  | fails (e : EngineError)
  | goesOn (next : Watch) (write : Bool)

/-- The watch as a poll that read the worker's status and tried the card leaves it, with
whether anything progressed and whether the run changed. The status folds its usage into the
run. A card read notes its summary on the run, clears the count of unreachable polls and sets
the interval from the share of requirements checked; a card that could not be read counts one
more unreachable poll. -/
def Watch.afterRead (cfg : MonitorConfig) (s : Watch) (st : WorkerStatus)
    (card : Except EngineError CardView) : Watch × Bool × Bool :=
  let usage := s.run.recordUsage st.turns st.cost
  let seen := s.observed.worker st
  match card with
  | .ok v =>
    ({ run := { usage.1 with lastCardStatus := some v.summary }, observed := (seen.1.card v).1,
       lastProgress := s.lastProgress, interval := cfg.intervalFor v.progress, unreachable := 0 },
     seen.2 || (seen.1.card v).2, usage.2 || usage.1.lastCardStatus != some v.summary)
  | .error _ =>
    ({ s with run := usage.1, observed := seen.1, unreachable := s.unreachable + 1 }, seen.2, usage.2)

/-- The card's rules, first of the rules after the status: a complete card completes the run with
the card's signals; a card without requirements marked completed ends it for an operator, its
signals recorded; a corrupt card ends it for an operator; the unreachable poll that reaches the
limit ends it for an operator; any other failure to read the card is the watch's. -/
def cardRule (cfg : MonitorConfig) (s : Watch) (st : WorkerStatus) :
    Except EngineError CardView → Option Settled
  | .ok v =>
    let run := (s.afterRead cfg st (.ok v)).1.run
    if v.status = .complete then some (.ends (run.recordSignals v.card.signals) .completed none)
    else if v.status = .ambiguous ∧ v.card.completed.isSome then
      some (.ends (run.recordSignals v.card.signals) .needsHuman (some .signalMissing))
    else none
  | .error (.cardCorruption _) =>
    some (.ends (s.run.recordUsage st.turns st.cost).1 .needsHuman (some .cardCorruption))
  | .error (.cardUnreachable _) =>
    if cfg.maxUnreachablePolls ≤ s.unreachable + 1 then
      some (.ends (s.run.recordUsage st.turns st.cost).1 .needsHuman (some .cardUnreachable))
    else none
  | .error e => some (.fails e)

/-- The worker's rules, once the card let the poll go on: a worker no longer running fails the
run; progress starts the wait for progress again; a watch without progress for the longest wait
is stuck; otherwise the next poll starts. -/
def workerRule (cfg : MonitorConfig) (st : WorkerStatus) (now : Nat) (next : Watch × Bool × Bool) :
    Settled :=
  if st.isAlive = false then .ends next.1.run .failed (some .workerFailed)
  else if next.2.1 then .goesOn { next.1 with lastProgress := now } next.2.2
  else if cfg.maxWait ≤ (now - next.1.lastProgress) * 1000000 then .ends next.1.run .stuck (some .stuck)
  else .goesOn next.1 next.2.2

/-- What a poll settles: the first rule that applies. -/
def verdict (cfg : MonitorConfig) (s : Watch) : Poll → Settled
  | .cancelled => .ends s.run .failed (some .aborted)
  | .statusFailed => .ends s.run .failed (some .workerFailed)
  | .read st card now => (cardRule cfg s st card).getD (workerRule cfg st now (s.afterRead cfg st card))

/-- Carry out what a poll settled, with `next` as the polls that follow. -/
def conclude (next : Watch → Eng Run) : Settled → Eng Run
  | .ends run st reason => finish run st reason
  | .fails e => throw e
  | .goesOn s write => if write then Eng.updateStore (·.updateRun s.run) >>= fun _ => next s else next s

/-- Where a watch of `run` starts: nothing of the card seen yet, the base interval, no
unreachable poll counted. -/
def Watch.start (cfg : MonitorConfig) (run : Run) (now : Nat) : Watch :=
  ⟨run, { turns := run.turns, cost := run.cost }, now, cfg.baseInterval, 0⟩

/-- The watch after polls that each let it go on, if they all did. -/
def Watch.replay (cfg : MonitorConfig) : Watch → List Poll → Option Watch
  | s, [] => some s
  | s, p :: polls =>
    match verdict cfg s p with
    | .goesOn s' _ => Watch.replay cfg s' polls
    | _ => none

/-- The number of consecutive unreachable polls that close a list of polls. -/
def unreachableStreak (polls : List Poll) : Nat :=
  polls.foldl (fun n p => if p.unreachable then n + 1 else 0) 0

example : unreachableStreak [.read .missing (.error (.cardUnreachable "pull failed")) 1,
    .read .missing (.error (.notFound "card")) 2, .read .missing (.error (.cardUnreachable "pull failed")) 3,
    .read .missing (.error (.cardUnreachable "parse failed")) 4] = 2 := by decide

/-! ### Each poll of the loop follows the table -/

section Loop

variable (w : Worker Eng) (mb : Mailbox Eng) (cfg : MonitorConfig)

/-- A watch starts where `Watch.start` says. -/
theorem watch_eq_start (run : Run) :
    watch w mb cfg run = Eng.now >>= fun now => loop w mb cfg maxPolls (Watch.start cfg run now) := rfl

/-- Each poll of the loop makes its observations, then carries out the first rule that
applies, for every worker, mailbox and world. -/
theorem loop_succ (fuel : Nat) (s : Watch) :
    loop w mb cfg (fuel + 1) s =
      observe w mb s >>= fun p => conclude (loop w mb cfg fuel) (verdict cfg s p) := by
  rw [loop]
  unfold observe
  rw [Job.bind_assoc]
  congr 1
  funext cancelled
  cases cancelled
  case true => rfl
  case false =>
    rw [if_neg Bool.false_ne_true, if_neg Bool.false_ne_true, Job.bind_assoc]
    congr 1
    funext status
    cases status with
    | error e => rfl
    | ok st =>
      dsimp -zeta only
      rw [Job.pure_bind, Job.bind_assoc]
      extract_lets s₁ progressed changed tail
      -- the end of a poll, shared by the card's outcomes that let it go on, is the worker's rule
      have htail : ∀ W p c, tail () W p c =
          Eng.now >>= fun now => conclude (loop w mb cfg fuel) (workerRule cfg st now (W, p, c)) := by
        intro W p c
        dsimp -zeta only [tail]
        cases halive : st.isAlive
        · -- a worker no longer running fails the run before the clock is read
          simp only [Bool.not_false, ↓reduceIte, workerRule, halive]
          rfl
        · simp only [Bool.not_true, Bool.false_eq_true, ↓reduceIte]
          congr 1
          funext now
          simp only [workerRule, halive, Bool.true_eq_false, if_false]
          cases p
          · simp only [Bool.false_eq_true, if_false]
            split <;> rfl
          · rfl
      clear_value tail
      congr 1
      funext card
      rw [Job.bind_assoc]
      simp only [Job.pure_bind, verdict]
      split
      · -- a card read: it completes the run, ends it for an operator, or lets the poll go on
        rename_i v
        -- the run notes the reading's summary, whether or not it had it already
        have key : ∀ (N : Run) (c : Bool), N = { s₁.run with lastCardStatus := some v.summary } →
            c = (s.afterRead cfg st (.ok v)).2.2 →
            (if (v.status == CardStatus.complete) = true then finish (N.recordSignals v.card.signals) .completed none
              else if (v.status == CardStatus.ambiguous && v.card.completed.isSome) = true then
                finish (N.recordSignals v.card.signals) .needsHuman (some .signalMissing)
              else tail () ⟨N, (s₁.observed.card v).1, s₁.lastProgress, cfg.intervalFor v.progress, 0⟩
                (progressed || (s₁.observed.card v).2) c) =
            Eng.now >>= fun now => conclude (loop w mb cfg fuel)
              ((cardRule cfg s st (.ok v)).getD (workerRule cfg st now (s.afterRead cfg st (.ok v)))) := by
          intro N c hN hc
          subst hN hc
          by_cases hcomplete : v.status = .complete
          · rw [if_pos (beq_iff_eq.2 hcomplete)]
            simp only [cardRule, hcomplete, ↓reduceIte, Option.getD_some, conclude]
            rfl
          · rw [if_neg (mt beq_iff_eq.1 hcomplete)]
            by_cases hmissing : v.status = .ambiguous ∧ v.card.completed.isSome
            · rw [if_pos (by simpa using hmissing)]
              simp only [cardRule, hmissing, conclude]
              rfl
            · rw [if_neg (by simpa using hmissing)]
              simp only [cardRule, hcomplete, hmissing, ↓reduceIte, Option.getD_none]
              rw [htail]
              rfl
        split
        · rename_i hnew
          refine key _ true rfl ?_
          show true = (changed || (s₁.run.lastCardStatus != some v.summary))
          rw [hnew, Bool.or_true]
        · rename_i hsame
          have hl : s₁.run.lastCardStatus = some v.summary := by simpa using hsame
          refine key _ changed (Run.with_lastCardStatus_of_eq hl).symm ?_
          show changed = (changed || (s₁.run.lastCardStatus != some v.summary))
          rw [Bool.eq_false_iff.2 hsame, Bool.or_false]
      · -- an unreachable card counts towards the limit
        simp only [cardRule, ge_iff_le]
        split
        · rfl
        · rw [htail]
          rfl
      · -- a corrupt card needs an operator at once
        rfl
      · -- any other failure to read the card is the watch's
        rename_i e hunreachable hcorrupt
        have hrule : cardRule cfg s st (.error e) = some (.fails e) := by
          cases e with
          | cardUnreachable m => exact absurd rfl (hunreachable m)
          | cardCorruption m => exact absurd rfl (hcorrupt m)
          | _ => rfl
        rw [hrule]
        rfl

/-! ### What the rules give -/

/-- What a settled poll may be: an ended run has a terminal status, and a failure of the watch
is neither an unreachable nor a corrupt card. -/
def Settled.Fits : Settled → Prop
  | .ends _ st _ => st.isTerminal = true
  | .fails e => (∀ m, e ≠ .cardUnreachable m) ∧ (∀ m, e ≠ .cardCorruption m)
  | .goesOn _ _ => True

theorem cardRule_fits {s : Watch} {st : WorkerStatus} {card : Except EngineError CardView}
    {o : Settled} (h : cardRule cfg s st card = some o) : o.Fits := by
  unfold cardRule at h
  split at h
  · split at h
    · cases h
      rfl
    · split at h
      · cases h
        rfl
      · cases h
  · cases h
    rfl
  · split at h
    · cases h
      rfl
    · cases h
  · rename_i e hcorrupt hunreachable
    cases h
    exact ⟨hunreachable, hcorrupt⟩

theorem workerRule_fits (st : WorkerStatus) (now : Nat) (next : Watch × Bool × Bool) :
    (workerRule cfg st now next).Fits := by
  unfold workerRule
  split
  · rfl
  · split
    · trivial
    · split
      · rfl
      · trivial

/-- Every poll ends the run with a terminal status, fails with neither an unreachable nor a
corrupt card, or goes on. -/
theorem verdict_fits (s : Watch) (p : Poll) : (verdict cfg s p).Fits := by
  cases p with
  | cancelled => rfl
  | statusFailed => rfl
  | read st card now =>
    show ((cardRule cfg s st card).getD (workerRule cfg st now (s.afterRead cfg st card))).Fits
    cases h : cardRule cfg s st card with
    | none => exact workerRule_fits cfg st now _
    | some o => exact cardRule_fits cfg h

/-- A complete card completes the run, whatever the worker's state: a worker that completes its
card and exits in the same poll ends the run completed. -/
theorem verdict_complete (s : Watch) (st : WorkerStatus) (v : CardView) (now : Nat)
    (hv : v.status = .complete) :
    verdict cfg s (.read st (.ok v) now) =
      .ends ((s.afterRead cfg st (.ok v)).1.run.recordSignals v.card.signals) .completed none := by
  simp only [verdict, cardRule, hv, ↓reduceIte, Option.getD_some]

/-- Only an unreachable card below the limit leaves a poll that could not read it to the
worker's rules. -/
theorem cardRule_error_eq_none {s : Watch} {st : WorkerStatus} {e : EngineError}
    (h : cardRule cfg s st (.error e) = none) :
    ∃ m, e = .cardUnreachable m ∧ s.unreachable + 1 < cfg.maxUnreachablePolls := by
  cases e with
  | cardUnreachable m =>
    refine ⟨m, rfl, ?_⟩
    simp only [cardRule] at h
    split at h
    · cases h
    · omega
  | _ => cases h

theorem cardRule_ne_goesOn (s : Watch) (st : WorkerStatus) (card : Except EngineError CardView)
    (s' : Watch) (c : Bool) : cardRule cfg s st card ≠ some (.goesOn s' c) := by
  intro h
  unfold cardRule at h
  split at h
  · split at h
    · cases h
    · split at h <;> cases h
  · cases h
  · split at h <;> cases h
  · cases h

theorem workerRule_unreachable {st : WorkerStatus} {now : Nat} {next : Watch × Bool × Bool}
    {s' : Watch} {c : Bool} (h : workerRule cfg st now next = .goesOn s' c) :
    s'.unreachable = next.1.unreachable := by
  unfold workerRule at h
  split at h
  · cases h
  · split at h
    · cases h
      rfl
    · split at h
      · cases h
      · cases h
        rfl

theorem workerRule_ne_cardUnreachable (st : WorkerStatus) (now : Nat) (next : Watch × Bool × Bool)
    (r : Run) : workerRule cfg st now next ≠ .ends r .needsHuman (some .cardUnreachable) := by
  intro h
  unfold workerRule at h
  split at h
  · cases h
  · split at h
    · cases h
    · split at h <;> cases h

/-- A poll that lets the watch go on counts one more unreachable poll after an unreachable card,
which was below the limit, and clears the count after any other. -/
theorem verdict_goesOn_unreachable {s s' : Watch} {p : Poll} {c : Bool}
    (h : verdict cfg s p = .goesOn s' c) :
    s'.unreachable = (if p.unreachable then s.unreachable + 1 else 0) ∧
      (p.unreachable = true → s.unreachable + 1 < cfg.maxUnreachablePolls) := by
  cases p with
  | cancelled => cases h
  | statusFailed => cases h
  | read st card now =>
    simp only [verdict] at h
    cases hr : cardRule cfg s st card with
    | some o =>
      rw [hr, Option.getD_some] at h
      subst h
      exact absurd hr (cardRule_ne_goesOn cfg s st card s' c)
    | none =>
      rw [hr, Option.getD_none] at h
      have hcount := workerRule_unreachable cfg h
      cases card with
      | ok v =>
        -- a card read clears the count
        refine ⟨hcount, fun hu => ?_⟩
        cases hu
      | error e =>
        -- the card could not be read, so it was unreachable, below the limit
        obtain ⟨m, rfl, hlimit⟩ := cardRule_error_eq_none cfg hr
        exact ⟨hcount, fun _ => hlimit⟩

/-- Through a run of polls that each let the watch go on, the count of unreachable polls is
the number of consecutive unreachable polls that close the run, counted on from the first
state's, and stays below the limit. -/
theorem replay_unreachable (h0 : 0 < cfg.maxUnreachablePolls) :
    ∀ (polls : List Poll) (s s' : Watch), s.unreachable < cfg.maxUnreachablePolls →
      Watch.replay cfg s polls = some s' →
      s'.unreachable = polls.foldl (fun n p => if p.unreachable then n + 1 else 0) s.unreachable ∧
        s'.unreachable < cfg.maxUnreachablePolls := by
  intro polls
  induction polls with
  | nil =>
    intro s s' hs h
    cases h
    exact ⟨rfl, hs⟩
  | cons p polls ih =>
    intro s s' hs h
    unfold Watch.replay at h
    split at h
    · rename_i s₁ c hv
      obtain ⟨hcount, hlimit⟩ := verdict_goesOn_unreachable cfg hv
      have hs₁ : s₁.unreachable < cfg.maxUnreachablePolls := by
        rw [hcount]
        split
        · exact hlimit ‹_›
        · exact h0
      obtain ⟨hs', hlimit'⟩ := ih s₁ s' hs₁ h
      refine ⟨?_, hlimit'⟩
      rw [hs', hcount, List.foldl_cons]
    · cases h

/-- An unreachable card ends the run for an operator exactly when the poll reaches the limit. -/
theorem verdict_unreachable_iff (s : Watch) (st : WorkerStatus) (msg : String) (now : Nat) :
    (∃ r, verdict cfg s (.read st (.error (.cardUnreachable msg)) now) =
        .ends r .needsHuman (some .cardUnreachable)) ↔
      cfg.maxUnreachablePolls ≤ s.unreachable + 1 := by
  simp only [verdict, cardRule]
  split
  · rename_i hlimit
    exact ⟨fun _ => hlimit, fun _ => ⟨_, rfl⟩⟩
  · rename_i hlimit
    refine ⟨fun h => ?_, fun h => absurd h hlimit⟩
    -- the worker's rules never end a run for its card
    obtain ⟨r, hr⟩ := h
    exact absurd hr (workerRule_ne_cardUnreachable cfg st now _ r)

/-! ### What a watch answers -/

/-- What a watch answers, with the store it leaves: a run with a terminal status, as the store
holds it, or a failure that is neither an unreachable nor a corrupt card. -/
def Answered (store : Store) : Except EngineError Run → Prop
  | .ok run => run.status.isTerminal = true ∧ run.StoredIn store
  | .error e => (∀ m, e ≠ .cardUnreachable m) ∧ (∀ m, e ≠ .cardCorruption m)

variable (env : Host → Host → Prop)

/-- Writing a run goes on from the written store, or fails as the store refuses it, which is
never for a card. -/
theorem updateRun_bind_answers {r : Run} {k : Unit → Eng Run} (t : Conductor) (x : Host)
    (hk : ∀ store, x.store.updateRun r = .ok store →
      (k () t { x with store := store }).Ends env fun x' _ r => Answered x'.store r) :
    ((Eng.updateStore (·.updateRun r) >>= k) t x).Ends env fun x' _ r => Answered x'.store r := by
  cases hu : x.store.updateRun r with
  | ok store =>
    rw [Eng.updateStore_bind_ok _ _ _ hu]
    exact hk store hu
  | error e =>
    rw [Eng.updateStore_bind_error _ _ _ hu]
    exact Store.updateRun_error hu

/-- Ending a run stores it with its terminal status, or fails as the store refuses it. -/
theorem finish_answers {st : RunStatus} (hst : st.isTerminal = true) (run : Run)
    (reason : Option Rationale) (t : Conductor) (x : Host) :
    (finish run st reason t x).Ends env fun x' _ r => Answered x'.store r := by
  unfold finish
  rw [Eng.stamp_bind]
  refine updateRun_bind_answers env t x fun store hu => ?_
  -- the answer is the run as written
  obtain ⟨_, row, -, hrow, -, -, hstatus, hsignals, hlast⟩ := Store.run?_updateRun hu
  exact ⟨hst, row, hrow, hstatus, hsignals, hlast⟩

/-- Carrying out a settled poll answers as a watch does, when the polls that follow do. -/
theorem conclude_answers {next : Watch → Eng Run}
    (hnext : ∀ s t x, (next s t x).Ends env fun x' _ r => Answered x'.store r) {o : Settled}
    (ho : o.Fits) (t : Conductor) (x : Host) :
    (conclude next o t x).Ends env fun x' _ r => Answered x'.store r := by
  cases o with
  | ends run st reason => exact finish_answers env ho run reason t x
  | fails e => exact ho
  | goesOn s write =>
    cases write
    · exact hnext s t x
    · -- the run changed: it is written before the next poll
      show ((Eng.updateStore (·.updateRun s.run) >>= fun _ => next s) t x).Ends env _
      exact updateRun_bind_answers env t x fun _ _ => hnext s t _

/-- The observations of a poll never fail: the wait always ends, and the worker's and the
card's failures are caught. -/
theorem observe_ok (s : Watch) (t : Conductor) (x : Host) :
    (observe w mb s t x).Ends env fun _ _ r => ∃ p, r = .ok p := by
  unfold observe
  rw [Job.bind_apply]
  refine Flow.Ends.bind_ok (Eng.sleepOrCancel_ok env _ t x) fun cancelled t₁ x₁ => ?_
  cases cancelled
  · rw [if_neg Bool.false_ne_true]
    refine (Job.ends_attempt_bind _ _ _ _ _).2 (Flow.Ends.of_forall _ fun x₂ t₂ r => ?_)
    cases r with
    | error e => exact ⟨_, rfl⟩
    | ok st =>
      exact (Job.ends_attempt_bind _ _ _ _ _).2 (Flow.Ends.of_forall _ fun _ _ _ => ⟨_, rfl⟩)
  · rw [if_pos rfl]
    exact ⟨_, rfl⟩

/-- Every run of the loop answers as a watch does. -/
theorem loop_answers (fuel : Nat) :
    ∀ s t x, (loop w mb cfg fuel s t x).Ends env fun x' _ r => Answered x'.store r := by
  induction fuel with
  | zero =>
    -- the polls are spent: the run is marked stuck
    intro s t x
    exact finish_answers env rfl s.run _ t x
  | succ fuel ih =>
    intro s t x
    rw [loop_succ, Job.bind_apply]
    exact Flow.Ends.bind_ok (observe_ok w mb env s t x) fun p t' x' =>
      conclude_answers env ih (verdict_fits cfg s p) t' x'

theorem watch_answers (run : Run) (t : Conductor) (x : Host) :
    (watch w mb cfg run t x).Ends env fun x' _ r => Answered x'.store r := by
  rw [watch_eq_start, Eng.now_bind]
  exact loop_answers w mb cfg env maxPolls _ t x

end Loop

/-- The watch, configured from settings, follows the table of rules. It polls from its start.
Each poll makes its observations, then carries out the first rule that applies. An unreachable
card ends the run for an operator exactly at the poll that brings the unreachable polls since
the last card read up to the number the settings allow. Every answer is a terminal run as the
store holds it, or a failure that is neither an unreachable nor a corrupt card. -/
theorem watch_follows_poll_rules (m : MonitorSettings) (w : Worker Eng) (mb : Mailbox Eng) (run : Run) :
    watch w mb (.ofSettings m) run =
        (Eng.now >>= fun now => loop w mb (.ofSettings m) maxPolls (Watch.start (.ofSettings m) run now)) ∧
      (∀ fuel s, loop w mb (.ofSettings m) (fuel + 1) s =
        observe w mb s >>= fun p => conclude (loop w mb (.ofSettings m) fuel) (verdict (.ofSettings m) s p)) ∧
      (∀ now polls s' st msg t,
        Watch.replay (.ofSettings m) (Watch.start (.ofSettings m) run now) polls = some s' →
        ((∃ r, verdict (.ofSettings m) s' (.read st (.error (.cardUnreachable msg)) t) =
            .ends r .needsHuman (some .cardUnreachable)) ↔
          unreachableStreak polls + 1 = (MonitorConfig.ofSettings m).maxUnreachablePolls)) ∧
      ∀ env t x, (watch w mb (.ofSettings m) run t x).Ends env fun x' _ r => Answered x'.store r := by
  -- settings allow at least one unreachable poll
  have h0 : 0 < (MonitorConfig.ofSettings m).maxUnreachablePolls :=
    Nat.lt_of_lt_of_le Nat.zero_lt_one (Nat.le_max_right _ _)
  refine ⟨watch_eq_start w mb _ run, loop_succ w mb _, ?_, fun env t x => watch_answers w mb _ env run t x⟩
  intro now polls s' st msg t hs'
  -- the count of unreachable polls is the streak that closes the polls, below the limit
  obtain ⟨hcount, hlimit⟩ := replay_unreachable _ h0 polls _ s' h0 hs'
  have hstreak : s'.unreachable = unreachableStreak polls := hcount
  rw [verdict_unreachable_iff]
  omega

end Monitor

end EpicFlow
