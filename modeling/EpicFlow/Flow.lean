/-!
# Jobs on a virtual clock

The engine's work runs as jobs. A job shares a world with the other jobs (the
store, the host and its tools) and keeps a state of its own (its cards, its
sessions). Time is a virtual clock counted in whole milliseconds; only a job
that sleeps makes it pass, and a sleep ends on the first millisecond at or
after its deadline.

A job is a function from its own state and the world to a `Flow`: either it
has finished, with both states and its outcome, or it waits until a
millisecond and then goes on from the world as it is then. Failing keeps both
states as they were when the failure happened, as the effects done so far
are not undone.

`Flow.solo` runs one job alone, letting time pass to each wake-up;
`Flow.together` runs several, always resuming the job that wakes first (the
earliest queued of those that wake together), and lists the jobs in the order
they finish.

Main statements:

* `bind_done`: a finished flow passes its value on.
* `solo_done`: running a finished flow gives its states and outcome.
-/

set_option autoImplicit false

namespace EpicFlow

/-- A world with a clock: the current millisecond, and the world at a later one. -/
class Clocked (σ : Type) where
  now : σ → Nat
  setNow : σ → Nat → σ

/-- Where a job stands: finished, or waiting for a millisecond. -/
inductive Flow (σ τ ε α : Type) where
  | done (world : σ) (own : τ) (r : Except ε α)
  | wait (world : σ) (wake : Nat) (k : σ → Flow σ τ ε α)

/-- A job: from its own state and the shared world, how it goes on. -/
def Job (σ τ ε α : Type) : Type := τ → σ → Flow σ τ ε α

namespace Flow

variable {σ τ ε α β : Type}

/-- Go on with `f` once the flow has a value. -/
def bind : Flow σ τ ε α → (α → τ → σ → Flow σ τ ε β) → Flow σ τ ε β
  | done s t (.ok a), f => f a t s
  | done s t (.error e), _ => done s t (.error e)
  | wait s w k, f => wait s w fun s' => (k s').bind f

/-- Handle a failure of the flow with `h`. -/
def handle : Flow σ τ ε α → (ε → τ → σ → Flow σ τ ε α) → Flow σ τ ε α
  | done s t (.error e), h => h e t s
  | done s t (.ok a), _ => done s t (.ok a)
  | wait s w k, h => wait s w fun s' => (k s').handle h

/-- Run a flow alone: time passes to each wake-up, never backwards. -/
def solo [Clocked σ] : Flow σ τ ε α → σ × τ × Except ε α
  | done s t r => (s, t, r)
  | wait s w k => (k (Clocked.setNow s (max (Clocked.now s) w))).solo

theorem bind_done (s : σ) (t : τ) (a : α) (f : α → τ → σ → Flow σ τ ε β) :
    (done s t (.ok a)).bind f = f a t s := rfl

theorem solo_done [Clocked σ] (s : σ) (t : τ) (r : Except ε α) :
    (done s t r).solo = (s, t, r) := rfl

/-- A job in a queue of jobs: its number, and how it goes on from the world. -/
structure Queued (σ τ ε α : Type) where
  index : Nat
  wake : Nat
  next : σ → Flow σ τ ε α

/-- The earliest queued job of those that wake first, and the rest. -/
def pick : List (Queued σ τ ε α) → Option (Queued σ τ ε α × List (Queued σ τ ε α))
  | [] => none
  | q :: rest =>
    match pick rest with
    | none => some (q, [])
    | some (best, others) => if best.wake < q.wake then some (best, q :: others) else some (q, rest)

/-- Run queued jobs until all have finished (or the fuel runs out): the job
that wakes first goes on until it waits again or finishes. Finished jobs are
listed in the order they finish. -/
def together [Clocked σ] : Nat → σ → List (Queued σ τ ε α) → List (Nat × τ × Except ε α) →
    σ × List (Nat × τ × Except ε α)
  | 0, s, _, fin => (s, fin.reverse)
  | fuel + 1, s, queue, fin =>
    match pick queue with
    | none => (s, fin.reverse)
    | some (q, rest) =>
      match q.next (Clocked.setNow s (max (Clocked.now s) q.wake)) with
      | done s' t r => together fuel s' rest ((q.index, t, r) :: fin)
      | wait s' w k => together fuel s' (rest ++ [⟨q.index, w, k⟩]) fin

end Flow

namespace Job

variable {σ τ ε : Type}

instance : Monad (Job σ τ ε) where
  pure a := fun t s => .done s t (.ok a)
  bind m f := fun t s => (m t s).bind f

instance : MonadExceptOf ε (Job σ τ ε) where
  throw e := fun t s => .done s t (.error e)
  tryCatch m h := fun t s => (m t s).handle h

theorem throw_bind {α β : Type} (e : ε) (f : α → Job σ τ ε β) :
    (throw e >>= f : Job σ τ ε β) = throw e := rfl

/-- The shared world. -/
def world : Job σ τ ε σ := fun t s => .done s t (.ok s)

/-- Change the shared world. -/
def modifyWorld (f : σ → σ) : Job σ τ ε Unit := fun t s => .done (f s) t (.ok ())

/-- The job's own state. -/
def own : Job σ τ ε τ := fun t s => .done s t (.ok t)

/-- Change the job's own state. -/
def modifyOwn (f : τ → τ) : Job σ τ ε Unit := fun t s => .done s (f t) (.ok ())

/-- Run a job with one state as its own, starting from `t`. -/
def run {α : Type} (j : Job σ τ ε α) (t : τ) (s : σ) : Flow σ τ ε α := j t s

/-- Wait until the given millisecond. -/
def waitUntil (wake : Nat) : Job σ τ ε Unit := fun t s => .wait s wake fun s' => .done s' t (.ok ())

/-- The outcome of a job as a value: failures are caught. -/
def attempt {α : Type} (j : Job σ τ ε α) : Job σ τ ε (Except ε α) :=
  tryCatch (do let a ← j; pure (.ok a)) fun e => pure (.error e)

end Job

end EpicFlow
