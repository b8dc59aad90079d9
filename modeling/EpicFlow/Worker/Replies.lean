import EpicFlow.Card.Edit
import EpicFlow.Worker.Backend

/-!
# Recorded worker replies

A recorded worker answers status queries from a list of replies. Each reply
may come with edits the worker makes to its card just before answering, and
with a number of the mailbox's next pulls that drop. Once the list is used
up, the last reply is given again without its edits; with no replies at all,
the worker is running and has reported nothing.

Main statement:

* `next_nil`: with no replies, the worker is running and reports nothing.
-/

set_option autoImplicit false

namespace EpicFlow

/-- One recorded reply to a status query. -/
structure Reply where
  status : WorkerStatus
  /-- the query fails instead of answering -/
  fails : Bool := false
  edits : List CardEdit := []
  /-- how many of the mailbox's next pulls drop, if set -/
  dropPulls : Option Nat := none

/-- The replies of a recorded worker, and how many queries it answered. -/
structure Replies where
  /-- the card file the edits apply to -/
  cardPath : String := ""
  pending : List Reply := []
  last : Option Reply := none
  calls : Nat := 0

namespace Replies

/-- The reply to the next query, and the replies left. -/
def next (r : Replies) : Reply × Replies :=
  match r.pending with
  | x :: rest => (x, { r with pending := rest, last := some x, calls := r.calls + 1 })
  | [] =>
    let x := match r.last with
      | some l => { l with edits := [] }
      | none => { status := ⟨.running, 0, 0.0, none⟩ }
    (x, { r with calls := r.calls + 1 })

theorem next_nil (r : Replies) (hp : r.pending = []) (hl : r.last = none) :
    (r.next).1.status = ⟨.running, 0, 0.0, none⟩ := by
  simp [next, hp, hl]

end Replies

end EpicFlow
