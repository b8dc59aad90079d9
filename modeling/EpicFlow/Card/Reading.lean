import EpicFlow.Conductor.State
import EpicFlow.Card.Edit

/-!
# Handing out cards and reading them back

A mailbox carries cards between the conductor and a worker: it delivers a
new card into the worker's workspace, and pulls the worker's copy into the
conductor's inbox. Three mailboxes are given here: the scripted world's, an
in-memory one whose pulls can be made to drop, and (elsewhere) those of the
host.

Reading a card pulls the worker's copy and checks it against the card as
created and the last accepted view. A torn copy or a failed pull is tried
again after a backoff that doubles each time; after the last attempt the card
is unreachable (or corrupt, if the last copy that could be read changed its
requirements). A copy that moved backwards, or that is malformed, is corrupt
at once.

Main statements:

* `backoffTotal_add`: the waits of a reading that never reaches the card,
  plus one backoff, add up to the backoff times `2 ^ retries`.
-/

set_option autoImplicit false

namespace EpicFlow

/-- A worker's card as pulled into the inbox. -/
structure PulledCard where
  content : String
  /-- the modification time of the worker's copy -/
  modified : Option Nat

/-- A carrier of cards between the conductor and a worker. -/
structure Mailbox (m : Type → Type) where
  /-- write a new card into the worker's workspace -/
  deliver : CardLocation → String → m Unit
  /-- copy the worker's card to the inbox path -/
  pull : CardLocation → String → m PulledCard

namespace Mailbox

/-- The mailbox of the scripted world. -/
def scripted : Mailbox Eng where
  deliver loc content := Eng.modifySelf fun c => { c with world := c.world.write loc.hostPath content }
  pull loc _ := do
    match (← Eng.self).world.file? loc.hostPath with
    | some f => pure ⟨f.content, some f.version⟩
    | none => Eng.fail (.cardUnreachable (loc.hostPath ++ " not in simulated workspace"))

/-- An in-memory mailbox over the scripted world's files, whose next pulls
can be made to drop; pulls are counted from 1. -/
def memory : Mailbox Eng where
  deliver loc content := Eng.modifySelf fun c => { c with world := c.world.write loc.hostPath content }
  pull loc _ := do
    let c ← Eng.self
    let n := c.pulls + 1
    Eng.modifySelf fun c => { c with pulls := n }
    if c.dropPulls > 0 then
      Eng.modifySelf fun c => { c with dropPulls := c.dropPulls - 1 }
      Eng.fail (.cardUnreachable ("pull " ++ Text.natText n ++ " dropped"))
    else
      match c.world.file? loc.hostPath with
      | some f => pure ⟨f.content, some f.version⟩
      | none => Eng.fail (.cardUnreachable (loc.hostPath ++ " missing"))

end Mailbox

/-- How a round of readings ended without a view. -/
structure GaveUp where
  lastError : String
  /-- the last copy that could be read changed its requirements -/
  mismatch : Bool

namespace CardBook

/-- The cards of the conductor. -/
def get : Eng CardBook := do return (← Eng.self).cards

/-- Change the cards of the conductor. -/
def modify (f : CardBook → CardBook) : Eng Unit := Eng.modifySelf fun c => { c with cards := f c.cards }

/-- Create a card with every requirement open; the answer is its id. -/
def createCard (epicId : String) (stage : StageName) (objective : String) (reqs : List String)
    (notes : String) : Eng String := do
  let id ← Eng.freshCardId
  let now ← Eng.stamp
  modify fun b => b.create (fresh id epicId stage objective reqs notes now)
  return id

/-- Deliver a card into the worker's workspace; the answer is the path the
worker sees. -/
def publish (mb : Mailbox Eng) (id : String) (loc : CardLocation) : Eng String := do
  let some e := (← get).lookup id | Eng.fail (.notFound ("card " ++ id))
  mb.deliver loc e.card.render
  modify fun b => b.put id { e with location := some loc }
  return loc.workerPath

/-- Take over a card handed out by an earlier process: the worker's copy
becomes the baseline of later readings. -/
def reattach (mb : Mailbox Eng) (id : String) (loc : CardLocation) : Eng CardView := do
  let pulled ← mb.pull loc ((← get).inboxPath id)
  match TaskCard.parse pulled.content with
  | .error f => Eng.fail (.cardCorruption (id ++ ": " ++ f.message))
  | .ok card =>
    if card.cardId != id then
      Eng.fail (.cardCorruption (loc.hostPath ++ " holds card " ++ card.cardId))
    else
      let v := CardView.ofCard card pulled.modified
      modify fun b => b.put id { card, location := some loc, lastView := some v, unreachable := false }
      return v

/-- The waits before the retries of a reading that never reaches the card. -/
def backoffTotal (backoff : Nat) : Nat → Nat
  | 0 => 0
  | n + 1 => backoff + backoffTotal (2 * backoff) n

theorem backoffTotal_add (backoff n : Nat) : backoffTotal backoff n + backoff = backoff * Nat.pow 2 n := by
  induction n generalizing backoff with
  | zero =>
    show 0 + backoff = backoff * 1
    omega
  | succ n ih =>
    have h := ih (2 * backoff)
    have e : Nat.pow 2 (n + 1) = Nat.pow 2 n * 2 := rfl
    rw [backoffTotal, e, Nat.mul_comm (Nat.pow 2 n) 2, ← Nat.mul_assoc, Nat.mul_comm backoff 2, ← h]
    omega

/-- Read attempts: the first at once, each later one after the current delay,
which then doubles. -/
def attempts (mb : Mailbox Eng) (id : String) (created : TaskCard) (previous : Option CardView)
    (loc : CardLocation) (inbox : String) : Nat → Bool → Nat → GaveUp → Eng (Except GaveUp CardView)
  | 0, _, _, g => pure (.error g)
  | left + 1, first, delay, g => do
    let delay ← if first then pure delay else do Eng.sleep delay; pure (2 * delay)
    match ← Job.attempt (mb.pull loc inbox) with
    | .error e => attempts mb id created previous loc inbox left false delay { g with lastError := e.message }
    | .ok pulled =>
      match TaskCard.parse pulled.content with
      | .error (.torn r) => attempts mb id created previous loc inbox left false delay { g with lastError := r }
      | .error (.malformed r) => Eng.fail (.cardCorruption (id ++ ": " ++ r))
      | .ok card =>
        match created.sameRequirements card with
        | .error r => attempts mb id created previous loc inbox left false delay ⟨r, true⟩
        | .ok () =>
          match ((previous.map (·.card)).getD created).forward card with
          | .error r => Eng.fail (.cardCorruption (id ++ ": " ++ r))
          | .ok () => pure (.ok (CardView.ofCard card pulled.modified))

/-- Pull the worker's copy of a card and check it. -/
def pullAndRead (mb : Mailbox Eng) (id : String) : Eng CardView := do
  let b ← get
  let some e := b.lookup id | Eng.fail (.notFound ("card " ++ id))
  let some loc := e.location | Eng.fail (.invalidTransition ("card " ++ id ++ " was never published"))
  match ← attempts mb id e.card e.lastView loc (b.inboxPath id) (b.retries + 1) true b.backoff ⟨"", false⟩ with
  | .ok v =>
    modify fun b => match b.lookup id with
      | some e => b.put id { e with lastView := some v, unreachable := false }
      | none => b
    return v
  | .error g =>
    if g.mismatch then Eng.fail (.cardCorruption (id ++ ": " ++ g.lastError))
    else
      modify fun b => match b.lookup id with
        | some e => b.put id { e with unreachable := true }
        | none => b
      Eng.fail (.cardUnreachable (id ++ " unreadable after " ++ Text.natText (b.retries + 1) ++
        " attempts: " ++ g.lastError))

end CardBook

end EpicFlow
