import EpicFlow.Flow
import EpicFlow.Store
import EpicFlow.Card.Book
import EpicFlow.Session.Book
import EpicFlow.Scripted.World
import EpicFlow.Worker.Replies
import EpicFlow.Machine.Tools

/-!
# What a conductor works with

A conductor drives epics through their stages. It shares a host with the
other conductors: the virtual clock, the moment (if any) at which the work is
cancelled, the store, the machine it runs programs on, and the counters from
which new ids are drawn. Of its own it keeps its cards, its sessions, and the
state of the worker and mailbox it uses.

`Eng` is the monad of a conductor's work: a job over the host with the
conductor as its own state, failing with an engine error.

Time is counted in milliseconds; durations are given in nanoseconds and a
sleep ends on the first millisecond at or after its deadline.

Main statements:

* `wakeAfter_ge`: a sleep never ends before its deadline.
-/

set_option autoImplicit false

namespace EpicFlow

/-- The machine conductors share. -/
structure Host where
  /-- the virtual clock, in milliseconds since the start -/
  now : Nat := 0
  /-- when the work is cancelled, if it is -/
  cancelAt : Option Nat := none
  store : Store := {}
  /-- the wall-clock text that time stamps carry -/
  stamp : String := "2026-01-01T00:00:00.000000001+00:00"
  epicSeq : Nat := 0
  cardSeq : Nat := 0
  runSeq : Nat := 0
  /-- the machine the conductors run programs on -/
  machine : Machine := {}
  /-- epic and card ids are spread over their range, as ids drawn at random
  are, rather than counted -/
  scatteredIds : Bool := false

instance : Clocked Host := ⟨Host.now, fun h t => { h with now := t }⟩

/-- What one conductor keeps. -/
structure Conductor where
  cards : CardBook := {}
  sessions : SessionBook := {}
  /-- the world of the scripted worker and mailbox -/
  world : ScriptedWorld := {}
  /-- pulls through the in-memory mailbox, and how many of the next ones drop -/
  pulls : Nat := 0
  dropPulls : Nat := 0
  /-- escalations numbered by a channel that keeps none -/
  logged : Nat := 0
  /-- the replies of a recorded worker -/
  replies : Replies := {}
  /-- the runs the agent worker started or found again -/
  agentRuns : List (String × AgentRun) := []

/-- A conductor's work. -/
abbrev Eng := Job Host Conductor EngineError

/-- The first millisecond at or after `ns` nanoseconds from `now`. -/
def wakeAfter (now ns : Nat) : Nat := now + (ns + 999999) / 1000000

theorem wakeAfter_ge (now ns : Nat) : now * 1000000 + ns ≤ wakeAfter now ns * 1000000 := by
  unfold wakeAfter
  have := Nat.div_add_mod (ns + 999999) 1000000
  have := Nat.mod_lt (ns + 999999) (show 1000000 > 0 by decide)
  rw [Nat.add_mul]
  omega

namespace Eng

/-- The host. -/
def host : Eng Host := Job.world

/-- Change the host. -/
def modifyHost (f : Host → Host) : Eng Unit := Job.modifyWorld f

/-- The conductor's own state. -/
def self : Eng Conductor := Job.own

/-- Change the conductor's own state. -/
def modifySelf (f : Conductor → Conductor) : Eng Unit := Job.modifyOwn f

/-- The current millisecond. -/
def now : Eng Nat := do return (← host).now

/-- The wall-clock stamp of now. -/
def stamp : Eng String := do return (← host).stamp

/-- Sleep for a duration in nanoseconds. -/
def sleep (ns : Nat) : Eng Unit := do Job.waitUntil (wakeAfter (← now) ns)

/-- The work has been cancelled. -/
def cancelled : Eng Bool := do
  let h ← host
  return h.cancelAt.any (· ≤ h.now)

/-- Sleep for a duration unless the work is cancelled first; the answer
tells whether it was. -/
def sleepOrCancel (ns : Nat) : Eng Bool := do
  let h ← host
  let wake := wakeAfter h.now ns
  match h.cancelAt with
  | some c =>
    if c ≤ h.now then return true
    else if c ≤ wake then do Job.waitUntil c; return true
    else do Job.waitUntil wake; return false
  | none => do Job.waitUntil wake; return false

/-- Fail with an error. -/
def fail {α : Type} (e : EngineError) : Eng α := throw e

/-- Lift a result. -/
def ofExcept {α : Type} : Except EngineError α → Eng α
  | .ok a => pure a
  | .error e => throw e

/-- The store. -/
def store : Eng Store := do return (← host).store

/-- Run a change of the store; a refused change leaves it as it was. -/
def onStore {α : Type} (f : Store → Except EngineError (Store × α)) : Eng α := do
  match f (← store) with
  | .ok (s, a) => do modifyHost fun h => { h with store := s }; pure a
  | .error e => throw e

/-- Run a change of the store that answers nothing. -/
def updateStore (f : Store → Except EngineError Store) : Eng Unit :=
  onStore fun s => (f s).map (·, ())

/-- Eight hexadecimal digits for the `n`-th id, spread over their range: the
map is one to one below `2 ^ 32`, as the factor is odd. -/
def scatter (n offset : Nat) : String := Text.hexDigits ((n * 2654435761 + offset) % Nat.pow 2 32) 8

/-- A fresh card id: counted, or spread over the range. -/
def freshCardId : Eng String := do
  let h ← host
  let n := h.cardSeq + 1
  modifyHost fun h => { h with cardSeq := n }
  if h.scatteredIds then return "card-" ++ scatter n 1013904223
  let d := Text.natText n
  return "card-" ++ String.ofList (List.replicate (8 - d.length) '0') ++ d

/-- Run work on the machine. -/
def shell {α : Type} (s : Shell α) : Eng α := do
  let h ← host
  let (a, m) := s.run h.machine
  modifyHost fun h => { h with machine := m }
  pure a

/-- A fresh id for a run of an agent: `run-` and eight hexadecimal digits,
spread over their range. -/
def freshAgentRunId : Eng String := do
  let h ← host
  let n := h.runSeq + 1
  modifyHost fun h => { h with runSeq := n }
  return "run-" ++ scatter n 2246822519

/-- A fresh epic id: counted, or spread over the range. -/
def freshEpicId : Eng String := do
  let h ← host
  let n := h.epicSeq + 1
  modifyHost fun h => { h with epicSeq := n }
  if h.scatteredIds then return "epic-" ++ scatter n 3266489917
  let d := Text.natText n
  return "epic-" ++ String.ofList (List.replicate (8 - d.length) '0') ++ d

end Eng

end EpicFlow
