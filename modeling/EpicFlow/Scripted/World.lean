import EpicFlow.Scripted.Script
import EpicFlow.Card.Edit
import EpicFlow.Worker.Backend

/-!
# The world of a scripted worker

A scripted worker and its mailbox share a small world: files with a version
counter (every write makes a new version, which stands for the file's
modification time), the runs the worker has started, how many runs each
stage has had (which picks the script entry), and a record of the
invocations, stop requests and releases it received.

Each status query advances a running run by one step of its behaviour, and
the step edits the card the way an agent would: start it, check the next
open box, then complete it with the declared signals. A step that changed
the card costs one turn.

Main statements:

* `advanceCard_started`: the first step of work starts the card.
* `write_clock`: every write makes a new version.
-/

set_option autoImplicit false

namespace EpicFlow

/-- A file of the scripted world and its version. -/
structure WorldFile where
  content : String
  version : Nat

/-- A run of the scripted worker. -/
structure ScriptedRun where
  behaviour : Behaviour
  cardPath : String
  polls : Nat := 0
  state : WorkerState := .running
  turns : Nat := 0
  cost : Float := 0.0
  activity : Option Int := none
  released : Bool := false

/-- The shared world of a scripted worker and its mailbox. -/
structure ScriptedWorld where
  files : List (String × WorldFile) := []
  /-- the version of the latest write -/
  clock : Nat := 0
  runs : List (String × ScriptedRun) := []
  attempts : List (StageName × Nat) := []
  invocations : List Invocation := []
  /-- every stop request: the run and whether it was forced -/
  terminations : List (String × Bool) := []
  nextRun : Nat := 0

namespace ScriptedWorld

/-- What one turn of a scripted agent costs, in dollars. -/
def costPerTurn : Float := 0.05

/-- The file at a path. -/
def file? (w : ScriptedWorld) (path : String) : Option WorldFile :=
  (w.files.find? (·.1 == path)).map (·.2)

/-- Write a file as a new version. -/
def write (w : ScriptedWorld) (path content : String) : ScriptedWorld :=
  let v := w.clock + 1
  let f : WorldFile := ⟨content, v⟩
  let files := if w.files.any (·.1 == path) then
      w.files.map fun (p, old) => if p == path then (p, f) else (p, old)
    else w.files ++ [(path, f)]
  { w with clock := v, files }

theorem write_clock (w : ScriptedWorld) (path content : String) :
    (w.write path content).clock = w.clock + 1 := rfl

/-- Remove a file. -/
def remove (w : ScriptedWorld) (path : String) : ScriptedWorld :=
  { w with files := w.files.filter (·.1 != path) }

/-- Apply a worker's edit to the file at a path. -/
def applyEdit (w : ScriptedWorld) (path : String) (e : CardEdit) : Except String ScriptedWorld :=
  match e.apply ((w.file? path).map (·.content)) with
  | .ok (.write t) => .ok (w.write path t)
  | .ok .remove => .ok (w.remove path)
  | .error m => .error m

/-- Change the card at a path, if it reads as a card and the change says it
changed something; the card is written back rendered. -/
def editCard (w : ScriptedWorld) (path : String) (f : TaskCard → Option TaskCard) : ScriptedWorld × Bool :=
  match w.file? path with
  | none => (w, false)
  | some file =>
    match TaskCard.parse file.content with
    | .error _ => (w, false)
    | .ok c =>
      match f c with
      | some c' => (w.write path c'.render, true)
      | none => (w, false)

/-- One step of work on a card: start it, check the next open box, or
complete it with the signals (each declared once); nothing once complete. -/
def advanceCard (signals : List Signal) (now : String) (c : TaskCard) : Option TaskCard :=
  if c.started.isNone then some { c with started := some now }
  else if c.requirements.any (!·.done) then
    let i := c.requirements.findIdx (!·.done)
    some { c with requirements := c.requirements.modify i fun r => { r with done := true } }
  else if c.completed.isNone then
    some { c with completed := some now
                  signals := signals.foldl (fun acc s => if acc.contains s then acc else acc ++ [s]) c.signals }
  else none

theorem advanceCard_started (signals : List Signal) (now : String) (c : TaskCard)
    (h : c.started = none) : advanceCard signals now c = some { c with started := some now } := by
  simp [advanceCard, h]

/-- Set the first requirement's box, if there is one. -/
def markFirst (done : Bool) (c : TaskCard) : Option TaskCard :=
  match c.requirements with
  | r :: rest => some { c with requirements := { r with done } :: rest }
  | [] => none

/-- The run with an id. -/
def run? (w : ScriptedWorld) (id : String) : Option ScriptedRun := (w.runs.find? (·.1 == id)).map (·.2)

/-- Change the run with an id. -/
def setRun (w : ScriptedWorld) (id : String) (r : ScriptedRun) : ScriptedWorld :=
  { w with runs := w.runs.map fun (k, v) => if k == id then (k, r) else (k, v) }

/-- Advance a run by one poll and report its status; `none` for an unknown run. -/
def tick (w : ScriptedWorld) (id : String) (now : String) : ScriptedWorld × Option WorkerStatus :=
  match w.run? id with
  | none => (w, none)
  | some run0 =>
    let clock := w.clock
    let alive := run0.state == .running
    let run1 := if alive then { run0 with polls := run0.polls + 1 } else run0
    let w := w.setRun id run1
    let polls := run1.polls
    let path := run1.cardPath
    let (w, worked, exited) : ScriptedWorld × Bool × Bool :=
      if !alive then (w, false, false)
      else match run1.behaviour with
        | .complete signals =>
          let (w, changed) := w.editCard path (advanceCard signals now)
          (w, changed, !changed)
        | .silent signals every =>
          if polls % (max every 1) == 0 then
            let (w, changed) := w.editCard path (advanceCard signals now)
            (w, false, !changed)
          else (w, false, false)
        | .linger signals =>
          let (w, changed) := w.editCard path (advanceCard signals now)
          (w, changed, false)
        | .stall =>
          if polls == 1 then ((w.editCard path (advanceCard [] now)).1, false, false) else (w, false, false)
        | .crash =>
          if polls == 1 then
            let (w, changed) := w.editCard path (advanceCard [] now)
            (w, changed, false)
          else (w, false, true)
        | .regress =>
          let (w, changed) :=
            if polls == 1 then w.editCard path (advanceCard [] now)
            else if polls == 2 then w.editCard path (markFirst true)
            else if polls == 3 then w.editCard path (markFirst false)
            else (w, false)
          (w, changed, false)
        | .vanish =>
          if polls == 1 then ((w.editCard path (advanceCard [] now)).1, true, false)
          else if polls == 2 then (w.remove path, true, false)
          else (w, true, false)
    let run2 := ((w.run? id).getD run1)
    let run3 := if worked then
        { run2 with turns := run2.turns + 1, cost := run2.cost + costPerTurn, activity := some (clock + 1) }
      else run2
    let run4 := if exited then
        { run3 with state := if run3.behaviour == .crash then .missing else .exited }
      else run3
    let w := w.setRun id run4
    let withheld := (match run4.behaviour with | .linger _ => true | _ => false) && run4.state == .running
    (w, some ⟨run4.state, if withheld then 0 else run4.turns, if withheld then 0.0 else run4.cost,
      run4.activity⟩)

/-- Start a run for an invocation: the stage's next script entry, a fresh id. -/
def invoke (w : ScriptedWorld) (sc : Script) (reg : Registry) (inv : Invocation) : ScriptedWorld × String :=
  let attempt := ((w.attempts.find? (·.1 == inv.stage)).map (·.2)).getD 0
  let attempts := if w.attempts.any (·.1 == inv.stage) then
      w.attempts.map fun (s, n) => if s == inv.stage then (s, n + 1) else (s, n)
    else w.attempts ++ [(inv.stage, 1)]
  let b := sc.behaviourFor reg inv.stage attempt
  let n := w.nextRun + 1
  let id := "sim-run-" ++ Text.natText n
  ({ w with attempts, nextRun := n, runs := w.runs ++ [(id, { behaviour := b, cardPath := inv.cardPath })]
            invocations := w.invocations ++ [inv] }, id)

/-- A stop request: a running run stops, unless it stalls and the request is
not forced. -/
def terminate (w : ScriptedWorld) (id : String) (force : Bool) : ScriptedWorld :=
  let w := { w with terminations := w.terminations ++ [(id, force)] }
  match w.run? id with
  | some r =>
    if r.state == .running && (force || r.behaviour != .stall) then w.setRun id { r with state := .exited }
    else w
  | none => w

/-- Release a run: it is gone. -/
def release (w : ScriptedWorld) (id : String) : ScriptedWorld :=
  match w.run? id with
  | some r => w.setRun id { r with state := .missing, released := true }
  | none => w

/-- The runs not released, by id. -/
def unreleased (w : ScriptedWorld) : List String :=
  ((w.runs.filter fun (_, r) => !r.released).map (·.1)).mergeSort (fun a b => decide (a ≤ b))

end ScriptedWorld

end EpicFlow
