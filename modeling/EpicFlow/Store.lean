import EpicFlow.Epic.Basic
import EpicFlow.Escalation
import EpicFlow.Pattern

/-!
# The store

Everything the engine keeps between steps: epics, the runs of each epic in
the order they were recorded, the routing decisions, the escalations raised
to operators, and the pattern memory.

The store keeps these rules:

* a run id is recorded once (recording it again is a fault of the worker);
* a run belongs to a stored epic, and an epic has at most one running run;
* a run has at most one routing decision, and a decision belongs to a stored
  epic;
* an escalation belongs to a stored epic; escalations are numbered from 1.

An operation that breaks a rule fails and returns no store, so it changes
nothing. Stored numbers keep what the column types can hold: turn counts
above the signed 64-bit range read back as 0, and a zero cost reads back as
positive zero.

Main statements:

* `insertRun_running_unique`: recording a run keeps every epic at one
  running run at most.
* `history_insertRun`: recording a run appends its id to its epic's history.
-/

set_option autoImplicit false

namespace EpicFlow

/-- An escalation as it is kept: its number, the message, and the answer once
given. -/
structure EscalationRecord where
  id : Nat
  message : EscalationMessage
  resolvedAt : Option String
  resolution : Option Resolution

namespace EscalationRecord

/-- No answer has been given yet. -/
def isOpen (r : EscalationRecord) : Bool := r.resolvedAt.isNone

/-- The JSON form of a record: the number, the message's members, the answer. -/
def toJson (r : EscalationRecord) : Json :=
  .obj ([("id", .int r.id)] ++ r.message.fields ++
    [("resolved_at", Json.optStr r.resolvedAt),
     ("resolution", Json.optStr (r.resolution.map Resolution.text))])

end EscalationRecord

/-- The engine's persistent state. -/
structure Store where
  epics : List Epic := []
  /-- all runs, in the order they were recorded -/
  runs : List Run := []
  /-- all decisions, in the order they were logged -/
  decisions : List Decision := []
  /-- all escalations, by number -/
  escalations : List EscalationRecord := []
  patterns : PatternBook := {}

namespace Store

/-- A cost as a real column keeps it: zero loses its sign. -/
def storedCost (x : Float) : Float := if x == 0.0 then 0.0 else x

/-- A count as a signed 64-bit column keeps it: counts out of range read as 0. -/
def storedCount (n : Nat) : Nat := if n < Nat.pow 2 63 then n else 0

/-- A run as it reads back. -/
def storedRun (r : Run) : Run :=
  { r with turns := storedCount r.turns, cost := storedCost r.cost }

/-- The ids of an epic's runs, in the order they were recorded. -/
def history (s : Store) (epicId : String) : List String :=
  (s.runs.filter (·.epicId == epicId)).map (·.runId)

/-- An epic with its history. -/
def epic? (s : Store) (id : String) : Option Epic :=
  (s.epics.find? (·.id == id)).map fun e => { e with history := s.history id }

/-- The epics, optionally of one status, in the order they were created. -/
def epicList (s : Store) (status : Option EpicStatus) : List Epic :=
  (s.epics.filter fun e => status.all (e.status == ·)).map fun e =>
    { e with history := s.history e.id }

/-- Add a new epic. -/
def insertEpic (s : Store) (e : Epic) : Except EngineError Store :=
  if s.epics.any (·.id == e.id) then .error (.database "UNIQUE constraint failed: epics.id")
  else .ok { s with epics := s.epics ++ [{ e with history := [] }] }

/-- Write the fields of an epic that change: stage, status, resume flag,
blocked reason, attempt floor and update time. -/
def updateEpic (s : Store) (e : Epic) : Except EngineError Store :=
  if s.epics.any (·.id == e.id) then
    .ok { s with epics := s.epics.map fun old =>
      if old.id == e.id then
        { old with stage := e.stage, status := e.status, resumeNext := e.resumeNext
                   blockedReason := e.blockedReason, attemptFloor := storedCount e.attemptFloor
                   updatedAt := e.updatedAt }
      else old }
  else .error (.notFound ("epic " ++ e.id))

/-- The run with the given id. -/
def run? (s : Store) (runId : String) : Option Run := s.runs.find? (·.runId == runId)

/-- The runs of an epic, in the order they were recorded. -/
def runsOf (s : Store) (epicId : String) : List Run := s.runs.filter (·.epicId == epicId)

/-- The runs of one status, in the order they were recorded. -/
def runsWithStatus (s : Store) (st : RunStatus) : List Run := s.runs.filter (·.status == st)

/-- The running run of an epic, if any. -/
def runningRun? (s : Store) (epicId : String) : Option Run :=
  s.runs.find? fun r => r.epicId == epicId && r.status == .running

/-- The refusal of a run that would break a rule of the store. -/
def runConflict (epicId : String) : EngineError :=
  .spawnRejected ("epic " ++ epicId ++ " already has a RUNNING run")

/-- A run would be a second running run of its epic, next to `others`. -/
def secondRunning (others : List Run) (epicId : String) (st : RunStatus) : Bool :=
  st == .running && others.any fun r => r.epicId == epicId && r.status == .running

/-- Record a newly started run. -/
def insertRun (s : Store) (r : Run) : Except EngineError Store :=
  if s.runs.any (·.runId == r.runId) then
    .error (.worker ("worker reused run id " ++ r.runId ++ " (already recorded)"))
  else if r.cost.isNaN || !s.epics.any (·.id == r.epicId) || secondRunning s.runs r.epicId r.status then
    .error (runConflict r.epicId)
  else .ok { s with runs := s.runs ++ [storedRun r] }

/-- Write the latest state of a recorded run: status, signals, usage, finish
time, stop reason and last card status. -/
def updateRun (s : Store) (r : Run) : Except EngineError Store :=
  match s.run? r.runId with
  | none => .error (.notFound ("run " ++ r.runId))
  | some old =>
    if r.cost.isNaN || secondRunning (s.runs.filter (·.runId != r.runId)) old.epicId r.status then
      .error (runConflict r.epicId)
    else
      let upd := fun (x : Run) =>
        if x.runId == r.runId then
          storedRun { x with status := r.status, signals := r.signals, turns := r.turns
                             cost := r.cost, completedAt := r.completedAt
                             stopReason := r.stopReason, lastCardStatus := r.lastCardStatus }
        else x
      .ok { s with runs := s.runs.map upd }

/-- Log a decision; a run gets at most one. -/
def insertDecision (s : Store) (d : Decision) : Except EngineError Store :=
  let taken := match d.runId with
    | some rid => s.decisions.any (·.runId == some rid)
    | none => false
  if taken || !s.epics.any (·.id == d.epicId) then
    .error (.invalidTransition ("run " ++ d.runId.getD "-" ++ " already has a routing decision"))
  else .ok { s with decisions := s.decisions ++ [d] }

/-- The decisions of an epic, in the order they were logged. -/
def decisionsOf (s : Store) (epicId : String) : List Decision :=
  s.decisions.filter (·.epicId == epicId)

/-- Record an escalation; its number is one more than the last. -/
def insertEscalation (s : Store) (m : EscalationMessage) : Except EngineError (Store × Nat) :=
  if s.epics.any (·.id == m.epicId) then
    let id := s.escalations.length + 1
    let kept := { m with costSoFar := storedCost m.costSoFar, turnsSoFar := storedCount m.turnsSoFar }
    .ok ({ s with escalations := s.escalations ++ [⟨id, kept, none, none⟩] }, id)
  else .error (.database "FOREIGN KEY constraint failed")

/-- The escalation with the given number. -/
def escalation? (s : Store) (id : Int) : Option EscalationRecord :=
  s.escalations.find? fun r => (r.id : Int) == id

/-- The escalations, optionally only the open ones, by number. -/
def escalationList (s : Store) (openOnly : Bool) : List EscalationRecord :=
  s.escalations.filter fun r => !openOnly || r.isOpen

/-- The most recent open escalation of an epic. -/
def openEscalation? (s : Store) (epicId : String) : Option EscalationRecord :=
  s.escalations.reverse.find? fun r => r.message.epicId == epicId && r.isOpen

/-- Record the answer to an open escalation. -/
def resolveEscalation (s : Store) (id : Int) (o : Resolution) (now : String) :
    Except EngineError Store :=
  if s.escalations.any fun r => (r.id : Int) == id && r.isOpen then
    .ok { s with escalations := s.escalations.map fun r =>
      if (r.id : Int) == id && r.isOpen then { r with resolvedAt := some now, resolution := some o }
      else r }
  else .error (.notFound ("open escalation " ++ Text.intText id))

/-- The number of running runs of an epic. -/
def runningCount (s : Store) (epicId : String) : Nat :=
  (s.runs.filter fun r => r.epicId == epicId && r.status == .running).length

theorem runningCount_eq_zero (s : Store) (e : String)
    (h : secondRunning s.runs e .running = false) : s.runningCount e = 0 := by
  simp only [secondRunning, beq_self_eq_true, Bool.true_and, List.any_eq_false] at h
  simp only [runningCount, List.length_eq_zero_iff, List.filter_eq_nil_iff]
  intro x hx hc
  exact h x hx hc

theorem insertRun_running_unique (s s' : Store) (r : Run) (h : s.insertRun r = .ok s')
    (e : String) (hs : s.runningCount e ≤ 1) : s'.runningCount e ≤ 1 := by
  unfold insertRun at h
  split at h
  · cases h
  split at h
  · cases h
  rename_i h2
  cases h
  simp only [Bool.or_eq_true, not_or, Bool.not_eq_true] at h2
  have hsec : secondRunning s.runs r.epicId r.status = false := h2.2
  by_cases hr : r.epicId = e ∧ r.status = .running
  · obtain ⟨rfl, hst⟩ := hr
    rw [hst] at hsec
    have h0 := runningCount_eq_zero s r.epicId hsec
    simp only [runningCount] at h0 ⊢
    simp [List.filter_append, h0, storedRun, hst]
  · have hf : (r.epicId == e && r.status == .running) = false := by
      simp only [Bool.and_eq_false_iff, beq_eq_false_iff_ne]
      by_cases h1 : r.epicId = e
      · exact Or.inr fun h2 => hr ⟨h1, h2⟩
      · exact Or.inl h1
    simp only [runningCount] at hs ⊢
    simp [List.filter_append, storedRun, hf, hs]

theorem history_insertRun (s s' : Store) (r : Run) (h : s.insertRun r = .ok s') :
    s'.history r.epicId = s.history r.epicId ++ [r.runId] := by
  unfold insertRun at h
  split at h
  · cases h
  · split at h
    · cases h
    · simp only [Except.ok.injEq] at h
      subst h
      simp [history, storedRun, List.filter_append]

end Store

end EpicFlow
