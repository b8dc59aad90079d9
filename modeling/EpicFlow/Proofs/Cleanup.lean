import Mathlib.Logic.Relation
import EpicFlow.Proofs.Attempts
import EpicFlow.Proofs.CardReading
import EpicFlow.Proofs.Leases

/-!
# A drive leaves nothing behind

A drive of an epic (`Crew.runEpic`) starts runs, asks them to stop, releases them, takes the
epic's workspace lease and gives it back, and hands the epic to operators. It has many ways out:
the attempt gate, a spawn or a start refused, a worker that fails or answers a run id twice, a
watch that fails, a cancellation, a run taken over whose worker is gone or whose card is lost,
and a decision the epic refuses. This module proves that every one of them cleans up, for every
worker and mailbox that keep to their own world.

The worker is observed through a journal of the calls made to it (`WorkerCall`), read off the
conductor: a worker that `Journals` notes every start that answered a run, every request to stop
a run and every release, whatever they answer. The calls of a drive are whole sessions
(`WorkerCall.Settled`): a run started is asked to stop any number of times and released once,
before the next session begins (`WorkerCall.Settled.invoke_released`).

Decisions reach operators through `Crew.Delivers`: the store and the count of escalations move
by steps that leave decisions and escalations alone, move an epic by a decision that is not an
operator's, or move it by an operator's decision and raise exactly one escalation for that
decision on the crew's channel.

Each piece of a stage is proved on its own, from the state it starts in: tearing a session
down (`Crew.stop_settles`), starting a run (`Crew.startRun_settles`), routing a decision
(`Crew.apply_delivers`), ending a stage (`Crew.conclude_settles`), taking a run over
(`Crew.takeOver_settles`) and one stage (`Crew.step_settles`). The stage loop follows by
induction on its fuel (`Crew.drive_settles`).

Main statements:

* `WorkerCall.Settled.invoke_released`: in whole sessions, a started run is released once, after
  every request to stop it.
* `Crew.runEpic_settles`: when a drive returns, its worker calls are whole sessions, the epic's
  lease is free, and every decision reached operators as `Crew.Delivers` says; when it returns
  an epic, the epic has no running run and, blocked by the drive, is escalated on record.
-/

set_option autoImplicit false

namespace EpicFlow

/-! ### The journal of worker calls -/

/-- A call a conductor makes to its worker about one run. -/
inductive WorkerCall where
  /-- a start that answered the run's id -/
  | invoke (runId : String)
  /-- a request to stop the run; with `force`, outright -/
  | terminate (runId : String) (force : Bool)
  | release (runId : String)
deriving DecidableEq

namespace WorkerCall

/-- What a start puts in the journal: the run the worker answered, if it answered one. -/
def started : Except EngineError String → List WorkerCall
  | .ok id => [invoke id]
  | .error _ => []

/-- Requests to stop the run `id`, each forced or not as `forced` lists it. -/
def stops (id : String) (forced : List Bool) : List WorkerCall := forced.map (terminate id)

theorem stops_append (id : String) (forced : List Bool) (force : Bool) :
    stops id forced ++ [terminate id force] = stops id (forced ++ [force]) := by
  simp [stops]

/-- Calls that are whole sessions, one after another. A session started in the calls starts its
run, asks it to stop any number of times and releases it; a session taken over from an earlier
process does the same without the start. -/
inductive Settled : List WorkerCall → Prop
  | nil : Settled []
  | started {id : String} {forced : List Bool} {rest : List WorkerCall} :
      Settled rest → Settled (invoke id :: stops id forced ++ release id :: rest)
  | adopted {id : String} {forced : List Bool} {rest : List WorkerCall} :
      Settled rest → Settled (stops id forced ++ release id :: rest)

namespace Settled

theorem append {calls calls' : List WorkerCall} (h : Settled calls) (h' : Settled calls') :
    Settled (calls ++ calls') := by
  induction h with
  | nil => exact h'
  | started _ ih => simpa using started ih
  | adopted _ ih => simpa using adopted ih

/-- One session started in the calls. -/
theorem session (id : String) (forced : List Bool) :
    Settled (invoke id :: stops id forced ++ [release id]) :=
  started nil

/-- One session taken over. -/
theorem takenOver (id : String) (forced : List Bool) : Settled (stops id forced ++ [release id]) :=
  adopted nil

/-- A start lies past the calls that end a session: they are stops and a release. -/
theorem stops_release_split {id id' : String} {forced : List Bool} {rest pre post : List WorkerCall}
    (h : stops id forced ++ release id :: rest = pre ++ invoke id' :: post) :
    ∃ pre', rest = pre' ++ invoke id' :: post := by
  induction forced generalizing pre with
  | nil =>
    cases pre with
    | nil => cases h
    | cons c pre => exact ⟨pre, (List.cons.inj h).2⟩
  | cons force forced ih =>
    cases pre with
    | nil => cases h
    | cons c pre => exact ih (List.cons.inj h).2

/-- In whole sessions, a started run is next only asked to stop, and then released: its one
release comes after every request to stop it that its session makes, and the calls after the
release are whole sessions again. -/
theorem invoke_released {calls pre post : List WorkerCall} {id : String} (h : Settled calls)
    (hsplit : calls = pre ++ invoke id :: post) :
    ∃ forced rest, post = stops id forced ++ release id :: rest ∧ Settled rest := by
  -- the session that holds the start is found by walking the sessions before it
  induction h generalizing pre with
  | nil => cases pre <;> cases hsplit
  | @started id' forced rest hrest ih =>
    cases pre with
    | nil =>
      obtain ⟨hid, hpost⟩ := List.cons.inj hsplit
      cases hid
      exact ⟨forced, rest, hpost.symm, hrest⟩
    | cons c pre =>
      obtain ⟨pre', hpre'⟩ := stops_release_split (List.cons.inj hsplit).2
      exact ih hpre'
  | adopted _ ih =>
    obtain ⟨pre', hpre'⟩ := stops_release_split hsplit
    exact ih hpre'

end Settled

end WorkerCall

/-! ### Crews that keep a journal -/

/-- A change by a worker or a mailbox that stays in their own world: the store, the conductor's
sessions and its count of escalations are as they were. -/
def Own (a b : Host × Conductor) : Prop :=
  b.1.store = a.1.store ∧ b.2.sessions = a.2.sessions ∧ b.2.logged = a.2.logged

/-- A worker that notes in a journal, read off the conductor by `journal`, every start that
answered a run, every request to stop a run and every release, whatever they answer, and notes
nothing for a status query. -/
structure Worker.Journals (journal : Conductor → List WorkerCall) (w : Worker Eng) : Prop where
  invoke : ∀ i t x, (w.invoke i t x).Ends StoreKept fun _ t' r =>
    journal t' = journal t ++ WorkerCall.started r
  status : ∀ id, Job.Keeps StoreKept (fun a b => journal b.2 = journal a.2) (w.status id)
  terminate : ∀ id force t x, (w.terminate id force t x).Ends StoreKept fun _ t' _ =>
    journal t' = journal t ++ [.terminate id force]
  release : ∀ id t x, (w.release id t x).Ends StoreKept fun _ t' _ =>
    journal t' = journal t ++ [.release id]

/-- A crew whose worker keeps a journal of its calls, whose mailbox leaves the journal alone,
both of which stay in their own world, and whose journal is kept apart from the conductor's
cards, sessions and count of escalations. -/
structure Crew.Journaled (journal : Conductor → List WorkerCall) (c : Crew) : Prop where
  calls : c.worker.Journals journal
  mailbox : c.mailbox.Keeps fun a b => journal b.2 = journal a.2
  own : c.Keeps Own
  books : ∀ t cards sessions logged,
    journal { t with cards := cards, sessions := sessions, logged := logged } = journal t

namespace Crew.Journaled

variable {journal : Conductor → List WorkerCall} {c : Crew} (hc : c.Journaled journal)
include hc

theorem journal_cards (t : Conductor) (cards : CardBook) :
    journal { t with cards := cards } = journal t :=
  hc.books t cards t.sessions t.logged

theorem journal_sessions (t : Conductor) (b : SessionBook) :
    journal { t with sessions := b } = journal t :=
  hc.books t t.cards b t.logged

theorem journal_logged (t : Conductor) (n : Nat) : journal { t with logged := n } = journal t :=
  hc.books t t.cards t.sessions n

/-- The worker and the mailbox leave the store and the session names alone. -/
theorem keeps_confined : c.Keeps Confined :=
  hc.own.mono fun _ _ h => ⟨h.1, by rw [h.2.1]⟩

end Crew.Journaled

/-! ### Running runs -/

namespace Store

variable {s s' : Store} {id runId : String}

/-- Every running run of the epic `id` in the store is the run `runId`. -/
def RunningAt (s : Store) (id runId : String) : Prop :=
  ∀ r ∈ s.runs, r.epicId = id → r.status = .running → r.runId = runId

theorem runningRun?_eq_none :
    s.runningRun? id = none ↔ ∀ r ∈ s.runs, r.epicId = id → r.status ≠ .running := by
  simp [runningRun?, List.find?_eq_none]

theorem runningRun?_of_runs_eq (h : s'.runs = s.runs) : s'.runningRun? id = s.runningRun? id := by
  simp [runningRun?, h]

/-- Under the rules of the run table, the running run of an epic is its only running run. -/
theorem RunningAt.of_runningRun? (hk : RunsKept s) {run : Run} (h : s.runningRun? id = some run) :
    s.RunningAt id run.runId := by
  obtain ⟨hmem, hid, hrun⟩ := runningRun?_spec h
  exact fun r hr hrid hrrun => hk.oneRunning r hr run hmem (hrid.trans hid.symm) hrrun hrun

/-- A run recorded while its epic has no running run is the epic's only running run. -/
theorem RunningAt.insertRun {r : Run} (h : s.runningRun? r.epicId = none)
    (hs : s.insertRun r = .ok s') : s'.RunningAt r.epicId r.runId := by
  obtain ⟨-, -, rfl⟩ := insertRun_eq_ok hs
  intro x hx hid hrun
  rcases List.mem_append.1 hx with hx | hx
  · exact absurd hrun (runningRun?_eq_none.1 h x hx hid)
  · rw [List.mem_singleton.1 hx]
    rfl

/-- A change of the store after which `runId` is still the only running run of the epic `id`,
if it was before. -/
def KeepsRunning (id runId : String) (s s' : Store) : Prop := s.RunningAt id runId → s'.RunningAt id runId

theorem KeepsRunning.trans {s₁ s₂ s₃ : Store} (h₁ : KeepsRunning id runId s₁ s₂)
    (h₂ : KeepsRunning id runId s₂ s₃) : KeepsRunning id runId s₁ s₃ :=
  fun h => h₂ (h₁ h)

/-- Writing the state of the running run keeps it the only one. -/
theorem RunningAt.updateRun {r : Run} (h : s.RunningAt id r.runId) (hs : s.updateRun r = .ok s') :
    s'.RunningAt id r.runId := by
  obtain ⟨-, f, -, -, hf, rfl⟩ := updateRun_eq_ok hs
  rintro _ hy hid hrun
  obtain ⟨x, hx, rfl⟩ := List.mem_map.1 hy
  rw [hf.runId]
  by_cases hxr : x.runId = r.runId
  · exact hxr
  · rw [hf.other x hxr] at hid hrun
    exact h x hx hid hrun

/-- Writing the running run with a status other than running leaves the epic with none. -/
theorem RunningAt.updateRun_ended {r : Run} (h : s.RunningAt id r.runId)
    (hs : s.updateRun r = .ok s') (hr : r.status ≠ .running) : s'.runningRun? id = none := by
  obtain ⟨-, f, -, -, hf, rfl⟩ := updateRun_eq_ok hs
  refine runningRun?_eq_none.2 fun _ hy hid hrun => ?_
  obtain ⟨x, hx, rfl⟩ := List.mem_map.1 hy
  by_cases hxr : x.runId = r.runId
  · exact hr (hf.status x hxr ▸ hrun)
  · rw [hf.other x hxr] at hid hrun
    exact hxr (h x hx hid hrun)

end Store

/-! ### Changes that start, stop and route nothing -/

/-- A change that starts, stops and routes nothing: the sessions, the count of escalations, the
journal, the decisions and the escalations are as they were, and the store moves as `hold`
allows. -/
structure Calm (journal : Conductor → List WorkerCall) (hold : Store → Store → Prop)
    (a b : Host × Conductor) : Prop where
  sessions : b.2.sessions = a.2.sessions
  logged : b.2.logged = a.2.logged
  calls : journal b.2 = journal a.2
  decisions : b.1.store.decisions = a.1.store.decisions
  escalations : b.1.store.escalations = a.1.store.escalations
  runs : hold a.1.store b.1.store

namespace Calm

variable {journal : Conductor → List WorkerCall} {hold : Store → Store → Prop}

theorem tidy (hbooks : ∀ t cards, journal { t with cards := cards } = journal t)
    (hrefl : ∀ s, hold s s) (htrans : ∀ {s₁ s₂ s₃}, hold s₁ s₂ → hold s₂ s₃ → hold s₁ s₃) :
    Tidy (Calm journal hold) where
  bookkeeping {a b} h := by
    obtain ⟨hstore, hbook⟩ := h
    have hcalls : journal b.2 = journal a.2 := by rw [hbook, hbooks]
    refine ⟨by rw [hbook], by rw [hbook], hcalls, by rw [hstore], by rw [hstore], ?_⟩
    rw [hstore]
    exact hrefl _
  trans h₁ h₂ := ⟨h₂.sessions.trans h₁.sessions, h₂.logged.trans h₁.logged, h₂.calls.trans h₁.calls,
    h₂.decisions.trans h₁.decisions, h₂.escalations.trans h₁.escalations, htrans h₁.runs h₂.runs⟩

/-- What a worker or a mailbox does, when it leaves the journal alone. -/
theorem of_own (hrefl : ∀ s, hold s s) {a b : Host × Conductor} (h : Own a b)
    (hcalls : journal b.2 = journal a.2) : Calm journal hold a b := by
  obtain ⟨hstore, hsessions, hlogged⟩ := h
  refine ⟨hsessions, hlogged, hcalls, by rw [hstore], by rw [hstore], ?_⟩
  rw [hstore]
  exact hrefl _

end Calm

namespace Crew.Journaled

variable {journal : Conductor → List WorkerCall} {c : Crew} (hc : c.Journaled journal)
  {hold : Store → Store → Prop} (hrefl : ∀ s, hold s s)
include hc hrefl

theorem calm_tidy (htrans : ∀ {s₁ s₂ s₃}, hold s₁ s₂ → hold s₂ s₃ → hold s₁ s₃) :
    Tidy (Calm journal hold) :=
  Calm.tidy hc.journal_cards hrefl htrans

/-- A status query moves nothing that a drive looks at. -/
theorem status_calm (id : String) : Job.Keeps StoreKept (Calm journal hold) (c.worker.status id) :=
  ((hc.own.worker.status id).and (hc.calls.status id)).mono fun _ _ h => Calm.of_own hrefl h.1 h.2

/-- Nor does the mailbox. -/
theorem mailbox_calm : c.mailbox.Keeps (Calm journal hold) :=
  ⟨fun loc content => ((hc.own.mailbox.deliver loc content).and (hc.mailbox.deliver loc content)).mono
      fun _ _ h => Calm.of_own hrefl h.1 h.2,
    fun loc inbox => ((hc.own.mailbox.pull loc inbox).and (hc.mailbox.pull loc inbox)).mono
      fun _ _ h => Calm.of_own hrefl h.1 h.2⟩

end Crew.Journaled

/-! ### Decisions that reach operators -/

/-- One step of the store and of the count of escalations, as decisions reach operators: a step
that leaves decisions and escalations alone, a move of an epic by a decision that is not an
operator's, or a move by an operator's decision that raises exactly one escalation for it on
the crew's channel, an escalation of the store or one more numbered escalation. -/
inductive Delivery (p : EpicPolicy) (sink : EscalationSink) (home : Option String) :
    Store × Nat → Store × Nat → Prop
  | quiet {s s' : Store} {n : Nat} : s'.decisions = s.decisions → s'.escalations = s.escalations →
      Delivery p sink home (s, n) (s', n)
  | routed {s s' : Store} {n : Nat} {id now : String} {d : Decision} {e : Epic} :
      d.target ≠ .human → p.advance s id d now = .ok (s', e) → Delivery p sink home (s, n) (s', n)
  | raised {s s₁ s' : Store} {n k : Nat} {id now now' : String} {d : Decision} {e : Epic} :
      sink = .store → d.target = .human → p.advance s id d now = .ok (s₁, e) →
      p.escalate s₁ e d home now' = .ok (s', k) → Delivery p sink home (s, n) (s', n)
  | counted {s s' : Store} {n : Nat} {id now : String} {d : Decision} {e : Epic} :
      sink = .log → d.target = .human → p.advance s id d now = .ok (s', e) →
      Delivery p sink home (s, n) (s', n + 1)

namespace Crew

/-- The store and the count of escalations move from `a` to `b` by deliveries of the crew. -/
def Delivers (c : Crew) (a b : Host × Conductor) : Prop :=
  Relation.ReflTransGen (Delivery c.policy c.sink c.home) (a.1.store, a.2.logged)
    (b.1.store, b.2.logged)

/-- The epic `e` is handed to an operator on record: when the crew keeps escalations in the
store and `e` is blocked, the store has an open escalation of `e` whose rationale is the reason
`e` is blocked for. -/
def HandedOver (c : Crew) (s : Store) (e : Epic) : Prop :=
  c.sink = .store → e.status = .blocked →
    ∃ r, s.openEscalation? e.id = some r ∧ some r.message.rationale = e.blockedReason

variable {c : Crew} {a b d : Host × Conductor}

theorem Delivers.refl (a : Host × Conductor) : c.Delivers a a := Relation.ReflTransGen.refl

theorem Delivers.trans (h₁ : c.Delivers a b) (h₂ : c.Delivers b d) : c.Delivers a d :=
  Relation.ReflTransGen.trans h₁ h₂

theorem Delivers.quiet (hd : b.1.store.decisions = a.1.store.decisions)
    (he : b.1.store.escalations = a.1.store.escalations) (hl : b.2.logged = a.2.logged) :
    c.Delivers a b := by
  unfold Delivers
  rw [hl]
  exact .single (.quiet hd he)

/-- What a part of a drive does for the epic `id`, from the state `a` to the state `b`: the
worker calls made in between are whole sessions, the epic's workspace lease is free at `b`, and
every decision made in between reached operators. -/
structure Settles (c : Crew) (journal : Conductor → List WorkerCall) (id : String)
    (a b : Host × Conductor) : Prop where
  calls : ∃ calls, journal b.2 = journal a.2 ++ calls ∧ WorkerCall.Settled calls
  free : b.2.sessions.holder id = none
  delivers : c.Delivers a b

/-- What a part of a drive answers for the epic `id`, in the store `s`: the epic itself, with no
running run left, and handed over on record when it is blocked. -/
structure Answered (c : Crew) (id : String) (s : Store) (e : Epic) : Prop where
  epic : e.id = id
  idle : s.runningRun? id = none
  handed : c.HandedOver s e

namespace Settles

variable {journal : Conductor → List WorkerCall} {id : String}

theorem trans (h₁ : c.Settles journal id a b) (h₂ : c.Settles journal id b d) :
    c.Settles journal id a d := by
  obtain ⟨calls₁, hj₁, hs₁⟩ := h₁.calls
  obtain ⟨calls₂, hj₂, hs₂⟩ := h₂.calls
  exact ⟨⟨calls₁ ++ calls₂, by rw [hj₂, hj₁, List.append_assoc], hs₁.append hs₂⟩, h₂.free,
    h₁.delivers.trans h₂.delivers⟩

/-- A change that calls no worker, moves no decision and no escalation, and leaves the lease
free. -/
theorem quiet (hj : journal b.2 = journal a.2) (hfree : b.2.sessions.holder id = none)
    (hd : b.1.store.decisions = a.1.store.decisions) (he : b.1.store.escalations = a.1.store.escalations)
    (hl : b.2.logged = a.2.logged) : c.Settles journal id a b :=
  ⟨⟨[], by rw [hj, List.append_nil], .nil⟩, hfree, Delivers.quiet hd he hl⟩

theorem refl (hfree : a.2.sessions.holder id = none) : c.Settles journal id a a :=
  ⟨⟨[], (List.append_nil _).symm, .nil⟩, hfree, Delivers.refl a⟩

/-- A change that starts, stops and routes nothing, from a state where the lease is free. -/
theorem of_calm (h : Calm journal Eq a b) (hfree : a.2.sessions.holder id = none) :
    c.Settles journal id a b :=
  quiet h.calls (by rw [h.sessions]; exact hfree) h.decisions h.escalations h.logged

/-- A session taken over and closed: its run asked to stop and released, the lease free, and
decisions delivered. -/
theorem takenOver {runId : String} {forced : List Bool}
    (hj : journal b.2 = journal a.2 ++ WorkerCall.stops runId forced ++ [.release runId])
    (hfree : b.2.sessions.holder id = none) (hd : c.Delivers a b) : c.Settles journal id a b :=
  ⟨⟨_, by rw [hj, List.append_assoc], WorkerCall.Settled.takenOver runId forced⟩, hfree, hd⟩

end Settles

/-- What a part of a drive of the epic `id` ends in, from the state `a`: it settles, and the
epic it answers is answered. -/
def Closed (c : Crew) (journal : Conductor → List WorkerCall) (id : String) (a : Host × Conductor)
    (x : Host) (t : Conductor) (r : Except EngineError Epic) : Prop :=
  c.Settles journal id a (x, t) ∧ ∀ e, r = .ok e → c.Answered id x.store e

/-- Settling first, and then closing. -/
theorem Settles.closed {journal : Conductor → List WorkerCall} {id : String}
    (h : c.Settles journal id a b) {x : Host} {t : Conductor} {r : Except EngineError Epic}
    (h' : c.Closed journal id b x t r) : c.Closed journal id a x t r :=
  ⟨h.trans h'.1, h'.2⟩

/-- How a start for the handle `h` leaves the state `b`, from the state `a`. A start that failed
settles everything and leaves the store as it was. A start that answered a run holds the epic's
lease for the session, has started just that run, and has recorded it as the epic's only running
run. -/
def Started (c : Crew) (journal : Conductor → List WorkerCall) (h : SessionHandle)
    (a b : Host × Conductor) : Except EngineError Run → Prop
  | .error _ => c.Settles journal h.epicId a b ∧ b.1.store = a.1.store
  | .ok run => b.2.sessions.holder h.epicId = some h.sessionId ∧
      journal b.2 = journal a.2 ++ [.invoke run.runId] ∧ c.Delivers a b ∧
      b.1.store.RunningAt h.epicId run.runId

end Crew

/-! ### A worker that keeps a journal -/

namespace WorkerCall

/-- The note of a call in the conductor's table of agent runs: the run's id, with the kind of
call in place of the session. -/
def note : WorkerCall → String × AgentRun
  | invoke id => (id, ⟨"invoke", none, ""⟩)
  | terminate id false => (id, ⟨"stop", none, ""⟩)
  | terminate id true => (id, ⟨"kill", none, ""⟩)
  | release id => (id, ⟨"release", none, ""⟩)

/-- The call a note is of. -/
def ofNote (n : String × AgentRun) : Option WorkerCall :=
  match n.2.sessionName with
  | "invoke" => some (invoke n.1)
  | "stop" => some (terminate n.1 false)
  | "kill" => some (terminate n.1 true)
  | "release" => some (release n.1)
  | _ => none

@[simp] theorem ofNote_note (call : WorkerCall) : ofNote call.note = some call := by
  cases call with
  | invoke id => rfl
  | terminate id force => cases force <;> rfl
  | release id => rfl

/-- The calls noted in the conductor's table of agent runs, in order. -/
def journal (t : Conductor) : List WorkerCall := t.agentRuns.filterMap ofNote

/-- Note a call. -/
def noteCall (call : WorkerCall) : Eng Unit :=
  Eng.modifySelf fun t => { t with agentRuns := t.agentRuns ++ [call.note] }

theorem journal_noteCall (t : Conductor) (call : WorkerCall) :
    journal { t with agentRuns := t.agentRuns ++ [call.note] } = journal t ++ [call] := by
  simp [journal, List.filterMap_append]

end WorkerCall

/-- The notebook worker starts no agent: it notes every call it is asked, and a run it started
is gone at once. -/
def Worker.notebook : Worker Eng where
  invoke _ := do
    let id := "run-" ++ Text.natText (← Eng.self).agentRuns.length
    WorkerCall.noteCall (.invoke id)
    pure id
  status _ := pure WorkerStatus.missing
  terminate id force := WorkerCall.noteCall (.terminate id force)
  release id := WorkerCall.noteCall (.release id)

/-- The scripted mailbox reads and writes the scripted world only. -/
theorem Mailbox.scripted_calm : Mailbox.scripted.Keeps (Calm WorkerCall.journal Eq) := by
  have ht : Tidy (Calm WorkerCall.journal Eq) := Calm.tidy (fun _ _ => rfl) (fun _ => rfl) Eq.trans
  have hg := ht.guarantee
  refine ⟨fun _ _ => Job.Keeps.modifyOwn fun _ _ => ⟨rfl, rfl, rfl, rfl, rfl, rfl⟩, fun loc _ => ?_⟩
  refine Job.Keeps.bind hg (Eng.keeps_self ht) fun c => ?_
  split
  · exact Job.Keeps.pure hg _
  · exact Eng.keeps_fail ht _

namespace Crew

/-- The notebook worker with the scripted mailbox, over the built-in stages, three attempts a
stage, keeping escalations in the store. -/
def notebook : Crew where
  worker := Worker.notebook
  mailbox := Mailbox.scripted
  policy := ⟨Registry.builtin, {}, "/work", ⟨"DESIGN"⟩, 3⟩
  monitor := ⟨20000000, 2000000000, 5000000, 0.5, 2, 3⟩
  grace := 50000000
  sink := .store
  patternLimit := none
  transport := .worktree
  containerPrefix := ""
  home := none

/-- The notebook crew keeps a journal of its worker's calls, in its own world. -/
theorem notebook_journaled : notebook.Journaled WorkerCall.journal where
  calls := ⟨fun _ t _ => WorkerCall.journal_noteCall t _, fun _ => ⟨fun _ _ => rfl⟩,
    fun _ _ t _ => WorkerCall.journal_noteCall t _, fun _ t _ => WorkerCall.journal_noteCall t _⟩
  mailbox := Mailbox.scripted_calm.mono fun _ _ h => h.calls
  own := ⟨⟨fun _ => ⟨fun _ _ => ⟨rfl, rfl, rfl⟩⟩, fun _ => ⟨fun _ _ => ⟨rfl, rfl, rfl⟩⟩,
      fun _ _ => ⟨fun _ _ => ⟨rfl, rfl, rfl⟩⟩, fun _ => ⟨fun _ _ => ⟨rfl, rfl, rfl⟩⟩⟩,
    Mailbox.scripted_calm.mono fun _ _ h => ⟨h.runs.symm, h.sessions, h.logged⟩⟩
  books _ _ _ _ := rfl

end Crew

/-! ### Leases and escalations in the books -/

namespace SessionBook

variable {b b' : SessionBook}

theorem holder_of_leases_eq (hb : b'.leases = b.leases) (id : String) : b'.holder id = b.holder id := by
  unfold holder
  rw [hb]

/-- Giving a lease up reads and writes the leases only. -/
theorem unleaseIfHeld_leases_congr (h : SessionHandle) (hb : b'.leases = b.leases) :
    (b'.unleaseIfHeld h).leases = (b.unleaseIfHeld h).leases := by
  unfold unleaseIfHeld holder unlease
  rw [hb]
  by_cases hc : (getKey b.leases h.epicId == some h.sessionId) = true <;> simp [hc, hb]

/-- A session that takes its epic's workspace holds the epic's lease. -/
theorem holder_of_acquire {h : SessionHandle} (hb : b.acquire h = .ok b') :
    b'.holder h.epicId = some h.sessionId := by
  obtain ⟨-, rfl⟩ := acquire_eq_ok.1 hb
  simp

/-- Numbering sessions on from the recorded ones takes no lease. -/
theorem seed_leases (b : SessionBook) (ids : List String) : (b.seed ids).leases = b.leases := by
  rw [seed_eq]

/-- A session taken over holds its epic's lease. -/
theorem holder_of_adopt {run : Run} {ws : String} {n : Nat} {h : SessionHandle}
    (had : b.adopt run ws n = .ok (b', h)) : b'.holder h.epicId = some h.sessionId := by
  unfold adopt at had
  split at had
  · obtain ⟨b₁, hacq, had⟩ := except_bind_eq_ok had
    cases had
    -- the handles change after the lease is taken
    have hheld := holder_of_acquire hacq
    exact hheld
  · cases had

/-- Handing a session out takes no lease. -/
theorem spawn_leases {reg : Registry} {r : SpawnRequest} {h : SessionHandle}
    (hs : b.spawn reg r = .ok (b', h)) : b'.leases = b.leases := by
  obtain ⟨-, -, ⟨-, rfl⟩ | ⟨-, -, rfl⟩⟩ := spawn_eq_ok hs <;> rfl

/-- A session that holds its epic's lease gives it up. -/
theorem holder_unleaseIfHeld_of_held {h : SessionHandle} (hh : b.holder h.epicId = some h.sessionId) :
    (b.unleaseIfHeld h).holder h.epicId = none := by
  unfold unleaseIfHeld
  rw [if_pos (by simp [hh])]
  exact holder_unlease b h.epicId

end SessionBook

/-- Clearing a resume flag writes the epic's row only. -/
theorem EpicPolicy.clearResume_quiet {s s' : Store} {id now : String}
    (h : EpicPolicy.clearResume s id now = .ok s') :
    s'.runs = s.runs ∧ s'.decisions = s.decisions ∧ s'.escalations = s.escalations := by
  obtain ⟨y, -, rfl | hw⟩ := EpicPolicy.clearResume_eq_ok h
  · exact ⟨rfl, rfl, rfl⟩
  · obtain ⟨f, -, rfl⟩ := Store.updateEpic_eq_ok hw
    exact ⟨rfl, rfl, rfl⟩

/-- A new escalation is the open escalation of its epic, for the message's rationale. -/
theorem Store.openEscalation?_insertEscalation {s s' : Store} {m : EscalationMessage} {n : Nat}
    (h : s.insertEscalation m = .ok (s', n)) :
    ∃ r, s'.openEscalation? m.epicId = some r ∧ r.message.rationale = m.rationale := by
  unfold Store.insertEscalation at h
  split at h
  · cases h
    simp [Store.openEscalation?, EscalationRecord.isOpen]
  · cases h

namespace EpicPolicy

variable {p : EpicPolicy} {s s₁ s' : Store} {id now : String} {d : Decision} {e : Epic}

/-- Only an operator's decision blocks an epic. -/
theorem moved_human_of_blocked (h : (p.moved e d now).status = .blocked) : d.target = .human := by
  unfold moved at h
  split at h
  · assumption
  · cases h
  · cases h
  · simp only at h
    split at h <;> cases h

/-- An escalation leaves the runs alone. -/
theorem escalate_runs {home : Option String} {k : Nat} (h : p.escalate s e d home now = .ok (s', k)) :
    s'.runs = s.runs := by
  rcases escalate_eq_ok h with rfl | ⟨m, hm⟩
  · rfl
  · exact (Store.insertEscalation_eq_ok hm).2.1

/-- After an escalation, the epic's open escalation is for the decision's rationale: a new one,
or the open one it reused. -/
theorem escalate_opens {home : Option String} {k : Nat} (h : p.escalate s e d home now = .ok (s', k)) :
    ∃ r, s'.openEscalation? e.id = some r ∧ r.message.rationale = d.rationale := by
  unfold escalate at h
  dsimp only [EscalationMessage.ofDecision] at h
  split at h
  · rename_i r hr
    split at h
    · rename_i hsame
      simp only [Except.ok.injEq, Prod.mk.injEq] at h
      obtain ⟨rfl, -⟩ := h
      simp only [Bool.and_eq_true, beq_iff_eq] at hsame
      exact ⟨r, hr, hsame.2⟩
    · exact Store.openEscalation?_insertEscalation h
  · exact Store.openEscalation?_insertEscalation h

/-- An epic just moved can always be escalated: it is stored. -/
theorem escalate_ok_of_advance {d' : Decision} (home : Option String) (now' : String)
    (h : p.advance s id d now = .ok (s₁, e)) : ∃ s' k, p.escalate s₁ e d' home now' = .ok (s', k) := by
  obtain ⟨⟨y, hy, -⟩, -⟩ := advance_row h
  have hstored : s₁.epics.any (·.id == e.id) = true :=
    List.any_eq_true.2 ⟨y, (Store.row?_spec hy).1, by simp [(Store.row?_spec hy).2]⟩
  unfold escalate Store.insertEscalation
  dsimp only [EscalationMessage.ofDecision]
  simp only [hstored, if_true]
  -- a reused escalation, or a new one of a stored epic
  split
  · split <;> exact ⟨_, _, rfl⟩
  · exact ⟨_, _, rfl⟩

end EpicPolicy

/-! ### Routing a decision -/

namespace Eng

variable {f : Store → Except EngineError Store} {α : Type} (k : Unit → Eng α) (t : Conductor)
  (x : Host)

theorem updateStore_bind_ok {s : Store} (hf : f x.store = .ok s) :
    (Eng.updateStore f >>= k) t x = k () t { x with store := s } := by
  unfold updateStore onStore
  rw [Job.bind_apply, store_bind]
  dsimp only
  rw [hf]
  rfl

theorem updateStore_bind_error {e : EngineError} (hf : f x.store = .error e) :
    (Eng.updateStore f >>= k) t x = .done x t (.error e) := by
  unfold updateStore onStore
  rw [Job.bind_apply, store_bind]
  dsimp only
  rw [hf]
  rfl

end Eng

namespace Crew

variable {c : Crew}

/-- Escalating a decision whose escalation the store takes: on the store's channel the store
takes it, and on the log's channel the count grows by one. -/
theorem escalate_ends (e : Epic) (d : Decision) (t : Conductor) (x : Host)
    (hok : ∀ now, ∃ s' k, c.policy.escalate x.store e d c.home now = .ok (s', k)) :
    (c.escalate e d t x).Ends StoreKept fun x' t' r => (∃ k, r = .ok k) ∧
      (c.sink = .store → t' = t ∧ ∃ now k, c.policy.escalate x.store e d c.home now = .ok (x'.store, k)) ∧
      (c.sink = .log → x'.store = x.store ∧ t' = { t with logged := t.logged + 1 }) := by
  unfold escalate
  cases hsink : c.sink with
  | store =>
    dsimp only
    rw [Eng.stamp_bind]
    obtain ⟨s', k, hesc⟩ := hok x.stamp
    unfold Eng.onStore
    rw [Eng.store_bind]
    dsimp only
    rw [hesc]
    dsimp only
    rw [Eng.modifyHost_bind]
    exact ⟨⟨k, rfl⟩, fun _ => ⟨rfl, x.stamp, k, hesc⟩, nofun⟩
  | log => exact ⟨⟨_, rfl⟩, nofun, fun _ => ⟨rfl, rfl⟩⟩

/-- An operator's decision, moved in the store and then escalated on the crew's channel: one
delivery, after which the moved epic is handed over on record. -/
theorem handOver_delivers {d : Decision} (hd : d.target = .human) {id now : String} {e : Epic}
    {s : Store} (t : Conductor) (x : Host) (hadv : c.policy.advance x.store id d now = .ok (s, e)) :
    ((do let _ ← c.escalate e d; pure e : Eng Epic) t { x with store := s }).Ends StoreKept
      fun x' t' r => t' = { t with logged := t'.logged } ∧ x'.store.runs = x.store.runs ∧
        c.Delivers (x, t) (x', t') ∧ ∀ e', r = .ok e' → e' = e ∧ c.HandedOver x'.store e' := by
  obtain ⟨-, hruns, -, -⟩ := EpicPolicy.advance_row hadv
  obtain ⟨y, -, -, -, rfl, -⟩ := EpicPolicy.advance_eq_ok hadv
  rw [Job.bind_apply]
  refine (escalate_ends _ d t _ fun now => EpicPolicy.escalate_ok_of_advance _ now hadv).bind
    (fun k t' x' h => ?_) fun _ _ _ h => absurd h.1 fun ⟨_, hk⟩ => nomatch hk
  obtain ⟨-, hstore, hlog⟩ := h
  refine ⟨?_, ?_, ?_, fun e' he' => ⟨(Except.ok.inj he').symm, fun hsink hblocked => ?_⟩⟩
  · cases hsink : c.sink with
    | store => rw [(hstore hsink).1]
    | log => rw [(hlog hsink).2]
  · cases hsink : c.sink with
    | store =>
      obtain ⟨-, now', k', hesc⟩ := hstore hsink
      exact (EpicPolicy.escalate_runs hesc).trans hruns
    | log =>
      rw [(hlog hsink).1]
      exact hruns
  · -- one delivery: the move, then its escalation or one more in the count
    unfold Delivers
    cases hsink : c.sink with
    | store =>
      obtain ⟨ht', now', k', hesc⟩ := hstore hsink
      rw [ht']
      exact .single (.raised rfl hd hadv hesc)
    | log =>
      obtain ⟨hx', ht'⟩ := hlog hsink
      rw [hx', ht']
      exact .single (.counted rfl hd hadv)
  · cases Except.ok.inj he'
    obtain ⟨-, now', k', hesc⟩ := hstore hsink
    obtain ⟨r, hr, hrat⟩ := EpicPolicy.escalate_opens hesc
    refine ⟨r, ?_, ?_⟩
    · rw [EpicPolicy.moved_id] at hr ⊢
      exact hr
    · -- the moved epic is blocked for the decision's rationale
      rw [hrat]
      unfold EpicPolicy.moved
      rw [hd]

/-- An operator's decision moved in the store as it is read, then escalated. -/
theorem onStore_handOver_delivers {d : Decision} (hd : d.target = .human) {id now : String}
    (t : Conductor) (x : Host) :
    ((do
        let e ← Eng.onStore fun s => c.policy.advance s id d now
        let _ ← c.escalate e d
        pure e : Eng Epic) t x).Ends StoreKept fun x' t' r =>
      t' = { t with logged := t'.logged } ∧ x'.store.runs = x.store.runs ∧ c.Delivers (x, t) (x', t') ∧
        ∀ e, r = .ok e → e.id = id ∧ c.HandedOver x'.store e := by
  rw [Job.bind_apply]
  unfold Eng.onStore
  rw [Eng.store_bind]
  dsimp only
  cases hadv : c.policy.advance x.store id d now with
  | error err => exact ⟨rfl, rfl, Delivers.refl _, error_eq_ok_elim⟩
  | ok r =>
    obtain ⟨s, e⟩ := r
    dsimp only
    rw [Eng.modifyHost_bind, Job.pure_apply]
    refine (handOver_delivers hd t x hadv).mono fun x' t' r h => ⟨h.1, h.2.1, h.2.2.1, fun e' he' => ?_⟩
    obtain ⟨rfl, hh⟩ := h.2.2.2 e' he'
    exact ⟨(EpicPolicy.advance_answer hadv).1, hh⟩

/-- Routing a decision moves only the store and the count of escalations, by deliveries, and
leaves the runs and the rest of the conductor alone; the epic it answers is the decision's,
handed over on record when it is blocked. -/
theorem apply_delivers (d : Decision) (t : Conductor) (x : Host) :
    (c.apply d t x).Ends StoreKept fun x' t' r =>
      t' = { t with logged := t'.logged } ∧ x'.store.runs = x.store.runs ∧ c.Delivers (x, t) (x', t') ∧
        ∀ e, r = .ok e → e.id = d.epicId ∧ c.HandedOver x'.store e := by
  refine apply_ends_of (fun _ => ⟨rfl, rfl, Delivers.refl _, error_eq_ok_elim⟩) (fun s e hadv => ?_)
    fun reason cur human _ _ hcur _ hhuman => ?_
  · have hid : e.id = d.epicId := (EpicPolicy.advance_answer hadv).1
    split
    · rename_i hh
      refine (handOver_delivers (beq_iff_eq.1 hh) t x hadv).mono fun x' t' r h =>
        ⟨h.1, h.2.1, h.2.2.1, fun e' he' => ?_⟩
      obtain ⟨rfl, hh⟩ := h.2.2.2 e' he'
      exact ⟨hid, hh⟩
    · rename_i hh
      -- a move to a stage or an end: a delivery of its own, and the epic is not blocked
      have hnot : d.target ≠ .human := fun h => hh (by simp [h])
      refine ⟨rfl, (EpicPolicy.advance_row hadv).2.1, .single (.routed hnot hadv), fun e' he' => ?_⟩
      cases he'
      refine ⟨hid, fun _ hblocked => absurd ?_ hnot⟩
      obtain ⟨y, -, -, -, rfl, -⟩ := EpicPolicy.advance_eq_ok hadv
      exact EpicPolicy.moved_human_of_blocked hblocked
  · -- the refused decision becomes an operator's decision on the epic
    subst hhuman
    refine (onStore_handOver_delivers rfl t x).mono fun x' t' r h =>
      ⟨h.1, h.2.1, h.2.2.1, fun e he => ?_⟩
    obtain ⟨hid, hh⟩ := h.2.2.2 e he
    exact ⟨hid.trans hcur, hh⟩

/-! ### The pieces of a stage -/

section Pieces

variable {journal : Conductor → List WorkerCall} (hc : c.Journaled journal)
include hc

/-- A teardown asks the worker to stop the run any number of times and releases it once, gives
the lease up if the session holds it, and leaves the store and the count of escalations alone;
it answers the run with the usage reported on the way out. -/
theorem teardown_settles (h : SessionHandle) (run : Run) (t : Conductor) (x : Host) :
    (SessionBook.teardown c.worker h run c.grace t x).Ends StoreKept fun x' t' r =>
      x'.store = x.store ∧ t'.logged = t.logged ∧
        t'.sessions.leases = (t.sessions.unleaseIfHeld h).leases ∧
        (∃ forced, journal t' = journal t ++ WorkerCall.stops run.runId forced ++ [.release run.runId]) ∧
        ∀ v, r = .ok v → run.Tallied v.1 := by
  have ht : Tidy (Calm journal Eq) := hc.calm_tidy (fun _ => rfl) Eq.trans
  have hstatus := hc.status_calm (fun _ => rfl)
  unfold SessionBook.teardown
  -- the first request to stop, caught whatever it answers
  refine (Job.ends_attempt_bind _ _ _ _ _).2 ((((hc.own.worker.terminate _ _).ends t x).and
    (hc.calls.terminate _ _ t x)).mono fun x₁ t₁ _ h₁ => ?_)
  -- the polls query the status and sleep, and fold the usage reported into the run
  rw [Job.bind_apply]
  refine (((SessionBook.answers_observe ht hstatus run).ends t₁ x₁).and
    (SessionBook.observe_ok c.worker StoreKept run t₁ x₁)).bind (fun v t₂ x₂ h₂ => ?_)
    fun _ _ _ h => by obtain ⟨_, _, ha⟩ := h; cases ha
  obtain ⟨run₁, alive₁⟩ := v
  dsimp -zeta only
  rw [Job.bind_apply]
  refine (((SessionBook.answers_awaitStop ht hstatus _ _ run₁ alive₁ 0).ends t₂ x₂).and
    (SessionBook.awaitStop_ok c.worker StoreKept _ _ run₁ alive₁ 0 t₂ x₂)).bind (fun v t₃ x₃ h₃ => ?_)
    fun _ _ _ h => by obtain ⟨_, _, ha⟩ := h; cases ha
  obtain ⟨run₂, alive₂, waited⟩ := v
  dsimp -zeta only
  have hrun₂ : run.Tallied run₂ := (h₂.1.2 _ rfl).trans (h₃.1.2 _ rfl)
  have hcalm : Calm journal Eq (x₁, t₁) (x₃, t₃) := ht.trans h₂.1.1 h₃.1.1
  have hid : run₂.runId = run.runId := hrun₂.same.1
  have hs₃ : x₃.store = x.store := hcalm.runs.symm.trans h₁.1.1
  have hl₃ : t₃.logged = t.logged := hcalm.logged.trans h₁.1.2.2
  have hle₃ : t₃.sessions.leases = t.sessions.leases := by rw [hcalm.sessions, h₁.1.2.1]
  have hj₃ : journal t₃ = journal t ++ WorkerCall.stops run.runId [false] := hcalm.calls.trans h₁.2
  -- the release, the lease and the answer follow the forced stop, if there is one
  -- the outcome is read from the forced stop and the release, in any way
  have hfinish : ∀ (fs : List Bool) (outcome : Except EngineError Unit → Except EngineError Unit) t₄ x₄,
      x₄.store = x.store → t₄.logged = t.logged → t₄.sessions.leases = t.sessions.leases →
      journal t₄ = journal t ++ WorkerCall.stops run.runId fs →
      ((do
          let released ← Job.attempt (c.worker.release run₂.runId)
          SessionBook.modify fun x => x.unleaseIfHeld h
          pure (run₂, outcome released) :
          Eng (Run × Except EngineError Unit)) t₄ x₄).Ends StoreKept fun x' t' r =>
        x'.store = x.store ∧ t'.logged = t.logged ∧
          t'.sessions.leases = (t.sessions.unleaseIfHeld h).leases ∧
          (∃ forced, journal t' = journal t ++ WorkerCall.stops run.runId forced ++ [.release run.runId]) ∧
          ∀ v, r = .ok v → run.Tallied v.1 := by
    intro fs outcome t₄ x₄ hs₄ hl₄ hle₄ hj₄
    refine (Job.ends_attempt_bind _ _ _ _ _).2 ((((hc.own.worker.release _).ends t₄ x₄).and
      (hc.calls.release _ t₄ x₄)).mono fun x₅ t₅ _ h₅ => ?_)
    obtain ⟨⟨hs₅, hses₅, hl₅⟩, hj₅⟩ := h₅
    rw [SessionBook.modify_bind]
    refine ⟨hs₅.trans hs₄, hl₅.trans hl₄, ?_, ⟨fs, ?_⟩, fun v hv => ?_⟩
    · exact SessionBook.unleaseIfHeld_leases_congr h (by rw [hses₅]; exact hle₄)
    · rw [hid] at hj₅
      rw [hc.journal_sessions, hj₅, hj₄]
    · cases hv
      exact hrun₂
  split
  · -- still alive after the grace period: stopped by force
    refine (Job.ends_attempt_bind _ _ _ _ _).2 ((((hc.own.worker.terminate _ _).ends t₃ x₃).and
      (hc.calls.terminate _ _ t₃ x₃)).mono fun x₄ t₄ forced h₄ => ?_)
    obtain ⟨⟨hs₄, hses₄, hl₄⟩, hj₄⟩ := h₄
    refine hfinish [false, true] _ t₄ x₄ (hs₄.trans hs₃) (hl₄.trans hl₃)
      (by rw [hses₄, hle₃]) ?_
    rw [hj₄, hj₃, hid, List.append_assoc, WorkerCall.stops_append]
    rfl
  · rw [Job.pure_bind]
    exact hfinish [false] _ t₃ x₃ hs₃ hl₃ hle₃ hj₃

/-- Tearing a session down, as `teardown_settles` says. -/
theorem stop_settles (h : SessionHandle) (run : Run) (t : Conductor) (x : Host) :
    (c.stop h run t x).Ends StoreKept fun x' t' r =>
      x'.store = x.store ∧ t'.logged = t.logged ∧
        t'.sessions.leases = (t.sessions.unleaseIfHeld h).leases ∧
        (∃ forced, journal t' = journal t ++ WorkerCall.stops run.runId forced ++ [.release run.runId]) ∧
        ∀ run', r = .ok run' → run.Tallied run' := by
  unfold stop
  rw [Job.bind_apply]
  refine (teardown_settles hc h run t x).bind (fun v t' x' hv => ?_)
    fun _ _ _ hv => ⟨hv.1, hv.2.1, hv.2.2.1, hv.2.2.2.1, error_eq_ok_elim⟩
  obtain ⟨run', _⟩ := v
  exact ⟨hv.1, hv.2.1, hv.2.2.1, hv.2.2.2.1, fun _ hr => by cases hr; exact hv.2.2.2.2 _ rfl⟩

/-- Routing a decision for the epic `id`, from a state where its lease is free and nothing of it
runs: the answer is the epic, with nothing running, handed over on record when blocked. -/
theorem apply_settles {id : String} (d : Decision) (hd : d.epicId = id) (t : Conductor) (x : Host)
    (hfree : t.sessions.holder id = none) (hidle : x.store.runningRun? id = none) :
    (c.apply d t x).Ends StoreKept (c.Closed journal id (x, t)) := by
  refine (apply_delivers d t x).mono fun x' t' r ⟨ht', hruns, hdel, hans⟩ =>
    ⟨⟨⟨[], ?_, .nil⟩, ?_, hdel⟩, fun e he => ?_⟩
  · rw [ht', hc.journal_logged, List.append_nil]
  · rw [ht']
    exact hfree
  · obtain ⟨hid, hh⟩ := hans e he
    exact ⟨hid.trans hd, (Store.runningRun?_of_runs_eq hruns).trans hidle, hh⟩

/-- A stage that never started is handed to an operator. -/
theorem reject_settles {id : String} (e : Epic) (he : e.id = id) (r : Rationale) (reason : String)
    (t : Conductor) (x : Host) (hfree : t.sessions.holder id = none)
    (hidle : x.store.runningRun? id = none) :
    (c.reject e r reason t x).Ends StoreKept (c.Closed journal id (x, t)) := by
  unfold reject
  rw [Eng.stamp_bind]
  exact apply_settles hc _ he t x hfree hidle

/-- A run whose worker is gone is closed and its epic routed. The closed run was the epic's only
running run, so nothing of the epic runs any more. -/
theorem interrupted_settles (e : Epic) (run : Run) {status : RunStatus} (hstatus : status ≠ .running)
    (reason : Rationale) (t : Conductor) (x : Host) (hfree : t.sessions.holder e.id = none)
    (hrun : x.store.RunningAt e.id run.runId) :
    (c.interrupted e run status reason t x).Ends StoreKept (c.Closed journal e.id (x, t)) := by
  unfold interrupted record
  rw [Eng.stamp_bind]
  cases hup : x.store.updateRun (run.finish status (some reason) x.stamp) with
  | error err =>
    rw [Eng.updateStore_bind_error _ _ _ hup]
    exact ⟨Settles.refl hfree, error_eq_ok_elim⟩
  | ok s =>
    rw [Eng.updateStore_bind_ok _ _ _ hup, Eng.stamp_bind]
    -- the closed run was the epic's only running one
    have hidle : s.runningRun? e.id = none :=
      Store.RunningAt.updateRun_ended (r := run.finish status (some reason) x.stamp) hrun hup hstatus
    have hq : c.Settles journal e.id (x, t) ({ x with store := s }, t) := by
      obtain ⟨-, f, -, -, -, hs⟩ := Store.updateRun_eq_ok hup
      exact Settles.quiet rfl hfree (by rw [hs]) (by rw [hs]) rfl
    exact (apply_settles hc _ (routeRun_epicId _ _ _ _) t _ hfree hidle).mono fun _ _ _ h =>
      ⟨hq.trans h.1, h.2⟩

/-- The end of a stage, for a session that holds its epic's lease and a run that is the epic's
only running run. Whatever the watch answers, the session is torn down: the run is asked to
stop and released, and the lease given up. A watched run is then stored, no longer running, and
routed. -/
theorem conclude_settles (h : SessionHandle) (run : Run) (t : Conductor) (x : Host)
    (hheld : t.sessions.holder h.epicId = some h.sessionId)
    (hrun : x.store.RunningAt h.epicId run.runId) :
    (c.conclude h run t x).Ends StoreKept fun x' t' r =>
      (∃ forced, journal t' = journal t ++ WorkerCall.stops run.runId forced ++ [.release run.runId]) ∧
        t'.sessions.holder h.epicId = none ∧ c.Delivers (x, t) (x', t') ∧
        ∀ e, r = .ok e → c.Answered h.epicId x'.store e := by
  -- the watch writes only the run's row, which stays the epic's only running run
  have hrefl : ∀ s, Store.KeepsRunning h.epicId run.runId s s := fun _ h => h
  have hW := hc.calm_tidy hrefl Store.KeepsRunning.trans
  have hup : ∀ x t r s, r.runId = run.runId → x.store.updateRun r = .ok s →
      Calm journal (Store.KeepsRunning h.epicId run.runId) (x, t) ({ x with store := s }, t) := by
    intro x t r s hid hs
    obtain ⟨-, f, -, -, -, hs'⟩ := Store.updateRun_eq_ok hs
    refine ⟨rfl, rfl, rfl, by rw [hs'], by rw [hs'], fun hr => ?_⟩
    rw [← hid] at hr ⊢
    exact hr.updateRun hs
  unfold conclude
  refine (Job.ends_attempt_bind _ _ _ _ _).2 (((Monitor.answers_watch hW hup (hc.status_calm hrefl)
    (hc.mailbox_calm hrefl) c.monitor).ends t x).mono fun x₁ t₁ r h₁ => ?_)
  have hrun₁ : x₁.store.RunningAt h.epicId run.runId := h₁.1.runs hrun
  have hheld₁ : t₁.sessions.holder h.epicId = some h.sessionId := by
    rw [h₁.1.sessions]
    exact hheld
  -- after the teardown and the card forgotten, the session is over and the lease free
  have hclosed : ∀ (run₁ : Run), run₁.runId = run.runId → ∀ t₂ x₂ (cards : CardBook),
      x₂.store = x₁.store → t₂.logged = t₁.logged →
      t₂.sessions.leases = (t₁.sessions.unleaseIfHeld h).leases →
      (∃ forced, journal t₂ = journal t₁ ++ WorkerCall.stops run₁.runId forced ++ [.release run₁.runId]) →
      (∃ forced, journal { t₂ with cards := cards } =
          journal t ++ WorkerCall.stops run.runId forced ++ [.release run.runId]) ∧
        ({ t₂ with cards := cards } : Conductor).sessions.holder h.epicId = none ∧
        c.Delivers (x, t) (x₂, { t₂ with cards := cards }) := by
    intro run₁ hid t₂ x₂ cards hs₂ hl₂ hle₂ ⟨forced, hj₂⟩
    refine ⟨⟨forced, ?_⟩, ?_, ?_⟩
    · rw [hc.journal_cards, hj₂, h₁.1.calls, hid]
    · exact (SessionBook.holder_of_leases_eq hle₂ _).trans
        (SessionBook.holder_unleaseIfHeld_of_held hheld₁)
    · exact Delivers.quiet (by rw [hs₂]; exact h₁.1.decisions) (by rw [hs₂]; exact h₁.1.escalations)
        (hl₂.trans h₁.1.logged)
  cases r with
  | error err =>
    dsimp only
    rw [Job.bind_apply]
    refine (stop_settles hc h run t₁ x₁).bind (fun _ t₂ x₂ h₂ => ?_) fun _ t₂ x₂ h₂ =>
      have hcl := hclosed run rfl t₂ x₂ t₂.cards h₂.1 h₂.2.1 h₂.2.2.1 h₂.2.2.2.1
      ⟨hcl.1, hcl.2.1, hcl.2.2, error_eq_ok_elim⟩
    rw [CardBook.modify_bind]
    have hcl := hclosed run rfl t₂ x₂ (t₂.cards.forget run.cardId) h₂.1 h₂.2.1 h₂.2.2.1 h₂.2.2.2.1
    exact ⟨hcl.1, hcl.2.1, hcl.2.2, error_eq_ok_elim⟩
  | ok run₁ =>
    have hw : Monitor.Watched run run₁ := h₁.2 run₁ rfl
    dsimp only
    rw [Job.bind_apply]
    refine (stop_settles hc h run₁ t₁ x₁).bind (fun run₂ t₂ x₂ h₂ => ?_) fun _ t₂ x₂ h₂ =>
      have hcl := hclosed run₁ hw.same.1 t₂ x₂ t₂.cards h₂.1 h₂.2.1 h₂.2.2.1 h₂.2.2.2.1
      ⟨hcl.1, hcl.2.1, hcl.2.2, error_eq_ok_elim⟩
    obtain ⟨hs₂, hl₂, hle₂, hj₂, htal⟩ := h₂
    obtain ⟨hj₃, hfree₃, hdel₃⟩ := hclosed run₁ hw.same.1 t₂ x₂ (t₂.cards.forget run.cardId) hs₂ hl₂ hle₂ hj₂
    -- the run stored is the watched run with its last usage: the same run, no longer running
    obtain ⟨turns, cost, hrun₂⟩ := htal run₂ rfl
    rw [CardBook.modify_bind]
    unfold record
    cases hrec : x₂.store.updateRun run₂ with
    | error err =>
      rw [Eng.updateStore_bind_error _ _ _ hrec]
      exact ⟨hj₃, hfree₃, hdel₃, error_eq_ok_elim⟩
    | ok s =>
      rw [Eng.updateStore_bind_ok _ _ _ hrec, Eng.stamp_bind, Eng.store_bind]
      have hidle : s.runningRun? h.epicId = none := by
        subst hrun₂
        refine Store.RunningAt.updateRun_ended ?_ hrec hw.ended
        rw [hs₂, hw.same.1]
        exact hrun₁
      have hq : c.Delivers (x₂, { t₂ with cards := t₂.cards.forget run.cardId })
          ({ x₂ with store := s }, { t₂ with cards := t₂.cards.forget run.cardId }) := by
        obtain ⟨-, f, -, -, -, hs⟩ := Store.updateRun_eq_ok hrec
        exact Delivers.quiet (by rw [hs]) (by rw [hs]) rfl
      refine (apply_delivers _ _ _).mono fun x' t' r ⟨ht', hruns, hdel, hans⟩ =>
        ⟨?_, ?_, hdel₃.trans (hq.trans hdel), fun e he => ?_⟩
      · rw [ht', hc.journal_logged]
        exact hj₃
      · rw [ht']
        exact hfree₃
      · -- the router's decision, as the budget lets it stand, is for the session's epic
        obtain ⟨hid, hh⟩ := hans e he
        rw [EpicPolicy.enforceBudget_epicId, routeRun_epicId] at hid
        exact ⟨hid, (Store.runningRun?_of_runs_eq hruns).trans hidle, hh⟩

/-- Starting a run for a handle whose epic's lease is free. A start that fails leaves the store
as it was and the lease free, after whole sessions: none, or the run the store refused, stopped
by force and released. A start that succeeds holds the lease for the session, has started just
its run, and recorded it as the epic's only running run. -/
theorem startRun_settles (reg : Registry) (h : SessionHandle) (cardId cardPath objective : String)
    (t : Conductor) (x : Host) (hfree : t.sessions.holder h.epicId = none) :
    (SessionBook.startRun c.worker reg h cardId cardPath objective t x).Ends StoreKept
      fun x' t' r => c.Started journal h (x, t) (x', t') r := by
  -- a start refused before the worker is asked changes nothing
  have hrefused : ∀ e, c.Started journal h (x, t) (x, t) (.error e) :=
    fun _ => ⟨Settles.refl hfree, rfl⟩
  unfold SessionBook.startRun
  cases hd : reg.get? h.stage with
  | none => exact hrefused (.spawnRejected "")
  | some d =>
    dsimp -zeta only
    rw [Eng.store_bind]
    cases hrr : x.store.runningRun? h.epicId with
    | some r => exact hrefused (.spawnRejected "")
    | none =>
      dsimp -zeta only
      rw [SessionBook.get_bind]
      cases hacq : t.sessions.acquire h with
      | error e => exact hrefused e
      | ok b =>
        rw [Eng.ofExcept_ok_bind]
        rw [SessionBook.modify_bind]
        -- the books once the session holds the lease
        generalize ht₀ : ({ t with sessions := (b.takeResume h.sessionId).1 } : Conductor) = t₀
        have hj₀ : journal t₀ = journal t := by rw [← ht₀, hc.journal_sessions]
        have hheld : t₀.sessions.holder h.epicId = some h.sessionId := by
          rw [← ht₀, SessionBook.holder_of_leases_eq (SessionBook.takeResume_leases b h.sessionId)]
          exact SessionBook.holder_of_acquire hacq
        have hlog₀ : t₀.logged = t.logged := by rw [← ht₀]
        dsimp only
        rw [Job.ends_attempt_bind]
        refine (((hc.own.worker.invoke _).ends _ x).and (hc.calls.invoke _ _ x)).mono
          fun x₁ t₁ r ⟨⟨hst₁, hses₁, hlog₁⟩, hj₁⟩ => ?_
        rw [hj₀] at hj₁
        replace hlog₁ : t₁.logged = t.logged := hlog₁.trans hlog₀
        cases r with
        | error e =>
          -- the worker refused the start: the lease is given back
          dsimp only
          rw [SessionBook.modify_bind]
          have hcalls : journal { t₁ with sessions := t₁.sessions.unlease h.epicId } = journal t ++ [] := by
            rw [hc.journal_sessions, hj₁]
            rfl
          exact ⟨⟨⟨[], hcalls, .nil⟩, SessionBook.holder_unlease _ _,
            Delivers.quiet (by rw [hst₁]) (by rw [hst₁]) hlog₁⟩, hst₁⟩
        | ok id =>
          dsimp only
          rw [Job.pure_bind, Eng.stamp_bind, Eng.store_bind]
          cases hins : x₁.store.insertRun
              ((Run.pending h.epicId h.stage h.sessionId h.iteration cardId).start id x₁.stamp) with
          | ok s =>
            dsimp only
            rw [Eng.modifyHost_bind]
            have hrun := Store.RunningAt.insertRun (by rw [hst₁]; exact hrr) hins
            obtain ⟨-, -, rfl⟩ := Store.insertRun_eq_ok hins
            exact ⟨by rw [hses₁]; exact hheld, hj₁, Delivers.quiet (by rw [hst₁]) (by rw [hst₁]) hlog₁,
              hrun⟩
          | error err =>
            -- the store refused the run: it is stopped by force and released, and the lease given back
            dsimp only
            rw [Job.ends_attempt_bind]
            refine (((hc.own.worker.terminate id true).ends _ _).and (hc.calls.terminate id true _ _)).mono
              fun x₂ t₂ _ ⟨⟨hst₂, hses₂, hlog₂⟩, hj₂⟩ => ?_
            rw [Job.ends_attempt_bind]
            refine (((hc.own.worker.release id).ends _ _).and (hc.calls.release id _ _)).mono
              fun x₃ t₃ _ ⟨⟨hst₃, hses₃, hlog₃⟩, hj₃⟩ => ?_
            rw [SessionBook.modify_bind]
            have hcalls : journal { t₃ with sessions := t₃.sessions.unlease h.epicId } =
                journal t ++ (.invoke id :: WorkerCall.stops id [true] ++ [.release id]) := by
              rw [hc.journal_sessions, hj₃, hj₂, hj₁]
              simp [WorkerCall.started, WorkerCall.stops]
            have hstore : x₃.store = x.store := hst₃.trans (hst₂.trans hst₁)
            exact ⟨⟨⟨_, hcalls, WorkerCall.Settled.session id [true]⟩, SessionBook.holder_unlease _ _,
              Delivers.quiet (by rw [hstore]) (by rw [hstore]) (hlog₃.trans (hlog₂.trans hlog₁))⟩, hstore⟩

/-- Taking over a run left running by an earlier process, when the run is the epic's only
running run and its lease is free. A run whose worker is gone is closed; otherwise its session
is adopted, and whatever the card answers, torn down: the run is asked to stop and released. -/
theorem takeOver_settles (e : Epic) (run : Run) (he : e.id = run.epicId) (t : Conductor) (x : Host)
    (hfree : t.sessions.holder e.id = none) (hrun : x.store.RunningAt e.id run.runId) :
    (c.takeOver e run t x).Ends StoreKept (c.Closed journal e.id (x, t)) := by
  have ht : Tidy (Calm journal Eq) := hc.calm_tidy (fun _ => rfl) Eq.trans
  unfold takeOver
  rw [Job.bind_apply]
  refine (((hc.status_calm (fun _ => rfl) run.runId).ends t x)).bind (fun st t₁ x₁ h₁ => ?_)
    fun _ _ _ h₁ => ⟨Settles.of_calm h₁ hfree, error_eq_ok_elim⟩
  have hs₁ : c.Settles journal e.id (x, t) (x₁, t₁) := Settles.of_calm h₁ hfree
  have hrun₁ : x₁.store.RunningAt e.id run.runId := by
    rw [← h₁.runs]
    exact hrun
  split
  · -- the worker is gone: the run failed as interrupted
    exact (interrupted_settles hc e run (by decide) .interrupted t₁ x₁ hs₁.free hrun₁).mono
      fun _ _ _ => hs₁.closed
  rw [SessionBook.get_bind]
  cases hadp : t₁.sessions.adopt run e.workspace.path
      (((c.registry.get? run.stage).map (·.turnBudget)).getD 1) with
  | error err =>
    rw [Eng.ofExcept_error_bind]
    exact ⟨hs₁, error_eq_ok_elim⟩
  | ok bh =>
    obtain ⟨b, h⟩ := bh
    rw [Eng.ofExcept_ok_bind]
    dsimp only
    rw [SessionBook.modify_bind]
    -- the adopted session is the run's, and holds the epic's lease
    have hhid : h.epicId = e.id := (SessionBook.adopt_eq_ok hadp).1.trans he.symm
    have hheld : b.holder h.epicId = some h.sessionId := SessionBook.holder_of_adopt hadp
    refine (Job.ends_attempt_bind _ _ _ _ _).2 (((CardBook.keeps_reattach ht
      (hc.mailbox_calm fun _ => rfl) _ _).ends _ x₁).mono fun x₂ t₂ r h₂ => ?_)
    have hheld₂ : t₂.sessions.holder h.epicId = some h.sessionId := by
      rw [h₂.sessions]
      exact hheld
    have hrun₂ : x₂.store.RunningAt h.epicId run.runId := by
      rw [← h₂.runs, hhid]
      exact hrun₁
    -- the session ends with stops and a release, from where the run was taken over
    have hover : ∀ t₃ x₃ forced, journal t₃ = journal t₂ ++ WorkerCall.stops run.runId forced ++
        [.release run.runId] → t₃.sessions.holder e.id = none → c.Delivers (x₂, t₂) (x₃, t₃) →
        c.Settles journal e.id (x, t) (x₃, t₃) := by
      intro t₃ x₃ forced hj₃ hfree₃ hd₃
      have hj : journal t₃ = journal t₁ ++ WorkerCall.stops run.runId forced ++ [.release run.runId] := by
        rw [hj₃, h₂.calls, hc.journal_sessions]
      exact hs₁.trans (Settles.takenOver hj hfree₃
        ((Delivers.quiet h₂.decisions h₂.escalations h₂.logged).trans hd₃))
    split
    · -- the card is out of reach: the session is torn down and the run closed for an operator
      have hclosed : ∀ t₃ x₃, x₃.store = x₂.store → t₃.logged = t₂.logged →
          t₃.sessions.leases = (t₂.sessions.unleaseIfHeld h).leases →
          (∃ forced, journal t₃ = journal t₂ ++ WorkerCall.stops run.runId forced ++
            [.release run.runId]) →
          c.Settles journal e.id (x, t) (x₃, t₃) := by
        intro t₃ x₃ hs₃ hl₃ hle₃ ⟨forced, hj₃⟩
        refine hover t₃ x₃ forced hj₃ ?_ (Delivers.quiet (by rw [hs₃]) (by rw [hs₃]) hl₃)
        rw [← hhid, SessionBook.holder_of_leases_eq hle₃]
        exact SessionBook.holder_unleaseIfHeld_of_held hheld₂
      rw [Job.bind_apply]
      refine (stop_settles hc h run t₂ x₂).bind (fun run' t₃ x₃ h₃ => ?_)
        fun _ t₃ x₃ h₃ => ⟨hclosed t₃ x₃ h₃.1 h₃.2.1 h₃.2.2.1 h₃.2.2.2.1, error_eq_ok_elim⟩
      have hs₃ := hclosed t₃ x₃ h₃.1 h₃.2.1 h₃.2.2.1 h₃.2.2.2.1
      have hrun₃ : x₃.store.RunningAt e.id run'.runId := by
        rw [(h₃.2.2.2.2 run' rfl).same.1, h₃.1, ← hhid]
        exact hrun₂
      exact (interrupted_settles hc e run' (by decide) _ t₃ x₃ hs₃.free hrun₃).mono
        fun _ _ _ => hs₃.closed
    · -- the card is read back: the run is watched to its end like any other
      refine (conclude_settles hc h run t₂ x₂ hheld₂ hrun₂).mono
        fun x₃ t₃ r ⟨⟨forced, hj₃⟩, hfree₃, hd₃, hans⟩ => ⟨hover t₃ x₃ forced hj₃ ?_ hd₃, ?_⟩
      · rw [← hhid]
        exact hfree₃
      · rw [← hhid]
        exact hans

/-- One stage of an epic whose lease is free and of which nothing runs, when the session names
of the epic fit. Whatever the stage does, the sessions it starts are whole and its decisions
reach operators; the epic it answers has nothing running. -/
theorem step_settles (hname : ∀ d ∈ c.registry.stages, StageName.parse d.name.val = .ok d.name)
    (e : Epic) (t : Conductor) (x : Host) (hfit : HandlesFit e.id t.sessions.handles)
    (hfree : t.sessions.holder e.id = none) (hidle : x.store.runningRun? e.id = none) :
    (c.step e t x).Ends StoreKept (c.Closed journal e.id (x, t)) := by
  have ht : Tidy (Calm journal Eq) := hc.calm_tidy (fun _ => rfl) Eq.trans
  have hg := ht.guarantee
  have herr : ∀ (err : EngineError) t' x', Calm journal Eq (x, t) (x', t') →
      c.Closed journal e.id (x, t) x' t' (.error err) :=
    fun _ _ _ h => ⟨Settles.of_calm h hfree, error_eq_ok_elim⟩
  -- a stage that never starts forgets its card and hands its epic to an operator
  have hreject : ∀ (r : Rationale) reason cardId t' x', c.Settles journal e.id (x, t) (x', t') →
      x'.store.runningRun? e.id = none →
      ((CardBook.modify (·.forget cardId) >>= fun _ => c.reject e r reason) t' x').Ends StoreKept
        (c.Closed journal e.id (x, t)) := by
    intro r reason cardId t' x' hs hidle'
    rw [CardBook.modify_bind]
    have hs' : c.Settles journal e.id (x, t) (x', { t' with cards := t'.cards.forget cardId }) :=
      hs.trans (Settles.quiet (hc.journal_cards _ _) hs.free rfl rfl rfl)
    exact (reject_settles hc e rfl r reason _ x' hs'.free hidle').mono fun _ _ _ => hs'.closed
  unfold step
  rw [Eng.stamp_bind, Eng.store_bind]
  cases hgate : c.policy.spawnGate x.store e x.stamp with
  | some d =>
    -- out of budget or attempts: the gate's decision is routed
    dsimp -zeta only
    exact apply_settles hc d (EpicPolicy.spawnGate_eq_some hgate).1 t x hfree hidle
  | none =>
    dsimp -zeta only
    cases hdesc : c.registry.get? e.stage with
    | none =>
      dsimp -zeta only
      exact ⟨Settles.refl hfree, error_eq_ok_elim⟩
    | some desc =>
      dsimp -zeta only
      obtain ⟨hdmem, -⟩ := Registry.get?_spec hdesc
      refine Job.Keeps.ends_bind_from hg (keeps_patternNotes ht _ _) (hg.refl _)
        (fun notes t₁ x₁ h₁ => ?_) herr
      refine Job.Keeps.ends_bind_from hg (CardBook.keeps_createCard ht _ _ _ _ _) h₁
        (fun cardId t₂ x₂ h₂ => ?_) herr
      have hs₂ : c.Settles journal e.id (x, t) (x₂, t₂) := Settles.of_calm h₂ hfree
      have hidle₂ : x₂.store.runningRun? e.id = none := by
        rw [← h₂.runs]
        exact hidle
      rw [SessionBook.get_bind]
      cases hsp : t₂.sessions.spawn c.registry
          { stage := desc.name.val, epicId := e.id, cardRef := cardId,
            sessionName := e.id ++ "_" ++ desc.name.val, turnBudget := desc.turnBudget,
            resume := e.resumeNext, workspace := e.workspace.path } with
      | error err =>
        cases err
        case spawnRejected reason => exact hreject _ reason cardId t₂ x₂ hs₂ hidle₂
        all_goals exact herr _ t₂ x₂ h₂
      | ok bh =>
        obtain ⟨b, h⟩ := bh
        dsimp -zeta only
        extract_lets launch
        rw [SessionBook.modify_bind]
        -- the session handed out is one of the epic, and takes no lease
        have hfit₂ : HandlesFit e.id t₂.sessions.handles := by
          rw [h₂.sessions]
          exact hfit
        obtain ⟨-, hhid, -⟩ := HandlesFit.spawn hfit₂ hdesc (hname desc hdmem) rfl rfl rfl hsp
        have hs₃ : c.Settles journal e.id (x, t) (x₂, { t₂ with sessions := b }) := by
          refine hs₂.trans (Settles.quiet (hc.journal_sessions _ _) ?_ rfl rfl rfl)
          rw [SessionBook.holder_of_leases_eq (SessionBook.spawn_leases hsp)]
          exact hs₂.free
        have hlaunch : ∀ u t₄ x₄, c.Settles journal e.id (x, t) (x₄, t₄) →
            x₄.store.runningRun? e.id = none →
            (launch u t₄ x₄).Ends StoreKept (c.Closed journal e.id (x, t)) := by
          intro u t₄ x₄ hs₄ hidle₄
          dsimp -zeta only [launch]
          refine Job.Keeps.ends_bind_from hg (CardBook.keeps_publish ht (hc.mailbox_calm fun _ => rfl) _ _)
            (hg.refl _) (fun path t₅ x₅ h₅ => ?_) fun _ _ _ h₅ => hs₄.closed ⟨Settles.of_calm h₅ hs₄.free, error_eq_ok_elim⟩
          have hs₅ : c.Settles journal e.id (x, t) (x₅, t₅) := hs₄.trans (Settles.of_calm h₅ hs₄.free)
          have hidle₅ : x₅.store.runningRun? e.id = none := by
            rw [← h₅.runs]
            exact hidle₄
          refine (Job.ends_attempt_bind _ _ _ _ _).2 ((startRun_settles hc c.registry h cardId path
            e.objective t₅ x₅ (by rw [hhid]; exact hs₅.free)).mono fun x₆ t₆ r h₆ => ?_)
          cases r with
          | ok run =>
            -- the run started is watched to its end and its session closed
            obtain ⟨hheld₆, hj₆, hd₆, hrun₆⟩ := h₆
            dsimp only
            refine (conclude_settles hc h run t₆ x₆ hheld₆ hrun₆).mono
              fun x₇ t₇ r₇ ⟨⟨forced, hj₇⟩, hfree₇, hd₇, hans₇⟩ => hs₅.closed ⟨⟨⟨_, ?_,
                WorkerCall.Settled.session run.runId forced⟩, ?_, hd₆.trans hd₇⟩, ?_⟩
            · rw [hj₇, hj₆]
              simp
            · rw [← hhid]
              exact hfree₇
            · rw [← hhid]
              exact hans₇
          | error err =>
            obtain ⟨hs₆, hst₆⟩ := h₆
            rw [hhid] at hs₆
            have hidle₆ : x₆.store.runningRun? e.id = none := by
              rw [hst₆]
              exact hidle₅
            cases err
            case spawnRejected reason => exact hreject _ reason cardId t₆ x₆ (hs₅.trans hs₆) hidle₆
            case worker reason => exact hreject _ reason cardId t₆ x₆ (hs₅.trans hs₆) hidle₆
            all_goals exact ⟨hs₅.trans hs₆, error_eq_ok_elim⟩
        clear_value launch
        -- the run starts after the resume flag is cleared, if it was set
        by_cases hres : e.resumeNext = true
        · rw [if_pos hres]
          cases hcl : EpicPolicy.clearResume x₂.store e.id x.stamp with
          | error err =>
            rw [Eng.updateStore_bind_error _ _ _ hcl]
            exact ⟨hs₃, error_eq_ok_elim⟩
          | ok s =>
            rw [Eng.updateStore_bind_ok _ _ _ hcl]
            obtain ⟨hruns, hdec, hesc⟩ := EpicPolicy.clearResume_quiet hcl
            refine hlaunch _ _ _ (hs₃.trans (Settles.quiet rfl hs₃.free hdec hesc rfl)) ?_
            rw [Store.runningRun?_of_runs_eq hruns]
            exact hidle₂
        · rw [if_neg hres]
          exact hlaunch _ _ _ hs₃ hidle₂

end Pieces

section Drive

variable {journal : Conductor → List WorkerCall} (hc : c.Journaled journal) {id : String} {f0 : Nat}
  (hbig : f0 < Nat.pow 2 63) (hname : ∀ d ∈ c.registry.stages, StageName.parse d.name.val = .ok d.name)
include hc hbig hname

/-- The stage loop, from a state the drive fits, where the epic's lease is free, nothing of it
runs, and the epic is handed over on record if it is blocked. Every stage settles and answers
the epic with nothing running and handed over on record, so the loop does too. -/
theorem drive_settles (n : Nat) : ∀ (e : Epic) (t : Conductor) (x : Host), e.id = id →
    e.attemptFloor = f0 → (c.quota id f0).Fits (x, t) → t.sessions.holder id = none →
    x.store.runningRun? id = none → c.HandedOver x.store e →
    (c.drive n e t x).Ends StoreKept (c.Closed journal id (x, t)) := by
  intro e t x he hfl hfit hfree hidle hhand
  -- one stage per round; the quota keeps the session names fitting from one stage to the next
  refine drive_ends_of (I := fun _ e a => e.id = id ∧ e.attemptFloor = f0 ∧ (c.quota id f0).Fits a ∧
      a.2.sessions.holder id = none ∧ a.1.store.runningRun? id = none ∧ c.HandedOver a.1.store e)
    (R := c.Settles journal id) (Q := fun a r => ∀ e, r = .ok e → c.Answered id a.1.store e)
    Settles.trans ?stay ?stage n e t x ⟨he, hfl, hfit, hfree, hidle, hhand⟩
  case stay =>
    -- an epic answered as it is leaves everything as it was
    rintro _ e a ⟨he, -, -, hfree, hidle, hhand⟩ -
    exact ⟨Settles.refl hfree, fun e' he' => by cases he'; exact ⟨he, hidle, hhand⟩⟩
  case stage =>
    rintro _ e t x ⟨he, hfl, hfit, hfree, hidle, -⟩ - -
    have hstep := step_settles hc hname e t x (by rw [he]; exact hfit.handles) (by rw [he]; exact hfree)
      (by rw [he]; exact hidle)
    rw [he] at hstep
    refine (hstep.and (step_ends hbig hname hc.keeps_confined e he hfl t x hfit)).mono
      fun x' t' r ⟨⟨hs, hans⟩, hspent⟩ => ⟨hs, fun _ _ => hans, fun e' he' => ?_⟩
    obtain ⟨hid', hfl', -⟩ := hspent.2 e' he'
    have ha := hans e' he'
    exact ⟨hid', hfl', hspent.1.fits hfit, hs.free, ha.idle, ha.handed⟩

/-- One drive of the epic `id`, from a state the drive fits, where the epic's lease is free, the
run table keeps its rules, and the run left running, if any, has a session named after its
stage. The drive settles; the epic it answers has nothing running, and is handed over on record
once the drive has made a decision. -/
theorem runEpic_settles (t : Conductor) (x : Host) (hfit : (c.quota id f0).Fits (x, t))
    (hrun : ∀ run, x.store.runningRun? id = some run →
      ∀ base i, Session.splitId run.sessionId = some (base, i) → base = id ++ "_" ++ run.stage.val)
    (hruns : Store.RunsKept x.store) (hfree : t.sessions.holder id = none) :
    (c.runEpic id t x).Ends StoreKept fun x' t' r => c.Settles journal id (x, t) (x', t') ∧
      ∀ e, r = .ok e → e.id = id ∧ x'.store.runningRun? id = none ∧
        (x'.store.decisions ≠ x.store.decisions → c.HandedOver x'.store e) := by
  have hR : Allows c.policy (c.quota id f0).Spends := Quota.allows c.policy hbig
  have hcS : c.Keeps (c.quota id f0).Spends :=
    hc.keeps_confined.mono fun _ _ h => Quota.blind.confined h
  unfold runEpic
  rw [Eng.store_bind, SessionBook.modify_bind]
  -- seeding numbers new sessions on from the recorded ones; the handles and the leases stay
  generalize ht₁ : ({ t with sessions := t.sessions.seed ((x.store.runsOf id).map (·.sessionId)) } :
    Conductor) = t₁
  have hs₁ : c.Settles journal id (x, t) (x, t₁) := by
    rw [← ht₁]
    refine Settles.quiet (hc.journal_sessions _ _) ?_ rfl rfl rfl
    rw [SessionBook.holder_of_leases_eq (SessionBook.seed_leases _ _)]
    exact hfree
  have hfit₁ : (c.quota id f0).Fits (x, t₁) := by
    rw [← ht₁]
    refine Quota.Spends.fits ?_ hfit
    exact Quota.blind.confined ⟨rfl, SessionBook.seed_handles _ _⟩
  have hclose : ∀ x' t' r, c.Closed journal id (x, t₁) x' t' r →
      c.Settles journal id (x, t) (x', t') ∧ ∀ e, r = .ok e → e.id = id ∧
        x'.store.runningRun? id = none ∧
        (x'.store.decisions ≠ x.store.decisions → c.HandedOver x'.store e) := by
    intro x' t' r ⟨hs, hans⟩
    refine ⟨hs₁.trans hs, fun e he => ?_⟩
    obtain ⟨hid, hidle, hhand⟩ := hans e he
    exact ⟨hid, hidle, fun _ => hhand⟩
  cases hget : EpicPolicy.get x.store id with
  | error err =>
    rw [Eng.ofExcept_error_bind]
    exact ⟨hs₁, error_eq_ok_elim⟩
  | ok e =>
    rw [Eng.ofExcept_ok_bind]
    obtain ⟨y, hy, rfl⟩ := EpicPolicy.get_eq_ok hget
    have hyid : y.id = id := (Store.row?_spec hy).2
    have hyfl : y.attemptFloor = f0 := hfit.floor y hy
    cases hrr : x.store.runningRun? id with
    | none =>
      dsimp -zeta only
      rw [Job.pure_bind]
      by_cases hactive : y.status = .active
      · -- an active epic is not blocked, so nothing is owed to operators yet
        have hhand : c.HandedOver x.store { y with history := x.store.history id } := by
          intro _ hb
          have hab : y.status = .blocked := hb
          rw [hactive] at hab
          cases hab
        exact (drive_settles hc hbig hname c.maxStages { y with history := x.store.history id } t₁ x
          hyid hyfl hfit₁ hs₁.free hrr hhand).mono hclose
      · -- an epic that is not active is answered as it is, and nothing is decided
        rw [maxStages, drive_inactive c _ { y with history := x.store.history id } hactive]
        exact ⟨hs₁, fun e' he' => by cases he'; exact ⟨hyid, hrr, fun hne => absurd rfl hne⟩⟩
    | some run =>
      dsimp -zeta only
      -- the run left running is the epic's only running run, and its session keeps the names fitting
      have hrunid : run.epicId = id := (Store.runningRun?_spec hrr).2.1
      have hat : x.store.RunningAt id run.runId := Store.RunningAt.of_runningRun? hruns hrr
      have hadopt : ∀ x' t' ws n b h, t'.sessions.adopt run ws n = .ok (b, h) →
          (c.quota id f0).Spends (x', t') (x', { t' with sessions := b }) :=
        fun _ _ _ _ _ _ had => Quota.spends_sessions fun hh => HandlesFit.adopt hh hrunid (hrun run hrr) had
      have heid : ({ y with history := x.store.history id } : Epic).id = id := hyid
      have htake := takeOver_settles hc { y with history := x.store.history id } run
        (heid.trans hrunid.symm) t₁ x (by rw [heid]; exact hs₁.free) (by rw [heid]; exact hat)
      rw [Job.bind_apply]
      refine (htake.and ((takeOver_answers hR Quota.blind hcS { y with history := x.store.history id } run
        hadopt).ends t₁ x)).bind (fun e' t' x' h => ?_)
        fun _ _ _ h => ⟨hs₁.trans (by rw [← heid]; exact h.1.1), error_eq_ok_elim⟩
      obtain ⟨⟨hs, hans⟩, hspent, hmoved⟩ := h
      rw [heid] at hs hans
      have ha := hans e' rfl
      -- the answer is read from the epic's row, whichever epic the take-over names
      obtain ⟨hid', hfl'⟩ : e'.id = id ∧ e'.attemptFloor = f0 := by
        rcases hmoved e' rfl with hm | hm
        · rw [heid] at hm
          exact Quota.MovedFrom.floor hfit₁ hm
        · rw [hrunid] at hm
          exact Quota.MovedFrom.floor hfit₁ hm
      exact (drive_settles hc hbig hname c.maxStages e' t' x' hid' hfl' (hspent.fits hfit₁) hs.free
        ha.idle ha.handed).mono fun x'' t'' r h' => hclose x'' t'' r (hs.closed h')

end Drive

/-- A drive fits a state where the epic has its one row, with a floor within its runs, and the
session names of the epic fit. -/
theorem fits_of_row {id : String} {t : Conductor} {x : Host} {row : Epic}
    (hrow : x.store.row? id = some row) (hfloor : row.attemptFloor ≤ (x.store.runsOf id).length)
    (hses : HandlesFit id t.sessions.handles) : (c.quota id row.attemptFloor).Fits (x, t) := by
  refine ⟨fun r hr => ?_, hfloor, hses⟩
  have hr' : x.store.row? id = some r := hr
  rw [hrow] at hr'
  cases hr'
  rfl

/-- What one drive of an epic leaves behind, for any worker and mailbox that stay in their own
world and keep a journal of the worker's calls. Of the start it asks that stage names read as
themselves; that the epic is stored with a floor within its runs that fits its column; that the
session names of the epic hold sessions of the epic at the named stage; that a run left running
has a session named after its stage; that the epic's lease is free; and that the run table
keeps its rules. Whether the drive answers
or fails, the worker calls it made are whole sessions: every run the worker started is asked to
stop any number of times and then released once, before the next session begins
(`WorkerCall.Settled.invoke_released`); and the epic's lease is free. Every decision the drive
made reached operators by the crew's channel, one escalation for each operator's decision. When
the drive answers, nothing of the epic runs; the epic is blocked, completed or failed, or active
only because the work was found cancelled between stages; and once the drive has made a
decision, a blocked epic has an open escalation for the reason it is blocked, when the crew
keeps escalations in the store. -/
theorem runEpic_leaves_nothing_behind {journal : Conductor → List WorkerCall} (hc : c.Journaled journal)
    (id : String) (t : Conductor) (x : Host) (row : Epic)
    (hname : ∀ d ∈ c.registry.stages, StageName.parse d.name.val = .ok d.name)
    (hrow : x.store.row? id = some row) (hfloor : row.attemptFloor ≤ (x.store.runsOf id).length)
    (hbig : row.attemptFloor < Nat.pow 2 63) (hses : HandlesFit id t.sessions.handles)
    (hrun : ∀ run, x.store.runningRun? id = some run →
      ∀ base i, Session.splitId run.sessionId = some (base, i) → base = id ++ "_" ++ run.stage.val)
    (hruns : Store.RunsKept x.store) (hfree : t.sessions.holder id = none) :
    (c.runEpic id t x).Ends StoreKept fun x' t' r =>
      (∃ calls, journal t' = journal t ++ calls ∧ WorkerCall.Settled calls) ∧
      t'.sessions.holder id = none ∧ c.Delivers (x, t) (x', t') ∧
      ∀ e, r = .ok e → x'.store.runningRun? id = none ∧
        (e.status = .blocked ∨ e.status = .completed ∨ e.status = .failed ∨
          (e.status = .active ∧ x'.cancelAt.any (· ≤ x'.now) = true)) ∧
        (x'.store.decisions ≠ x.store.decisions → c.HandedOver x'.store e) := by
  have hfit := fits_of_row (c := c) hrow hfloor hses
  refine ((runEpic_settles hc hbig hname t x hfit hrun hruns hfree).and
    (runEpic_ends hbig hname hc.keeps_confined t x hfit hrun)).mono
    fun x' t' r ⟨⟨hs, hans⟩, _, hactive⟩ => ⟨hs.calls, hs.free, hs.delivers, fun e he => ?_⟩
  obtain ⟨-, hidle, hhand⟩ := hans e he
  refine ⟨hidle, ?_, hhand⟩
  -- an epic that is not active is blocked or finished
  cases hst : e.status with
  | active => exact Or.inr (Or.inr (Or.inr ⟨rfl, hactive e he hst⟩))
  | blocked => exact Or.inl rfl
  | completed => exact Or.inr (Or.inl rfl)
  | failed => exact Or.inr (Or.inr (Or.inl rfl))

/-- A fresh epic driven by the notebook crew, from a conductor that holds no sessions yet: the
calls it notes are whole sessions, the lease is free, and an epic answered has nothing running. -/
theorem notebook_drive_leaves_nothing_behind :
    (notebook.runEpic "epic-1" {}
        { store := { epics := [Epic.fresh "/work" "epic-1" "Ship it" ⟨"DESIGN"⟩ "now"] } }).Ends
      StoreKept fun x' t' r =>
        WorkerCall.Settled (WorkerCall.journal t') ∧ t'.sessions.holder "epic-1" = none ∧
        ∀ e, r = .ok e → x'.store.runningRun? "epic-1" = none := by
  have hname : ∀ d ∈ notebook.registry.stages, StageName.parse d.name.val = .ok d.name := by decide
  have hleaves := @runEpic_leaves_nothing_behind notebook WorkerCall.journal notebook_journaled "epic-1" {}
    { store := { epics := [Epic.fresh "/work" "epic-1" "Ship it" ⟨"DESIGN"⟩ "now"] } }
    (Epic.fresh "/work" "epic-1" "Ship it" ⟨"DESIGN"⟩ "now") hname rfl (by decide) (by decide)
    (fun _ _ hh => by simp [SessionBook.getKey] at hh) (fun _ hh => by simp [Store.runningRun?] at hh)
    ⟨List.nodup_nil, fun _ hx => by cases hx⟩ rfl
  -- the drive is named apart: unifying the postconditions through its text would run it
  generalize notebook.runEpic "epic-1" {} _ = drive at hleaves ⊢
  refine hleaves.mono fun x' t' r h => ?_
  obtain ⟨⟨calls, hj, hs⟩, hfree, _, hans⟩ := h
  refine ⟨?_, hfree, fun e he => (hans e he).1⟩
  -- the conductor starts with an empty journal
  rw [hj]
  exact hs

end Crew

end EpicFlow
