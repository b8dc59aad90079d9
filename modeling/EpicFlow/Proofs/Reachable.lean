import Mathlib.Logic.Relation
import EpicFlow.Proofs.Conduct

/-!
# Every reachable store keeps the rules of its epics

The store changes by the operations of the policy (create an epic, advance it by a decision,
block it, resolve it, override its stage, clear its resume flag, record a run's state) and by
conductors, which drive an epic through its stages (`Crew.runEpic`) or close the runs left
running by an earlier process (`Crew.recover`). `EngineStep p` is one such change, a
conductor's work taken as it runs alone, from any host that holds the store, with a worker and
a mailbox that leave the store alone.

The stores reachable from the empty store by any sequence of such steps are the ones the
engine can be in. Each step moves the store lawfully (`EngineStep.lawful`): for the operations
of the policy this is the lemmas of `Proofs.Operations`; for a conductor it is the guarantee of
`Proofs.Conduct`, extended here to the start of runs, the stage loop and the recovery of runs.
Lawful change composes, so a whole run of steps is lawful (`lawful_of_steps`).

Main statements:

* `EngineStep.lawful`: every step of the engine moves the store lawfully.
* `epic_rules`: on every reachable store the epics keep their rules; along every sequence of
  steps, a finished epic keeps its status and an epic becomes completed only through a
  completing decision; and a finished epic refuses every move.
-/

set_option autoImplicit false

namespace EpicFlow

namespace Crew

/-- The stage loop keeps a relation that every stage keeps, for any number of stages. -/
theorem keeps_drive_of {c : Crew} {rel : Host × Conductor → Host × Conductor → Prop} (hb : Tidy rel)
    (hstep : ∀ e, Job.Keeps StoreKept rel (c.step e)) (n : Nat) :
    ∀ e, Job.Keeps StoreKept rel (c.drive n e) := by
  have hg := hb.guarantee
  intro e
  -- the loop's invariant and what it owes are trivial: only the relation is carried
  refine ⟨fun t x => (drive_ends_of (I := fun _ _ _ => True) (R := rel) (Q := fun _ _ => True)
    hg.trans ?stay ?stage n e t x trivial).mono fun _ _ _ h => h.1⟩
  case stay => exact fun _ _ a _ _ => ⟨hg.refl a, trivial⟩
  case stage =>
    intro _ e t x _ _ _
    exact ((hstep e).ends t x).mono fun _ _ _ h => ⟨h, fun _ _ => trivial, fun _ _ => trivial⟩

/-- Closing the runs whose worker is gone keeps a relation that the conductor's writes other
than moves keep, when routing a run closed as interrupted keeps it. -/
theorem keeps_recoverRuns_of {c : Crew} {rel : Host × Conductor → Host × Conductor → Prop}
    (hW : Writes c.policy rel) (hc : c.Keeps rel)
    (happly : ∀ (id : String) (run : Run) (now now' : String),
      Job.Keeps StoreKept rel (c.apply (routeRun c.registry id (run.finish .failed (some .interrupted) now) now')))
    (runs : List Run) : ∀ acc, Job.Keeps StoreKept rel (c.recoverRuns runs acc) := by
  have hg := hW.guarantee
  -- one run at a time
  induction runs with
  | nil => exact fun acc => Job.Keeps.pure hg acc
  | cons run rest ih =>
    intro acc
    unfold recoverRuns
    refine Job.Keeps.bind hg (hc.worker.status _) fun st => ?_
    split
    · exact ih acc
    refine Job.Keeps.bind hg (Eng.keeps_stamp hW.toTidy) fun now => ?_
    refine Job.Keeps.bind hg (keeps_record hW _) fun _ => ?_
    refine Job.Keeps.bind hg (Eng.keeps_store hW.toTidy) fun st => ?_
    refine Job.Keeps.bind hg (Eng.keeps_ofExcept hW.toTidy _) fun e => ?_
    -- the epic is routed unless it has ended, then the next run is closed
    extract_lets next
    have hnext : ∀ u, Job.Keeps StoreKept rel (next u) := fun _ => ih _
    clear_value next
    split
    · refine Job.Keeps.bind hg (Eng.keeps_stamp hW.toTidy) fun now' => ?_
      exact Job.Keeps.bind hg (happly _ _ _ _) fun _ => hnext _
    · exact hnext _

section

variable {c : Crew} {rel : Host × Conductor → Host × Conductor → Prop} (hR : Allows c.policy rel)
  (hb : Blind rel) (hins : ∀ x t r s, x.store.insertRun r = .ok s → rel (x, t) ({ x with store := s }, t))
  (hses : ∀ x t b, rel (x, t) (x, { t with sessions := b })) (hc : c.Keeps rel)
include hR hb hins hses hc

/-- One stage keeps a relation that the conductor's writes and the record of a started run
keep. -/
theorem keeps_step (e : Epic) : Job.Keeps StoreKept rel (c.step e) := by
  have hg := hR.guarantee
  unfold step
  refine Job.Keeps.bind hg (Eng.keeps_stamp hb.tidy) fun now => ?_
  refine Job.Keeps.bind hg (Eng.keeps_store hb.tidy) fun st => ?_
  split
  · -- out of budget or attempts: the gate's decision is routed
    exact keeps_apply hR _
  split
  · rename_i desc _
    refine Job.Keeps.bind hg (keeps_patternNotes hR.toTidy _ _) fun notes => ?_
    refine Job.Keeps.bind hg (CardBook.keeps_createCard hb.tidy _ _ _ _ _) fun cardId => ?_
    extract_lets req
    refine Job.Keeps.bind hg (SessionBook.keeps_get hb) fun b => ?_
    split
    · refine Job.Keeps.bind hg (CardBook.keeps_modify hb.tidy _) fun _ => ?_
      exact keeps_reject hR _ _ _
    · exact Eng.keeps_fail hb.tidy _
    · -- the session handed out is a new handle, which the relation allows
      refine Job.Keeps.bind hg (Job.Keeps.modifyOwn fun x t => hses x t _) fun _ => ?_
      -- the run starts after the resume flag is cleared, if it was set
      extract_lets launch
      have hlaunch : ∀ u, Job.Keeps StoreKept rel (launch u) := by
        intro u
        dsimp -zeta only [launch]
        refine Job.Keeps.bind hg (CardBook.keeps_publish hb.tidy hc.mailbox _ _) fun path => ?_
        refine Job.Keeps.bind hg
          (Job.Keeps.attempt (SessionBook.keeps_startRun hb hc.worker hins _ _ _ _ _)) fun r => ?_
        split
        · exact keeps_conclude hR hb hc _ _
        · exact Job.Keeps.bind hg (CardBook.keeps_modify hb.tidy _) fun _ => keeps_reject hR _ _ _
        · exact Job.Keeps.bind hg (CardBook.keeps_modify hb.tidy _) fun _ => keeps_reject hR _ _ _
        · exact Eng.keeps_fail hb.tidy _
      clear_value launch
      split
      · exact Job.Keeps.bind hg
          (Eng.keeps_updateStore hg fun x t s h => hR.clearResume x t _ _ s h) hlaunch
      · exact hlaunch _
  · exact Eng.keeps_fail hb.tidy _

/-- The stage loop keeps the relation, for any number of stages. -/
theorem keeps_drive (n : Nat) : ∀ e, Job.Keeps StoreKept rel (c.drive n e) :=
  keeps_drive_of hb.tidy (keeps_step hR hb hins hses hc) n

/-- Driving an epic keeps the relation: a run left running is taken over first. -/
theorem keeps_runEpic (id : String) : Job.Keeps StoreKept rel (c.runEpic id) := by
  have hg := hR.guarantee
  unfold runEpic
  refine Job.Keeps.bind hg (Eng.keeps_store hb.tidy) fun st => ?_
  refine Job.Keeps.bind hg (SessionBook.keeps_modify hb fun b => SessionBook.seed_handles b _) fun _ => ?_
  refine Job.Keeps.bind hg (Eng.keeps_ofExcept hb.tidy _) fun e => ?_
  -- the stage loop starts after the take-over, if there is a run to take over
  extract_lets loop
  have hloop : ∀ e, Job.Keeps StoreKept rel (loop e) := keeps_drive hR hb hins hses hc _
  clear_value loop
  split
  · exact Job.Keeps.bind hg (keeps_takeOver hR hb hc _ _ fun x t _ _ b _ _ => hses x t b) hloop
  · exact Job.Keeps.bind hg (Job.Keeps.pure hg e) hloop

end

section

variable {c : Crew} {rel : Host × Conductor → Host × Conductor → Prop} (hR : Allows c.policy rel)
  (hc : c.Keeps rel)
include hR hc

/-- Closing the runs whose worker is gone keeps an allowed relation. -/
theorem keeps_recoverRuns (runs : List Run) : ∀ acc, Job.Keeps StoreKept rel (c.recoverRuns runs acc) :=
  keeps_recoverRuns_of hR.toWrites hc (fun _ _ _ _ => keeps_apply hR _) runs

theorem keeps_recover : Job.Keeps StoreKept rel c.recover :=
  Job.Keeps.bind hR.guarantee (Eng.keeps_store hR.toTidy) fun _ => keeps_recoverRuns hR hc _ _

end

end Crew

/-! ### Steps of the engine -/

theorem Registry.contains_of_get? {r : Registry} {s : StageName} {d : StageDescriptor}
    (h : r.get? s = some d) : r.contains d.name = true := by
  have hname : d.name = s := by simpa using List.find?_some h
  rw [hname]
  unfold Registry.contains
  rw [h]
  rfl

/-- The first stage of a policy built from settings is registered. -/
theorem EpicPolicy.ofSettings_initial {reg : Registry} {st : EngineSettings} {p : EpicPolicy}
    (hp : EpicPolicy.ofSettings reg st = .ok p) : p.registry.contains p.initialStage = true := by
  unfold EpicPolicy.ofSettings at hp
  split at hp
  · rename_i d hd
    cases hp
    unfold Registry.lookup at hd
    split at hd
    · exact Registry.contains_of_get? hd
    · cases hd
  · cases hp

/-- A conductor's job, run alone from a host, moves its store lawfully when the job keeps
lawful change: the clock is all that moves at its waits. -/
theorem HostLawful.solo {p : EpicPolicy} {α : Type} {j : Eng α}
    (hj : Job.Keeps StoreKept (HostLawful p) j) (t : Conductor) (h : Host) :
    Lawful p h.store (j t h).solo.1.store :=
  Flow.Ends.solo (hj.ends t h) fun _ _ => rfl

/-- One change of the store by the engine under the policy `p`: an operation of the policy, or a
conductor of the policy driving an epic or closing interrupted runs, run alone from any host
that holds the store, with a worker and a mailbox that leave the store alone. -/
inductive EngineStep (p : EpicPolicy) : Store → Store → Prop
  | create {s s' : Store} {id objective now : String} {e : Epic} :
      p.create s id objective now = .ok (s', e) → EngineStep p s s'
  | advance {s s' : Store} {id now : String} {d : Decision} {e : Epic} :
      p.advance s id d now = .ok (s', e) → EngineStep p s s'
  | block {s s' : Store} {id now : String} {r : Rationale} {e : Epic} :
      EpicPolicy.block s id r now = .ok (s', e) → EngineStep p s s'
  | resolve {s s' : Store} {id now : String} {o : Resolution} {e : Epic} :
      p.resolve s id o now = .ok (s', e) → EngineStep p s s'
  | overrideStage {s s' : Store} {id stage now : String} {e : Epic} :
      p.overrideStage s id stage now = .ok (s', e) → EngineStep p s s'
  | clearResume {s s' : Store} {id now : String} :
      EpicPolicy.clearResume s id now = .ok s' → EngineStep p s s'
  | recordRun {s s' : Store} {r : Run} : s.updateRun r = .ok s' → EngineStep p s s'
  | runEpic {c : Crew} {t : Conductor} {h : Host} {id : String} :
      c.policy = p → c.Keeps SameStore → EngineStep p h.store (c.runEpic id t h).solo.1.store
  | recover {c : Crew} {t : Conductor} {h : Host} :
      c.policy = p → c.Keeps SameStore → EngineStep p h.store (c.recover t h).solo.1.store

namespace EngineStep

variable {p : EpicPolicy} {s s' : Store}

/-- Every step of the engine moves the store lawfully, when the first stage is registered. -/
theorem lawful (hinit : p.registry.contains p.initialStage = true) (h : EngineStep p s s') :
    Lawful p s s' := by
  -- a started run is recorded lawfully, whatever the conductor
  have hins : ∀ x t r s, x.store.insertRun r = .ok s →
      HostLawful p (x, t) ({ x with store := s }, t) :=
    fun _ _ _ _ h => Lawful.insertRun h
  -- the session book is not the store
  have hses : ∀ x t b, HostLawful p (x, t) (x, { t with sessions := b }) :=
    fun x _ _ => Lawful.refl x.store
  have hlawful : ∀ a b, SameStore a b → HostLawful p a b := fun _ _ h => HostLawful.of_sameStore h
  cases h with
  | create h => exact Lawful.create hinit h
  | advance h => exact Lawful.advance h
  | block h => exact Lawful.block h
  | resolve h => exact Lawful.resolve h
  | overrideStage h => exact Lawful.overrideStage h
  | clearResume h => exact Lawful.clearResume h
  | recordRun h => exact Lawful.updateRun h
  | runEpic hp hc =>
    subst hp
    exact HostLawful.solo (Crew.keeps_runEpic (HostLawful.allows _) (HostLawful.blind _) hins hses (hc.mono hlawful) _) _ _
  | recover hp hc =>
    subst hp
    exact HostLawful.solo (Crew.keeps_recover (HostLawful.allows _) (hc.mono hlawful)) _ _

end EngineStep

/-- Any sequence of steps of the engine moves the store lawfully. -/
theorem lawful_of_steps {p : EpicPolicy} (hinit : p.registry.contains p.initialStage = true)
    {s s' : Store} (h : Relation.ReflTransGen (EngineStep p) s s') : Lawful p s s' := by
  induction h with
  | refl => exact Lawful.refl _
  | tail _ hstep ih => exact ih.trans (hstep.lawful hinit)

/-- The empty store keeps the rules: it has no epics. -/
theorem EpicsKept.empty (p : EpicPolicy) : EpicsKept p {} where
  blocked _ h := by cases h
  registered _ h := by cases h
  floor _ h := by cases h
  floorFits _ h := by cases h

/-- The rules of stored epics, for a policy built from settings. On every store the engine can
reach from the empty one, each epic has a blocked reason exactly when it is blocked, sits at a
registered stage, and has an attempt floor within its runs. Along every sequence of steps, a
finished epic keeps its status and an epic becomes completed only through a logged decision
whose target is `COMPLETED` or a terminal stage. And a finished epic refuses every move:
`advance`, `block`, `resolve` and `overrideStage` fail on it, so that its row is left as it
was. -/
theorem epic_rules (reg : Registry) (st : EngineSettings) (p : EpicPolicy)
    (hp : EpicPolicy.ofSettings reg st = .ok p) :
    (∀ s, Relation.ReflTransGen (EngineStep p) {} s → EpicsKept p s) ∧
    (∀ s s', Relation.ReflTransGen (EngineStep p) s s' → Evolves p s s') ∧
    (∀ (s : Store) id x, s.row? id = some x → x.status.isTerminal = true →
      (∀ d now res, p.advance s id d now ≠ .ok res) ∧
      (∀ r now res, EpicPolicy.block s id r now ≠ .ok res) ∧
      (∀ o now res, p.resolve s id o now ≠ .ok res) ∧
      (∀ stage now res, p.overrideStage s id stage now ≠ .ok res)) := by
  have hinit := EpicPolicy.ofSettings_initial hp
  refine ⟨fun s hs => (lawful_of_steps hinit hs).1 (EpicsKept.empty p),
    fun s s' hs => (lawful_of_steps hinit hs).2, ?_⟩
  intro s id x hx ht
  exact ⟨fun _ _ => EpicPolicy.advance_refused hx ht _, fun _ _ => EpicPolicy.block_refused hx ht _,
    fun _ _ => EpicPolicy.resolve_refused hx ht _, fun _ _ => EpicPolicy.overrideStage_refused hx ht _⟩

/-- An epic just created under the built-in stages keeps the rules. -/
theorem created_epic_keeps_rules :
    EpicPolicy.ofSettings Registry.builtin { workspaceRoot := "/work", inboxDir := "/inbox" } =
      .ok ⟨Registry.builtin, {}, "/work", ⟨"DESIGN"⟩, 3⟩ ∧
    EpicsKept ⟨Registry.builtin, {}, "/work", ⟨"DESIGN"⟩, 3⟩
      { epics := [Epic.fresh "/work" "epic-1" "Ship it" ⟨"DESIGN"⟩ "now"] } := by
  have hp : EpicPolicy.ofSettings Registry.builtin { workspaceRoot := "/work", inboxDir := "/inbox" } =
      .ok ⟨Registry.builtin, {}, "/work", ⟨"DESIGN"⟩, 3⟩ := rfl
  have hstep : EngineStep ⟨Registry.builtin, {}, "/work", ⟨"DESIGN"⟩, 3⟩ {}
      { epics := [Epic.fresh "/work" "epic-1" "Ship it" ⟨"DESIGN"⟩ "now"] } :=
    @EngineStep.create _ {} _ "epic-1" "Ship it" "now" _ rfl
  exact ⟨hp, (epic_rules _ _ _ hp).1 _ (Relation.ReflTransGen.single hstep)⟩

end EpicFlow
