import EpicFlow.Route

/-!
# The router's rules, as a reference

The router reads a finished run in four layers: the run's status, a fixed list of safety
signals, the registration of the run's stage, and that stage's route table in declaration
order. `Verdict.expected` writes these layers down as a reference of their own. It reads the
emitted signals through a membership test only. `routeRun_verdict` proves that the router's
target, priority and rationale agree with it for every registry and every run. The registry
may be any table: one that routes a safety signal to a stage, or routes to stages it does
not hold.

Two facts follow from the shape of the reference. Every target it gives is accepted by the
registry (`Verdict.expected_accepted`): an operator is always accepted, and a stage only
after the acceptance check of the table layer. And the verdict depends on the set of emitted
signals only, not on their order or on repeats.

Main statements:

* `routeRun_verdict`: the router's verdict is the reference's.
* `Verdict.expected_accepted`: the reference only gives targets its registry accepts.
* `routeRun_follows_rules`: the two together, and the verdict as a function of the emitted set.
-/

set_option autoImplicit false

namespace EpicFlow

/-- What a routing decision settles: where the epic goes, how urgently, and why. -/
structure Verdict where
  target : Target
  priority : Priority
  rationale : Rationale
deriving DecidableEq

/-- The verdict a decision carries. -/
def Decision.verdict (d : Decision) : Verdict := ⟨d.target, d.priority, d.rationale⟩

namespace Verdict

/-- The epic goes to an operator. -/
def human (priority : Priority) (rationale : Rationale) : Verdict := ⟨.human, priority, rationale⟩

/-- The table layer, for a completed run that emitted no safety signal. An unregistered stage
goes to an operator. Otherwise the first route in declaration order whose signal was emitted
decides, when the registry accepts its target. -/
def ofTable (reg : Registry) (stage : StageName) (emitted : Signal → Bool) : Verdict :=
  match reg.get? stage with
  | none => human .high .invalidTransition
  | some d =>
    match d.routes.find? (fun r => emitted r.signal) with
    | none => human .high .signalMissing
    | some r => if reg.accepts r.target then ⟨r.target, .normal, .routed⟩
      else human .high .invalidTransition

/-- The routing rules, in their order. A run that did not complete goes to an operator with
its stop reason. A safety signal goes to an operator at critical priority, named by the first
of `BREAKING_CHANGE`, `SECURITY_RISK`, `SCOPE_VIOLATION` emitted. Otherwise the table decides. -/
def expected (reg : Registry) (status : RunStatus) (stopReason : Option Rationale)
    (stage : StageName) (emitted : Signal → Bool) : Verdict :=
  if status ≠ .completed then
    human .high (if status = .stuck then .stuck else stopReason.getD .workerFailed)
  else if emitted .breakingChange then human .critical .breakingChange
  else if emitted .securityRisk then human .critical .securityRisk
  else if emitted .scopeViolation then human .critical .scopeViolation
  else ofTable reg stage emitted

theorem ofTable_accepted (reg : Registry) (stage : StageName) (emitted : Signal → Bool) :
    reg.accepts (ofTable reg stage emitted).target = true := by
  unfold ofTable
  split
  · rfl
  · split
    · rfl
    · -- a route's target stands only once the registry has accepted it
      split
      · assumption
      · rfl

/-- The reference only gives targets that its registry accepts. -/
theorem expected_accepted (reg : Registry) (status : RunStatus) (stopReason : Option Rationale)
    (stage : StageName) (emitted : Signal → Bool) :
    reg.accepts (expected reg status stopReason stage emitted).target = true := by
  unfold expected
  -- every layer before the table hands the epic to an operator
  split
  · rfl
  split
  · rfl
  split
  · rfl
  split
  · rfl
  exact ofTable_accepted reg stage emitted

end Verdict

/-- The router's test for a signal is membership in the run's signals. -/
theorem Run.hasSignal_eq (run : Run) : run.hasSignal = fun s => decide (s ∈ run.signals) := by
  funext s
  simp [Run.hasSignal]

/-- The first safety signal that passes a test, in the router's order. -/
theorem Signal.find?_safetyOrder (p : Signal → Bool) :
    Signal.safetyOrder.find? p =
      if p .breakingChange then some .breakingChange
      else if p .securityRisk then some .securityRisk
      else if p .scopeViolation then some .scopeViolation else none := by
  simp only [Signal.safetyOrder, List.find?]
  cases p .breakingChange <;> cases p .securityRisk <;> cases p .scopeViolation <;> rfl

theorem routeByTable_verdict (reg : Registry) (epicId : String) (run : Run) (now : String) :
    (routeByTable reg epicId run now).verdict = Verdict.ofTable reg run.stage run.hasSignal := by
  unfold routeByTable Verdict.ofTable
  dsimp only
  cases reg.get? run.stage with
  | none => rfl
  | some d =>
    dsimp only
    cases (d.routes.find? fun rule => run.hasSignal rule.signal) with
    | none => rfl
    | some rule =>
      dsimp only
      split <;> rfl

/-- The router's verdict is the reference's, for every registry and every run. -/
theorem routeRun_verdict (reg : Registry) (epicId : String) (run : Run) (now : String) :
    (routeRun reg epicId run now).verdict =
      Verdict.expected reg run.status run.stopReason run.stage (fun s => decide (s ∈ run.signals)) := by
  rw [← Run.hasSignal_eq]
  unfold routeRun Verdict.expected
  dsimp only
  by_cases hc : run.status = .completed
  · rw [Signal.find?_safetyOrder]
    simp only [hc, bne_self_eq_false, Bool.false_eq_true, if_false, ne_eq, not_true_eq_false]
    -- the safety signals are looked for in their fixed order, before the table
    cases run.hasSignal .breakingChange
    · cases run.hasSignal .securityRisk
      · cases run.hasSignal .scopeViolation
        · exact routeByTable_verdict reg epicId run now
        · rfl
      · rfl
    · rfl
  · have hne : (run.status != .completed) = true := by simpa using hc
    simp only [hne, if_true, hc, ne_eq, not_false_eq_true]
    by_cases hs : run.status = .stuck <;> simp [hs, Decision.verdict, Decision.human, Verdict.human]

/-- The router follows its rules, for every registry and every run. Its verdict is the
reference's, read from the run's status, stop reason and stage and from the set of signals
it emitted. Its target is one the registry accepts. A run that agrees on status, stop reason
and stage and emitted the same set of signals, in any order and with any repeats, gets the
same verdict. -/
theorem routeRun_follows_rules (reg : Registry) (epicId : String) (run : Run) (now : String) :
    (routeRun reg epicId run now).verdict =
        Verdict.expected reg run.status run.stopReason run.stage (fun s => decide (s ∈ run.signals)) ∧
      reg.accepts (routeRun reg epicId run now).target = true ∧
      ∀ (run' : Run) (now' : String), run'.status = run.status → run'.stopReason = run.stopReason →
        run'.stage = run.stage → (∀ s, s ∈ run'.signals ↔ s ∈ run.signals) →
        (routeRun reg epicId run' now').verdict = (routeRun reg epicId run now).verdict := by
  have hverdict := routeRun_verdict reg epicId run now
  refine ⟨hverdict, ?_, ?_⟩
  · -- the target is the verdict's
    have h := Verdict.expected_accepted reg run.status run.stopReason run.stage
      (fun s => decide (s ∈ run.signals))
    rw [← hverdict] at h
    exact h
  · intro run' now' hst hstop hstage hsig
    have hemit : (fun s => decide (s ∈ run'.signals)) = (fun s => decide (s ∈ run.signals)) := by
      funext s
      exact decide_eq_decide.2 (hsig s)
    rw [routeRun_verdict, hverdict, hst, hstop, hstage, hemit]

/-- A design run that declared a security risk, in two orders and with a repeat: both go to an
operator alike. -/
theorem reordered_signals_route_alike :
    (∀ s, s ∈ [Signal.securityRisk, .designComplete, .securityRisk] ↔
      s ∈ [Signal.designComplete, .securityRisk]) ∧
    (routeRun Registry.builtin "epic-1"
        { runId := "run-2", epicId := "epic-1", stage := ⟨"DESIGN"⟩, sessionId := "epic-1_DESIGN_2",
          iteration := 2, cardId := "card-2", status := .completed,
          signals := [.securityRisk, .designComplete, .securityRisk] } "later").verdict =
      (routeRun Registry.builtin "epic-1"
        { runId := "run-1", epicId := "epic-1", stage := ⟨"DESIGN"⟩, sessionId := "epic-1_DESIGN_1",
          iteration := 1, cardId := "card-1", status := .completed,
          signals := [.designComplete, .securityRisk] } "now").verdict := by
  have hsig : ∀ s, s ∈ [Signal.securityRisk, .designComplete, .securityRisk] ↔
      s ∈ [Signal.designComplete, .securityRisk] := by
    intro s
    simp only [List.mem_cons, List.not_mem_nil, or_false]
    constructor
    · rintro (h | h | h) <;> simp [h]
    · rintro (h | h) <;> simp [h]
  exact ⟨hsig, (routeRun_follows_rules _ _ _ _).2.2 _ _ rfl rfl rfl hsig⟩

end EpicFlow
