import EpicFlow.Proofs.DecisionLog

/-!
# How a decision is judged and applied

Before a decision moves an epic, the budget may overrule it (`EpicPolicy.enforceBudget`), and
then `EpicPolicy.advance` logs it and moves the epic. This module pins both down for every
store and every decision.

Over budget, a decision is replaced by an operator's decision. The one exception is a safety
escalation: a decision for an operator whose rationale is a safety signal's. It keeps its
rationale and priority and gains the budget issue as its last blocking issue. Any other
decision becomes a critical `BudgetExceeded` escalation. Its issues are the budget issue,
then what the router wanted when that was not an operator, then the decision's own issues
(`BudgetOverride`). So no blocking issue is lost, and no route to a stage or an end survives
a breached ceiling.

`advance` refuses a decision before it writes anything. It refuses an unknown epic, a
finished epic, and a stage target outside the table. The store refuses a second decision for
one run, and a decision whose epic has no row. The decision log is the first write, and the
epic's row the second, which cannot fail once the log took the decision. So an `advance`
that fails wrote nothing. One that succeeds appended the decision and rewrote the epic's row
by the table of moves (`Epic.afterMove`), and left every other row, the runs and the
escalations alone. The row keeps its attempt floor because the floor of a stored row fits its
signed 64-bit column, as every row read back from the database does.

Main statements:

* `enforceBudget_overrides`: the budget lets a decision through within the ceilings and
  overrides it as `BudgetOverride` says beyond them.
* `advance_logs_then_moves`: `advance` fails on an unknown epic as not found. On a stored
  epic it fails exactly on the refusals above, and otherwise logs and moves as
  `EpicPolicy.Advances` says.
-/

set_option autoImplicit false

namespace EpicFlow

/-! ### The budget's override -/

/-- A decision that hands the epic to an operator for a safety signal. -/
def Decision.SafetyEscalation (d : Decision) : Prop := d.target = .human ∧ d.rationale.isSafety = true

/-- What the budget makes of a decision `d` once its epic is over a ceiling described by
`issue`. The result goes to an operator, for the same epic, run and stage. A safety
escalation keeps its rationale and priority and gains the issue last. Any other decision
becomes a critical `BudgetExceeded` escalation, whose issues are the budget issue, what the
router wanted when it was not an operator, and then the decision's own issues. -/
structure BudgetOverride (d : Decision) (issue : String) (d' : Decision) : Prop where
  human : d'.target = .human
  epicId : d'.epicId = d.epicId
  runId : d'.runId = d.runId
  source : d'.source = d.source
  safety : d.SafetyEscalation →
    d'.rationale = d.rationale ∧ d'.priority = d.priority ∧ d'.issues = d.issues ++ [issue]
  other : ¬ d.SafetyEscalation → d'.rationale = .budgetExceeded ∧ d'.priority = .critical ∧
    d'.issues = issue :: ((if d.target = .human then [] else ["router wanted " ++ d.target.name]) ++ d.issues)

namespace EpicPolicy

variable (p : EpicPolicy) (s : Store) (d : Decision) (now : String)

theorem enforceBudget_safety {issue : String} (h : p.budgetViolation (usage s d.epicId) = some issue)
    (hs : d.SafetyEscalation) : p.enforceBudget s d now = { d with issues := d.issues ++ [issue] } := by
  have hb : (d.target == .human && d.rationale.isSafety) = true := by simp [hs.1, hs.2]
  simp only [enforceBudget, h, hb, if_true]

theorem enforceBudget_override {issue : String} (h : p.budgetViolation (usage s d.epicId) = some issue)
    (hs : ¬ d.SafetyEscalation) :
    p.enforceBudget s d now = Decision.human d.epicId d.runId d.source .critical .budgetExceeded
      (issue :: ((if d.target = .human then [] else ["router wanted " ++ d.target.name]) ++ d.issues)) now := by
  have hb : (d.target == .human && d.rationale.isSafety) = false := by
    simpa [Decision.SafetyEscalation] using hs
  simp only [enforceBudget, h, hb, Bool.false_eq_true, if_false, beq_iff_eq, List.cons_append,
    List.nil_append]

/-- Over a ceiling, the budget overrides a decision as `BudgetOverride` says. -/
theorem budgetOverride_of_violation {issue : String}
    (h : p.budgetViolation (usage s d.epicId) = some issue) :
    BudgetOverride d issue (p.enforceBudget s d now) := by
  by_cases hs : d.SafetyEscalation
  · rw [enforceBudget_safety p s d now h hs]
    exact ⟨hs.1, rfl, rfl, rfl, fun _ => ⟨rfl, rfl, rfl⟩, fun hn => absurd hs hn⟩
  · rw [enforceBudget_override p s d now h hs]
    exact ⟨rfl, rfl, rfl, rfl, fun hy => absurd hy hs, fun _ => ⟨rfl, rfl, rfl⟩⟩

/-- The budget never drops a blocking issue: the decision's issues stay, in order. -/
theorem issues_sublist_enforceBudget : d.issues.Sublist (p.enforceBudget s d now).issues := by
  cases h : p.budgetViolation (usage s d.epicId) with
  | none => simp only [enforceBudget_within p s d now h, List.Sublist.refl]
  | some issue =>
    have ho := budgetOverride_of_violation p s d now h
    by_cases hs : d.SafetyEscalation
    · rw [(ho.safety hs).2.2]
      exact List.sublist_append_left _ _
    · rw [(ho.other hs).2.2]
      exact (List.sublist_append_right _ _).cons _

/-- The budget against a decision, for every store and every decision. Within the ceilings
(cost not above its ceiling, turns not above theirs, an unset ceiling no limit) the decision
passes unchanged. Beyond them it is overridden as `BudgetOverride` says. Either way every
blocking issue of the decision stays, in order. -/
theorem enforceBudget_overrides :
    (p.budgetViolation (usage s d.epicId) = none ↔ p.WithinBudget (usage s d.epicId)) ∧
      (p.budgetViolation (usage s d.epicId) = none → p.enforceBudget s d now = d) ∧
      (∀ issue, p.budgetViolation (usage s d.epicId) = some issue →
        BudgetOverride d issue (p.enforceBudget s d now)) ∧
      d.issues.Sublist (p.enforceBudget s d now).issues :=
  ⟨p.budgetViolation_eq_none_iff _, enforceBudget_within p s d now,
    fun _ h => budgetOverride_of_violation p s d now h, issues_sublist_enforceBudget p s d now⟩

end EpicPolicy

/-- A run of 4 turns against a turn ceiling of 0, and the router's breaking-change escalation
of that run: it stays an escalation for the breaking change, with the budget issue last. -/
theorem breaking_change_survives_budget :
    EpicPolicy.budgetViolation ⟨Registry.builtin, ⟨none, some 0⟩, "/work", ⟨"DESIGN"⟩, 3⟩
        (EpicPolicy.usage
          { epics := [Epic.fresh "/work" "epic-1" "x" ⟨"DESIGN"⟩ "now"]
            runs := [{ runId := "run-1", epicId := "epic-1", stage := ⟨"DESIGN"⟩, sessionId := "s_1",
                       iteration := 1, cardId := "card-1", status := .completed, turns := 4 }] }
          "epic-1") = some "cumulative turns 4 exceed ceiling 0" ∧
      BudgetOverride
        (Decision.human "epic-1" (some "run-1") ⟨"DESIGN"⟩ .critical .breakingChange
          ["DESIGN declared BREAKING_CHANGE"] "now")
        "cumulative turns 4 exceed ceiling 0"
        (EpicPolicy.enforceBudget ⟨Registry.builtin, ⟨none, some 0⟩, "/work", ⟨"DESIGN"⟩, 3⟩
          { epics := [Epic.fresh "/work" "epic-1" "x" ⟨"DESIGN"⟩ "now"]
            runs := [{ runId := "run-1", epicId := "epic-1", stage := ⟨"DESIGN"⟩, sessionId := "s_1",
                       iteration := 1, cardId := "card-1", status := .completed, turns := 4 }] }
          (Decision.human "epic-1" (some "run-1") ⟨"DESIGN"⟩ .critical .breakingChange
            ["DESIGN declared BREAKING_CHANGE"] "now")
          "later") := by
  have hv : EpicPolicy.budgetViolation ⟨Registry.builtin, ⟨none, some 0⟩, "/work", ⟨"DESIGN"⟩, 3⟩
      (EpicPolicy.usage
        { epics := [Epic.fresh "/work" "epic-1" "x" ⟨"DESIGN"⟩ "now"]
          runs := [{ runId := "run-1", epicId := "epic-1", stage := ⟨"DESIGN"⟩, sessionId := "s_1",
                     iteration := 1, cardId := "card-1", status := .completed, turns := 4 }] }
        "epic-1") = some "cumulative turns 4 exceed ceiling 0" := by
    decide
  exact ⟨hv, (EpicPolicy.enforceBudget_overrides _ _ _ _).2.2.1 _ hv⟩

/-! ### Logging a decision and moving its epic -/

namespace Store

/-- The store refuses to log a decision: the decision's run already has a logged decision, or
the decision's epic has no row. -/
def RefusesDecision (s : Store) (d : Decision) : Prop :=
  (∃ rid, d.runId = some rid ∧ ∃ d' ∈ s.decisions, d'.runId = some rid) ∨
    ∀ y ∈ s.epics, y.id ≠ d.epicId

/-- Logging a decision appends it, unless the store refuses it, as an invalid transition. -/
theorem insertDecision_cases (s : Store) (d : Decision) :
    (s.RefusesDecision d ∧ ∃ msg, s.insertDecision d = .error (.invalidTransition msg)) ∨
      (¬ s.RefusesDecision d ∧ s.insertDecision d = .ok { s with decisions := s.decisions ++ [d] }) := by
  unfold insertDecision RefusesDecision
  -- the store looks for an earlier decision of the run first, then for the epic's row
  cases hr : d.runId with
  | none =>
    dsimp only
    split
    · rename_i h
      exact Or.inl ⟨Or.inr (by simpa using h), _, rfl⟩
    · rename_i h
      exact Or.inr ⟨by simpa using h, rfl⟩
  | some rid =>
    dsimp only
    split
    · rename_i h
      refine Or.inl ⟨?_, _, rfl⟩
      simpa [Bool.or_eq_true] using h
    · rename_i h
      refine Or.inr ⟨?_, rfl⟩
      simpa [Bool.or_eq_true] using h

/-- Writing an epic that has a row succeeds. The row takes the written fields, with the floor
as its column keeps it; the other rows, the runs, the decisions and the escalations stay. -/
theorem updateEpic_of_row {s : Store} {e x : Epic} (hx : s.row? e.id = some x) :
    ∃ s', s.updateEpic e = .ok s' ∧ s'.decisions = s.decisions ∧ s'.runs = s.runs ∧
      s'.escalations = s.escalations ∧
      s'.row? e.id = some { x with stage := e.stage, status := e.status, resumeNext := e.resumeNext
                                   blockedReason := e.blockedReason
                                   attemptFloor := storedCount e.attemptFloor
                                   updatedAt := e.updatedAt } ∧
      ∀ id', id' ≠ e.id → s'.row? id' = s.row? id' := by
  have hxid : x.id = e.id := (row?_spec hx).2
  have hany : s.epics.any (·.id == e.id) = true :=
    List.any_eq_true.2 ⟨x, (row?_spec hx).1, by simp [hxid]⟩
  unfold updateEpic
  rw [if_pos hany]
  have hkeep : ∀ y : Epic, ((fun old : Epic => if (old.id == e.id) = true then
      { old with stage := e.stage, status := e.status, resumeNext := e.resumeNext
                 blockedReason := e.blockedReason, attemptFloor := storedCount e.attemptFloor
                 updatedAt := e.updatedAt } else old) y).id = y.id := by
    intro y
    dsimp only
    split <;> rfl
  refine ⟨_, rfl, rfl, rfl, rfl, ?_, fun id' hne => ?_⟩
  · rw [row?_of_map hkeep rfl, hx]
    simp [hxid]
  · rw [row?_of_map hkeep rfl]
    cases hy : s.row? id' with
    | none => rfl
    | some y =>
      -- the row of another id is left as it was
      have hyid : y.id = id' := (row?_spec hy).2
      simp [hyid, hne]

end Store

/-- The row of the epic `x` after a move to `t` for the reason `r`, by the table of moves. An
operator blocks the epic for the reason. The two ends finish it and clear the reason. A stage
becomes the current stage and clears the reason; the epic completes when the stage is terminal
and is active otherwise, and its resume flag is cleared when the stage changes. Nothing else
changes but the update time. -/
def Epic.afterMove (reg : Registry) (x : Epic) (t : Target) (r : Rationale) (now : String) : Epic :=
  match t with
  | .human => { x with status := .blocked, blockedReason := some r, updatedAt := now }
  | .completed => { x with status := .completed, blockedReason := none, updatedAt := now }
  | .failed => { x with status := .failed, blockedReason := none, updatedAt := now }
  | .stage st =>
    { x with stage := st, blockedReason := none
             status := if reg.isTerminal st then .completed else .active
             resumeNext := if st = x.stage then x.resumeNext else false, updatedAt := now }

namespace EpicPolicy

variable {p : EpicPolicy} {s : Store} {id : String} {d : Decision} {now : String} {x : Epic}

/-- A move is the table's move, whatever history the epic carries. -/
theorem moved_eq_afterMove (h : List String) :
    p.moved { x with history := h } d now =
      { x.afterMove p.registry d.target d.rationale now with history := h } := by
  unfold moved Epic.afterMove
  cases d.target with
  | human => rfl
  | completed => rfl
  | failed => rfl
  | stage st => simp

/-- The moved epic written over its row leaves the table's row, when the row's floor fits its
column. -/
theorem written_moved (h : List String) (hfloor : x.attemptFloor < Nat.pow 2 63) :
    { x with stage := (p.moved { x with history := h } d now).stage
             status := (p.moved { x with history := h } d now).status
             resumeNext := (p.moved { x with history := h } d now).resumeNext
             blockedReason := (p.moved { x with history := h } d now).blockedReason
             attemptFloor := Store.storedCount (p.moved { x with history := h } d now).attemptFloor
             updatedAt := (p.moved { x with history := h } d now).updatedAt } =
      x.afterMove p.registry d.target d.rationale now := by
  rw [moved_attemptFloor, Store.storedCount_of_lt hfloor, moved_eq_afterMove]
  unfold Epic.afterMove
  cases d.target <;> rfl

theorem get_of_row (hx : s.row? id = some x) : get s id = .ok { x with history := s.history id } := by
  simp [get, Store.epic?_eq, hx]

theorem get_of_no_row (h : s.row? id = none) : get s id = .error (.notFound ("epic " ++ id)) := by
  simp [get, Store.epic?_eq, h]

/-- Why `advance` refuses a decision for the stored epic `x`: the epic is finished, the target
is a stage outside the table, or the store refuses to log the decision. -/
def Refuses (p : EpicPolicy) (s : Store) (d : Decision) (x : Epic) : Prop :=
  x.status = .completed ∨ x.status = .failed ∨
    (∃ st, d.target = .stage st ∧ p.registry.contains st = false) ∨ s.RefusesDecision d

theorem isTerminal_eq_true_iff (st : EpicStatus) :
    st.isTerminal = true ↔ st = .completed ∨ st = .failed := by
  cases st <;> simp [EpicStatus.isTerminal]

theorem accepts_eq_false_iff (reg : Registry) (t : Target) :
    reg.accepts t = false ↔ ∃ st, t = .stage st ∧ reg.contains st = false := by
  cases t <;> simp [Registry.accepts]

/-- `advance` on a stored epic whose floor fits its column: it refuses the decision as an
invalid transition, or it logs the decision and writes the table's row, and only that. -/
theorem advance_of_row (hx : s.row? id = some x) (hfloor : x.attemptFloor < Nat.pow 2 63) :
    (p.Refuses s d x ∧ ∃ msg, p.advance s id d now = .error (.invalidTransition msg)) ∨
      (¬ p.Refuses s d x ∧ ∃ s', p.advance s id d now =
          .ok (s', { x.afterMove p.registry d.target d.rationale now with history := s.history id }) ∧
        s'.decisions = s.decisions ++ [d] ∧ s'.runs = s.runs ∧ s'.escalations = s.escalations ∧
        s'.row? id = some (x.afterMove p.registry d.target d.rationale now) ∧
        ∀ id', id' ≠ id → s'.row? id' = s.row? id') := by
  have hxid : x.id = id := (Store.row?_spec hx).2
  unfold advance
  rw [get_of_row hx]
  by_cases ht : x.status.isTerminal = true
  · -- a finished epic is refused first
    have hcheck : checkOpen { x with history := s.history id } =
        .error (.invalidTransition ("epic " ++ x.id ++ " is already " ++ x.status.name)) := by
      simp [checkOpen, ht]
    refine Or.inl ⟨Or.elim ((isTerminal_eq_true_iff _).1 ht) Or.inl (fun h => Or.inr (Or.inl h)),
      "epic " ++ x.id ++ " is already " ++ x.status.name, ?_⟩
    simp only [bind, Except.bind, hcheck]
  have hopen : checkOpen { x with history := s.history id } = .ok () := by
    simp [checkOpen, ht]
  have hnt : ¬ (x.status = .completed ∨ x.status = .failed) := fun h => ht ((isTerminal_eq_true_iff _).2 h)
  by_cases hacc : p.registry.accepts d.target = true
  · rcases Store.insertDecision_cases s d with ⟨hr, msg, hins⟩ | ⟨hr, hins⟩
    · -- the store refuses the decision before anything is written
      refine Or.inl ⟨Or.inr (Or.inr (Or.inr hr)), msg, ?_⟩
      simp only [bind, Except.bind, hopen, hacc, Bool.not_true, Bool.false_eq_true, if_false, hins]
    · -- the decision is logged; the epic's row is there, so the move is written
      have hrow₁ : ({ s with decisions := s.decisions ++ [d] } : Store).row?
          (p.moved { x with history := s.history id } d now).id = some x := by
        rw [moved_id]
        exact hxid ▸ hx
      obtain ⟨s', hup, hdec, hruns, hesc, hrow', hother⟩ := Store.updateEpic_of_row hrow₁
      have hid : (p.moved { x with history := s.history id } d now).id = id := by
        rw [moved_id]
        exact hxid
      refine Or.inr ⟨?_, s', ?_, hdec, hruns, hesc, ?_, fun id' hne => ?_⟩
      · rintro (h | h | ⟨st, hst, hc⟩ | h)
        · exact hnt (Or.inl h)
        · exact hnt (Or.inr h)
        · rw [hst] at hacc
          simp [Registry.accepts, hc] at hacc
        · exact hr h
      · simp only [bind, Except.bind, hopen, hacc, Bool.not_true, Bool.false_eq_true, if_false, hins,
          hup, pure, Except.pure]
        rw [moved_eq_afterMove]
      · rw [← hid, hrow', written_moved _ hfloor]
      · rw [hother id' (by rw [hid]; exact hne)]
        rfl
  · -- a stage outside the table is refused before anything is written
    have hacc' : p.registry.accepts d.target = false := by simpa using hacc
    refine Or.inl ⟨Or.inr (Or.inr (Or.inl ((accepts_eq_false_iff _ _).1 hacc'))),
      "target '" ++ d.target.name ++ "' is not a registered stage", ?_⟩
    simp only [bind, Except.bind, hopen, hacc', Bool.not_false, if_true]
    rfl

/-- What `advance` does with the decision `d` for the stored epic `x` of id `id`. It fails
exactly when it refuses the decision (`Refuses`), and then as an invalid transition. When it
succeeds, the decision log has gained `d` at its end, the epic's row is the table's row, and the
answer is that row with the epic's history; the other rows, the runs and the escalations are
as they were. -/
structure Advances (p : EpicPolicy) (s : Store) (id : String) (d : Decision) (now : String)
    (x : Epic) : Prop where
  refused : (∃ err, p.advance s id d now = .error err) ↔ p.Refuses s d x
  invalid : ∀ err, p.advance s id d now = .error err → ∃ msg, err = .invalidTransition msg
  logged : ∀ s' e', p.advance s id d now = .ok (s', e') →
    s'.decisions = s.decisions ++ [d] ∧ s'.runs = s.runs ∧ s'.escalations = s.escalations ∧
      s'.row? id = some (x.afterMove p.registry d.target d.rationale now) ∧
      (∀ id', id' ≠ id → s'.row? id' = s.row? id') ∧
      e' = { x.afterMove p.registry d.target d.rationale now with history := s.history id }

theorem advances_of_row (hx : s.row? id = some x) (hfloor : x.attemptFloor < Nat.pow 2 63) :
    p.Advances s id d now x := by
  rcases advance_of_row hx hfloor with ⟨hr, msg, herr⟩ | ⟨hr, s', hok, hdec, hruns, hesc, hrow, hother⟩
  · -- refused: the only outcome is the invalid transition
    refine ⟨⟨fun _ => hr, fun _ => ⟨_, herr⟩⟩, fun err h => ?_, fun s'' e' h => ?_⟩
    · rw [herr] at h
      cases h
      exact ⟨msg, rfl⟩
    · rw [herr] at h
      cases h
  · -- accepted: the only outcome is the logged move
    refine ⟨⟨fun ⟨err, h⟩ => ?_, fun h => absurd h hr⟩, fun err h => ?_, fun s'' e' h => ?_⟩
    · rw [hok] at h
      cases h
    · rw [hok] at h
      cases h
    · rw [hok] at h
      cases h
      exact ⟨hdec, hruns, hesc, hrow, hother, rfl⟩

/-- `advance` for every store and every decision. An unknown epic is not found. For a stored
epic, whose floor fits its column as every row read back from the database does, `advance`
does what `Advances` says. It fails exactly on a finished epic, a stage outside the table, a
run that already has a decision or a decision whose epic has no row; it then fails as an
invalid transition and returns no store. Otherwise it appends the decision to the log and
moves the epic's row by the table of moves, and leaves the rest of the store as it was. -/
theorem advance_logs_then_moves (p : EpicPolicy) (s : Store) (id : String) (d : Decision)
    (now : String) :
    (s.row? id = none → p.advance s id d now = .error (.notFound ("epic " ++ id))) ∧
      ∀ x, s.row? id = some x → x.attemptFloor < Nat.pow 2 63 → p.Advances s id d now x := by
  refine ⟨fun h => ?_, fun x hx hfloor => advances_of_row hx hfloor⟩
  simp only [advance, get_of_no_row h, bind, Except.bind]

/-- A fresh epic at DESIGN and a routed decision of its first run to BUILD. -/
theorem fresh_epic_advances :
    ({ epics := [Epic.fresh "/work" "epic-1" "Ship it" ⟨"DESIGN"⟩ "now"] } : Store).row? "epic-1" =
        some (Epic.fresh "/work" "epic-1" "Ship it" ⟨"DESIGN"⟩ "now") ∧
      (Epic.fresh "/work" "epic-1" "Ship it" ⟨"DESIGN"⟩ "now").attemptFloor < Nat.pow 2 63 ∧
      Advances ⟨Registry.builtin, {}, "/work", ⟨"DESIGN"⟩, 3⟩
        { epics := [Epic.fresh "/work" "epic-1" "Ship it" ⟨"DESIGN"⟩ "now"] } "epic-1"
        ⟨"epic-1", some "run-1", ⟨"DESIGN"⟩, .stage ⟨"BUILD"⟩, .normal, .routed, [], "later"⟩ "later"
        (Epic.fresh "/work" "epic-1" "Ship it" ⟨"DESIGN"⟩ "now") := by
  have hrow : ({ epics := [Epic.fresh "/work" "epic-1" "Ship it" ⟨"DESIGN"⟩ "now"] } : Store).row?
      "epic-1" = some (Epic.fresh "/work" "epic-1" "Ship it" ⟨"DESIGN"⟩ "now") := by
    simp [Store.row?, Epic.fresh]
  have hfloor : (Epic.fresh "/work" "epic-1" "Ship it" ⟨"DESIGN"⟩ "now").attemptFloor < Nat.pow 2 63 := by
    decide
  exact ⟨hrow, hfloor, (advance_logs_then_moves _ _ _ _ _).2 _ hrow hfloor⟩

end EpicPolicy

end EpicFlow
