import Mathlib.Tactic.SplitIfs
import EpicFlow.Stage.Registry

/-!
# The stage table stays consistent

A registry is built from descriptors (`Registry.ofDescriptors`) or is the built-in table, and
stages are then added or replaced one at a time (`Registry.register`). Building refuses a
reserved target name, a zero turn budget and a name given twice, and then checks the table
(`Registry.validate`); registering checks the table only. The check accepts exactly the
consistent tables (`validate_eq_ok`): tables that are not empty and whose every route that
names a stage names a registered one.

Every table a registry goes through is consistent (`Reach.consistent`). A registration that
the check refuses returns the error and no table, so the registry stays as it was, whether the
descriptor would have added a stage or replaced one (`after_of_error`). One that passes puts
the descriptor in place of the stage of its name, or adds it, and keeps every other stage
(`get?_insertSorted`).

The rules that only building checks are not kept by registration. Every stage of a built table
has an admissible descriptor (a name that is no reserved target, and a positive turn budget),
and so does every table reached by registering admissible descriptors
(`Reach.admissible`). The built-in table also takes a stage named `HUMAN`, whose name reads
back as the operator target, and a stage with a zero turn budget
(`builtin_takes_inadmissible`).

Main statements:

* `Registry.validate_eq_ok`: the check accepts exactly the consistent tables.
* `Registry.register_eq_ok`: a registration passes exactly when the new table is consistent.
* `Registry.registry_rules`: every table reached by admissible registrations is consistent
  and has admissible stages; a refused registration leaves the table as it was; a passing one
  adds or replaces the stage of its name only.
* `Registry.builtin_takes_inadmissible`: registration takes a reserved name and a zero budget.
-/

set_option autoImplicit false

namespace EpicFlow

namespace Registry

/-- Every route of the table that names a stage names a registered one. -/
def RoutesInside (r : Registry) : Prop :=
  ∀ d ∈ r.stages, ∀ rule ∈ d.routes, ∀ t, rule.target = .stage t → r.contains t = true

/-- A table the engine can route in: it is not empty, and its routes stay inside it. -/
def Consistent (r : Registry) : Prop := r.stages ≠ [] ∧ r.RoutesInside

/-- A descriptor that building a table accepts: its name is no reserved target, and its turn
budget is positive. -/
def Admissible (d : StageDescriptor) : Prop := d.name.val ∉ Target.reserved ∧ 0 < d.turnBudget

/-- The registry after a registration: the new table, or the old one when it is refused. -/
def after (r : Registry) (d : StageDescriptor) : Registry :=
  match r.register d with
  | .ok r' => r'
  | .error _ => r

/-- The tables a registry goes through: a built table or the built-in one, then registrations
of descriptors that `allowed` admits, one after another. -/
inductive Reach (allowed : StageDescriptor → Prop) : Registry → Prop
  | built {ds : List StageDescriptor} {r : Registry} : ofDescriptors ds = .ok r → Reach allowed r
  | builtin : Reach allowed builtin
  | register {r : Registry} (d : StageDescriptor) : allowed d → Reach allowed r →
      Reach allowed (r.after d)

/-! ### The check -/

/-- A descriptor has no stray route exactly when its routes name registered stages only. -/
theorem strayRoute_eq_none {r : Registry} {d : StageDescriptor} :
    r.strayRoute d = none ↔
      ∀ rule ∈ d.routes, ∀ t, rule.target = .stage t → r.contains t = true := by
  unfold strayRoute
  rw [List.find?_eq_none]
  refine forall₂_congr fun rule _ => ?_
  cases rule.target <;> simp

theorem validate_eq_ok {r : Registry} : r.validate = .ok () ↔ r.Consistent := by
  unfold validate Consistent RoutesInside
  by_cases hemp : r.stages = []
  · simp [hemp]
  · have hne : r.stages.isEmpty = false := List.isEmpty_eq_false_iff.2 hemp
    rw [if_neg (by simp [hne])]
    cases hfind : r.stages.findSome? fun d => (r.strayRoute d).map fun rule => (d, rule) with
    | some found =>
      -- a stray route of some stage is a route out of the table
      obtain ⟨d, hd, hstray⟩ := List.exists_of_findSome?_eq_some hfind
      obtain ⟨rule, hrule, -⟩ := Option.map_eq_some_iff.1 hstray
      have hout : ¬ ∀ rule ∈ d.routes, ∀ t, rule.target = .stage t → r.contains t = true :=
        fun h => by rw [strayRoute_eq_none.2 h] at hrule; cases hrule
      simp only [reduceCtorEq, false_iff, not_and]
      exact fun _ hall => hout (hall d hd)
    | none =>
      rw [List.findSome?_eq_none_iff] at hfind
      simp only [true_iff]
      refine ⟨hemp, fun d hd => strayRoute_eq_none.1 ?_⟩
      simpa using hfind d hd

/-- A registration passes exactly when the table with the descriptor in place is consistent,
and then that table is the new one. -/
theorem register_eq_ok {r r' : Registry} {d : StageDescriptor} :
    r.register d = .ok r' ↔ r' = ⟨insertSorted d r.stages⟩ ∧ r'.Consistent := by
  unfold register
  cases hv : (⟨insertSorted d r.stages⟩ : Registry).validate with
  | error e =>
    simp only [bind, Except.bind, hv, reduceCtorEq, false_iff, not_and]
    rintro rfl hc
    rw [validate_eq_ok.2 hc] at hv
    cases hv
  | ok u =>
    have hc := validate_eq_ok.1 hv
    simp only [bind, Except.bind, hv, pure, Except.pure, Except.ok.injEq]
    exact ⟨fun h => ⟨h.symm, h ▸ hc⟩, fun h => h.1.symm⟩

/-- A refused registration leaves the registry as it was. -/
theorem after_of_error {r : Registry} {d : StageDescriptor} {e : EngineError}
    (h : r.register d = .error e) : r.after d = r := by
  simp [after, h]

/-! ### Putting a descriptor in place -/

theorem mem_insertSorted {d e : StageDescriptor} {xs : List StageDescriptor}
    (h : e ∈ insertSorted d xs) : e = d ∨ e ∈ xs := by
  induction xs with
  | nil => simpa [insertSorted] using h
  | cons x rest ih =>
    unfold insertSorted at h
    split at h
    · -- the stage of the same name is replaced
      rcases List.mem_cons.1 h with h | h
      · exact .inl h
      · exact .inr (List.mem_cons_of_mem _ h)
    · split at h
      · rcases List.mem_cons.1 h with h | h
        · exact .inl h
        · exact .inr h
      · rcases List.mem_cons.1 h with h | h
        · exact .inr (h ▸ List.mem_cons_self)
        · exact (ih h).imp_right (List.mem_cons_of_mem _)

theorem stageName_eq_of_val {a b : StageName} (h : a.val = b.val) : a = b := by
  cases a
  cases b
  cases h
  rfl

/-- After a registration the stage of the descriptor's name is the descriptor, and every other
stage is found as before: the descriptor replaced the stage of its name, or was added. -/
theorem get?_insertSorted (d : StageDescriptor) (xs : List StageDescriptor) (s : StageName) :
    (⟨insertSorted d xs⟩ : Registry).get? s =
      if d.name = s then some d else (⟨xs⟩ : Registry).get? s := by
  unfold get?
  dsimp only
  induction xs with
  | nil => by_cases hs : d.name = s <;> simp [insertSorted, hs]
  | cons e rest ih =>
    unfold insertSorted
    by_cases heq : (d.name.val == e.name.val) = true
    · -- replaced: the old stage had the same name
      have hname : e.name = d.name := (stageName_eq_of_val (by simpa using heq)).symm
      rw [if_pos heq]
      by_cases hs : d.name = s <;> simp [hs, hname]
    · have hne : e.name ≠ d.name := fun h => heq (by simp [h])
      rw [if_neg heq]
      by_cases hlt : d.name.val < e.name.val
      · rw [if_pos hlt]
        by_cases hs : d.name = s <;> simp [List.find?_cons, hs]
      · -- passed over: the old stage keeps its place before the new one
        rw [if_neg hlt, List.find?_cons, ih]
        by_cases hs : e.name = s
        · have hds : d.name ≠ s := fun h => hne (hs.trans h.symm)
          simp [hs, hds]
        · have hbeq : (e.name == s) = false := beq_false_of_ne hs
          by_cases hds : d.name = s <;> simp [hbeq, hds]

/-! ### Built tables -/

theorem addAll_admissible {acc ds xs : List StageDescriptor} (h : addAll acc ds = .ok xs)
    (hacc : ∀ e ∈ acc, Admissible e) : ∀ e ∈ xs, Admissible e := by
  induction ds generalizing acc with
  | nil =>
    cases h
    exact hacc
  | cons d rest ih =>
    unfold addAll at h
    split_ifs at h with hres hzero hdup
    -- the descriptor passed the checks of building, so it is admissible
    have hd : Admissible d := ⟨fun hm => hres (List.contains_iff_mem.2 hm),
      Nat.pos_of_ne_zero fun h0 => hzero (by simp [h0])⟩
    refine ih h fun e he => ?_
    rcases mem_insertSorted he with rfl | he
    · exact hd
    · exact hacc e he

theorem ofDescriptors_eq_ok {ds : List StageDescriptor} {r : Registry}
    (h : ofDescriptors ds = .ok r) : r.Consistent ∧ ∀ e ∈ r.stages, Admissible e := by
  unfold ofDescriptors at h
  cases hadd : addAll [] ds with
  | error e => simp [hadd, bind, Except.bind] at h
  | ok xs =>
    cases hv : (⟨xs⟩ : Registry).validate with
    | error e => simp [hadd, hv, bind, Except.bind] at h
    | ok u =>
      simp only [hadd, hv, bind, Except.bind, pure, Except.pure, Except.ok.injEq] at h
      subst h
      exact ⟨validate_eq_ok.1 hv, addAll_admissible hadd nofun⟩

theorem builtin_consistent : builtin.Consistent := validate_eq_ok.1 rfl

theorem builtin_admissible : ∀ e ∈ builtin.stages, Admissible e := by
  unfold Admissible
  decide

/-! ### Every table a registry goes through -/

theorem Reach.consistent {allowed : StageDescriptor → Prop} {r : Registry}
    (h : Reach allowed r) : r.Consistent := by
  induction h with
  | built h => exact (ofDescriptors_eq_ok h).1
  | builtin => exact builtin_consistent
  | register d _ _ ih =>
    rename_i r _ _
    cases hreg : r.register d with
    | ok r' =>
      simp only [after, hreg]
      exact (register_eq_ok.1 hreg).2
    | error e => rwa [after_of_error hreg]

theorem Reach.admissible {r : Registry} (h : Reach Admissible r) : ∀ e ∈ r.stages, Admissible e := by
  induction h with
  | built h => exact (ofDescriptors_eq_ok h).2
  | builtin => exact builtin_admissible
  | register d hd _ ih =>
    rename_i r _
    cases hreg : r.register d with
    | ok r' =>
      simp only [after, hreg]
      rw [(register_eq_ok.1 hreg).1]
      intro e he
      rcases mem_insertSorted he with rfl | he
      · exact hd
      · exact ih e he
    | error e => rwa [after_of_error hreg]

/-- The stage table under registrations of admissible descriptors. Every table a registry goes
through, built or built-in and then registered into, is not empty, routes inside itself and
has admissible stages only. A registration is refused exactly when the table with the
descriptor in place would not be consistent, and a refused one leaves the registry as it was;
one that passes puts the descriptor at its name and keeps every other stage. -/
theorem registry_rules {r : Registry} (hr : Reach Admissible r) (d : StageDescriptor) :
    r.Consistent ∧ (∀ e ∈ r.stages, Admissible e) ∧
    ((∃ e, r.register d = .error e) ↔ ¬ (⟨insertSorted d r.stages⟩ : Registry).Consistent) ∧
    (∀ e, r.register d = .error e → r.after d = r) ∧
    (∀ r', r.register d = .ok r' → ∀ s, r'.get? s = if d.name = s then some d else r.get? s) := by
  refine ⟨hr.consistent, hr.admissible, ?_, fun _ h => after_of_error h, fun r' h s => ?_⟩
  · constructor
    · rintro ⟨e, he⟩ hc
      have := register_eq_ok.2 ⟨rfl, hc⟩
      rw [he] at this
      cases this
    · intro hc
      cases hreg : r.register d with
      | ok r' =>
        obtain ⟨rfl, hc'⟩ := register_eq_ok.1 hreg
        exact absurd hc' hc
      | error e => exact ⟨e, rfl⟩
  · rw [(register_eq_ok.1 h).1]
    exact get?_insertSorted d r.stages s

/-- Registering a documentation stage into the built-in table: the table is consistent, every
stage stays admissible, and the new stage is found at its name. -/
theorem docs_stage_registers :
    let r := builtin.after { name := ⟨"DOCS"⟩, routes := [⟨.polishComplete, .stage ⟨"VALIDATE"⟩⟩] }
    Reach Admissible r ∧ r.Consistent ∧ ∀ e ∈ r.stages, Admissible e := by
  intro r
  have hreach : Reach Admissible r := .register _ (by unfold Admissible; decide) .builtin
  have hrules := registry_rules hreach { name := ⟨"TEST"⟩ }
  exact ⟨hreach, hrules.1, hrules.2.1⟩

/-- Registration does not check what building does: the built-in table takes a stage named
`HUMAN`, a name that reads back as the operator target, and a stage with a zero turn budget. -/
theorem builtin_takes_inadmissible :
    Reach (fun _ => True) (builtin.after { name := ⟨"HUMAN"⟩ }) ∧
    (builtin.after { name := ⟨"HUMAN"⟩ }).get? ⟨"HUMAN"⟩ = some { name := ⟨"HUMAN"⟩ } ∧
    Target.parse "HUMAN" = .ok .human ∧
    (builtin.after { name := ⟨"DOCS"⟩, turnBudget := 0 }).get? ⟨"DOCS"⟩ =
      some { name := ⟨"DOCS"⟩, turnBudget := 0 } :=
  ⟨.register _ trivial .builtin, by decide, rfl, by decide⟩

end Registry

end EpicFlow
