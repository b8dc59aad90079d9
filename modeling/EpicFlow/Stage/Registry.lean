import EpicFlow.Stage.Descriptor
import EpicFlow.Error

/-!
# The stage registry

The registered stages, kept sorted by name. A registry is consistent when it
is not empty and every route that targets a stage targets a registered one.
Building a registry also refuses reserved names, zero turn budgets and a
name given twice; registering into an existing registry adds or replaces a
stage and keeps the old table when the new one would not be consistent.

Main statements:

* `register_error_unchanged`: a refused registration leaves nothing behind,
  since it returns an error and no table.
* `accepts_nonstage`: targets that are not stages are always accepted.
-/

set_option autoImplicit false

namespace EpicFlow

/-- Registered stages, sorted by name, one descriptor per name. -/
structure Registry where
  stages : List StageDescriptor
deriving Inhabited

namespace Registry

/-- Insert a descriptor at its place by name, replacing one of the same name. -/
def insertSorted (d : StageDescriptor) : List StageDescriptor → List StageDescriptor
  | [] => [d]
  | e :: rest =>
    if d.name.val == e.name.val then d :: rest
    else if d.name.val < e.name.val then d :: e :: rest
    else e :: insertSorted d rest

/-- The descriptor of a registered stage. -/
def get? (r : Registry) (s : StageName) : Option StageDescriptor :=
  r.stages.find? (·.name == s)

/-- The stage is registered. -/
def contains (r : Registry) (s : StageName) : Bool := (r.get? s).isSome

/-- Look a stage up by a name in any case. -/
def lookup (r : Registry) (name : String) : Option StageDescriptor :=
  match StageName.parse name with
  | .ok s => r.get? s
  | .error _ => none

/-- The target may be used by a decision: a stage must be registered. -/
def accepts (r : Registry) : Target → Bool
  | .stage s => r.contains s
  | _ => true

/-- Arriving at the stage completes the epic; unknown stages are not terminal. -/
def isTerminal (r : Registry) (s : StageName) : Bool :=
  ((r.get? s).map (·.terminal)).getD false

/-- The registered names, sorted. -/
def names (r : Registry) : List StageName := r.stages.map (·.name)

/-- The first route of a descriptor that leaves the table, if any. -/
def strayRoute (r : Registry) (d : StageDescriptor) : Option Route :=
  d.routes.find? fun rule => match rule.target with
    | .stage t => !r.contains t
    | _ => false

/-- Check that the table is not empty and routes only to registered stages. -/
def validate (r : Registry) : Except EngineError Unit :=
  if r.stages.isEmpty then .error (.config "Stage table is empty")
  else
    match r.stages.findSome? fun d => (r.strayRoute d).map fun rule => (d, rule) with
    | some (d, rule) =>
      .error (.config ("Stage '" ++ d.name.val ++ "' routes " ++ rule.signal.code ++
        " to unregistered stage '" ++ rule.target.name ++ "'"))
    | none => .ok ()

/-- Add descriptors in order, refusing reserved names, zero budgets and repeats. -/
def addAll : List StageDescriptor → List StageDescriptor → Except EngineError (List StageDescriptor)
  | acc, [] => .ok acc
  | acc, d :: rest =>
    if Target.reserved.contains d.name.val then
      .error (.config ("'" ++ d.name.val ++ "' is a reserved routing target and cannot be a stage"))
    else if d.turnBudget == 0 then
      .error (.config ("Stage '" ++ d.name.val ++ "' has a zero turn budget"))
    else if acc.any (·.name == d.name) then .error (.config "Duplicate stage registration")
    else addAll (insertSorted d acc) rest

/-- Build a consistent registry from descriptors. -/
def ofDescriptors (ds : List StageDescriptor) : Except EngineError Registry := do
  let stages ← addAll [] ds
  let r : Registry := ⟨stages⟩
  r.validate
  pure r

/-- The built-in registry. -/
def builtin : Registry := ⟨StageDescriptor.defaults.foldl (fun acc d => insertSorted d acc) []⟩

/-- Add or replace a stage; the table must still be consistent. -/
def register (r : Registry) (d : StageDescriptor) : Except EngineError Registry := do
  let r' : Registry := ⟨insertSorted d r.stages⟩
  r'.validate
  pure r'

theorem register_error_unchanged (r : Registry) (d : StageDescriptor) (e : EngineError)
    (h : (⟨insertSorted d r.stages⟩ : Registry).validate = .error e) :
    r.register d = .error e := by
  simp only [register, h]
  rfl

theorem accepts_nonstage (r : Registry) (t : Target) (h : ∀ s, t ≠ .stage s) :
    r.accepts t = true := by
  cases t with
  | stage s => exact absurd rfl (h s)
  | _ => rfl

end Registry

end EpicFlow
