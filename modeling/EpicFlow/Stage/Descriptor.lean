import EpicFlow.Stage.Target
import EpicFlow.Run.Signal
import EpicFlow.Json.Shape

/-!
# Stage descriptors

A stage is registered by a descriptor: its name, the agent that runs it, the
turn budget of one run, a one-line brief for the prompt, the default
requirements of its task card, an ordered route table keyed on outcome
signals, and whether arriving at it completes the epic.

The built-in table runs DESIGN, BUILD, REMEDIATE, VALIDATE, POLISH and
RELEASE.

Main statement:

* `defaults_names`: the built-in table names its six stages in order.
-/

set_option autoImplicit false

namespace EpicFlow

/-- One entry of a route table: when `signal` was declared, go to `target`. -/
structure Route where
  signal : Signal
  target : Target
deriving DecidableEq, Repr, Inhabited

/-- The registration entry of a stage. -/
structure StageDescriptor where
  name : StageName
  agentType : String := "claude"
  turnBudget : Nat := 40
  brief : String := ""
  requirements : List String := []
  routes : List Route := []
  terminal : Bool := false
deriving DecidableEq, Repr, Inhabited

namespace StageDescriptor

/-- A built-in stage routing each signal to a stage of the given name. -/
def builtin (name brief : String) (reqs : List String) (routes : List (Signal × String)) :
    StageDescriptor :=
  { name := ⟨name⟩, brief := brief, requirements := reqs,
    routes := routes.map fun (s, t) => ⟨s, .stage ⟨t⟩⟩ }

/-- The built-in stage table. -/
def defaults : List StageDescriptor :=
  [ builtin "DESIGN" "Write the design for the objective. Do not implement it."
      ["Design document written", "Open questions listed"] [(.designComplete, "BUILD")],
    builtin "BUILD" "Implement the design and run the test suite."
      ["Implementation complete", "Tests written", "Test suite run"]
      [(.testsFailed, "REMEDIATE"), (.allTestsPass, "VALIDATE")],
    builtin "REMEDIATE" "Fix the failing tests without widening scope."
      ["Failures triaged", "Fixes applied", "Test suite run"]
      [(.allTestsPass, "VALIDATE"), (.testsFailed, "REMEDIATE")],
    builtin "VALIDATE" "Independently verify the change against the objective."
      ["Acceptance checks run", "Test suite run"]
      [(.allTestsPass, "RELEASE"), (.testsFailed, "REMEDIATE")],
    builtin "POLISH" "Clean up naming, docs and lint without changing behavior."
      ["Lint clean", "Docs updated"] [(.polishComplete, "VALIDATE")],
    { builtin "RELEASE" "Hand the validated branch to release tooling." [] [] with terminal := true } ]

theorem defaults_names :
    defaults.map (·.name.val) = ["DESIGN", "BUILD", "REMEDIATE", "VALIDATE", "POLISH", "RELEASE"] :=
  rfl

/-- The JSON form of a route. -/
def Route.toJson (r : Route) : Json :=
  .obj [("signal", .str r.signal.code), ("target", .str r.target.name)]

/-- The JSON form of a descriptor, fields in declaration order. -/
def toJson (d : StageDescriptor) : Json :=
  .obj [("name", .str d.name.val), ("agent_type", .str d.agentType),
    ("turn_budget", .int d.turnBudget), ("brief", .str d.brief),
    ("requirements", Json.strs d.requirements),
    ("routes", .arr (d.routes.map Route.toJson)), ("terminal", .bool d.terminal)]

/-- Stage names in JSON are read as stage names. -/
def nameShape : Json.Shape := .checked fun s => (StageName.parse s).map (·.val)

/-- Signals in JSON are read as signals. -/
def signalShape : Json.Shape := .checked fun s => (Signal.parse s).map (·.code)

/-- Targets in JSON are read as targets. -/
def targetShape : Json.Shape := .checked fun s => (Target.parse s).map (·.name)

/-- The shape of a route. -/
def routeShape : Json.Shape :=
  .record "RouteRule" [("signal", signalShape, none), ("target", targetShape, none)]

/-- The shape of a descriptor: only the name is required. -/
def shape : Json.Shape :=
  .record "StageDescriptor"
    [("name", nameShape, none), ("agent_type", .string, some (.str "claude")),
     ("turn_budget", .u32, some (.int 40)), ("brief", .string, some (.str "")),
     ("requirements", .seq .string, some (.arr [])), ("routes", .seq routeShape, some (.arr [])),
     ("terminal", .bool, some (.bool false))]

/-- A target from its normal name. -/
def targetOfName (n : String) : Target :=
  if n == "HUMAN" then .human else if n == "COMPLETED" then .completed
  else if n == "FAILED" then .failed else .stage ⟨n⟩

/-- A descriptor from the normal form of `shape`. -/
def ofJson (j : Json) : StageDescriptor :=
  { name := ⟨((j.get "name").str?).getD ""⟩
    agentType := ((j.get "agent_type").str?).getD "claude"
    turnBudget := ((j.get "turn_budget").nat?).getD 40
    brief := ((j.get "brief").str?).getD ""
    requirements := (((j.get "requirements").arr?).getD []).filterMap Json.str?
    routes := (((j.get "routes").arr?).getD []).map fun r =>
      ⟨Signal.ofCode (((r.get "signal").str?).getD ""),
        targetOfName (((r.get "target").str?).getD "")⟩
    terminal := ((j.get "terminal").bool?).getD false }

end StageDescriptor

end EpicFlow
