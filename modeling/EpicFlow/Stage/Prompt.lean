import EpicFlow.Stage.Descriptor

/-!
# The prompt of a stage

An agent is told the stage's brief, the objective, where its task card is and
how to keep it, and which outcome signals it may declare: those its stage
routes on, each once, in route order, then the safety signals.

Main statement:

* `promptSignals_suffix`: the safety signals are always offered, last.
-/

set_option autoImplicit false

namespace EpicFlow.StageDescriptor

/-- The signals a stage's agent may declare. -/
def promptSignals (d : StageDescriptor) : List String :=
  d.routes.foldl (fun acc r => if acc.contains r.signal.code then acc else acc ++ [r.signal.code]) [] ++
    Signal.safetyOrder.map Signal.code

theorem promptSignals_suffix (d : StageDescriptor) :
    (Signal.safetyOrder.map Signal.code).IsSuffix (promptSignals d) := by
  unfold promptSignals
  exact List.suffix_append _ _

/-- The prompt handed to a stage's agent. -/
def prompt (d : StageDescriptor) (objective cardPath : String) : String :=
  (if d.brief.isEmpty then "" else d.brief ++ "\n\n") ++
  "Objective: " ++ objective ++ "\n\n" ++
  "Your task card is at " ++ cardPath ++ ". Set `started` when you begin. Check each " ++
  "requirement (`- [x]`) as you finish it and never reword or remove one. " ++
  "When you are done, set `completed` and list your outcome signals in " ++
  "`signals`, choosing from: " ++ ", ".intercalate d.promptSignals ++ "."

end EpicFlow.StageDescriptor
