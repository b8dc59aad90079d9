import EpicFlow.Stage.Registry

/-!
# Scripts of a scripted worker

A script tells a scripted worker how each stage's runs behave:
`BUILD=TESTS_FAILED|ALL_TESTS_PASS,VALIDATE=ALL_TESTS_PASS`. Successive runs
of a stage take successive entries, the last one repeating. An entry is a
`+`-joined list of signals (work through the card, then declare them), or one
of `STALL`, `SILENT:<signals>`, `LINGER:<signals>`, `CRASH`, `REGRESS`,
`VANISH` (keywords in any case). A stage the script does not name declares
the first signal its stage routes on.

Main statements:

* `Behaviour.parse_stall`: `stall` reads as a stall.
* `behaviourFor_named`: a named stage's first run takes the first entry.
-/

set_option autoImplicit false

namespace EpicFlow

/-- How one scripted run behaves. -/
inductive Behaviour where
  /-- start the card, check every requirement, complete it with the signals, exit -/
  | complete (signals : List Signal)
  /-- start the card, then do nothing; a graceful stop is ignored -/
  | stall
  /-- like `complete`, but edit the card only every `every` polls and report no usage -/
  | silent (signals : List Signal) (every : Nat)
  /-- start the card, then exit with it incomplete -/
  | crash
  /-- like `complete`, but stay alive afterwards and report usage only once stopped -/
  | linger (signals : List Signal)
  /-- start the card, check the first box, then uncheck it -/
  | regress
  /-- start the card, then delete it and keep running -/
  | vanish
deriving DecidableEq, Repr

namespace Behaviour

/-- Polls between card edits of a silent run. -/
def silentEvery : Nat := 3

/-- Read a `+`-joined signal list; blank items are skipped. -/
def signalsOf (raw : String) : Except String (List Signal) :=
  ((Text.splitChar raw '+').map Text.trim |>.filter (!·.isEmpty)).mapM Signal.parse

/-- Read one entry of a script. -/
def parse (raw : String) : Except String Behaviour :=
  let r := Text.trim raw
  let up := Text.asciiUpper r
  if up == "STALL" then .ok stall
  else if up == "CRASH" then .ok crash
  else if up == "REGRESS" then .ok regress
  else if up == "VANISH" then .ok vanish
  else if Text.startsWith up "LINGER:" then (signalsOf (up.drop 7).toString).map linger
  else if Text.startsWith up "SILENT:" then (signalsOf (up.drop 7).toString).map (silent · silentEvery)
  else (signalsOf r).map complete

theorem parse_stall : parse "stall" = .ok stall := by rfl

end Behaviour

/-- Per stage, the behaviours of its successive runs. -/
structure Script where
  stages : List (StageName × List Behaviour) := []

namespace Script

/-- Read a script: comma-separated `STAGE=entry|entry` parts; a later part for
the same stage replaces an earlier one. -/
def parse (raw : String) : Except String Script := do
  let parts := (Text.splitChar raw ',').map Text.trim |>.filter (!·.isEmpty)
  let stages ← parts.foldlM (fun (acc : List (StageName × List Behaviour)) part => do
    let some (stage, entries) := Text.splitOnce part '='
      | throw ("Script entry '" ++ part ++ "' is not STAGE=BEHAVIOUR")
    let name ← StageName.parse (Text.trim stage)
    let steps ← (Text.splitChar entries '|').mapM Behaviour.parse
    pure ((acc.filter (·.1 != name)) ++ [(name, steps)])) []
  pure ⟨stages⟩

/-- The behaviour of the `attempt`-th run of a stage (from 0). -/
def behaviourFor (sc : Script) (reg : Registry) (stage : StageName) (attempt : Nat) : Behaviour :=
  let fallback := Behaviour.complete
    (match (reg.get? stage).bind (·.routes.head?) with
     | some rule => [rule.signal]
     | none => [])
  match sc.stages.find? (·.1 == stage) with
  | some (_, steps) =>
    match steps[attempt]? with
    | some b => b
    | none => steps.getLast?.getD fallback
  | none => fallback

theorem behaviourFor_named (sc : Script) (reg : Registry) (stage : StageName) (b : Behaviour)
    (rest : List Behaviour) (h : sc.stages.find? (·.1 == stage) = some (stage, b :: rest)) :
    sc.behaviourFor reg stage 0 = b := by
  simp [behaviourFor, h]

end Script

end EpicFlow
