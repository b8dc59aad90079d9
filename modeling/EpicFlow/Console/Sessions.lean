import EpicFlow.Console.Basic
import EpicFlow.Session.Lifecycle
import EpicFlow.Worker.Scripted
import EpicFlow.Card.Book

/-!
# Console: sessions of the scripted worker

A sequence of requests on the sessions of one conductor over the scripted
worker: hand out, start, poll, finish and tear down runs, seed and adopt
sessions of an earlier process, and look at the leases and the worker's
record.
-/

set_option autoImplicit false

namespace EpicFlow.Console

/-! Sessions of the scripted worker -/

structure SupRig where
  st : Host × Conductor
  /-- every handle given out, by session id -/
  given : List (String × SessionHandle) := []

/-- Take in a handle given out, or answer the refusal. -/
def SupRig.handed (rig : SupRig) (r : Except EngineError (SessionBook × SessionHandle)) : SupRig × Json :=
  match r with
  | .ok (b, h) =>
    let c : Conductor := { rig.st.2 with sessions := b }
    ({ st := (rig.st.1, c), given := SessionBook.setKey rig.given h.sessionId h }, h.toJson)
  | .error e => (rig, engErr e)

def supStep (w : Worker Eng) (reg : Registry) (rig : SupRig) (step : Json) : SupRig × Json :=
  let keep := fun (j : Json) => (rig, j)
  let sessions := rig.st.2.sessions
  let handed := SupRig.handed rig
  match fStr? step "do" with
  | some "spawn" =>
    let req : SpawnRequest :=
      { stage := fStr step "stage" "BUILD", epicId := fStr step "epic" "epic-1"
        cardRef := fStr step "card_ref" "card-1", sessionName := fStr step "name" "epic-1_BUILD"
        turnBudget := fNat step "turn_budget" 10, resume := fBool step "resume" false
        workspace := fStr step "workspace" "/sim/ws" }
    handed (sessions.spawn reg req)
  | some "deliver" =>
    match StageName.parse (fStr step "stage" "BUILD") with
    | .error m => keep (invalid m)
    | .ok stage =>
      let id := fStr step "card_id" "card-1"
      let path := (CardLocation.inWorkspace (fStr step "workspace" "/sim/ws") id).hostPath
      let card := CardBook.fresh id (fStr step "epic" "epic-1") stage "x" (fStrs step "requirements") ""
        "2026-01-01T00:00:00Z"
      ({ rig with st := (rig.st.1, { rig.st.2 with world := rig.st.2.world.write path card.render }) }, .str path)
  | some "start" =>
    match SessionBook.getKey rig.given (fStr step "session" "") with
    | none => keep (bad "unknown session")
    | some h =>
      let cardId := fStr step "card_id" "card-1"
      let path := fStr step "card_path" (CardLocation.inWorkspace h.workspace cardId).hostPath
      let (st, r) := runEng rig.st (SessionBook.startRun w reg h cardId path (fStr step "objective" "x"))
      ({ rig with st }, match r with | .ok run => runOut run | .error e => engErr e)
  | some "poll" =>
    let (st, r) := runEng rig.st (w.status (fStr step "run_id" ""))
    ({ rig with st }, match r with | .ok s => s.toJson | .error e => engErr e)
  | some "finish" =>
    match rig.st.1.store.run? (fStr step "run_id" "") with
    | none => keep (bad "unknown run")
    | some run =>
      match RunStatus.parse (fStr step "status" "COMPLETED") with
      | .error m => keep (invalid m)
      | .ok status =>
        match rig.st.1.store.updateRun { run with status } with
        | .ok store => ({ rig with st := ({ rig.st.1 with store }, rig.st.2) }, .str "ok")
        | .error e => keep (engErr e)
  | some "teardown" =>
    match rig.st.1.store.run? (fStr step "run_id" "") with
    | none => keep (bad "unknown run")
    | some run =>
      match SessionBook.getKey rig.given (fStr step "session" "") with
      | none => keep (bad "unknown session")
      | some h =>
        let t0 := rig.st.1.now
        let (st, r) := runEng rig.st (SessionBook.teardown w h run (fNat step "grace_ms" 3000 * 1000000))
        ({ rig with st }, match r with
          | .ok (run, res) => .obj [("result", match res with | .ok () => .str "ok" | .error e => engErr e),
              ("run", runOut run), ("waited_ms", .int (st.1.now - t0))]
          | .error e => engErr e)
  | some "seed" =>
    ({ rig with st := (rig.st.1, { rig.st.2 with sessions := sessions.seed (fStrs step "sessions") }) }, .null)
  | some "adopt" =>
    match runInput step with
    | .error e => keep e
    | .ok run => handed (sessions.adopt run (fStr step "workspace" "/sim/ws") (fNat step "turn_budget" 10))
  | some "lease" => keep (match sessions.holder (fStr step "epic" "epic-1") with | some s => .str s | none => .null)
  | some "runs" => keep (.arr ((rig.st.1.store.runsWithStatus .running).map fun r => .str r.runId))
  | some "world" =>
    let wd := rig.st.2.world
    keep (.obj [("invocations", .arr (wd.invocations.map Invocation.toJson)),
      ("terminations", .arr (wd.terminations.map fun (id, f) => .arr [.str id, .bool f])),
      ("unreleased", Json.strs wd.unreleased)])
  | some d => keep (bad ("unknown supervisor op '" ++ d ++ "'"))
  | none => keep (bad "missing string field 'do'")

def opSupervisor (j : Json) : A Json := do
  let reg ← registry j
  let sc ← match Script.parse (fStr j "script" "") with
    | .ok sc => pure sc
    | .error m => throw (errJ "Error" m)
  let design ← liftInvalid (StageName.parse "DESIGN")
  let store ← (fStrs j "epics").foldlM (fun (s : Store) id =>
    liftEng (s.insertEpic (Epic.fresh "/sim" id "x" design stamp))) {}
  let (_, outs) := (fArr j "ops").foldl (fun (acc : SupRig × List Json) step =>
    let (rig, out) := acc
    let (rig', res) := supStep (Worker.scripted sc reg) reg rig step
    (rig', out ++ [res])) ({ st := ({ store }, {}) }, [])
  pure (.arr outs)

end EpicFlow.Console
