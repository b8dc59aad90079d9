import EpicFlow.Console.Cards
import EpicFlow.Console.Host
import EpicFlow.Conductor.Drive
import EpicFlow.Worker.Scripted
import EpicFlow.Epic.Founding

/-!
# Console: rehearsing an epic

One epic driven end to end by the scripted worker or by agents in terminal
sessions on a machine, with operator actions between the drives: resolve,
override, block, recover, or leave a run behind as if an earlier process had
died. Each action answers its result with the state of the store after it
(and, on a machine, the program runs it made); the cards that reached a run
are numbered in the order of the runs.
-/

set_option autoImplicit false

namespace EpicFlow.Console

/-! Epics driven end to end -/

/-- Number ids in the order given: `<prefix>00000001`, ... -/
def aliasesOf (pfx : String) (ids : List String) : List (String × String) :=
  let distinct := ids.foldl (fun acc i => if acc.contains i then acc else acc ++ [i]) []
  distinct.zipIdx.map fun (i, n) =>
    let d := Text.natText (n + 1)
    (i, pfx ++ String.ofList (List.replicate (8 - d.length) '0') ++ d)

structure DryRig where
  st : Host × Conductor
  epicId : String
  /-- the agents run in terminal sessions on the machine -/
  inSessions : Bool := false

def DryRig.store (r : DryRig) : Store := r.st.1.store

def DryRig.withStore (r : DryRig) (s : Store) : DryRig := { r with st := ({ r.st.1 with store := s }, r.st.2) }

def storeView (s : Store) (eid : String) : List (String × Json) :=
  [("epic", match s.epic? eid with | some e => e.toJson | none => .null),
   ("runs", .arr ((s.runsOf eid).map runOut)),
   ("decisions", .arr ((s.decisionsOf eid).map decisionOut)),
   ("escalations", .arr ((s.escalationList false).map EscalationRecord.toJson))]

def epicResult (rig : DryRig) (r : Except EngineError (Store × Epic)) : DryRig × Json :=
  match r with
  | .ok (s, e) => (rig.withStore s, e.toJson)
  | .error err => (rig, engErr err)

/-- The terminal session of a run left behind: in the epic's workspace, its
environment naming the run, and running the agent described, if any, on the
run's card. -/
def orphanSession (clock : Nat) (j : Json) (ws eid stage runId session cardPath : String) : TermSession :=
  let env := (fObj j "env").foldl (fun acc (k, v) => match v.str? with
      | some x => Assoc.put acc k x
      | none => acc)
    [("HANDY_EPIC", eid), ("HANDY_STAGE", stage), ("HANDY_RUN", runId), ("HANDY_WORKTREE", ws),
     ("HANDY_AGENT_TYPE", "claude")]
  let agent := match j.get "agent" with
    | .obj kvs =>
      let spec := agentSpecOf (.obj kvs)
      some { spec, command := fStr (.obj kvs) "cmd" "claude", cardPath := some cardPath
             resultPath := some (Path.join (Path.join ws AgentRun.runDir) (runId ++ ".json")), pollsLeft := spec.polls }
    | _ => none
  { name := Session.tmuxName session, dir := some ws, env, created := clock, activity := clock, agent }

def dryStep (c : Crew) (rig : DryRig) (step : Json) : DryRig × Json :=
  let eid := rig.epicId
  let s := rig.store
  let keep := fun (j : Json) => (rig, j)
  match fStr? step "do" with
  | some "run" =>
    let h := rig.st.1
    let st0 := ({ h with cancelAt := (fNat? step "cancel_after_ms").map (h.now + ·) }, rig.st.2)
    let (st, r) := runEng st0 (c.runEpic eid)
    ({ rig with st := ({ st.1 with cancelAt := none }, st.2) }, match r with
      | .ok e => e.toJson
      | .error err => engErr err)
  | some "resolve" =>
    match Resolution.parse (fStr step "option" "") with
    | .error m => keep (invalid m)
    | .ok o =>
      let latest := (((s.escalationList true).filter (·.message.epicId == eid)).getLast?).map
        fun r => (r.id : Int)
      match (step.get "id").int? <|> latest with
      | none => keep (bad "no open escalation")
      | some i => epicResult rig (c.policy.answer s i o stamp)
  | some "override" => epicResult rig (c.policy.overrideStage s eid (fStr step "stage" "") stamp)
  | some "block" =>
    match rationale (fStr step "rationale" "Stuck") with
    | .error e => keep e
    | .ok r => epicResult rig (EpicPolicy.block s eid r stamp)
  | some "orphan" =>
    match s.epic? eid with
    | none => keep (engErr (.notFound ("epic " ++ eid)))
    | some e =>
      let stage := match fStr? step "stage" with
        | some t => (StageName.parse t).toOption.getD e.stage
        | none => e.stage
      let iteration := fNat step "iteration" 1
      let session := fStr step "session_id" (eid ++ "_" ++ stage.val ++ "_" ++ Text.natText iteration)
      let run := (Run.pending eid stage session iteration "card-gone").start (fStr step "run_id" "run-gone") stamp
      let cardPath := (CardLocation.inWorkspace e.workspace.path "card-gone").hostPath
      let rig := match fStr? step "card_text" with
        | some t =>
          let t := Text.replaceAll t "\x7bepic_id\x7d" eid
          if rig.inSessions then
            let m := rig.st.1.machine
            { rig with st := ({ rig.st.1 with machine := { m with files := (m.files.writeAll cardPath t).toOption.getD m.files } },
                rig.st.2) }
          else { rig with st := (rig.st.1, { rig.st.2 with world := rig.st.2.world.write cardPath t }) }
        | none => rig
      let rig := match step.get "tmux_session" with
        | .obj kvs =>
          let m := rig.st.1.machine
          let ts := orphanSession m.clock (.obj kvs) e.workspace.path eid stage.val run.runId session cardPath
          { rig with st := ({ rig.st.1 with machine := { m with sessions := m.sessions ++ [ts] } }, rig.st.2) }
        | _ => rig
      match s.insertRun run with
      | .ok s' => (rig.withStore s', .str "ok")
      | .error err => (rig, engErr err)
  | some "recover" =>
    let (st, r) := runEng rig.st c.recover
    ({ rig with st }, match r with
      | .ok ids => Json.strs ids
      | .error err => engErr err)
  | some d => keep (bad ("unknown dry_run step '" ++ d ++ "'"))
  | none => keep (bad "missing string field 'do'")

/-- The crew of a rehearsal. -/
def rehearsalCrew (home : Option String) (st : EngineSettings) (reg : Registry) (policy : EpicPolicy)
    (sc : Script) (inSessions : Bool) (j : Json) : Crew :=
  let docker := st.cards.transport == .docker
  { worker := if inSessions then Worker.tmux
        { transport := st.cards.transport, containerPrefix := st.cards.containerPrefix, home }
      else Worker.scripted sc reg
    mailbox := if !inSessions then Mailbox.scripted else if docker then Mailbox.docker home else Mailbox.worktree
    policy, monitor := MonitorConfig.ofSettings st.monitor
    grace := st.monitor.teardownGraceSecs * MonitorConfig.nanosPerSec
    sink := if fStr j "channel" "store" == "log" then .log else .store
    patternLimit := if fBool j "no_patterns" false then none else some st.patternLimit
    transport := if inSessions then st.cards.transport else .worktree
    containerPrefix := st.cards.containerPrefix, home }

def opDryRun (home : Option String) (j : Json) : A Json := do
  let inSessions := fStr j "worker" "simulated" == "tmux"
  let hostGiven := !(j.get "host").isNull
  let onMachine := inSessions || hostGiven
  let j := if onMachine then fromRoot j else j
  let st ← settingsInput (match j.get "settings" with | .null => .obj [] | v => v)
  let st := if inSessions then { st with workspaceRoot := underScratch "ws", inboxDir := underScratch "inbox" }
    else if onMachine then
      { st with workspaceRoot := underScratch "ws", inboxDir := underScratch "inbox", worker := .simulated
                cards := { st.cards with transport := .worktree } }
    else { st with workspaceRoot := epicRoot, inboxDir := "<root>/inbox", sourceRepo := none
                   worker := .simulated, cards := { st.cards with transport := .worktree } }
  let sc ← match Script.parse (fStr j "script" "") with
    | .ok sc => pure sc
    | .error m => throw (errJ "Error" m)
  liftEng st.validate
  let reg ← liftEng st.registry
  let policy ← liftEng (EpicPolicy.ofSettings reg st)
  let patterns ← (fArr j "patterns").mapM patternInput
  let book ← patterns.foldlM (fun (b : PatternBook) r => liftEng ((b.store r).map (·.1))) {}
  let (machine, home) := if onMachine then
      machineOf (match j.get "host" with | .null => .obj [("installed", .arr [])] | v => v) home
    else ({}, home)
  let crew := rehearsalCrew home st reg policy sc inSessions j
  let c0 : Conductor := { cards := { inbox := st.inboxDir, retries := st.cards.parseRetries
                                     backoff := st.cards.retryBackoffMs * 1000000 } }
  let objective ← liftEng (EpicPolicy.objectiveOf (fStr j "objective" "dry run"))
  let h0 : Host := { store := { patterns := book }, machine, scatteredIds := onMachine }
  let (st0, r) := if onMachine then runEng (h0, c0) (do return (← policy.found st.sourceRepo objective).id)
    else runEng (h0, c0) (do
      let id ← Eng.freshEpicId
      Eng.onStore fun s => (policy.create s id objective stamp).map fun (s, e) => (s, e.id))
  let setupCalls := callsSince st0.1.machine 0
  let eid ← match r with
    | .ok id => pure id
    | .error e =>
      if hostGiven then
        let ans := Json.obj [("error", .str (kindOf e)), ("message", .str e.message), ("setup_calls", setupCalls)]
        throw (toRoot (({} : Aliases).scan ans |>.display ans))
      else throw (engErr e)
  let steps := match j.get "steps" with
    | .arr xs => xs
    | _ => [.obj [("do", .str "run")]]
  let (rig, outs) := steps.foldl (fun (acc : DryRig × List Json) step =>
    let (rig, out) := acc
    let before := rig.st.1.machine.calls.length
    let (rig', res) := dryStep crew rig step
    let calls := if onMachine then [("calls", callsSince rig'.st.1.machine before)] else []
    (rig', out ++ [.obj ([("result", res)] ++ storeView rig'.store eid ++ calls)]))
    ({ st := st0, epicId := eid, inSessions }, [])
  let w := rig.st.2.world
  let invs := w.invocations.map fun i =>
    .obj [("session_name", .str i.sessionName), ("stage", .str i.stage.val), ("resume", .bool i.resume),
      ("max_turns", .int i.maxTurns), ("agent_type", .str i.agentType),
      ("card", match w.file? i.cardPath with | some f => .str f.content | none => .null)]
  let ans := Json.obj ([("steps", .arr outs), ("invocations", .arr invs),
    ("terminations", .arr (w.terminations.map fun (id, f) => .arr [.str id, .bool f])),
    ("unreleased", Json.strs w.unreleased), ("elapsed_ms", .int rig.st.1.now)] ++
    (if hostGiven then [("setup_calls", setupCalls)] else []))
  let byRuns : Aliases := ⟨aliasesOf "card-" (rig.store.runs.map (·.cardId))⟩
  if onMachine then
    let aliases := byRuns.scan ans
    pure (toRoot (aliases.display ans))
  else pure (byRuns.display ans)

end EpicFlow.Console
