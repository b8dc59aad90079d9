import EpicFlow.Console.Cards
import EpicFlow.Monitor.Watch
import EpicFlow.Worker.Scripted

/-!
# Console: watching a run

One run of a stage, watched to its end against a worker whose replies to
status queries are given in advance, together with the edits it makes to its
card between queries.
-/

set_option autoImplicit false

namespace EpicFlow.Console

/-! A watched run against recorded worker replies -/

def replyInput (subst : String → String) (j : Json) : A Reply := do
  let t := fStr j "state" "RUNNING"
  let some state := WorkerState.ofName? t | throw (bad ("unknown worker state '" ++ t ++ "'"))
  let edits ← (fArr j "edits").mapM (editInput subst)
  pure { status := ⟨state, fNat j "turns" 0, fFloat j "cost" 0.0, (j.get "activity").int?⟩
         fails := fBool j "error" false, edits, dropPulls := fNat? j "fail_pulls" }

def monitorConfig (j : Json) : MonitorConfig :=
  { baseInterval := fNat j "base_interval_ms" 10000 * 1000000
    maxWait := fNat j "max_wait_ms" 60000 * 1000000
    minInterval := fNat j "min_interval_ms" 2000 * 1000000
    shrinkThreshold := fFloat j "shrink_threshold" 0.8
    shrinkFactor := max (fNat j "shrink_factor" 4) 1
    maxUnreachablePolls := max (fNat j "max_unreachable_polls" 3) 1 }

def opMonitor (j : Json) : A Json := do
  let stage ← liftInvalid (StageName.parse (fStr j "stage" "BUILD"))
  let cfg := monitorConfig (j.get "config")
  let epic := Epic.fresh "/sim" "epic-1" "monitored objective" stage stamp
  let store ← liftEng (({} : Store).insertEpic epic)
  let h0 : Host := { store, cancelAt := fNat? j "cancel_after_ms" }
  let c0 : Conductor := { cards := { inbox := "<root>/inbox", retries := fNat j "parse_retries" 1
                                     backoff := fNat j "backoff_ms" 100 * 1000000 } }
  let (st, r) := runEng (h0, c0) (do
    let id ← CardBook.createCard "epic-1" stage "monitored objective" (fStrs j "requirements") ""
    let _ ← CardBook.publish Mailbox.memory id (CardLocation.inWorkspace "/sim/epic-1" id)
    pure id)
  let id ← liftEng r
  let created := ((st.2.cards.lookup id).bind (·.card.created)).getD ""
  let replies ← (fArr j "polls").mapM (replyInput (substCards [(id, created)]))
  let run := (Run.pending "epic-1" stage ("epic-1_" ++ stage.val ++ "_1") 1 id).start "run-1" stamp
  let run := { run with turns := fNat j "initial_turns" 0, cost := fFloat j "initial_cost" 0.0 }
  let store ← liftEng (st.1.store.insertRun run)
  let path := (CardLocation.inWorkspace "/sim/epic-1" id).hostPath
  let st := ({ st.1 with store }, { st.2 with replies := { cardPath := path, pending := replies } })
  let (st, r) := runEng st (Monitor.watch Worker.recorded Mailbox.memory cfg run)
  pure (.obj [("result", match r with | .ok run => runOut run | .error e => engErr e),
    ("stored", match st.1.store.run? "run-1" with | some run => runOut run | none => .null),
    ("status_calls", .int st.2.replies.calls), ("pulls", .int st.2.pulls),
    ("elapsed_ms", .int st.1.now), ("card_status", .str (st.2.cards.status id).name)])

end EpicFlow.Console
