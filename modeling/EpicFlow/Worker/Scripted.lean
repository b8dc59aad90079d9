import EpicFlow.Conductor.State

/-!
# Workers without a host

Two workers that need no tools: the scripted worker, which runs every stage
by its script inside the conductor's scripted world, and the recorded
worker, which answers status queries from recorded replies (making each
reply's card edits first).

Main statement:

* `recorded_invoke`: the recorded worker names every run `run-1`.
-/

set_option autoImplicit false

namespace EpicFlow

namespace Worker

/-- The scripted worker: runs follow the script, in the scripted world. -/
def scripted (sc : Script) (reg : Registry) : Worker Eng where
  invoke inv := do
    let (w, id) := (← Eng.self).world.invoke sc reg inv
    Eng.modifySelf fun c => { c with world := w }
    pure id
  status id := do
    let now ← Eng.stamp
    let (w, st) := (← Eng.self).world.tick id now
    Eng.modifySelf fun c => { c with world := w }
    pure (st.getD WorkerStatus.missing)
  terminate id force := Eng.modifySelf fun c => { c with world := c.world.terminate id force }
  release id := Eng.modifySelf fun c => { c with world := c.world.release id }

/-- Apply edits to a file of the scripted world; an edit that fails is skipped. -/
def applyAll (w : ScriptedWorld) (path : String) (edits : List CardEdit) : ScriptedWorld :=
  edits.foldl (fun w e => match w.applyEdit path e with | .ok w' => w' | .error _ => w) w

/-- The recorded worker: each status query takes the next recorded reply. -/
def recorded : Worker Eng where
  invoke _ := pure "run-1"
  status _ := do
    let c ← Eng.self
    let (reply, rs) := c.replies.next
    let world := applyAll c.world rs.cardPath reply.edits
    Eng.modifySelf fun c => { c with replies := rs, world, dropPulls := reply.dropPulls.getD c.dropPulls }
    if reply.fails then Eng.fail (.worker "status query failed") else pure reply.status
  terminate _ _ := pure ()
  release _ := pure ()

theorem recorded_invoke (inv : Invocation) (c : Conductor) (h : Host) :
    recorded.invoke inv c h = .done h c (.ok "run-1") := rfl

end Worker

end EpicFlow
