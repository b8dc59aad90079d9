import EpicFlow.Console.Basic
import EpicFlow.Card.Reading
import EpicFlow.Scripted.Script

/-!
# Console: task cards

Requests that read and render cards, and a card store over an in-memory
mailbox whose pulls can be made to drop: create, publish, edit the worker's
copy, pull and read back, forget and reattach.

Texts in an edit may name the cards created so far: `\x7bcard_id\x7d` and
`\x7bcreated\x7d` stand for the first card and its creation stamp,
`\x7b<id>\x7d` and `\x7bcreated:<id>\x7d` for a given one.
-/

set_option autoImplicit false

namespace EpicFlow.Console

def faultJ (f : CardFault) : Json :=
  errJ (match f with | .torn _ => "Torn" | .malformed _ => "Malformed") f.message

def viewOut (v : CardView) : Json :=
  .obj [("card", v.card.toJson), ("status", .str v.status.name), ("checked", .int v.checked),
    ("total", .int v.total), ("progress", .num v.progress), ("summary", .str v.summary),
    ("rendered", .str v.card.render)]

def opCardParse (j : Json) : A Json :=
  match TaskCard.parse (fStr j "content" "") with
  | .ok c => .ok (viewOut (CardView.ofCard c none))
  | .error f => .error (faultJ f)

def opCardRender (j : Json) : A Json := do
  let d ← liftSerde (Json.decode TaskCard.shape (j.get "card"))
  let c := TaskCard.ofJson d
  let text := c.render
  let re := match TaskCard.parse text with
    | .ok c2 => .obj [("card", c2.toJson), ("equal", .bool (decide (c2 = c)))]
    | .error f => faultJ f
  pure (.obj [("text", .str text), ("reparsed", re)])

def opSimScript (j : Json) : A Json :=
  match Script.parse (fStr j "script" "") with
  | .ok _ => .ok (.str "ok")
  | .error m => .error (errJ "Error" m)

/-! Cards and their mailbox -/

/-- Replace the card placeholders of an input text: `{card_id}` and `{created}`
for the first card created, `{created:<id>}` and `{<id>}` for a given one. -/
def substCards (cards : List (String × String)) (t : String) : String :=
  let t := match cards.head? with
    | some (id, created) => Text.replaceAll (Text.replaceAll t "\x7bcard_id\x7d" id) "\x7bcreated\x7d" created
    | none => t
  cards.foldl (fun t (id, created) =>
    Text.replaceAll (Text.replaceAll t ("\x7bcreated:" ++ id ++ "\x7d") created) ("\x7b" ++ id ++ "\x7d") id) t

def editInput (subst : String → String) (e : Json) : Except Json CardEdit :=
  (CardEdit.ofJson subst e).mapError fun
    | .invalidValue m => errJ "EditFailed" m
    | .unknownKind d => bad ("unknown edit '" ++ d ++ "'")
    | .missingKind => bad "missing string field 'do'"

/-- Apply edits to a file of the scripted world, answering each. -/
def applyEdits (subst : String → String) (w : ScriptedWorld) (path : String) (edits : List Json) :
    ScriptedWorld × List Json :=
  edits.foldl (fun (acc : ScriptedWorld × List Json) e =>
    let (w, out) := acc
    match editInput subst e with
    | .error err => (w, out ++ [err])
    | .ok ed =>
      match w.applyEdit path ed with
      | .ok w' => (w', out ++ [.str "ok"])
      | .error m => (w, out ++ [errJ "EditFailed" m])) (w, [])

structure CardRig where
  st : Host × Conductor
  created : List (String × String) := []

def cardStoreStep (ws : String) (rig : CardRig) (step : Json) : CardRig × Json :=
  let card := fStr step "card" ""
  let subst := substCards rig.created
  let keep := fun (j : Json) => (rig, j)
  let loc := CardLocation.inWorkspace ws card
  match fStr? step "do" with
  | some "create" =>
    match StageName.parse (fStr step "stage" "BUILD") with
    | .error m => keep (invalid m)
    | .ok stage =>
      let (st, r) := runEng rig.st (CardBook.createCard (fStr step "epic_id" "epic-1") stage
        (fStr step "objective" "") (fStrs step "requirements") (fStr step "notes" ""))
      match r with
      | .ok id =>
        let c := (st.2.cards.lookup id).map (·.card)
        let createdAt := ((c.bind (·.created))).getD ""
        ({ rig with st, created := rig.created ++ [(id, createdAt)] },
          .obj [("card_id", .str id), ("card", match c with | some c => c.toJson | none => .null)])
      | .error e => ({ rig with st }, engErr e)
  | some "publish" =>
    let l := match fStr? step "container" with
      | some cn => CardLocation.inContainer ws card cn
      | none => loc
    let (st, r) := runEng rig.st (CardBook.publish Mailbox.memory card l)
    ({ rig with st }, match r with | .ok p => .str p | .error e => engErr e)
  | some "edit" =>
    let (w, outs) := applyEdits subst rig.st.2.world loc.hostPath (fArr step "edits")
    ({ rig with st := (rig.st.1, { rig.st.2 with world := w }) }, .arr outs)
  | some "fail_pulls" =>
    ({ rig with st := (rig.st.1, { rig.st.2 with dropPulls := fNat step "n" 0 }) }, .null)
  | some "pull" =>
    let t0 := rig.st.1.now
    let (st, r) := runEng rig.st (CardBook.pullAndRead Mailbox.memory card)
    let waited := Json.int (st.1.now - t0)
    let pulls := Json.int st.2.pulls
    ({ rig with st }, match r with
      | .ok v => .obj [("view", v.toJson), ("waited_ms", waited), ("pulls", pulls)]
      | .error e => .obj [("error", .str (kindOf e)), ("message", .str e.message), ("waited_ms", waited),
          ("pulls", pulls)])
  | some "status" => keep (.str (rig.st.2.cards.status card).name)
  | some "card" => keep (match rig.st.2.cards.lookup card with | some e => e.card.toJson | none => .null)
  | some "forget" => ({ rig with st := (rig.st.1, { rig.st.2 with cards := rig.st.2.cards.forget card }) }, .null)
  | some "reattach" =>
    let (st, r) := runEng rig.st (CardBook.reattach Mailbox.memory card loc)
    ({ rig with st }, match r with | .ok v => v.toJson | .error e => engErr e)
  | some "file" => keep (match rig.st.2.world.file? loc.hostPath with | some f => .str f.content | none => .null)
  | some d => keep (bad ("unknown card_store op '" ++ d ++ "'"))
  | none => keep (bad "missing string field 'do'")

def opCardStore (j : Json) : A Json := do
  let ws := fStr j "workspace" "/ws"
  let c0 : Conductor := { cards := { inbox := "<root>/inbox", retries := fNat j "parse_retries" 3
                                     backoff := fNat j "backoff_ms" 200 * 1000000 } }
  let (rig, outs) := (fArr j "ops").foldl (fun (acc : CardRig × List Json) step =>
    let (rig, out) := acc
    let (rig', res) := cardStoreStep ws rig step
    (rig', out ++ [res])) ({ st := ({}, c0) }, [])
  pure (.obj [("steps", .arr outs), ("elapsed_ms", .int rig.st.1.now)])

end EpicFlow.Console
