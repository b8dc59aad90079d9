import EpicFlow.Card.Matter
import EpicFlow.Stage.Descriptor

/-!
# Task cards

A task card is the document shared by the engine and the worker of a stage:
front matter with its identity, objective and timestamps, a `## Requirements`
checklist and free `## Notes`. Its text is written by `TaskCard.render` and
read back by `TaskCard.parse`.

Reading tells a torn card (a partial write: no closing fence, unreadable front
matter, fewer checklist lines than announced), worth reading again, from a
malformed one (a bad stage name, more checklist lines than announced).

A checklist line is a `-` or `*` after optional blanks, blanks, then `[ ]`,
`[x]` or `[X]`; the rest of the line, trimmed, is the requirement. Headings
are `## ` lines; the blanks around a line are ignored when looking for them.

Main statements:

* `readSignals_nodup`: the signals read from a card are distinct.
* `status_ambiguous`: a card without requirements is ambiguous.
-/

set_option autoImplicit false

namespace EpicFlow

/-- One checklist entry. -/
structure Requirement where
  text : String
  done : Bool
deriving DecidableEq, Repr

/-- A task card. -/
structure TaskCard where
  cardId : String
  epicId : String
  stage : StageName
  objective : String
  requirements : List Requirement
  created : Option String
  started : Option String
  completed : Option String
  notes : String
  signals : List Signal
deriving DecidableEq, Repr

/-- Why a card could not be read. -/
inductive CardFault where
  /-- a partial write; reading again may succeed -/
  | torn (msg : String)
  /-- wrong in a way that reading again will not fix -/
  | malformed (msg : String)
deriving DecidableEq, Repr

/-- The text of a card fault. -/
def CardFault.message : CardFault → String
  | .torn m => "torn card: " ++ m
  | .malformed m => "malformed card: " ++ m

/-- How complete a card is. -/
inductive CardStatus where
  | unknown | ambiguous | inProgress | complete
deriving DecidableEq, Repr

/-- The name of a status. -/
def CardStatus.name : CardStatus → String
  | .unknown => "UNKNOWN"
  | .ambiguous => "AMBIGUOUS"
  | .inProgress => "IN_PROGRESS"
  | .complete => "COMPLETE"

namespace TaskCard

/-- A `name: "value"` line, or `name:` when absent. -/
def optionalLine (name : String) : Option String → String
  | some v => name ++ ": " ++ Json.quote v ++ "\n"
  | none => name ++ ":\n"

/-- A checklist line. -/
def Requirement.line (r : Requirement) : String :=
  "- [" ++ (if r.done then "x" else " ") ++ "] " ++ r.text ++ "\n"

/-- The text of a card. -/
def render (c : TaskCard) : String :=
  "---\n" ++
  "card_id: " ++ Json.quote c.cardId ++ "\n" ++
  "epic_id: " ++ Json.quote c.epicId ++ "\n" ++
  "stage: " ++ Json.quote c.stage.val ++ "\n" ++
  "objective: " ++ Json.quote c.objective ++ "\n" ++
  "requirement_count: " ++ Text.natText c.requirements.length ++ "\n" ++
  optionalLine "created" c.created ++
  optionalLine "started" c.started ++
  optionalLine "completed" c.completed ++
  "signals: [" ++ ", ".intercalate (c.signals.map fun s => Json.quote s.code) ++ "]\n" ++
  "---\n## Requirements\n" ++
  String.join (c.requirements.map Requirement.line) ++
  "\n## Notes\n" ++
  (if c.notes.isEmpty then "" else Text.trimEnd c.notes ++ "\n")

/-- The opening fence is followed by a closing one. -/
def fenced (content : String) : Bool :=
  match Text.lines content with
  | first :: rest => isFenceLine first && rest.any isFenceLine
  | [] => false
where
  isFenceLine (l : String) : Bool := Text.trimEnd l == "---"

/-- A checklist line, read. -/
def checkbox (line : String) : Option Requirement :=
  match Text.dropBlanks line.toList with
  | c :: rest =>
    if c == '-' || c == '*' then
      let gap := rest.takeWhile Text.isBlank
      if gap.isEmpty then none
      else
        match rest.drop gap.length with
        | '[' :: m :: ']' :: tail =>
          if m == ' ' || m == 'x' || m == 'X' then some ⟨Text.trim (String.ofList tail), m != ' '⟩
          else none
        | _ => none
    else none
  | [] => none

/-- The part of the body a line belongs to. -/
inductive Section where
  | preamble | requirements | notes | other
deriving DecidableEq

/-- The heading a line opens, if it is a `## ` line. -/
def heading (line : String) : Option Section :=
  match (Text.trim line).toList with
  | '#' :: '#' :: ' ' :: rest =>
    some (match Text.asciiLower (Text.trim (String.ofList rest)) with
      | "requirements" => .requirements
      | "notes" => .notes
      | _ => .other)
  | _ => none

/-- What the body holds: checklist entries and notes lines, in order. -/
structure Body where
  part : Section := .preamble
  requirements : List Requirement := []
  notes : List String := []

/-- Read one body line. -/
def Body.step (b : Body) (line : String) : Body :=
  match heading line with
  | some s => { b with part := s }
  | none =>
    match b.part with
    | .requirements =>
      match checkbox line with
      | some r => { b with requirements := b.requirements ++ [r] }
      | none => b
    | .notes => { b with notes := b.notes ++ [line] }
    | _ => b

/-- A trimmed timestamp, absent when blank. -/
def nonEmpty (v : Option String) : Option String :=
  match v with
  | some s => if (Text.trim s).isEmpty then none else some (Text.trim s)
  | none => none

/-- Add a signal read from a text, unless it is already there or does not read. -/
def addSignal (acc : List Signal) (raw : String) : List Signal :=
  match Signal.parse raw with
  | .ok s => if acc.contains s then acc else acc ++ [s]
  | .error _ => acc

/-- The distinct signals that read, in order of first mention. -/
def readSignals (raw : List String) : List Signal := raw.foldl addSignal []

theorem addSignal_nodup (acc : List Signal) (raw : String) (h : acc.Nodup) :
    (addSignal acc raw).Nodup := by
  unfold addSignal
  split
  · rename_i s _
    by_cases hs : acc.contains s = true
    · simp only [hs, if_true]; exact h
    · rw [if_neg hs, List.nodup_append]
      refine ⟨h, by simp, ?_⟩
      intro a ha b hb hab
      simp at hb
      subst hb hab
      simp_all
  · exact h

theorem readSignals_nodup (raw : List String) : (readSignals raw).Nodup := by
  unfold readSignals
  suffices h : ∀ (acc : List Signal), acc.Nodup → (raw.foldl addSignal acc).Nodup from
    h [] List.nodup_nil
  induction raw with
  | nil => intro acc h; exact h
  | cons r rs ih =>
    intro acc hacc
    rw [List.foldl_cons]
    exact ih _ (addSignal_nodup acc r hacc)

/-- Read a card from its text. -/
def parse (content : String) : Except CardFault TaskCard := do
  if !fenced content then throw (.torn "frontmatter is not closed")
  let parts := Card.Parts.ofText content
  let front? ← match parts.matter with
    | none => pure none
    | some m =>
      match Card.FrontMatter.read m with
      | .ok f => pure f
      | .error e => throw (.torn ("Failed to parse frontmatter: " ++ e))
  let front ← match front? with
    | some f => pure f
    | none => throw (.torn "No frontmatter found")
  let stage ← match StageName.parse front.stage with
    | .ok s => pure s
    | .error e => throw (.malformed e)
  let body := (Text.lines parts.body).foldl Body.step {}
  let n := body.requirements.length
  if n < front.requirementCount then
    throw (.torn (Text.natText n ++ " of " ++ Text.natText front.requirementCount ++
      " requirement lines present"))
  if n > front.requirementCount then
    throw (.malformed (Text.natText n ++ " requirement lines but requirement_count is " ++
      Text.natText front.requirementCount))
  pure { cardId := front.cardId, epicId := front.epicId, stage, objective := front.objective
         requirements := body.requirements, created := nonEmpty front.created
         started := nonEmpty front.started, completed := nonEmpty front.completed
         notes := Text.trim ("\n".intercalate body.notes), signals := readSignals front.signals }

/-- How many requirements are checked. -/
def checked (c : TaskCard) : Nat := (c.requirements.filter (·.done)).length

/-- The status of a card: ambiguous without requirements, complete when all
are checked and the completion time is set. -/
def status (c : TaskCard) : CardStatus :=
  if c.requirements.isEmpty then .ambiguous
  else if c.requirements.all (·.done) && c.completed.isSome then .complete
  else .inProgress

theorem status_ambiguous (c : TaskCard) (h : c.requirements = []) : c.status = .ambiguous := by
  simp [status, h]

/-- The JSON form of a requirement. -/
def Requirement.toJson (r : Requirement) : Json :=
  .obj [("text", .str r.text), ("done", .bool r.done)]

/-- The JSON form of a card, fields in declaration order. -/
def toJson (c : TaskCard) : Json :=
  .obj [("card_id", .str c.cardId), ("epic_id", .str c.epicId), ("stage_type", .str c.stage.val),
    ("objective", .str c.objective), ("requirements", .arr (c.requirements.map Requirement.toJson)),
    ("created", Json.optStr c.created), ("started", Json.optStr c.started),
    ("completed", Json.optStr c.completed), ("notes", .str c.notes),
    ("signals", Json.strs (c.signals.map (·.code)))]

/-- The shape of a requirement. -/
def requirementShape : Json.Shape :=
  .record "Requirement" [("text", .string, none), ("done", .bool, none)]

/-- The shape of a card: every field but the timestamps is required. -/
def shape : Json.Shape :=
  .record "TaskCard"
    [("card_id", .string, none), ("epic_id", .string, none),
     ("stage_type", StageDescriptor.nameShape, none), ("objective", .string, none),
     ("requirements", .seq requirementShape, none), ("created", .opt .string, some .null),
     ("started", .opt .string, some .null), ("completed", .opt .string, some .null),
     ("notes", .string, none), ("signals", .seq StageDescriptor.signalShape, none)]

/-- A card from the normal form of `shape`. -/
def ofJson (j : Json) : TaskCard :=
  { cardId := ((j.get "card_id").str?).getD ""
    epicId := ((j.get "epic_id").str?).getD ""
    stage := ⟨((j.get "stage_type").str?).getD ""⟩
    objective := ((j.get "objective").str?).getD ""
    requirements := (((j.get "requirements").arr?).getD []).map fun r =>
      ⟨((r.get "text").str?).getD "", ((r.get "done").bool?).getD false⟩
    created := (j.get "created").str?
    started := (j.get "started").str?
    completed := (j.get "completed").str?
    notes := ((j.get "notes").str?).getD ""
    signals := (((j.get "signals").arr?).getD []).filterMap fun s => s.str?.map Signal.ofCode }

end TaskCard

/-- A card as seen by one reading. -/
structure CardView where
  card : TaskCard
  status : CardStatus
  checked : Nat
  total : Nat
  /-- modification time of the worker's copy, in nanoseconds -/
  modified : Option Nat
deriving DecidableEq, Repr

namespace CardView

/-- The view of a card. -/
def ofCard (c : TaskCard) (modified : Option Nat) : CardView :=
  ⟨c, c.status, c.checked, c.requirements.length, modified⟩

/-- The share of requirements checked (zero without requirements). -/
def progress (v : CardView) : Float :=
  if v.total == 0 then 0.0 else v.checked.toFloat / v.total.toFloat

/-- `<STATUS> checked/total`. -/
def summary (v : CardView) : String :=
  v.status.name ++ " " ++ Text.natText v.checked ++ "/" ++ Text.natText v.total

/-- The JSON form of a view. -/
def toJson (v : CardView) : Json :=
  .obj [("card", v.card.toJson), ("status", .str v.status.name), ("checked", .int v.checked),
    ("total", .int v.total), ("modified", match v.modified with | some m => .int m | none => .null),
    ("summary", .str v.summary)]

end CardView

end EpicFlow
