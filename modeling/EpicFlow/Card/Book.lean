import EpicFlow.Card.Basic
import EpicFlow.Card.Location

/-!
# The cards a conductor keeps

A conductor writes a task card for every stage it starts, hands it to the
worker, and reads the worker's copy back while the stage runs. For each card
it keeps the card as created (the baseline of identity), where it was
handed out, the last view it accepted (the baseline of progress), and whether
the latest reading gave up.

A worker's copy is accepted only if it keeps the card's identity (id, epic,
stage) and requirement texts, and only moves forward: a checked box stays
checked, a set timestamp stays as it was, a declared signal stays declared.

Main statements:

* `sameRequirements_self`: a card keeps its own identity.
* `forward_self_stamp`: a timestamp kept as it was passes.
-/

set_option autoImplicit false

namespace EpicFlow

/-- What is kept about one card. -/
structure CardEntry where
  card : TaskCard
  location : Option CardLocation := none
  lastView : Option CardView := none
  /-- the latest reading gave up without reaching the card -/
  unreachable : Bool := false

/-- The cards of a conductor and how it reads them. -/
structure CardBook where
  entries : List (String × CardEntry) := []
  /-- where copies of workers' cards are read from -/
  inbox : String := ""
  /-- readings after the first, when a copy is torn or cannot be pulled -/
  retries : Nat := 3
  /-- the wait before the first retry, in nanoseconds; it doubles after each -/
  backoff : Nat := 200000000

namespace CardBook

/-- The entry of a card. -/
def lookup (b : CardBook) (id : String) : Option CardEntry := (b.entries.find? (·.1 == id)).map (·.2)

/-- Put an entry, replacing the card's previous one. -/
def put (b : CardBook) (id : String) (e : CardEntry) : CardBook :=
  if b.entries.any (·.1 == id) then
    { b with entries := b.entries.map fun (k, v) => if k == id then (k, e) else (k, v) }
  else { b with entries := b.entries ++ [(id, e)] }

/-- Forget a card. -/
def forget (b : CardBook) (id : String) : CardBook := { b with entries := b.entries.filter (·.1 != id) }

/-- A new card with every requirement open; texts and notes are trimmed. -/
def fresh (id epicId : String) (stage : StageName) (objective : String) (reqs : List String)
    (notes now : String) : TaskCard :=
  { cardId := id, epicId, stage, objective
    requirements := reqs.map fun t => ⟨Text.trim t, false⟩
    created := some now, started := none, completed := none, notes := Text.trim notes, signals := [] }

/-- Add a new card. -/
def create (b : CardBook) (c : TaskCard) : CardBook := b.put c.cardId { card := c }

/-- The status of a card by its last accepted view: unknown before the first
reading and while the latest reading gave up. -/
def status (b : CardBook) (id : String) : CardStatus :=
  match b.lookup id with
  | some e => if e.unreachable then .unknown else (e.lastView.map (·.status)).getD .unknown
  | none => .unknown

/-- The inbox copy of a card. -/
def inboxPath (b : CardBook) (id : String) : String := Path.join b.inbox (id ++ ".md")

end CardBook

namespace TaskCard

/-- A worker's copy keeps the identity and requirement texts of the card as
created; otherwise, why not. -/
def sameRequirements (created c : TaskCard) : Except String Unit :=
  if c.cardId != created.cardId || c.epicId != created.epicId || c.stage != created.stage then
    .error ("card identity changed to " ++ c.cardId ++ "/" ++ c.epicId ++ "/" ++ c.stage.val)
  else if c.requirements.length != created.requirements.length then
    .error ("requirement list changed length from " ++ Text.natText created.requirements.length ++
      " to " ++ Text.natText c.requirements.length)
  else
    let pairs := (created.requirements.zip c.requirements).zipIdx
    match pairs.find? (fun ((a, b), _) => a.text != b.text) with
    | some ((_, b), i) => .error ("requirement " ++ Text.natText (i + 1) ++ " text changed to '" ++ b.text ++ "'")
    | none => .ok ()

/-- A timestamp that was set stays as it was; otherwise, why not. -/
def keptStamp (name : String) (before after : Option String) : Except String Unit :=
  match before, after with
  | some _, none => .error (name ++ " timestamp was cleared")
  | some p, some n => if n != p then .error (name ++ " timestamp changed from " ++ p ++ " to " ++ n) else .ok ()
  | none, _ => .ok ()

/-- The card only moves forward from `before`: checked boxes stay checked,
timestamps stay set, signals stay declared; otherwise, why not. -/
def forward (before after : TaskCard) : Except String Unit := do
  let pairs := (before.requirements.zip after.requirements).zipIdx
  if let some (_, i) := pairs.find? (fun ((a, b), _) => a.done && !b.done) then
    throw ("requirement " ++ Text.natText (i + 1) ++ " was unchecked")
  keptStamp "created" before.created after.created
  keptStamp "started" before.started after.started
  keptStamp "completed" before.completed after.completed
  if let some s := before.signals.find? (!after.signals.contains ·) then
    throw ("signal " ++ s.code ++ " was removed")

theorem eq_of_mem_zip_self {α : Type} {l : List α} {a b : α} (h : (a, b) ∈ l.zip l) : a = b := by
  induction l with
  | nil => simp at h
  | cons x xs ih =>
    simp only [List.zip_cons_cons, List.mem_cons, Prod.mk.injEq] at h
    rcases h with ⟨h1, h2⟩ | h
    · rw [h1, h2]
    · exact ih h

theorem sameRequirements_self (c : TaskCard) : c.sameRequirements c = .ok () := by
  simp only [sameRequirements, bne_self_eq_false, Bool.or_self, Bool.false_eq_true, ↓reduceIte]
  have : ((c.requirements.zip c.requirements).zipIdx.find? fun (x : (Requirement × Requirement) × Nat) =>
      x.1.1.text != x.1.2.text) = none := by
    rw [List.find?_eq_none]
    intro x hx
    obtain ⟨⟨a, b⟩, i⟩ := x
    have hab : a = b := eq_of_mem_zip_self (List.fst_mem_of_mem_zipIdx hx)
    simp [hab]
  rw [this]

theorem forward_self_stamp (name : String) (x : Option String) : keptStamp name x x = .ok () := by
  cases x <;> simp [keptStamp]

end TaskCard

end EpicFlow
