import EpicFlow.Card.Basic

/-!
# Edits a worker makes to its card

A worker works on its task card by editing the file: it checks boxes, sets
timestamps, declares signals, or writes the text directly. A structured edit
reads the file as a card, changes one field and writes the card back in its
rendered form; a raw edit changes the text (write, truncate, append, replace),
touches the file, or deletes it.

An edit that needs the file fails with `no card file` when it is missing; a
structured edit fails with the card's fault when the file does not read as a
card.

Main statements:

* `cutBytes_le`: truncating never lengthens the text.
* `apply_write`: writing a text gives that text, whatever was there.
-/

set_option autoImplicit false

namespace EpicFlow

/-- What a worker does to its card file. -/
inductive CardEdit where
  | check (index : Nat)
  | uncheck (index : Nat)
  | checkAll
  | setText (index : Nat) (value : String)
  | addRequirement (value : String) (done : Bool)
  | removeRequirement (index : Nat)
  | start (value : String)
  | complete (value : String)
  | setCreated (value : String)
  | clearCreated
  | clearStarted
  | clearCompleted
  | signal (value : Signal)
  | clearSignals
  | notes (value : String)
  | cardId (value : String)
  | epicId (value : String)
  | stage (value : StageName)
  | delete
  | write (content : String)
  /-- cut the text to at most this many bytes, at a character boundary -/
  | truncate (bytes : Nat)
  | append (text : String)
  | replace (pattern replacement : String)
  /-- write the same text again, as a new version -/
  | touch

/-- What an edit does to the file. -/
inductive FileChange where
  | write (content : String)
  | remove
deriving DecidableEq, Repr

namespace CardEdit

/-- The longest prefix of the characters whose encoding fits in `bytes` bytes. -/
def cutChars : List Char → Nat → List Char
  | [], _ => []
  | c :: cs, n => if c.utf8Size ≤ n then c :: cutChars cs (n - c.utf8Size) else []

/-- The text cut to at most `bytes` bytes, at a character boundary. -/
def cutBytes (s : String) (bytes : Nat) : String := String.ofList (cutChars s.toList bytes)

theorem cutChars_length_le (cs : List Char) (n : Nat) : (cutChars cs n).length ≤ cs.length := by
  induction cs generalizing n with
  | nil => simp [cutChars]
  | cons c cs ih =>
    simp only [cutChars]
    split
    · simp only [List.length_cons]
      have := ih (n - c.utf8Size)
      omega
    · simp

theorem cutBytes_le (s : String) (bytes : Nat) : (cutBytes s bytes).length ≤ s.length := by
  simp only [cutBytes, String.length_ofList]
  rw [← String.length_toList]
  exact cutChars_length_le _ _

/-- Replace every occurrence of a pattern; an empty pattern occurs before
every character and at the end. -/
def replaceText (t p r : String) : String :=
  if p.isEmpty then String.join (t.toList.map fun c => r ++ c.toString) ++ r
  else Text.replaceAll t p r

/-- Change the requirement at an index. -/
def atRequirement (c : TaskCard) (i : Nat) (f : Requirement → Requirement) : Except String TaskCard :=
  if i < c.requirements.length then .ok { c with requirements := c.requirements.modify i f }
  else .error ("no requirement " ++ Text.natText i)

/-- A structured edit on the card. -/
def onCard : CardEdit → TaskCard → Except String TaskCard
  | check i, c => atRequirement c i fun r => { r with done := true }
  | uncheck i, c => atRequirement c i fun r => { r with done := false }
  | checkAll, c => .ok { c with requirements := c.requirements.map fun r => { r with done := true } }
  | setText i v, c => atRequirement c i fun r => { r with text := v }
  | addRequirement v d, c => .ok { c with requirements := c.requirements ++ [⟨v, d⟩] }
  | removeRequirement i, c =>
    if i < c.requirements.length then .ok { c with requirements := c.requirements.eraseIdx i }
    else .error ("no requirement " ++ Text.natText i)
  | start v, c => .ok { c with started := some v }
  | complete v, c => .ok { c with completed := some v }
  | setCreated v, c => .ok { c with created := some v }
  | clearCreated, c => .ok { c with created := none }
  | clearStarted, c => .ok { c with started := none }
  | clearCompleted, c => .ok { c with completed := none }
  | signal s, c => .ok { c with signals := c.signals ++ [s] }
  | clearSignals, c => .ok { c with signals := [] }
  | notes v, c => .ok { c with notes := v }
  | cardId v, c => .ok { c with cardId := v }
  | epicId v, c => .ok { c with epicId := v }
  | stage s, c => .ok { c with stage := s }
  | _, c => .ok c

/-- What an edit does to the file's text (`none` when there is no file). -/
def apply (e : CardEdit) (file : Option String) : Except String FileChange :=
  match e, file with
  | write t, _ => .ok (.write t)
  | _, none => .error "no card file"
  | delete, some _ => .ok .remove
  | truncate n, some t => .ok (.write (cutBytes t n))
  | append x, some t => .ok (.write (t ++ x))
  | replace p r, some t => .ok (.write (replaceText t p r))
  | touch, some t => .ok (.write t)
  | e, some t =>
    match TaskCard.parse t with
    | .error f => .error f.message
    | .ok c => (e.onCard c).map fun c' => .write c'.render

theorem apply_write (t : String) (file : Option String) : (write t).apply file = .ok (.write t) := by
  cases file <;> rfl

/-- Why the JSON form of an edit could not be read. -/
inductive FormError where
  /-- a value the edit carries is not valid -/
  | invalidValue (message : String)
  | unknownKind (kind : String)
  | missingKind

/-- Read an edit from its JSON form, `\x7b"do": kind, ...\x7d`, its texts passed
through `subst`. The value of a text edit is in `value`, the requirement in
`index`, a raw text in `content`, `text`, or `from` and `to`. -/
def ofJson (subst : String → String) (e : Json) : Except FormError CardEdit :=
  let v := subst (((e.get "value").str?).getD "")
  let i := ((e.get "index").nat?).getD 0
  let text := fun (k : String) => subst (((e.get k).str?).getD "")
  match (e.get "do").str? with
  | some "check" => .ok (check i)
  | some "uncheck" => .ok (uncheck i)
  | some "check_all" => .ok checkAll
  | some "set_text" => .ok (setText i v)
  | some "add_requirement" => .ok (addRequirement v (((e.get "done").bool?).getD false))
  | some "remove_requirement" => .ok (removeRequirement i)
  | some "start" => .ok (start v)
  | some "complete" => .ok (complete v)
  | some "set_created" => .ok (setCreated v)
  | some "clear_created" => .ok clearCreated
  | some "clear_started" => .ok clearStarted
  | some "clear_completed" => .ok clearCompleted
  | some "signal" => (Signal.parse v).map signal |>.mapError .invalidValue
  | some "clear_signals" => .ok clearSignals
  | some "notes" => .ok (notes v)
  | some "card_id" => .ok (cardId v)
  | some "epic_id" => .ok (epicId v)
  | some "stage" => (StageName.parse v).map stage |>.mapError .invalidValue
  | some "delete" => .ok delete
  | some "write" => .ok (write (text "content"))
  | some "truncate" => .ok (truncate (((e.get "bytes").nat?).getD 0))
  | some "append" => .ok (append (text "text"))
  | some "replace" => .ok (replace (text "from") (text "to"))
  | some "touch" => .ok touch
  | some d => .error (.unknownKind d)
  | none => .error .missingKind

end CardEdit

end EpicFlow
