import EpicFlow.Yaml.Compose
import EpicFlow.Text.Blank

/-!
# Front matter of a task card

A card opens with a `---` line; the lines up to the next line that reads
`---` (trailing blanks aside) are its front matter, a YAML mapping, and the
rest is the body. The matter is read with its surrounding blanks trimmed;
when nothing is left, or the YAML holds no document or only null, the card has
no front matter.

The mapping's fields are typed: texts must be strings, the requirement count
an integer (a negative one wraps to 64 bits), the signals a sequence of
strings. Unknown fields are ignored and optional ones may be absent or null.
Problems are worded `Type error, expected: <kind>` or
``Deserialize error: <YAML problem or missing field `x`>``.

Main statements:

* `Parts.body_of_no_break`: a text without a line break has no front matter.
* `wrapCount_nonneg`: a non-negative count is kept.
-/

set_option autoImplicit false

namespace EpicFlow.Card

/-- A document split at its front matter. -/
structure Parts where
  /-- the trimmed text between the `---` lines, when there is any -/
  matter : Option String
  body : String

/-- The line closes (or opens) front matter. -/
def isFence (line : String) : Bool := Text.trimEnd line == "---"

/-- Lines joined by line breaks, leading empty lines dropped. -/
def joinBody (ls : List String) : String := "\n".intercalate (ls.dropWhile (·.isEmpty))

/-- Walk the lines of the matter to its closing fence. -/
def matterLines : List String → List String → Option (List String × List String)
  | [], _ => none
  | l :: ls, acc => if isFence l then some (acc.reverse, ls) else matterLines ls (l :: acc)

/-- Split a document into front matter and body. -/
def Parts.ofText (input : String) : Parts :=
  if input.utf8ByteSize ≤ 3 then ⟨none, input⟩
  else
    match Text.splitOnce input '\n' with
    | some (first, rest) =>
      if isFence first then
        match matterLines (Text.lines rest) [] with
        | some (inner, after) =>
          let m := Text.trim ("\n".intercalate inner)
          ⟨if m.isEmpty then none else some m, joinBody after⟩
        | none => ⟨none, joinBody (Text.lines rest)⟩
      else ⟨none, joinBody (Text.lines input)⟩
    | none => ⟨none, joinBody (Text.lines input)⟩

theorem Parts.body_of_no_break (input : String) (h : Text.splitOnce input '\n' = none) :
    (Parts.ofText input).matter = none := by
  unfold Parts.ofText
  split <;> simp [h]

/-- The fields of a card's front matter. -/
structure FrontMatter where
  cardId : String
  epicId : String
  stage : String
  objective : String
  requirementCount : Nat
  created : Option String
  started : Option String
  completed : Option String
  signals : List String

/-- The message for a value of the wrong kind. -/
def typeError (kind : String) : String := "Type error, expected: " ++ kind

/-- An integer as an unsigned 64-bit count. -/
def wrapCount (i : Int) : Nat := (i % Int.pow 2 64).toNat

theorem wrapCount_nonneg (i : Int) (h0 : 0 ≤ i) (h1 : i < Int.pow 2 64) : wrapCount i = i.toNat := by
  unfold wrapCount
  rw [Int.emod_eq_of_lt h0 h1]

/-- A string field. -/
def asText : Yaml.Node → Except String String
  | .str s => .ok s
  | _ => .error (typeError "string")

/-- An optional string field: null (or an unresolved value) is absent. -/
def asOptText : Yaml.Node → Except String (Option String)
  | .null => .ok none
  | .bad => .ok none
  | n => (asText n).map some

/-- A count field. -/
def asCount : Yaml.Node → Except String Nat
  | .int i => .ok (wrapCount i)
  | _ => .error (typeError "integer")

/-- A list of strings. -/
def asTexts : Yaml.Node → Except String (List String)
  | .seq xs => xs.mapM asText
  | _ => .error (typeError "array")

/-- Check one field of the mapping against its kind; unknown fields pass. -/
def checkField (name : String) (v : Yaml.Node) : Except String Unit :=
  match name with
  | "card_id" | "epic_id" | "stage" | "objective" => (asText v).map fun _ => ()
  | "requirement_count" => (asCount v).map fun _ => ()
  | "created" | "started" | "completed" => (asOptText v).map fun _ => ()
  | "signals" => (asTexts v).map fun _ => ()
  | _ => .ok ()

/-- The entries of a mapping with string keys. -/
def namedEntries (entries : List (Yaml.Node × Yaml.Node)) : List (String × Yaml.Node) :=
  entries.filterMap fun e => match e.1 with
    | .str k => some (k, e.2)
    | _ => none

/-- Read the front matter fields from a YAML node; null is no front matter. -/
def FrontMatter.ofNode : Yaml.Node → Except String (Option FrontMatter)
  | .null => .ok none
  | .bad => .ok none
  | .map entries => do
    let fields := namedEntries entries
    fields.forM fun kv => checkField kv.1 kv.2
    let field (name : String) : Option Yaml.Node := (fields.find? (·.1 == name)).map (·.2)
    let need {α : Type} (name : String) (read : Yaml.Node → Except String α) : Except String α :=
      match field name with
      | some v => read v
      | none => .error ("Deserialize error: missing field `" ++ name ++ "`")
    let opt {α : Type} (name : String) (read : Yaml.Node → Except String α) (d : α) : Except String α :=
      match field name with
      | some v => read v
      | none => .ok d
    let cardId ← need "card_id" asText
    let epicId ← need "epic_id" asText
    let stage ← need "stage" asText
    let objective ← opt "objective" asText ""
    let requirementCount ← need "requirement_count" asCount
    let created ← opt "created" asOptText none
    let started ← opt "started" asOptText none
    let completed ← opt "completed" asOptText none
    let signals ← opt "signals" asTexts []
    pure (some { cardId, epicId, stage, objective, requirementCount, created, started, completed, signals })
  | _ => .error (typeError "hash map")

/-- Read front matter text. -/
def FrontMatter.read (matter : String) : Except String (Option FrontMatter) :=
  match Yaml.Node.ofText matter with
  | .error p => .error ("Deserialize error: " ++ p.render)
  | .ok none => .ok none
  | .ok (some n) => FrontMatter.ofNode n

end EpicFlow.Card
