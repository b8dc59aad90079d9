import EpicFlow.Error
import EpicFlow.Json.Shape
import EpicFlow.Text.Letters
import EpicFlow.Text.Blank

/-!
# Pattern memory

Patterns are named, scoped notes with a confidence, added to the notes of new
task cards. A pattern is identified by its name within its scope; storing it
again replaces its body and confidence in place.

A search takes the query's terms (runs of letters and digits of at least three
bytes, lower-cased, sorted, without repeats), scores each pattern of the scope
and of the global scope by how many terms occur in its lower-cased name or
body, keeps those that score, and lists them best first; patterns of equal
score keep the library's order: confidence first, then name.

Main statements:

* `upsert_size`: storing a pattern adds at most one entry.
* `search_length`: a search lists at most `limit` patterns.
-/

set_option autoImplicit false

namespace EpicFlow

/-- A named, scoped note. -/
structure PatternRecord where
  name : String
  body : String
  /-- a stage name or `global` -/
  scope : String
  /-- between 0 and 1 -/
  confidence : Float

namespace PatternRecord

/-- The scope every search includes. -/
def globalScope : String := "global"

/-- The shape of a pattern; confidence defaults to one half. -/
def shape : Json.Shape :=
  .record "PatternRecord"
    [("name", .string, none), ("body", .string, none), ("scope", .string, none),
     ("confidence", .f64, some (.num 0.5))]

/-- A pattern from the normal form of its shape. -/
def ofJson (j : Json) : PatternRecord :=
  ⟨((j.get "name").str?).getD "", ((j.get "body").str?).getD "", ((j.get "scope").str?).getD "",
    ((j.get "confidence").float?).getD 0.5⟩

/-- The JSON form of a pattern. -/
def toJson (p : PatternRecord) : Json :=
  .obj [("name", .str p.name), ("body", .str p.body), ("scope", .str p.scope),
    ("confidence", .num p.confidence)]

/-- The note line of a pattern. -/
def noteLine (p : PatternRecord) : String :=
  "- **" ++ p.name ++ "** (" ++ Decimal.fixed 2 p.confidence ++ "): " ++ Text.trim p.body

end PatternRecord

/-- Patterns as task card notes, one line each. -/
def renderNotes (ps : List PatternRecord) : String := "\n".intercalate (ps.map PatternRecord.noteLine)

/-- The pattern library, in the order patterns were first stored. -/
structure PatternBook where
  records : List PatternRecord := []

namespace PatternBook

/-- Store a pattern, replacing one of the same name and scope in place; true
when it is new. -/
def upsert (b : PatternBook) (r : PatternRecord) : PatternBook × Bool :=
  if b.records.any (fun p => p.name == r.name && p.scope == r.scope) then
    (⟨b.records.map fun p => if p.name == r.name && p.scope == r.scope then r else p⟩, false)
  else (⟨b.records ++ [r]⟩, true)

theorem upsert_size (b : PatternBook) (r : PatternRecord) :
    (b.upsert r).1.records.length ≤ b.records.length + 1 := by
  unfold upsert
  split <;> simp

/-- A confidence as the library keeps it: a whole number is kept as an
integer, so a negative zero reads back as zero. -/
def keptConfidence (x : Float) : Float := if x == 0.0 then 0.0 else x

/-- Check and store a pattern. -/
def store (b : PatternBook) (r : PatternRecord) : Except EngineError (PatternBook × Bool) :=
  if (Text.trim r.name).isEmpty then .error (.config "Pattern name cannot be empty")
  else if !(0.0 ≤ r.confidence && r.confidence ≤ 1.0) then
    .error (.config ("Pattern confidence " ++ Decimal.Notation.plain.render r.confidence ++
      " is outside 0.0..=1.0"))
  else .ok (b.upsert { r with confidence := keptConfidence r.confidence })

/-- Order of the library: higher confidence first, then by name. -/
def before (a b : PatternRecord) : Bool :=
  a.confidence > b.confidence || (a.confidence == b.confidence && decide (a.name ≤ b.name))

/-- The patterns of the first two scopes (the first twice when there is one). -/
def inScopes (b : PatternBook) (scopes : List String) : List PatternRecord :=
  let first := scopes.head?.getD ""
  let second := (scopes.drop 1).head?.getD first
  (b.records.filter fun p => p.scope == first || p.scope == second).mergeSort before

/-- Split a text at every character that is not a letter or digit. -/
def words (cs : List Char) : List String :=
  (cs.splitBy fun a b => Text.isAlnum a == Text.isAlnum b).filterMap fun w =>
    if w.all Text.isAlnum then some (String.ofList w) else none

/-- Insert into a sorted list of terms, once. -/
def insertTerm (t : String) : List String → List String
  | [] => [t]
  | u :: us => if t == u then u :: us else if t < u then t :: u :: us else u :: insertTerm t us

/-- The terms of a query. -/
def queryTerms (q : String) : List String :=
  ((words q.toList).filter (·.utf8ByteSize ≥ 3)).foldl (fun acc w => insertTerm (Text.toLower w) acc) []

/-- How many terms occur in a pattern's name or body. -/
def relevance (terms : List String) (p : PatternRecord) : Nat :=
  let name := Text.toLower p.name
  let body := Text.toLower p.body
  (terms.filter fun t => Text.contains name t || Text.contains body t).length

/-- The patterns of a scope (and the global scope) relevant to a query. -/
def search (b : PatternBook) (limit : Nat) (query scope : String) : List PatternRecord :=
  let terms := queryTerms query
  if terms.isEmpty then []
  else
    let scored := ((b.inScopes [scope, PatternRecord.globalScope]).map fun p => (relevance terms p, p)).filter
      (·.1 > 0)
    ((scored.mergeSort fun x y => x.1 ≥ y.1).take limit).map (·.2)

theorem search_length (b : PatternBook) (limit : Nat) (q s : String) :
    (b.search limit q s).length ≤ limit := by
  unfold search
  dsimp only
  split
  · simp
  · simp only [List.length_map, List.length_take]
    exact Nat.min_le_left _ _

end PatternBook

end EpicFlow
