import EpicFlow.Json.Value

/-!
# The expected shape of a JSON document

Settings, stage descriptors, cards and patterns are read from JSON against a
`Shape`: records with named fields (each with a default or required),
optional values, sequences, unsigned integers of a width, doubles, strings
(possibly checked by a parser of the domain) and closed sets of names.

Reading a value against a shape either fails with a message that names what
was found and what was expected (`invalid type: string "x", expected u64`,
``missing field `name` ``, ``unknown variant `v`, expected `a` or `b` ``),
or gives the value in normal form: records with every field, in declaration
order, defaults filled in.

Main statement:

* `decode_bool`: a boolean is read back as itself.
-/

set_option autoImplicit false

namespace EpicFlow.Json

/-- What a JSON document is expected to hold. -/
inductive Shape where
  /-- any value, kept as it is -/
  | any
  | bool
  /-- an unsigned integer below `2 ^ bits`, named `name` in messages -/
  | unsigned (bits : Nat) (name : String)
  | f64
  | string
  /-- a file system path, given as a string -/
  | path
  /-- a string turned into its normal form by a parser of the domain -/
  | checked (parse : String → Except String String)
  /-- `null` or a value of the inner shape -/
  | opt (s : Shape)
  | seq (s : Shape)
  /-- a record: fields with their shape and, unless required, a default -/
  | record (name : String) (fields : List (String × Shape × Option Json))
  /-- one of a closed set of names -/
  | choice (names : List String)

/-- `u64`. -/
def Shape.u64 : Shape := .unsigned 64 "u64"
/-- `u32`. -/
def Shape.u32 : Shape := .unsigned 32 "u32"
/-- `usize`, the width of a count. -/
def Shape.usize : Shape := .unsigned 64 "usize"

/-- How a shape is named when a value does not fit it. -/
def Shape.expecting : Shape → String
  | .any => "any value"
  | .bool => "a boolean"
  | .unsigned _ n => n
  | .f64 => "f64"
  | .string => "a string"
  | .path => "path string"
  | .checked _ => "a string"
  | .opt _ => "option"
  | .seq _ => "a sequence"
  | .record n _ => "struct " ++ n
  | .choice _ => "string or map"

/-- A double as a message shows it: the fewest digits, as JSON writes them. -/
def floatShown (x : Float) : String := Decimal.Notation.json.render x

/-- How a found value is named in a message. -/
def unexpected : Json → String
  | .null => "null"
  | .bool b => "boolean `" ++ (if b then "true" else "false") ++ "`"
  | .int i => "integer `" ++ Text.intText i ++ "`"
  | .num x => "floating point `" ++ floatShown x ++ "`"
  | .str s => "string " ++ Text.debugQuote s
  | .arr _ => "sequence"
  | .obj _ => "map"

/-- The message for a value of the wrong kind. -/
def invalidType (found : String) (s : Shape) : String :=
  "invalid type: " ++ found ++ ", expected " ++ s.expecting

/-- The message for a value of the right kind out of range. -/
def invalidValue (found : String) (s : Shape) : String :=
  "invalid value: " ++ found ++ ", expected " ++ s.expecting

/-- The message for a name outside a closed set. -/
def unknownVariant (v : String) (names : List String) : String :=
  let q := fun (n : String) => "`" ++ n ++ "`"
  let expected := match names with
    | [] => "there are no variants"
    | [a] => q a
    | [a, b] => q a ++ " or " ++ q b
    | _ => "one of " ++ ", ".intercalate (names.map q)
  "unknown variant `" ++ v ++ "`, expected " ++ expected

/-- The message for an object that names a variant by other than one key. -/
def notOneKey : String := "invalid value: map, expected map with a single key"

/-- The members of an object, a repeated key keeping its last value in the
place of its first. -/
def lastOfEach (kvs : List (String × Json)) : List (String × Json) :=
  kvs.foldl (fun acc kv =>
    if acc.any (·.1 == kv.1) then acc.map (fun e => if e.1 == kv.1 then kv else e) else acc ++ [kv]) []

/-- Read a variant named by the one key of an object; its value must be
null, the variants having no data. -/
def decodeVariant (names : List String) (kvs : List (String × Json)) : Except String Json :=
  match lastOfEach kvs with
  | [(k, v)] =>
    if !names.contains k then .error (unknownVariant k names)
    else match v with
      | .null => .ok (.str k)
      | _ => .error ("invalid type: " ++ unexpected v ++ ", expected unit")
  | _ => .error notOneKey

/-- The message for a required field that is absent. -/
def missingField (name : String) : String := "missing field `" ++ name ++ "`"

/-- Read an unsigned integer of a width. -/
def decodeUnsigned (bits : Nat) (s : Shape) (j : Json) : Except String Json :=
  match j with
  | .int i =>
    if i < 0 then .error (invalidValue (unexpected j) s)
    else if i.toNat < Nat.pow 2 bits then .ok (.int i)
    else .error (invalidValue (unexpected j) s)
  | _ => .error (invalidType (unexpected j) s)

mutual

/-- Read a JSON value against a shape, the value already parsed. -/
def decode : Shape → Json → Except String Json
  | .any, j => .ok j
  | .bool, .bool b => .ok (.bool b)
  | .bool, j => .error (invalidType (unexpected j) .bool)
  | .unsigned bits n, j => decodeUnsigned bits (.unsigned bits n) j
  | .f64, .num x => .ok (.num x)
  | .f64, .int i => .ok (.num ((Json.int i).float?.getD 0.0))
  | .f64, j => .error (invalidType (unexpected j) .f64)
  | .string, .str t => .ok (.str t)
  | .string, j => .error (invalidType (unexpected j) .string)
  | .path, .str t => .ok (.str t)
  | .path, j => .error (invalidType (unexpected j) .path)
  | .checked p, .str t => (p t).map Json.str
  | .checked _, j => .error (invalidType (unexpected j) .string)
  | .opt _, .null => .ok .null
  | .opt inner, j => decode inner j
  | .seq inner, .arr xs => (xs.mapM (decode inner)).map Json.arr
  | .seq inner, j => .error (invalidType (unexpected j) (.seq inner))
  | .record _ fields, .obj kvs => (decodeFields fields kvs).map Json.obj
  | .record n fields, j => .error (invalidType (unexpected j) (.record n fields))
  | .choice names, .str t =>
    if names.contains t then .ok (.str t) else .error (unknownVariant t names)
  | .choice names, .obj kvs => decodeVariant names kvs
  | .choice names, j => .error (invalidType (unexpected j) (.choice names))

/-- Read the fields of a record from the members of an object. -/
def decodeFields : List (String × Shape × Option Json) → List (String × Json) →
    Except String (List (String × Json))
  | [], _ => .ok []
  | (name, fs, dflt) :: rest, kvs => do
    let d ← match kvs.reverse.find? (·.1 == name), dflt with
      | some (_, v), _ => decode fs v
      | none, some d => .ok d
      | none, none => .error (missingField name)
    let r ← decodeFields rest kvs
    pure ((name, d) :: r)

end

theorem decode_bool (b : Bool) : decode .bool (.bool b) = .ok (.bool b) := by simp [decode]

end EpicFlow.Json
