import EpicFlow.Yaml.Lexer
import EpicFlow.Yaml.Node

/-!
# Composing YAML documents

`Node.ofText` reads the token stream into documents and gives the first one.
The grammar is that of YAML 1.2 block and flow collections: a block mapping
is a run of `key`/`value` pairs closed by `blockEnd`, a block sequence a run
of `blockEntry` items, and flow collections are bracketed and separated by
commas. An absent key or value is null. Anchors name nodes that aliases
repeat.

A key written twice in one mapping is an error placed at the value of the
second one; it is reported only when the whole text is otherwise well formed,
since reading goes on to the end and a later syntax error wins.

Directives stand before a `---`. Each one replaces the tag handles declared
so far, so only a `%TAG` directly before the `---` declares its handle; the
handles are forgotten at the end of the document. A tag's handle resolves to
its declared prefix, `!!` to the core schema unless declared otherwise, and
a named handle that is not declared is an error. A node with a tag or anchor
and no content is the empty plain scalar.

Main statement:

* `insertEntry_fresh`: a new key is appended to the mapping.
-/

set_option autoImplicit false

namespace EpicFlow.Yaml

/-- What composing remembers besides the tokens. -/
structure Book where
  /-- anchor names with their numbers, newest first -/
  anchors : List (String × Nat) := []
  /-- finished anchored nodes by number -/
  nodes : List (Nat × Node) := []
  nextId : Nat := 1
  /-- the first repeated key -/
  repeated : Option Problem := none
  /-- the tag handles declared for the document, with their prefixes -/
  tags : List (String × String) := []

/-- Composing: tokens pulled from the lexer, with the book. -/
abbrev Compose := StateT Book Lex

namespace Compose

def peek : Compose Token := liftM Lexer.peekToken
def take : Compose Unit := liftM Lexer.takeToken
def failAt {α : Type} (m : Mark) (msg : String) : Compose α := throw ⟨m, msg⟩

/-- Give an anchor name a fresh number. -/
def register (name : String) : Compose Nat := do
  let b ← get
  set { b with anchors := (name, b.nextId) :: b.anchors, nextId := b.nextId + 1 }
  pure b.nextId

/-- Record an anchored node once it is finished. -/
def remember (id : Option Nat) (n : Node) : Compose Unit :=
  match id with
  | some i => modify fun b => { b with nodes := (i, n) :: b.nodes }
  | none => pure ()

end Compose

/-- Add an entry to a mapping; a repeated key replaces the value in place. -/
def insertEntry (entries : List (Node × Node)) (k v : Node) : List (Node × Node) :=
  if entries.any (fun e => e.1.same k) then
    entries.map fun e => if e.1.same k then (e.1, v) else e
  else entries ++ [(k, v)]

theorem insertEntry_fresh (entries : List (Node × Node)) (k v : Node)
    (h : entries.any (fun e => e.1.same k) = false) : insertEntry entries k v = entries ++ [(k, v)] := by
  simp [insertEntry, h]

namespace Compose

/-- Add an entry, noting the first repeated key at the mark of its value. -/
def insert (entries : List (Node × Node)) (k v : Node) (at? : Mark) : Compose (List (Node × Node)) := do
  if entries.any (fun e => e.1.same k) then
    modify fun b =>
      if b.repeated.isNone then { b with repeated := some ⟨at?, k.shown ++ ": duplicated key in mapping"⟩ }
      else b
  pure (insertEntry entries k v)

/-- Resolve a tag's handle to its prefix: `!!` is the core schema unless
declared otherwise, a declared handle its prefix; a named handle `!name!`
must be declared, and `!` stays as it is. -/
def resolveTag (m : Mark) (handle suffix : String) : Compose (String × String) := do
  let tags := (← get).tags
  if handle == "!!" then pure ((tags.lookup "!!").getD coreTagPrefix, suffix)
  else if handle.isEmpty && suffix == "!" then pure ((tags.lookup "").getD "", suffix)
  else
    match tags.lookup handle with
    | some p => pure (p, suffix)
    | none =>
      if handle.length ≥ 2 && handle.startsWith "!" && handle.endsWith "!" then
        failAt m "the handle wasn't declared"
      else pure (handle, suffix)

/-- An anchor and a tag before a node, in either order; the tag resolved. -/
def properties : Compose (Option Nat × Option (String × String)) := do
  let t ← peek
  match t.kind with
  | .anchor a => do
    take
    let id ← register a
    let t2 ← peek
    match t2.kind with
    | .tag h s => do
      take
      let r ← resolveTag t.mark h s
      pure (some id, some r)
    | _ => pure (some id, none)
  | .tag h s => do
    take
    let r ← resolveTag t.mark h s
    let t2 ← peek
    match t2.kind with
    | .anchor a => do take; let id ← register a; pure (some id, some r)
    | _ => pure (none, some r)
  | _ => pure (none, none)

/-- The token ends an empty node in a block mapping. -/
def endsBlockNode (k : TokenKind) : Bool := k == .key || k == .value || k == .blockEnd

mutual

/-- A node, and the mark of the event that finishes it. `block` allows block
collections; `indentless` allows a sequence at the indent of its key. -/
def node : Nat → Bool → Bool → Compose (Node × Mark)
  | 0, _, _ => do let t ← peek; failAt t.mark "recursion limit exceeded"
  | fuel + 1, block, indentless => do
    let t ← peek
    match t.kind with
    | .alias name => do
      take
      let b ← get
      match b.anchors.find? (·.1 == name) with
      | some (_, id) => pure (((b.nodes.find? (·.1 == id)).map (·.2)).getD .bad, t.mark)
      | none => failAt t.mark "while parsing node, found unknown anchor"
    | _ => do
      let (anchor, tag) ← properties
      let t ← peek
      let empty : Compose (Node × Mark) :=
        if anchor.isSome || tag.isSome then pure (Node.ofScalar .plain tag "", t.mark)
        else failAt t.mark "while parsing a node, did not find expected node content"
      let (n, m) ← match t.kind with
        | .blockEntry => if indentless then indentlessSeq fuel [] else empty
        | .scalar style v => do take; pure (Node.ofScalar style tag v, t.mark)
        | .flowSequenceStart => do take; flowSeq fuel true []
        | .flowMappingStart => do take; flowMap fuel true []
        | .blockSequenceStart => if block then do take; blockSeq fuel [] else empty
        | .blockMappingStart => if block then do take; blockMap fuel [] else empty
        | _ => empty
      remember anchor n
      pure (n, m)

/-- The entries of a block mapping, its start taken. -/
def blockMap : Nat → List (Node × Node) → Compose (Node × Mark)
  | 0, _ => do let t ← peek; failAt t.mark "recursion limit exceeded"
  | fuel + 1, acc => do
    let t ← peek
    match t.kind with
    | .key => do
      take
      let t2 ← peek
      let (k, _) ← if endsBlockNode t2.kind then pure (Node.null, t2.mark) else node fuel true true
      let (v, vm) ← blockValue fuel
      blockMap fuel (← insert acc k v vm)
    | .value => do
      let (v, vm) ← blockValue fuel
      blockMap fuel (← insert acc .null v vm)
    | .blockEnd => do take; pure (.map acc, t.mark)
    | _ => failAt t.mark "while parsing a block mapping, did not find expected key"

/-- The value of a block mapping entry (null when absent). -/
def blockValue : Nat → Compose (Node × Mark)
  | 0 => do let t ← peek; failAt t.mark "recursion limit exceeded"
  | fuel + 1 => do
    let t ← peek
    if t.kind == .value then do
      take
      let t2 ← peek
      if endsBlockNode t2.kind then pure (Node.null, t2.mark) else node fuel true true
    else pure (Node.null, t.mark)

/-- The items of a block sequence, its start taken. -/
def blockSeq : Nat → List Node → Compose (Node × Mark)
  | 0, _ => do let t ← peek; failAt t.mark "recursion limit exceeded"
  | fuel + 1, acc => do
    let t ← peek
    match t.kind with
    | .blockEnd => do take; pure (.seq acc.reverse, t.mark)
    | .blockEntry => do
      take
      let t2 ← peek
      let (n, _) ← if t2.kind == .blockEntry || t2.kind == .blockEnd then pure (Node.null, t2.mark)
        else node fuel true false
      blockSeq fuel (n :: acc)
    | _ => failAt t.mark "while parsing a block collection, did not find expected '-' indicator"

/-- The items of a sequence written at the indent of its key. -/
def indentlessSeq : Nat → List Node → Compose (Node × Mark)
  | 0, _ => do let t ← peek; failAt t.mark "recursion limit exceeded"
  | fuel + 1, acc => do
    let t ← peek
    if t.kind == .blockEntry then do
      take
      let t2 ← peek
      let (n, _) ← if t2.kind == .blockEntry || endsBlockNode t2.kind then pure (Node.null, t2.mark)
        else node fuel true false
      indentlessSeq fuel (n :: acc)
    else pure (.seq acc.reverse, t.mark)

/-- The items of a flow sequence, its bracket taken. -/
def flowSeq : Nat → Bool → List Node → Compose (Node × Mark)
  | 0, _, _ => do let t ← peek; failAt t.mark "recursion limit exceeded"
  | fuel + 1, first, acc => do
    let t ← peek
    if t.kind == .flowSequenceEnd then do take; pure (.seq acc.reverse, t.mark)
    else
      if !first then
        if t.kind == .flowEntry then take
        else failAt t.mark "while parsing a flow sequence, expected ',' or ']'"
      let t ← peek
      match t.kind with
      | .flowSequenceEnd => do take; pure (.seq acc.reverse, t.mark)
      | .key => do
        take
        let p ← flowPair fuel
        flowSeq fuel false (p :: acc)
      | _ => do
        let (n, _) ← node fuel false false
        flowSeq fuel false (n :: acc)

/-- A one-entry mapping inside a flow sequence, its `key` taken. An absent
key also takes the token after it. -/
def flowPair : Nat → Compose Node
  | 0 => do let t ← peek; failAt t.mark "recursion limit exceeded"
  | fuel + 1 => do
    let t ← peek
    let k ← if t.kind == .value || t.kind == .flowEntry || t.kind == .flowSequenceEnd then do
        take
        pure Node.null
      else do
        let (k, _) ← node fuel false false
        pure k
    let t ← peek
    if t.kind == .value then do
      take
      let t2 ← peek
      if t2.kind == .flowEntry || t2.kind == .flowSequenceEnd then pure (.map [(k, .null)])
      else do
        let (v, _) ← node fuel false false
        pure (.map [(k, v)])
    else pure (.map [(k, .null)])

/-- The entries of a flow mapping, its brace taken. -/
def flowMap : Nat → Bool → List (Node × Node) → Compose (Node × Mark)
  | 0, _, _ => do let t ← peek; failAt t.mark "recursion limit exceeded"
  | fuel + 1, first, acc => do
    let t ← peek
    if t.kind == .flowMappingEnd then do take; pure (.map acc, t.mark)
    else
      if !first then
        if t.kind == .flowEntry then take
        else failAt t.mark "while parsing a flow mapping, did not find expected ',' or '\x7d'"
      let t2 ← peek
      match t2.kind with
      | .key => do
        take
        let t3 ← peek
        let (k, _) ← if t3.kind == .value || t3.kind == .flowEntry || t3.kind == .flowMappingEnd then
            pure (Node.null, t3.mark)
          else node fuel false false
        let (v, vm) ← flowValue fuel
        flowMap fuel false (← insert acc k v vm)
      | .value => do
        let (v, vm) ← flowValue fuel
        flowMap fuel false (← insert acc .null v vm)
      | .flowMappingEnd => do take; pure (.map acc, t.mark)
      | _ => do
        let (k, _) ← node fuel false false
        let t4 ← peek
        flowMap fuel false (← insert acc k .null t4.mark)

/-- The value of a flow mapping entry (null when absent). -/
def flowValue : Nat → Compose (Node × Mark)
  | 0 => do let t ← peek; failAt t.mark "recursion limit exceeded"
  | fuel + 1 => do
    let t ← peek
    if t.kind == .value then do
      take
      let t2 ← peek
      if t2.kind == .flowEntry || t2.kind == .flowMappingEnd then pure (Node.null, t.mark)
      else node fuel false false
    else pure (Node.null, t.mark)

end

/-- Skip the `...` markers between documents. -/
def skipDocumentEnds : Nat → Compose Unit
  | 0 => pure ()
  | n + 1 => do
    if (← peek).kind == .documentEnd then do take; skipDocumentEnds n else pure ()

/-- The token is a directive. -/
def isDirective : TokenKind → Bool
  | .versionDirective _ _ | .tagDirective _ _ => true
  | _ => false

/-- Take the directives before a document. A second `%YAML` is an error;
each directive replaces the declared handles, a `%TAG` with its own. -/
def directives : Nat → Bool → Compose Unit
  | 0, _ => pure ()
  | n + 1, seen => do
    let t ← peek
    match t.kind with
    | .versionDirective _ _ => do
      if seen then failAt t.mark "duplicate version directive"
      modify fun b => { b with tags := [] }
      take
      directives n true
    | .tagDirective h p => do
      modify fun b => { b with tags := [(h, p)] }
      take
      directives n seen
    | _ => pure ()

/-- Read the documents to the end of the stream, keeping the first. A
document opens with `---`, its directives before it, unless it is the first
or the one before closed with `...`; a directive after a document needs the
`...`. -/
def documents (depth : Nat) : Nat → Bool → Option Node → Compose (Option Node)
  | 0, _, first => pure first
  | n + 1, implicit, first => do
    skipDocumentEnds depth
    let t ← peek
    if t.kind == .streamEnd then do take; pure first
    else
      let doc ← if isDirective t.kind || t.kind == .documentStart || !implicit then do
          directives depth false
          let t2 ← peek
          if t2.kind != .documentStart then failAt t2.mark "did not find expected <document start>"
          take
          modify fun b => { b with anchors := [] }
          let t3 ← peek
          if isDirective t3.kind || t3.kind == .documentStart || t3.kind == .documentEnd ||
              t3.kind == .streamEnd then pure Node.null
          else do let (d, _) ← node depth true false; pure d
        else do
          modify fun b => { b with anchors := [] }
          let (d, _) ← node depth true false
          pure d
      let t4 ← peek
      let closed := t4.kind == .documentEnd
      if closed then take
      modify fun b => { b with tags := [] }
      if !closed && isDirective t4.kind then
        failAt t4.mark "missing explicit document end marker before directive"
      documents depth n closed (first <|> some doc)

end Compose

/-- The first document of a YAML text, or none when it holds no document. -/
def Node.ofText (text : String) : Except Problem (Option Node) :=
  let lexer : Lexer := { cs := text.toList.toArray }
  let fuel := 4 * text.length + 16
  let run : Compose (Option Node) := do
    let _ ← Compose.peek
    Compose.take
    Compose.documents fuel fuel true none
  match (run.run {}).run lexer with
  | .error p => .error p
  | .ok ((first, book), _) =>
    match book.repeated with
    | some p => .error p
    | none => .ok first

end EpicFlow.Yaml
