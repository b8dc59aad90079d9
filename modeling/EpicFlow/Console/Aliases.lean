import EpicFlow.Console.Basic

/-!
# Console: ids shown under aliases

Ids drawn at random (runs of agents, cards, epics: a prefix and eight
hexadecimal digits) are shown under aliases numbered in the order they
first appear in the answers: `run-00000001`, `run-00000002`, ... Each prefix
is numbered on its own. An id keeps its alias once it has one, and an alias
is never given an alias of its own. A request may name an id by its alias.

The scratch directory of a request is shown as `<root>`.
-/

set_option autoImplicit false

namespace EpicFlow.Console

/-- The prefixes of ids drawn at random, in the order they are numbered. -/
def aliasPrefixes : List String := ["run-", "card-", "epic-"]

/-- A lower-case hexadecimal digit. -/
def isHexLower (c : Char) : Bool := c.isDigit || ('a' ≤ c && c ≤ 'f')

/-- The ids with a prefix in some characters, in order. -/
def idsIn (pfx : List Char) : List Char → List String
  | [] => []
  | c :: cs =>
    let hex := ((c :: cs).drop pfx.length).take 8
    if pfx.isPrefixOf (c :: cs) && hex.length == 8 && hex.all isHexLower then
      String.ofList (pfx ++ hex) :: idsIn pfx cs
    else idsIn pfx cs

/-- The `n`-th alias of a prefix. -/
def aliasOf (pfx : String) (n : Nat) : String :=
  let d := Text.natText n
  pfx ++ String.ofList (List.replicate (8 - d.length) '0') ++ d

/-- Ids and the aliases they are shown under. -/
structure Aliases where
  pairs : List (String × String) := []

namespace Aliases

/-- Give an id the next alias of its prefix, unless it has one or is one. -/
def note (a : Aliases) (pfx id : String) : Aliases :=
  if a.pairs.any fun (r, al) => r == id || al == id then a
  else
    let n := (a.pairs.filter fun (_, al) => Text.startsWith al pfx).length + 1
    { pairs := a.pairs ++ [(id, aliasOf pfx n)] }

/-- Give aliases to the ids of some prefixes in an answer, in the order of
its text with the keys of its objects sorted. -/
def scanFor (pfxs : List String) (a : Aliases) (j : Json) : Aliases :=
  let cs := (Json.sortKeys j).compact.toList
  pfxs.foldl (fun a pfx => (idsIn pfx.toList cs).foldl (fun a id => a.note pfx id) a) a

/-- Give aliases to the ids of an answer of every prefix. -/
def scan (a : Aliases) (j : Json) : Aliases := a.scanFor aliasPrefixes j

/-- An answer with its ids shown under their aliases. -/
def display (a : Aliases) (j : Json) : Json := j.mapStrings (Text.replaceEach · a.pairs)

/-- The id an alias stands for; any other text stands for itself. -/
def real (a : Aliases) (s : String) : String :=
  match a.pairs.find? (·.2 == s) with
  | some (r, _) => r
  | none => s

end Aliases

/-- The directory the console works in for a request: a fresh temporary
directory, named as such directories are, so that texts holding its path
have their usual length. -/
def scratch : String := "/tmp/.tmpQ8x2Lw"

/-- Read a request's `<root>` as the scratch directory. -/
def fromRoot (j : Json) : Json := j.mapStrings (Text.replaceAll · "<root>" scratch)

/-- Show the scratch directory of an answer as `<root>`. -/
def toRoot (j : Json) : Json := j.mapStrings (Text.replaceAll · scratch "<root>")

/-- A path of a request: a relative one is under the scratch directory. -/
def underScratch (p : String) : String := Path.join scratch p

end EpicFlow.Console
