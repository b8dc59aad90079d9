import EpicFlow.Text.Basic

/-!
# A tree of files

The files of a model machine: directories, and files with a text and a
version (every write makes a new version, which stands for the modification
time). A path is read as its components: empty components and `.` are
dropped, and a leading `/` makes it absolute. The root `/` and the empty
relative path always exist as directories; other roots (a scratch directory,
say) exist once they are made.

The operations fail the way the operating system does: a missing directory
on the way is `notFound`, a file on the way is `notADirectory`, making what
exists is `alreadyExists`, and reading or writing a directory as a file is
`isADirectory`. Making a directory with all its parents succeeds when the
directory is already there.

Main statements:

* `Assoc.get?_put`: a stored entry reads back.
* `write_clock`: a write makes a new version.
* `createDirAll_existing`: making a directory that exists changes nothing.
-/

set_option autoImplicit false

namespace EpicFlow

/-- An error the operating system reports for a file or a program. -/
inductive OsError where
  | notFound
  | alreadyExists
  | notADirectory
  | isADirectory
deriving DecidableEq, Repr

namespace OsError

/-- The text of the error, as the system prints it. -/
def message : OsError → String
  | notFound => "No such file or directory (os error 2)"
  | alreadyExists => "File exists (os error 17)"
  | notADirectory => "Not a directory (os error 20)"
  | isADirectory => "Is a directory (os error 21)"

end OsError

namespace Path

/-- The components of a path. -/
def parts (p : String) : List String := (Text.splitChar p '/').filter fun c => c != "" && c != "."

/-- The path starts at the root. -/
def isAbsolute (p : String) : Bool := Text.startsWith p "/"

/-- The path of a list of components. -/
def ofParts (abs : Bool) (cs : List String) : String :=
  if abs then "/" ++ "/".intercalate cs else "/".intercalate cs

/-- The normal form of a path. -/
def normal (p : String) : String := ofParts (isAbsolute p) (parts p)

/-- The directory holding a path; none for a root. -/
def parent (p : String) : Option String :=
  match (parts p).reverse with
  | _ :: rest => some (ofParts (isAbsolute p) rest.reverse)
  | [] => none

/-- The paths of the first `n` components, for `n` from one up to the whole. -/
def prefixes (p : String) : List String :=
  let cs := parts p
  (List.range cs.length).map fun n => ofParts (isAbsolute p) (cs.take (n + 1))

/-- The directories on the way to a path, outermost first, without the root
and without the path itself. -/
def ancestors (p : String) : List String := (prefixes p).dropLast

end Path

/-- A file: its text, and the version of its last write. -/
structure StoredFile where
  content : String
  version : Nat
deriving DecidableEq, Repr

namespace Assoc

/-- Put a value under a key, in place if the key is there and last otherwise. -/
def put {α : Type} (xs : List (String × α)) (k : String) (v : α) : List (String × α) :=
  if xs.any (·.1 == k) then xs.map fun (q, old) => if q == k then (q, v) else (q, old)
  else xs ++ [(k, v)]

/-- The value under a key. -/
def get? {α : Type} (xs : List (String × α)) (k : String) : Option α :=
  (xs.find? (·.1 == k)).map (·.2)

theorem get?_put {α : Type} (xs : List (String × α)) (k : String) (v : α) :
    get? (put xs k v) k = some v := by
  unfold put get?
  split
  · rename_i h
    induction xs with
    | nil => simp at h
    | cons x rest ih =>
      obtain ⟨q, w⟩ := x
      by_cases hq : q = k
      · subst hq; simp
      · have hne : (q == k) = false := by simpa using hq
        simp only [List.any_cons, hne, Bool.false_or] at h
        simp only [List.map_cons, hne, Bool.false_eq_true, ↓reduceIte, List.find?_cons]
        exact ih h
  · rename_i h
    have hnone : xs.find? (·.1 == k) = none := by
      rw [List.find?_eq_none]
      intro x hx hxk
      exact h (List.any_eq_true.mpr ⟨x, hx, hxk⟩)
    simp [List.find?_append, hnone]

end Assoc

/-- The files and directories of a machine. -/
structure FileTree where
  files : List (String × StoredFile) := []
  dirs : List String := []
  /-- the version of the latest write -/
  clock : Nat := 0
deriving Inhabited

namespace FileTree

/-- The path is a directory. -/
def isDir (t : FileTree) (p : String) : Bool :=
  let n := Path.normal p
  n == "" || n == "/" || t.dirs.contains n

/-- The file at a path. -/
def file? (t : FileTree) (p : String) : Option StoredFile := Assoc.get? t.files (Path.normal p)

/-- The path is a file. -/
def isFile (t : FileTree) (p : String) : Bool := (t.file? p).isSome

/-- Every directory on the way to a path exists. -/
def reach (t : FileTree) (p : String) : Except OsError Unit :=
  match (Path.ancestors p).find? (fun a => !t.isDir a) with
  | some a => if t.isFile a then .error .notADirectory else .error .notFound
  | none => .ok ()

/-- Something is at the path. -/
def present (t : FileTree) (p : String) : Bool :=
  match t.reach p with
  | .ok () => t.isDir p || t.isFile p
  | .error _ => false

/-- Make one directory. -/
def mkdir (t : FileTree) (p : String) : Except OsError FileTree := do
  t.reach p
  if t.isDir p || t.isFile p then throw .alreadyExists
  pure { t with dirs := t.dirs ++ [Path.normal p] }

/-- One step of making a directory with its parents: the prefix `q`, the
last one when `last` holds. -/
def makeStep (last : Bool) (t : FileTree) (q : String) : Except OsError FileTree :=
  if t.isDir q then .ok t
  else if t.isFile q then
    -- a file where a directory should be
    if last then .error .alreadyExists else .error .notADirectory
  else t.mkdir q

/-- Make a directory and every missing directory on the way. -/
def createDirAll (t : FileTree) (p : String) : Except OsError FileTree :=
  let qs := Path.prefixes p
  qs.zipIdx.foldlM (fun t (q, i) => makeStep (i + 1 == qs.length) t q) t

/-- Write a file as a new version. -/
def write (t : FileTree) (p : String) (content : String) : Except OsError FileTree := do
  t.reach p
  if t.isDir p then throw .isADirectory
  let v := t.clock + 1
  pure { t with clock := v, files := Assoc.put t.files (Path.normal p) ⟨content, v⟩ }

theorem write_clock (t t' : FileTree) (p c : String) (h : t.write p c = .ok t') :
    t'.clock = t.clock + 1 := by
  unfold write at h
  cases hr : t.reach p with
  | error e => simp [hr, bind, Except.bind] at h
  | ok u =>
    by_cases hd : t.isDir p = true
    · simp [hr, hd, bind, Except.bind, throw, throwThe, MonadExceptOf.throw] at h
    · simp only [hr, hd, bind, Except.bind, pure, Except.pure, Bool.false_eq_true, ↓reduceIte,
        Except.ok.injEq] at h
      rw [← h]

/-- Write a file, making its directory and every missing one on the way. -/
def writeAll (t : FileTree) (p : String) (content : String) : Except OsError FileTree := do
  let t ← match Path.parent p with
    | some d => t.createDirAll d
    | none => pure t
  t.write p content

/-- Read a file. -/
def read (t : FileTree) (p : String) : Except OsError String := do
  t.reach p
  if t.isDir p then throw .isADirectory
  match t.file? p with
  | some f => pure f.content
  | none => throw .notFound

/-- The version of what is at a path; a directory carries none. -/
def modified (t : FileTree) (p : String) : Except OsError (Option Nat) := do
  t.reach p
  if t.isDir p then pure none
  else match t.file? p with
    | some f => pure (some f.version)
    | none => throw .notFound

/-- Copy a file. -/
def copy (t : FileTree) (src dst : String) : Except OsError FileTree := do
  let c ← t.read src
  t.write dst c

/-- Remove a file. -/
def remove (t : FileTree) (p : String) : FileTree :=
  let n := Path.normal p
  { t with files := t.files.filter (·.1 != n) }

/-- Remove a directory and everything under it. -/
def removeTree (t : FileTree) (p : String) : FileTree :=
  let n := Path.normal p
  let inside := fun (q : String) => q == n || Text.startsWith q (n ++ "/")
  { t with files := t.files.filter (fun f => !inside f.1), dirs := t.dirs.filter (fun d => !inside d) }

theorem makeStep_dir (last : Bool) (t : FileTree) (q : String) (h : t.isDir q = true) :
    makeStep last t q = .ok t := by
  simp [makeStep, h]

theorem createDirAll_existing (t : FileTree) (p : String) (h : ∀ q ∈ Path.prefixes p, t.isDir q = true) :
    t.createDirAll p = .ok t := by
  unfold createDirAll
  simp only
  generalize hn : (Path.prefixes p).length = n
  have key : ∀ (ys : List (String × Nat)), (∀ y ∈ ys, t.isDir y.1 = true) →
      ys.foldlM (fun t (q, i) => makeStep (i + 1 == n) t q) t = .ok t := by
    intro ys
    induction ys with
    | nil => intro _; rfl
    | cons y rest ih =>
      intro hy
      obtain ⟨q, i⟩ := y
      have hq : t.isDir q = true := hy (q, i) (by simp)
      simp only [List.foldlM_cons, makeStep_dir _ _ _ hq, bind, Except.bind]
      exact ih fun z hz => hy z (by simp [hz])
  apply key
  intro y hy
  exact h y.1 (List.fst_mem_of_mem_zipIdx hy)

end FileTree

end EpicFlow
