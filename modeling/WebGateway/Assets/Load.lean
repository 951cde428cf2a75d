import WebGateway.Assets.Bundle
import WebGateway.Disk.Basic

/-!
# Loading a bundle

All files below a directory are read, through links as well. A path is resolved from the start for
each entry, so the links on the way to a directory count for all that is reached in it; a cycle of
links therefore ends as an error, and so does a link that leads nowhere, a closed directory or a
file that cannot be read. Files whose names are no text are left out without being read.
-/

set_option autoImplicit false
set_option relaxedAutoImplicit false

namespace WebGateway.Assets

open Disk (EntryName FileContent Node Place)

/-- Why a directory makes no bundle. -/
inductive LoadError where
  | notADirectory (path : String)
  | unreadable (path : List UInt8) (cause : SystemError)
  | noIndex
deriving DecidableEq, Repr

/-- A path as it is shown to people. -/
def shownPath (path : List UInt8) : String :=
  String.ofList (Text.ofUtf8Lossy path)

def LoadError.message : LoadError → String
  | notADirectory path => "asset root " ++ path ++ " is not a readable directory"
  | unreadable path cause =>
    "failed to read asset " ++ shownPath path ++ ": " ++ cause.message
  | noIndex => "asset bundle has no top-level index.html"

/-- The files that were reached, by key, and the paths of those whose names are no text. -/
structure Reached where
  files : List (String × ByteArray)
  skipped : List (List UInt8)

namespace Reached

def none : Reached :=
  ⟨[], []⟩

def append (first second : Reached) : Reached :=
  ⟨first.files ++ second.files, first.skipped ++ second.skipped⟩

end Reached

/-- The key of the file that is reached by the given names, if all of them are texts. -/
def keyOfNames? (names : List EntryName) : Option String :=
  (names.mapM Text.ofUtf8?).map fun texts ↦ String.ofList (['/'].intercalate texts)

/-- A single file. It is only read if it has a key. -/
def Reached.file (path : List UInt8) (names : List EntryName) (content : FileContent) :
    Except LoadError Reached :=
  match keyOfNames? names with
  | some key =>
    match content with
    | .ok body => .ok ⟨[(key, body)], []⟩
    | .error cause => .error (.unreadable path cause)
  | Option.none => .ok ⟨[], [path]⟩

/-- The path of an entry of a directory. -/
def joinName (path : List UInt8) (name : EntryName) : List UInt8 :=
  if path.getLast? = some Disk.slash then path ++ name else path ++ Disk.slash :: name

/-- Reads all entries of a directory that was reached by the path and the names. -/
def gather (root : Node) (budget : Nat) (place : Place) (path : List UInt8)
    (names : List EntryName) : List (EntryName × Node) → Except LoadError Reached
  | [] => .ok .none
  | (name, .file content) :: rest => do
    let file ← Reached.file (joinName path name) (names ++ [name]) content
    let others ← gather root budget place path names rest
    return file.append others
  | (name, .directory entries) :: rest => do
    let inner ← gather root budget (place.enter (.directory entries)) (joinName path name)
      (names ++ [name]) entries
    let others ← gather root budget place path names rest
    return inner.append others
  | (name, .closedDirectory cause) :: _ => .error (.unreadable (joinName path name) cause)
  | (name, .link target) :: rest => do
    let reached ←
      match budget with
      | 0 => .error (.unreadable (joinName path name) .tooManyLinks)
      | left + 1 =>
        match _h : Disk.walk root left (Disk.base root place target) (Disk.names target) with
        | .error cause => .error (.unreadable (joinName path name) cause)
        | .ok (goal, remaining) =>
          match goal.node with
          | .file content => Reached.file (joinName path name) (names ++ [name]) content
          | .directory entries =>
            gather root remaining goal (joinName path name) (names ++ [name]) entries
          | .closedDirectory cause => .error (.unreadable (joinName path name) cause)
          | .link _ => .error (.unreadable (joinName path name) .tooManyLinks)
    let others ← gather root budget place path names rest
    return reached.append others
termination_by entries => (budget, sizeOf entries)
decreasing_by
  all_goals first
    | (apply Prod.Lex.left
       exact Nat.lt_succ_of_le (Disk.walk_budget_le ‹_›))
    | (apply Prod.Lex.right
       simp only [List.cons.sizeOf_spec, Prod.mk.sizeOf_spec, Node.directory.sizeOf_spec]
       omega)

/-- Reads all files below a directory. -/
def reach (root : Node) (path : String) : Except LoadError Reached :=
  match Disk.resolve root (Disk.pathOf path) with
  | .error _ => .error (.notADirectory path)
  | .ok (place, budget) =>
    match place.node with
    | .directory entries => gather root budget place (Disk.pathOf path) [] entries
    | .closedDirectory cause => .error (.unreadable (Disk.pathOf path) cause)
    | _ => .error (.notADirectory path)

/-- The bundle of the files that were reached. -/
def Reached.bundle (reached : Reached) : Except LoadError Bundle :=
  match Bundle.ofEntries? reached.files with
  | some bundle => .ok bundle
  | Option.none => .error .noIndex

/-- Loads the bundle below a directory. -/
def load (root : Node) (path : String) : Except LoadError Bundle := do
  (← reach root path).bundle

end WebGateway.Assets
