import WebGateway.SystemError
import WebGateway.Text.Utf8

/-!
# Files, directories and links

A disk is a tree of named nodes: regular files, directories, and symbolic links, whose target is a
path. A path is resolved one name after the other; each link on the way is replaced by its target,
and at most forty links are followed for one path. Resolving ends because each step takes a name
from the path or a link from that budget. A file that is there may still not be readable, and a
directory may be closed: it can be neither listed nor entered.

Scope. The rights to list a directory and to enter it go together, and what a file gives does not
change while it is read. Limits on the length of a path or a name, devices and pipes are left out.
-/

set_option autoImplicit false
set_option relaxedAutoImplicit false

namespace WebGateway.Disk

/-- The name of an entry: any octets. -/
abbrev EntryName :=
  List UInt8

/-- The content of a file, or the reason why it cannot be read. -/
abbrev FileContent :=
  Except SystemError ByteArray

/-- Octets are the content of a file that can be read. -/
instance : Coe ByteArray FileContent :=
  ⟨.ok⟩

inductive Node where
  | file (content : FileContent)
  | directory (entries : List (EntryName × Node))
  | closedDirectory (cause : SystemError)
  | link (target : List UInt8)

/-- A node with the directories above it, the nearest first. -/
structure Place where
  node : Node
  above : List Node

namespace Place

/-- The directory above; the root lies in itself. -/
def parent (place : Place) : Place :=
  match place.above with
  | [] => place
  | node :: above => ⟨node, above⟩

/-- An entry of this directory. -/
def enter (place : Place) (node : Node) : Place :=
  ⟨node, place.node :: place.above⟩

end Place

/-- The octet of the slash. -/
def slash : UInt8 :=
  0x2F

/-- The names of a path. -/
def names (path : List UInt8) : List EntryName :=
  path.splitOn slash

/-- The path begins at the root. -/
def isAbsolute (path : List UInt8) : Bool :=
  path.head? == some slash

/-- The number of links that are followed for one path. -/
def maxLinks : Nat :=
  40

/-- The name of a directory itself. -/
def here : EntryName :=
  [0x2E]

/-- The name of the directory above. -/
def up : EntryName :=
  [0x2E, 0x2E]

/-- Where a link leads from: the root or the directory that holds it. -/
def base (root : Node) (place : Place) (target : List UInt8) : Place :=
  if isAbsolute target then ⟨root, []⟩ else place

/-- Follows names from a place. The result is a file or a directory, with the number of links that
may still be followed. An empty name, as behind a slash at the end of a path, enters nothing. -/
def walk (root : Node) (budget : Nat) (place : Place) :
    List EntryName → Except SystemError (Place × Nat)
  | [] => .ok (place, budget)
  | name :: rest =>
    match place.node with
    | .directory entries =>
      if name = [] ∨ name = here then walk root budget place rest
      else if name = up then walk root budget place.parent rest
      else
        match entries.lookup name with
        | none => .error .notFound
        | some (.link target) =>
          match budget with
          | 0 => .error .tooManyLinks
          | left + 1 => walk root left (base root place target) (names target ++ rest)
        | some node => walk root budget (place.enter node) rest
    | .closedDirectory cause =>
      if name = [] then walk root budget place rest else .error cause
    | _ => .error .notADirectory
termination_by path => (budget, path.length)

/-- Following names never adds to the links that may be followed. -/
theorem walk_budget_le {root : Node} {budget : Nat} {place : Place} {path : List EntryName}
    {result : Place × Nat} (h : walk root budget place path = .ok result) :
    result.2 ≤ budget := by
  fun_induction walk root budget place path with
  | case1 => cases h; exact Nat.le_refl _
  | case2 _ _ _ _ _ _ _ ih => exact ih h
  | case3 _ _ _ _ _ _ ih => exact ih h
  | case4 => cases h
  | case5 => cases h
  | case6 _ _ _ _ _ _ _ _ _ _ ih => exact Nat.le_succ_of_le (ih h)
  | case7 _ _ _ _ _ _ _ _ _ _ _ ih => exact ih h
  | case8 _ _ _ _ _ ih => exact ih h
  | case9 => cases h
  | case10 => cases h

/-- Resolves a path; what is not absolute starts at the root as well. -/
def resolve (root : Node) (path : List UInt8) : Except SystemError (Place × Nat) :=
  if path = [] then .error .notFound else walk root maxLinks ⟨root, []⟩ (names path)

/-- The octets of a path. -/
def pathOf (text : String) : List UInt8 :=
  Text.utf8 text.toList

/-- The path leads to a regular file. -/
def isFile (root : Node) (path : String) : Bool :=
  match resolve root (pathOf path) with
  | .ok (⟨.file _, _⟩, _) => true
  | _ => false

/-- The content of the file that a path leads to. -/
def readFile (root : Node) (path : String) : FileContent :=
  match resolve root (pathOf path) with
  | .error error => .error error
  | .ok (place, _) =>
    match place.node with
    | .file content => content
    | _ => .error .isADirectory

end WebGateway.Disk
