import WebGateway.Program

/-!
# The command line of the gateway

The files that the flags name are read into memory, the program is run on them, and what it leaves
behind is written to the standard streams. Sockets are not opened: the program is run on a network
on which nothing listens, and is ended as soon as the gateway is up.
-/

set_option autoImplicit false
set_option relaxedAutoImplicit false

namespace WebGateway.Main

open Config (Flags)
open Disk (EntryName Node)

/-- The number of directories below each other that are read. -/
def maxDepth : Nat :=
  64

/-- Puts a node at a path; directories on the way are made. -/
def put (entries : List (EntryName × Node)) : List EntryName → Node → List (EntryName × Node)
  | [], _ => entries
  | [name], node => (name, node) :: entries.filter fun entry ↦ entry.1 ≠ name
  | name :: rest, node =>
    let inner := match entries.lookup name with
      | some (.directory inner) => inner
      | _ => []
    (name, .directory (put inner rest node)) :: entries.filter fun entry ↦ entry.1 ≠ name

/-- The file or directory at a path, as it is found. What is there and cannot be read is taken to
lack the permission. -/
def read : Nat → String → IO (Option Node)
  | 0, _ => return none
  | depth + 1, path => do
    try
      let place ← IO.FS.realPath path
      if ← place.isDir then
        match ← place.readDir.toBaseIO with
        | .error _ => return some (.closedDirectory .permissionDenied)
        | .ok found =>
          let mut entries := []
          for entry in found do
            if let some node ← read depth entry.path.toString then
              entries := (Disk.pathOf entry.fileName, node) :: entries
          return some (.directory entries.reverse)
      else if ← place.pathExists then
        match ← (IO.FS.readBinFile path).toBaseIO with
        | .error _ => return some (.file (.error .permissionDenied))
        | .ok content => return some (.file content)
      else return none
    catch _ => return none

/-- The paths that flags name. -/
def paths (flags : Flags) : List String :=
  let pair := match Config.declaredPair flags.certs with
    | .ok (certificate, key) => [certificate, key]
    | .error _ => []
  flags.webRoot :: flags.authorities.toList ++ pair

/-- All that flags name, as it is found. -/
def readDisk (flags : Flags) : IO Node := do
  let mut entries := []
  for path in paths flags do
    if let some node ← read maxDepth path then
      entries := put entries ((Disk.names (Disk.pathOf path)).filter (· ≠ [])) node
  return .directory entries

/-- Runs the program and writes what it leaves behind. -/
def run (arguments : List String) : IO UInt32 := do
  let disk ← match Flags.parse arguments with
    | .ok flags => readDisk flags
    | .error _ => pure (.directory [])
  let outcome := Program.run
    ⟨disk, { names := [], listening := [] }, ← IO.getEnv "RUST_LOG", .terminate⟩ arguments
  (← IO.getStdout).putStr outcome.output
  for complaint in outcome.complaint do
    IO.eprintln complaint
  for event in outcome.events do
    IO.eprintln event.text
  return UInt32.ofNat outcome.code

end WebGateway.Main

def main (arguments : List String) : IO UInt32 :=
  WebGateway.Main.run arguments
