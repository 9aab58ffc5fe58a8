import Yardstick.Session.Run
import Yardstick.Settings.Environment

/-!
# The command line

Copies what a run may ask for into a store, runs the program over it, prints the log records and
carries out what the program wrote.
-/

namespace Yardstick

/-- What is at a path of the file system. -/
def nodeAt (p : Path) : IO (Option Node) := do
  let .ok real ← (IO.FS.realPath p.text).toBaseIO | return none
  if ← real.isDir then return some .directory
  let .ok bytes ← (IO.FS.readBinFile real).toBaseIO | return none
  return some (.file bytes)

namespace Store

/-- Copies what is at a path into the store. -/
def copyNode (s : Store) (p : Path) : IO Store := do
  match s.locate p, ← nodeAt p with
  | .ok place, some node => return s.put place node
  | _, _ => return s

/-- Copies what is at a path, after all that is on the way to it. -/
def copyPath (s : Store) (p : Path) : IO Store :=
  (List.range (p.parts.length + 1)).foldlM (fun s n => s.copyNode { p with parts := p.parts.take n }) s

/-- Copies a directory and what is in it. -/
def copyDirectory (s : Store) (p : Path) : IO Store := do
  let s ← s.copyPath p
  let .ok real ← (IO.FS.realPath p.text).toBaseIO | return s
  if ← real.isDir then (← real.readDir).foldlM (fun s e => s.copyNode (p.child e.fileName)) s
  else return s

/-- Copies what a run with these settings may ask for. -/
def copyFor (s : Store) (settings : Settings) : IO Store := do
  let s ← (settings.files.map (·.fromHome s.homePath)).foldlM copyPath s
  match nonempty? settings.translationsDir with
  | some directory => s.copyDirectory (.ofText directory)
  | none => return s

end Store

/-- The variables of the environment. -/
def environment : IO (List (String × String)) := do
  let .ok block ← (IO.FS.readBinFile "/proc/self/environ").toBaseIO | return []
  return Environment.ofBlock block

/-- An empty store with the home directory of an environment. -/
def emptyStore (environment : List (String × String)) : Store where
  nodes := []
  home := ((environment.lookup "HOME").map fun home => (Path.ofText home).parts.reverse).getD ["root"]

/-- Makes a directory or a file as a store has it. -/
def carryOut (place : Place) : Node → IO Unit
  | .directory => IO.FS.createDirAll place.path.text
  | .file bytes => IO.FS.writeBinFile place.path.text bytes

end Yardstick

open Yardstick in
def main : IO UInt32 := do
  let environment ← environment
  let store ← (emptyStore environment).copyPath Work.envFile
  let store ← match (Work.settings [] environment).outcome store with
    | (.ok settings, _) => store.copyFor settings
    | (.error _, _) => pure store
  let finished := program environment store
  finished.records.forM fun r => IO.println (r.line finished.logJson)
  (Store.additions store finished.store).forM fun (place, node) => carryOut place node
  match finished.result with
  | .ok _ => return 0
  | .error f =>
    f.lines.forM IO.eprintln
    return 1
