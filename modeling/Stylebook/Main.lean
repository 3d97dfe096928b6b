import Stylebook.Command.Run

/-!
# The command line

Reads the files that a command speaks of, runs the command, and prints what comes of it. Warnings go to the error
stream.
-/

namespace Stylebook

/-- The node at a path of the file system; folders are followed down to the given depth. -/
def loadNode (path : String) : (depth : Nat) → IO (Option Node)
  | 0 => return none
  | depth + 1 => do
    let place := System.mkFilePath [path]
    if ← place.isDir then
      let mut entries := #[]
      for entry in ← place.readDir do
        match ← loadNode (path ++ "/" ++ entry.fileName) depth with
        | some node => entries := entries.push (entry.fileName.toList, node)
        | none => pure ()
      return some (.folder entries.toList)
    else if ← place.pathExists then
      return some (.file (← IO.FS.readBinFile place).toList)
    else return none

/-- The node at a path. No path of the file system has as many names as the depth allows. -/
def loadPath (p : Path) : IO (Option Node) := loadNode (String.ofList p.text) 4096

/-- The files that a command reads: its settings, and then its sources. -/
def loadFiles (c : Command) : IO Files := do
  let place := Settings.pathOf c.choices.config
  let node ← loadPath place
  let settingsOnly : Files := fun p => if p == place then node else none
  let sources := match c.settings settingsOnly with
    | .ok s => c.sourcesWith s
    | .error _ => []
  let nodes ← sources.mapM fun p => do return (p, ← loadPath p)
  return fun p => if p == place then node else (nodes.lookup p).join

def printLine (t : Text) : IO Unit := IO.println (String.ofList t)

def usage : String :=
  "Usage: stylebook [-v] [--version] [--help] parse [OPTIONS] [SOURCES]...\n" ++
  "       stylebook [-v] [--version] [--help] show [OPTIONS] REFERENCE [SOURCES]...\n" ++
  "Options: --config PATH, --mask PATTERNS, --[no-]markdown, --[no-]header, --[no-]typos,\n" ++
  "         --custom LABEL; with parse also --json and --sorted"

/-- Prints what came of a command, and gives the exit code. -/
def report : Outcome → IO UInt32
  | .misuse => do
    IO.eprintln usage
    return 2
  | .help => do
    IO.println usage
    return 0
  | .printed code ls => do
    ls.forM fun line => printLine line.shown
    return code.toUInt32
  | .document t => do
    IO.print (String.ofList t)
    return 0
  | .failed f => do
    IO.eprintln (String.ofList f.message)
    return 1

end Stylebook

open Stylebook in
def main (args : List String) : IO UInt32 := do
  let args := args.map String.toList
  let files : Files ← match Command.Request.ofArguments args with
    | .run c => loadFiles c
    | _ => pure fun _ => none
  let (outcome, warnings) := Command.runArguments files args
  warnings.forM fun w => IO.eprintln (String.ofList ("WARNING: ".toList ++ w.message))
  report outcome
