import Stylebook.Files.Mask
import Stylebook.Files.Tree
import Stylebook.Guide.Source
import Stylebook.Text.Utf8

/-!
# Stylesheets of a file tree

* `Discovery.find` : the files of several sources. A source that is a file counts whatever its name; of a folder, the
  files at any depth whose names fit the mask, in the order of their paths;
* `Discovery.contents` : the texts of these files by path, each path once. Files that are no text are left out,
  with a warning;
* `Guide.ofTree` : the guide of all of them.
-/

namespace Stylebook

open Text

abbrev Files := Path → Option Node

structure Found where
  path : Path
  bytes : List UInt8
  deriving DecidableEq

namespace Discovery

structure Fault where
  source : Path
  deriving DecidableEq

def Fault.message (f : Fault) : Text := "Source directory not found: ".toList ++ f.source.text

/-- The files below a folder whose names fit the mask, in the order of their paths. -/
def filesBelow (mask : Text) (folder : Path) (node : Node) : List Found :=
  let found := node.files.map fun f => { path := folder.append f.1, bytes := f.2 : Found }
  (found.filter fun f => Mask.accepts mask f.path.name).mergeSort fun a b => !b.path.isBefore a.path

def findIn (files : Files) (mask : Text) (source : Path) : Except Fault (List Found) :=
  match files source with
  | none => .error ⟨source⟩
  | some (.file bytes) => .ok [⟨source, bytes⟩]
  | some (.folder es) => .ok (filesBelow mask source (.folder es))

/-- The files of several sources, or the first source that does not exist. -/
def find (files : Files) (mask : Text) : List Path → Except Fault (List Found)
  | [] => .ok []
  | source :: rest => do
    let here ← findIn files mask source
    return here ++ (← find files mask rest)

/-- The text of a file, with every line ending as a line feed. -/
def contentOf? (bytes : List UInt8) : Option Text := (decodeUtf8? bytes).map unifyNewlines

def contents (found : List Found) : OrderedMap Text Text × List Warning :=
  let step (acc : OrderedMap Text Text × List Warning) (f : Found) :=
    match contentOf? f.bytes with
    | some t => (acc.1.insert f.path.text t, acc.2)
    | none => (acc.1, acc.2 ++ [.skipped f.path.text])
  found.foldl step ({}, [])

end Discovery

namespace Guide

def ofTree (r : Reader) (files : Files) (mask : Text) (sources : List Path) :
    Except Discovery.Fault (Guide × List Warning) := do
  let (texts, skipped) := Discovery.contents (← Discovery.find files mask sources)
  let (guide, duplicates) := read r (texts.entries.map fun (name, text) => ⟨some name, text⟩)
  return (guide, skipped ++ duplicates)

end Guide

end Stylebook
