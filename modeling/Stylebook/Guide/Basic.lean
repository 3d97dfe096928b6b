import Stylebook.Reference.Basic
import Stylebook.Section.Basic
import Stylebook.Text.Order
import Stylebook.Warning

/-!
# Style guides

A guide holds the sections read from a set of stylesheets, in the order in which they were read. Several may
share a reference: all are kept, a warning tells of it, and a look-up finds the last.

* `Guide.add`, `Guide.addAll`, `Guide.warnings` : one section more, several more, and the warnings that come of it;
* `Guide.find?` : the section with a reference;
* `Guide.matching` : the sections below a reference. A query `2.1.*` asks for all of them, `2.1.x` for the direct
  children, and any other for the section itself.
-/

namespace Stylebook

open Text

/-- The sections of a set of stylesheets, with the names of these; `index` holds the last section of each
reference. -/
structure Guide where
  sections : List Section := []
  index : OrderedMap Text Section := {}
  files : List Text := []

namespace Guide

def ofFiles (files : List Text) : Guide := { files := sortTexts files }

def add (g : Guide) (s : Section) : Guide :=
  { g with sections := g.sections ++ [s], index := g.index.insert s.reference s }

def warnings (g : Guide) (s : Section) : List Warning :=
  if g.index.contains s.reference then [.duplicate s.reference] else []

def addAll (g : Guide) : List Section → Guide × List Warning
  | [] => (g, [])
  | s :: rest =>
    let (final, more) := (g.add s).addAll rest
    (final, g.warnings s ++ more)

def ofSections (sections : List Section) (files : List Text) : Guide × List Warning :=
  (ofFiles files).addAll sections

/-- The last section with exactly this reference. -/
def find? (g : Guide) (reference : Text) : Option Section := g.index.get? reference

/-- The levels extend `above` by at least one more. -/
def isBelow (above levels : List Text) : Bool :=
  above.length < levels.length && above.isPrefixOf levels

def below (g : Guide) (above : List Text) : List Section :=
  g.sections.filter fun s => isBelow above (Reference.levels s.reference)

/-- The sections whose levels extend `above` by one. -/
def childrenOf (g : Guide) (above : List Text) : List Section :=
  (g.below above).filter fun s => (Reference.levels s.reference).length == above.length + 1

def matching (g : Guide) (query : Text) : List Section :=
  let above := Reference.levels (query.take (query.length - 2))
  if endsWith ['.', '*'] query then g.below above
  else if endsWith ['.', 'x'] query then g.childrenOf above
  else (g.find? query).toList

end Guide

end Stylebook
