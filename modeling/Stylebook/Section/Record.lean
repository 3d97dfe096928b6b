import Stylebook.Json
import Stylebook.Reference.Basic
import Stylebook.Section.Basic

/-!
# Exported records

A section is exported as a record of named values: its own fields first, then its custom properties, then its
place in the guide. No custom property hides a field.

* `Section.record` : the fields and the custom properties that are not empty;
* `Section.fullRecord` : with the URI fragment and the depth of the reference.
-/

namespace Stylebook

abbrev Record := OrderedMap Text Json

def Entry.parameterJson (e : Entry) : Json :=
  .object [("name".toList, .text e.name), ("description".toList, .text e.description)]

def Entry.modifierJson (e : Entry) : Json :=
  .object [("name".toList, .text e.name), ("description".toList, .text e.description),
    ("className".toList, .text e.className)]

namespace Section

def fields (s : Section) : List (Text × Json) := [
  ("header".toList, .text s.header),
  ("description".toList, .text s.description),
  ("deprecated".toList, .bool s.deprecated),
  ("experimental".toList, .bool s.experimental),
  ("reference".toList, .text s.reference),
  ("weight".toList, .number s.weight),
  ("markup".toList, match s.markup with | some t => .text t | none => .null),
  ("modifiers".toList, .array (s.modifiers.map Entry.modifierJson)),
  ("parameters".toList, .array (s.parameters.map Entry.parameterJson))]

/-- A record with one more custom property, unless it is empty or its name is taken. -/
def addCustom (r : Record) (p : Text × Text) : Record :=
  if p.2.isEmpty || r.contains p.1 then r else r.insert p.1 (.text p.2)

def record (s : Section) : Record := s.custom.entries.foldl addCustom ⟨s.fields⟩

/-- The record of a section together with its place in the hierarchy. -/
def fullRecord (s : Section) : Record :=
  (s.record.insert "referenceURI".toList (.text (Reference.uri s.reference))).insert "depth".toList
    (.number (Reference.levels s.reference).length)

end Section

end Stylebook
