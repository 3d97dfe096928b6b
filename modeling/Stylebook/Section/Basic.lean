import Stylebook.Entry
import Stylebook.OrderedMap
import Stylebook.Text.Case.Full
import Stylebook.Weight

/-!
# Sections

A section is one documented part of a style guide.

* `Section` : its reference, texts, weight, entries and flags; variants are its `modifiers`, arguments its
  `parameters`;
* `Section.check` : a section needs a reference, and has entries of one kind at most;
* `Section.same` : equality in all fields, the custom properties as a mapping;
* `Section.customProperty?` : a custom property by its label, in any case.
-/

namespace Stylebook

open Text

structure Section where
  reference : Text
  raw : Text := []
  header : Text := []
  description : Text := []
  weight : Weight := 0
  markup : Option Text := none
  modifiers : List Entry := []
  parameters : List Entry := []
  deprecated : Bool := false
  experimental : Bool := false
  custom : OrderedMap Text Text := {}
  deriving DecidableEq

inductive Section.Fault where
  | noReference
  | mixedEntries
  deriving DecidableEq

def Section.Fault.message : Section.Fault → Text
  | .noReference => "A section requires a non-empty reference".toList
  | .mixedEntries => "A section cannot have both modifiers and parameters".toList

namespace Section

/-- The section itself, if it has a reference and entries of one kind at most. -/
def check (s : Section) : Except Fault Section :=
  if s.reference.isEmpty then .error .noReference
  else if !s.modifiers.isEmpty && !s.parameters.isEmpty then .error .mixedEntries
  else .ok s

/-- The sections agree in all fields; the order of custom properties does not count. -/
def same (a b : Section) : Bool :=
  { a with custom := {} } == { b with custom := {} } && a.custom.sameAs b.custom

def customProperty? (s : Section) (label : Text) : Option Text := s.custom.get? (lower label)

def entries (s : Section) : List Entry := if s.modifiers.isEmpty then s.parameters else s.modifiers

end Section

end Stylebook
