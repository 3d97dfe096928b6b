import Stylebook.Guide.Basic
import Stylebook.Section.Reader
import Stylebook.Value

/-!
# Guides of dynamic input

Stylesheets are handed over as one text, as a sequence of texts and pairs of a name and a text, or as a mapping of
names to texts.

* `Source` : stylesheets, each with a name or without;
* `Source.ofValue` : reads dynamic input, and says what is wrong with it;
* `Guide.read` : the guide of the stylesheets, and the warnings of its making.
-/

namespace Stylebook

/-- A stylesheet that may have a name. -/
structure Sheet where
  name : Option Text := none
  text : Text
  deriving DecidableEq

/-- Stylesheets in the order in which they are read. -/
abbrev Source := List Sheet

namespace Source

inductive Fault where
  | contentNotText (name kind : Text)
  | itemNotText (index : Nat) (kind : Text)
  | unsupported (kind : Text)
  deriving DecidableEq

def Fault.message : Fault → Text
  | .contentNotText name kind =>
    "Content of ".toList ++ name ++ " must be a string, not ".toList ++ kind
  | .itemNotText index kind =>
    "Input item ".toList ++ Nat.toDigits 10 index ++
      " must be a string or a (name, text) pair, not ".toList ++ kind
  | .unsupported kind =>
    "Cannot parse input of type ".toList ++ kind ++
      "; expected a string, a sequence of strings or (name, text) pairs, ".toList ++
      "or a mapping of file names to strings".toList

def sheet? : Value → Option Sheet
  | .text t => some { text := t }
  | .tuple [.null, .text t] => some { text := t }
  | .tuple [.text name, .text t] => some { name := some name, text := t }
  | _ => none

/-- The stylesheets of a sequence whose first item has the given index. -/
def ofItems (index : Nat) : List Value → Except Fault Source
  | [] => .ok []
  | v :: rest =>
    match sheet? v with
    | some s => (s :: ·) <$> ofItems (index + 1) rest
    | none => .error (.itemNotText index v.kind)

def ofPairs : List (Value × Value) → Except Fault Source
  | [] => .ok []
  | (name, .text t) :: rest => ({ name := some name.plain, text := t } :: ·) <$> ofPairs rest
  | (name, v) :: _ => .error (.contentNotText name.shown v.kind)

def ofValue : Value → Except Fault Source
  | .text t => .ok [{ text := t }]
  | .map pairs => ofPairs pairs
  | .list items => ofItems 0 items
  | .tuple items => ofItems 0 items
  | v => .error (.unsupported v.kind)

end Source

namespace Guide

def read (r : Reader) (source : Source) : Guide × List Warning :=
  ofSections (source.flatMap fun s => r.sheet s.text) (source.filterMap (·.name))

def readValue (r : Reader) (v : Value) : Except Source.Fault (Guide × List Warning) := do
  return read r (← Source.ofValue v)

end Guide

end Stylebook
