import Stylebook.Files.Discovery
import Stylebook.Options
import Stylebook.Value
import Stylebook.Yaml.Fault

/-!
# Settings

Settings are kept in a YAML file: the options of reading, the mask of stylesheets and the sources to look in.

* `Settings.Kind`, `Settings.expect` : the types that settings may have, and a setting of one of them;
* `Settings.ofValue` : the settings that a document gives; what it does not name keeps its default, and other
  names do not matter;
* `Settings.Loader` : how the text of a file becomes a document;
* `Settings.load` : the settings of a file, by default those of the usual place if there is a file there.
-/

namespace Stylebook

open Text

structure Settings where
  options : Options := {}
  mask : Text := Mask.stylesheets
  source : List Text := []
  deriving DecidableEq

namespace Settings

inductive Problem where
  | notFound
  | invalidYaml
  | noMapping
  | wrongType (key kind : Text)
  deriving DecidableEq

def Problem.message : Problem → Text
  | .notFound => "file not found".toList
  | .invalidYaml => "invalid YAML".toList
  | .noMapping => "expected a mapping at the top level".toList
  | .wrongType key kind => ['\''] ++ key ++ "' must be of type ".toList ++ kind

inductive Fault where
  | problem (path : Path) (p : Problem)
  | scalar (f : Yaml.Fault)
  | isFolder (path : Path)
  | notText (path : Path)
  deriving DecidableEq

def Fault.message : Fault → Text
  | .problem path p => path.text ++ [':', ' '] ++ p.message
  | .scalar f => f.message
  | .isFolder path => "[Errno 21] Is a directory: ".toList ++ quoted path.text
  | .notText path => path.text ++ ": not a text".toList

def field? (pairs : List (Value × Value)) (name : Text) : Option Value :=
  (OrderedMap.mk pairs).get? (.text name)

/-- A type of values: its name in messages, and what counts of a value. Something does of every value of that name. -/
structure Kind (α : Type) where
  name : Text
  get? : Value → Option α
  isSome_get? : ∀ v, v.kind = name → (get? v).isSome = true := by
    intro v
    cases v with
    | object o => exact fun h => absurd h (o.kind_ne (by decide))
    | _ => first | exact fun _ => rfl | (dsimp only [Value.kind]; decide)

namespace Kind

def flag : Kind Bool where
  name := "bool".toList
  get?
    | .bool b => some b
    | _ => none

def text : Kind Text where
  name := "str".toList
  get?
    | .text t => some t
    | _ => none

def items : Kind (List Value) where
  name := "list".toList
  get?
    | .list items => some items
    | _ => none

/-- A list, or a text in the place of the list of it alone. -/
def itemsOrText : Kind (List Value) where
  name := "list".toList
  get?
    | .list items => some items
    | .text t => some [.text t]
    | _ => none

end Kind

/-- What a mapping has under a name, which must be of the given type, if it has anything. -/
def expect {α : Type} (path : Path) (pairs : List (Value × Value)) (kind : Kind α) (name : Text) :
    Except Fault (Option α) :=
  match field? pairs name with
  | none => .ok none
  | some v =>
    match kind.get? v with
    | some a => .ok (some a)
    | none => .error (.problem path (.wrongType name kind.name))

/-- The texts of values, all of which must be writable. -/
def written (items : List Value) : Except Fault (List Text) :=
  if items.all Value.isWritable then .ok (items.map Value.plain) else .error (.scalar .unwritable)

/-- The settings of a mapping, which is checked name by name. -/
def ofPairs (path : Path) (pairs : List (Value × Value)) : Except Fault Settings := do
  let markdown ← expect path pairs .flag "markdown".toList
  let header ← expect path pairs .flag "header".toList
  let typos ← expect path pairs .flag "typos".toList
  let custom ← (← expect path pairs .items "custom".toList).mapM written
  let mask ← expect path pairs .text "mask".toList
  let source ← (← expect path pairs .itemsOrText "source".toList).mapM written
  let default : Settings := {}
  return {
    options := {
      markdown := markdown.getD default.options.markdown
      header := header.getD default.options.header
      typos := typos.getD default.options.typos
      custom := custom.getD default.options.custom }
    mask := mask.getD default.mask
    source := source.getD default.source }

/-- The value counts as nothing: null, false, zero, or an empty text or collection. -/
def isNothing : Value → Bool
  | .null => true
  | .bool b => !b
  | .int n => n == 0
  | .float x => x.toRat? == some 0
  | .text t => t.isEmpty
  | .bytes bs => bs.isEmpty
  | .date _ | .moment _ => false
  | .list items => items.isEmpty
  | .tuple items => items.isEmpty
  | .map pairs => pairs.isEmpty
  | .object o => !o.truth

def ofValue (path : Path) (v : Value) : Except Fault Settings :=
  if isNothing v then .ok {}
  else match v with
    | .map pairs => ofPairs path pairs
    | _ => .error (.problem path .noMapping)

/-- Reads the text of a document. -/
abbrev Loader := Text → Except Yaml.Fault Value

def ofText (loader : Loader) (path : Path) (t : Text) : Except Fault Settings :=
  match loader t with
  | .error .malformed => .error (.problem path .invalidYaml)
  | .error f => .error (.scalar f)
  | .ok v => ofValue path v

def ofFile (loader : Loader) (files : Files) (path : Path) : Except Fault Settings :=
  match files path with
  | none => .error (.problem path .notFound)
  | some (.folder _) => .error (.isFolder path)
  | some (.file bytes) =>
    match Discovery.contentOf? bytes with
    | none => .error (.notText path)
    | some t => ofText loader path t

def usualPath : Path := .ofText ".kss/config.yaml".toList

/-- The place of the settings: the one given, or the usual one. -/
def pathOf (path : Option Text) : Path := (path.map Path.ofText).getD usualPath

/-- The settings of the file at a path, or, if none is given, of the usual place. Nothing there means the
defaults. -/
def load (loader : Loader) (files : Files) (path : Option Text) : Except Fault Settings :=
  match path with
  | some t => ofFile loader files (.ofText t)
  | none => if (files usualPath).isSome then ofFile loader files usualPath else .ok {}

end Settings

end Stylebook
