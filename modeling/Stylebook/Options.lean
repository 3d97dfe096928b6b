import Stylebook.Text.Basic

/-!
# Options of reading

* `Options` : how comment blocks are read;
* `Setting`, `Options.apply` : a choice of one option;
* `Options.checkNames` : refuses a name that is no option.
-/

namespace Stylebook

/-- How comment blocks are read: whether descriptions are rendered as Markdown, whether they lose the
paragraph that serves as header, whether misspelt labels count, and the labels of further properties. -/
structure Options where
  markdown : Bool := true
  header : Bool := true
  typos : Bool := false
  custom : List Text := []
  deriving DecidableEq

inductive Setting where
  | markdown (on : Bool)
  | header (on : Bool)
  | typos (on : Bool)
  | custom (labels : List Text)
  deriving DecidableEq

/-- A text given in place of a list of labels stands for its characters. -/
def Setting.customText (t : Text) : Setting := .custom (t.map ([·]))

structure UnknownOption where
  name : Text
  deriving DecidableEq

def UnknownOption.message (u : UnknownOption) : Text :=
  "KssOptions.__init__() got an unexpected keyword argument '".toList ++ u.name ++ ['\'']

namespace Options

def apply (o : Options) : Setting → Options
  | .markdown on => { o with markdown := on }
  | .header on => { o with header := on }
  | .typos on => { o with typos := on }
  | .custom labels => { o with custom := labels }

def applyAll (o : Options) (settings : List Setting) : Options := settings.foldl apply o

def names : List Text :=
  ["markdown".toList, "header".toList, "typos".toList, "custom".toList]

/-- Refuses the first name that is no option. -/
def checkNames (given : List Text) : Except UnknownOption Unit :=
  match given.find? (!names.contains ·) with
  | some name => .error ⟨name⟩
  | none => .ok ()

end Options

end Stylebook
