import Stylebook.Comment.Lexer
import Stylebook.Label
import Stylebook.Options
import Stylebook.Paragraph
import Stylebook.Phonetic.Metaphone
import Stylebook.Reference.Marker
import Stylebook.Renderer
import Stylebook.Section.Basic

/-!
# Sections of comment blocks

The paragraphs of a block are its properties, wherever they stand, and in this order the header, the rest of the
description, the list of entries and the marker of the reference. Header and description are the same paragraph
where there are only two; a block without a marker documents nothing.

* `Reader` : the choices that matter in reading, with the renderer and the matcher to use;
* `Reader.properties` : the labelled paragraphs of a block, and those that are left;
* `Content.ofParagraphs` : the roles of the paragraphs that are left;
* `Reader.block?` : the section of a block;
* `Reader.sheet` : the sections of a whole stylesheet.
-/

namespace Stylebook

open Text

structure Reader where
  dropsHeader : Bool := true
  custom : List Text := []
  renderer : Option Renderer := none
  matcher : Option Matcher := none

/-- The reader that options call for. Markdown and Metaphone serve where rendering, or reading in spite of typos,
is wanted and nothing else is given. -/
def Reader.ofOptions (o : Options) (renderer : Option Renderer) (matcher : Option Matcher) : Reader where
  dropsHeader := o.header
  custom := o.custom
  renderer := if o.markdown then some (renderer.getD .markdown) else none
  matcher := if o.typos then some (matcher.getD .metaphone) else none

/-- The labelled paragraphs of a block, and the paragraphs that are left. -/
structure Properties where
  markup : Option Text
  weight : Weight
  custom : OrderedMap Text Text
  rest : List Text
  deriving DecidableEq

/-- The paragraphs left after the properties are taken away, by their roles. -/
structure Content where
  header : Text
  description : Text
  entryLines : List Text
  deriving DecidableEq

/-- The roles of the paragraphs before the marker of `reference`, which is the last of them. The one before it
lists entries if there are at least three and it begins with an entry. -/
def Content.ofParagraphs (reference : Text) (ps : List Text) : Content :=
  match ps.dropLast with
  | [] => ⟨reference, [], []⟩
  | [p] => ⟨p, p, []⟩
  | header :: second :: rest =>
    let candidate := (second :: rest).getLast (List.cons_ne_nil _ _)
    match Entry.collect? candidate with
    | some ls => ⟨header, unparagraphs (header :: (second :: rest).dropLast), ls⟩
    | none => ⟨header, unparagraphs (header :: second :: rest), []⟩

/-- What follows the first empty line of a text. -/
def afterFirstParagraph : Text → Text
  | '\n' :: '\n' :: rest => rest.dropWhile (· == '\n')
  | _ :: rest => afterFirstParagraph rest
  | [] => []

namespace Reader

/-- Takes the properties with the given labels, in this order, out of the paragraphs. -/
def customProperties (r : Reader) : (labels : List Text) → (found : OrderedMap Text Text) →
    (ps : List Text) → OrderedMap Text Text × List Text
  | [], found, ps => (found, ps)
  | label :: labels, found, ps =>
    match Label.extract r.matcher label ps with
    | (some value, rest) => r.customProperties labels (found.insert (lower label) value) rest
    | (none, rest) => r.customProperties labels found rest

/-- Takes the properties out of the paragraphs of a block: markup and weight first, then the custom ones. -/
def properties (r : Reader) (ps : List Text) : Properties :=
  let (markup, ps) := Label.extract r.matcher "Markup".toList ps
  let (weight, ps) := Label.extract r.matcher "Weight".toList ps
  let (custom, rest) := r.customProperties r.custom {} ps
  { markup, weight := (weight.map Weight.read).getD 0, custom, rest }

def entry (r : Reader) (line : Text) : Entry :=
  let e := Entry.ofLine line
  match r.renderer with
  | some renderer => { e with description := renderer.inline e.description }
  | none => e

def shownDescription (r : Reader) (description : Text) : Text :=
  let t := if r.dropsHeader then afterFirstParagraph description else description
  match r.renderer with
  | some renderer => renderer.block t
  | none => t

def block? (r : Reader) (block : Text) : Option Section :=
  let p := r.properties (paragraphs block)
  (Marker.find? r.matcher p.rest).map fun reference =>
    let content := Content.ofParagraphs reference p.rest
    let entries := content.entryLines.map r.entry
    { reference
      raw := block
      header := replaceChar '\n' [' '] content.header
      description := r.shownDescription content.description
      weight := p.weight
      markup := p.markup
      modifiers := if p.markup.isSome then entries else []
      parameters := if p.markup.isSome then [] else entries
      deprecated := Label.occurs r.matcher "Deprecated".toList content.description
      experimental := Label.occurs r.matcher "Experimental".toList content.description
      custom := p.custom }

def sheet (r : Reader) (text : Text) : List Section := (Comment.blocks text).filterMap r.block?

end Reader

end Stylebook
