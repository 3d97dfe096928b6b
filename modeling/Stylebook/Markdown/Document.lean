import Stylebook.Markdown.Block
import Stylebook.Markdown.Line

/-!
# Markdown documents

A document is cut at empty lines into chunks, which are read one after the other into a block. A step reads a part
of a chunk and may leave the rest of it; the steps are tried in order.

* `Place` : where chunks are read;
* `Step` : reads a chunk into a block, given how inner chunks are read, or does not apply to it;
* `Step.blank`, `Step.indented`, `Step.code`, `Step.heading`, `Step.underlined`, `Step.rule`, `Step.list`,
  `Step.quote`, `Step.paragraph` : the steps, collected in `Step.all`;
* `normalize` : a text with line feeds for all line endings, without tabs, and with spaces-only lines empty;
* `closeReferences` : a text with a semicolon after the number of every character reference;
* `html` : the HTML of a text.
-/

namespace Stylebook.Markdown

open Text

inductive Place where
  | top
  | list
  | looseList
  | quote
  | outdented
  deriving DecidableEq

abbrev Reader := Place → Block → List Text → Block

/-- Reads a chunk into a block and tells what is left of the chunk, if it applies. -/
abbrev Step := Reader → Place → Block → Text → Option (Block × Text)

/-- The lines before the first one for which `f` gives a value, that value, and the lines after. -/
def cutAt {α : Type} (f : Text → Option α) : List Text → Option (List Text × α × List Text)
  | [] => none
  | line :: rest =>
    match f line with
    | some a => some ([], a, rest)
    | none => (cutAt f rest).map fun (before, a, after) => (line :: before, a, after)

namespace Step

/-- An empty line, which belongs to the code before it, if there is some. -/
def blank : Step := fun _ _ parent t =>
  match t with
  | [] => some (parent.extendCode ['\n', '\n'], [])
  | '\n' :: rest => some (parent.extendCode ['\n'], rest)
  | _ => none

/-- The list level of an indented chunk, at most `wanted`, and the number of inner blocks down to the block of
that level. -/
def listLevel (wanted level : Nat) : List Tag → Nat × Nat
  | [] => (level, 0)
  | tag :: rest =>
    if wanted ≤ level then (level, 0)
    else match tag with
      | .list _ => let (reached, depth) := listLevel wanted (level + 1) rest; (reached, depth + 1)
      | .item => let (reached, depth) := listLevel wanted level rest; (reached, depth + 1)
      | _ => (level, 0)

/-- An indented chunk after a list or inside an item belongs to the last item of its level. -/
def indented : Step := fun read place parent t =>
  let afterList := parent.inner.head?.any (·.isList)
  if isIndented t && place != .outdented && (parent.isItem || afterList) then
    let wanted := (t.takeWhile (· == ' ')).length / codeIndent.length
    let (level, depth) := listLevel wanted (if place == .list then 1 else 0) parent.spine
    let chunk := unlines ((lines t).map (outdent level))
    let into (b : Block) : Block := read .outdented b [chunk]
    let parent :=
      if parent.isItem then (if afterList then parent.modifyLast into else into parent)
      else parent.modifyAt (fun b =>
        if b.isItem then into b
        else if b.inner.head?.any (·.isItem) then b.modifyLast fun item => into item.wrapText
        else b.push (into (.ofText .item []))) depth
    some (parent, [])
  else none

/-- The lines of indented code in front, without their indentation, and the lines after them. -/
def codeLines : List Text → List Text × List Text
  | [] => ([], [])
  | line :: rest =>
    if isIndented line then let (code, after) := codeLines rest; (outdent 1 line :: code, after)
    else if line.all isBlank then let (code, after) := codeLines rest; ([] :: code, after)
    else ([], line :: rest)

/-- Indented lines are code; they go on with the code before them. -/
def code : Step := fun _ _ parent t =>
  if isIndented t then
    let (code, after) := codeLines (lines t)
    let content := trimEnd (unlines code) ++ ['\n']
    let parent := if parent.inner.head?.any (·.tag == .code) then parent.extendCode ('\n' :: content)
      else parent.push (.ofText .code content)
    some (parent, unlines after)
  else none

/-- The first line that is a heading, after what comes before it. -/
def heading : Step := fun read place parent t => do
  let (before, (level, title), after) ← cutAt heading? (lines t)
  let parent := if before.isEmpty then parent else read place parent [unlines before]
  let after := if place == .looseList then after.map (outdent 1) else after
  some (parent.push (.ofText (.heading level) title), unlines after)

/-- A first line that the second one underlines is a heading. -/
def underlined : Step := fun _ _ parent t => do
  match lines t with
  | title :: line :: rest =>
    let level ← underline? line
    some (parent.push (.ofText (.heading level) (trim title)), unlines rest)
  | _ => none

/-- The first line that is a rule, after what comes before it. -/
def rule : Step := fun read place parent t => do
  let (before, _, after) ← cutAt (fun line => if isRule line then some () else none) (lines t)
  let before := ((unlines before).reverse.dropWhile (· == '\n')).reverse
  let parent := if before.isEmpty then parent else read place parent [before]
  some (parent.push (.ofText .rule []), (unlines after).dropWhile (· == '\n'))

/-- The items of a list, the last one first, after the given ones. A line without a marker goes on with the item
before it; an indented line with a marker begins an indented item, which goes on while such lines follow. -/
def items (done : List Text) : List Text → List Text
  | [] => done
  | line :: rest =>
    match listItem? line with
    | some (_, item) => items (item :: done) rest
    | none =>
      if isIndented line && (listItem? (line.drop codeIndent.length)).isSome && !done.head?.any isIndented then
        items (line :: done) rest
      else items (done.modifyHead (· ++ '\n' :: line)) rest

/-- The list with one more item, or with more in its last item if the item is indented. -/
def addItem (read : Reader) (list : Block) (item : Text) : Block :=
  if isIndented item then list.modifyLast fun last => read .list last [item]
  else list.push (read .list (.ofText .item []) [item])

/-- The list after an empty line: the texts of its last item and of the first new one become paragraphs. -/
def loosen (read : Reader) (list : Block) : List Text → Block
  | [] => list
  | first :: rest =>
    let list := (list.modifyLast fun last => last.wrapText.wrapTail).push
      (read .looseList (.ofText .item []) [first])
    rest.foldl (addItem read) list

/-- A chunk that begins with the marker of an item is a list, or goes on with the list before it. -/
def list : Step := fun read _ parent t => do
  let ls := lines t
  let (ordered, _) ← ls.head?.bind listItem?
  let new := (items [] ls).reverse
  let parent :=
    if parent.inner.head?.any (·.isList) then parent.modifyLast fun list => loosen read list new
    else if parent.isList then new.foldl (addItem read) parent
    else parent.push (new.foldl (addItem read) (.ofText (.list ordered) []))
  some (parent, [])

def unquoted (line : Text) : Text :=
  if trim line == ['>'] then [] else (quoted? line).getD line

/-- The first quoted line and all lines after it are a quotation, after what comes before it. -/
def quote : Step := fun read place parent t => do
  let ls := lines t
  let (before, _, _) ← cutAt quoted? ls
  let parent := read place parent [unlines before]
  let front := if before.isEmpty then [] else [[]]
  let chunks := splitOnText ['\n', '\n'] (unlines (front ++ (ls.drop before.length).map unquoted))
  let parent := if parent.inner.head?.any (·.tag == .quote) then parent else parent.push (.ofText .quote [])
  some (parent.modifyLast fun quote => read .quote quote chunks, [])

/-- Any other chunk is a paragraph. In an item of a list it is the text of the item, or stands after the last
inner block of the item. -/
def paragraph : Step := fun _ place parent t =>
  if t.all isBlank then some (parent, [])
  else if place == .list then
    let parent := if !parent.inner.isEmpty then
        parent.modifyLast fun last => { last with tail := last.tail ++ '\n' :: t }
      else if parent.text.isEmpty then { parent with text := trimStart t }
      else { parent with text := parent.text ++ '\n' :: trimStart t }
    some (parent, [])
  else some (parent.push (.ofText .paragraph (trimStart t)), [])

def all : List Step :=
  [blank, indented, code, heading, underlined, rule, list, quote, paragraph]

end Step

/-- Reads chunks into a block; `fuel` bounds the number of steps. -/
def read : (fuel : Nat) → Reader
  | 0 => fun _ parent _ => parent
  | fuel + 1 => fun place parent chunks =>
    match chunks with
    | [] => parent
    | chunk :: rest =>
      match Step.all.findSome? fun step => step (read fuel) place parent chunk with
      | some (parent, left) => read fuel place parent (if left.isEmpty then rest else left :: rest)
      | none => read fuel place parent rest

/-- The text with spaces in the place of tabs, up to every fourth column. -/
def expandTabs (column : Nat) : Text → Text
  | [] => []
  | c :: rest =>
    if c == '\t' then
      let width := codeIndent.length - column % codeIndent.length
      List.replicate width ' ' ++ expandTabs (column + width) rest
    else if c == '\n' then c :: expandTabs 0 rest
    else c :: expandTabs (column + 1) rest

/-- The text with line feeds for all line endings, without tabs and the controls U+0002 and U+0003, and with
lines of spaces empty. -/
def normalize (t : Text) : Text :=
  let ls := lines (expandTabs 0 (unifyNewlines (t.filter fun c => c.toNat != 2 && c.toNat != 3)))
  match ls with
  | first :: rest => unlines (first :: rest.map fun line => if line.all (· == ' ') then [] else line)
  | [] => []

/-- The length of the number of a character reference, if a character that is no digit follows. -/
def numberLength? (t : Text) : Option Nat :=
  let (mark, digits, rest) := match t with
    | 'x' :: r | 'X' :: r => (1, r.takeWhile isHexDigit, r.dropWhile isHexDigit)
    | _ => (0, t.takeWhile Char.isDigit, t.dropWhile Char.isDigit)
  if digits.isEmpty || rest.isEmpty || (rest.head?.any isHexDigit) then none
  else some (mark + digits.length)

/-- The text with a semicolon after the number of every character reference. A semicolon is due after `due` characters,
unless it is zero. Of the places that begin like a reference and have no number, one is passed over if there is a semicolon
behind it, and the text stays as it is from the next one. -/
def closeReferences (due : Nat) (passed : Bool) : Text → Text
  | [] => []
  | c :: rest =>
    match due with
    | 1 => if rest.head? == some ';' then c :: closeReferences 0 passed rest
      else c :: ';' :: closeReferences 0 passed rest
    | n + 2 => c :: closeReferences (n + 1) passed rest
    | 0 =>
      if c == '&' && rest.head? == some '#' then
        match numberLength? rest.tail with
        | some k => c :: closeReferences (k + 1) passed rest
        | none =>
          if passed || !rest.contains ';' then c :: rest else c :: closeReferences 0 true rest
      else c :: closeReferences 0 passed rest

/-- The block of a whole text. Every step takes at least one character of a chunk away or ends a chunk, so that the
fuel is enough. -/
def document (t : Text) : Block :=
  let chunks := splitOnText ['\n', '\n'] (closeReferences 0 false (normalize t ++ ['\n', '\n']))
  read (4 * t.length + 4 * chunks.length + 16) .top (.ofText .document []) chunks

def html (t : Text) : Text :=
  if t.all isBlank then [] else trim (Block.innerHtml (document t).inner)

end Stylebook.Markdown
