import Stylebook.Markdown.Html

/-!
# Markdown blocks

* `Tag` : the kinds of block;
* `Block` : a block with the text in front of its inner blocks, those blocks, and the text that follows it inside
  the block around it;
* `Block.html` : the HTML of a block, with its inner blocks on lines of their own.
-/

namespace Stylebook.Markdown

open Text

inductive Tag where
  | document
  | paragraph
  | heading (level : Nat)
  | code
  | rule
  | list (ordered : Bool)
  | item
  | quote
  deriving DecidableEq

/-- A block: its own text, its inner blocks, the last one first, and the text after it. -/
structure Block where
  tag : Tag
  text : Text
  inner : List Block
  tail : Text

namespace Block

def ofText (tag : Tag) (text : Text) : Block := ⟨tag, text, [], []⟩

def isItem (b : Block) : Bool := b.tag == .item

def isList (b : Block) : Bool :=
  match b.tag with
  | .list _ => true
  | _ => false

def push (b child : Block) : Block := { b with inner := child :: b.inner }

def modifyLast (f : Block → Block) (b : Block) : Block := { b with inner := b.inner.modifyHead f }

/-- The block with the block changed that is reached through `depth` last inner blocks. -/
def modifyAt (f : Block → Block) : (depth : Nat) → Block → Block
  | 0, b => f b
  | depth + 1, b => b.modifyLast (modifyAt f depth)

/-- The block with `more` after the code that it ends with, if it ends with code. -/
def extendCode (more : Text) : Block → Block :=
  modifyLast fun last => if last.tag == .code then { last with text := last.text ++ more } else last

/-- The block with its own text in a paragraph of its own. -/
def wrapText (b : Block) : Block :=
  if b.text.isEmpty then b
  else { b with text := [], inner := b.inner ++ [ofText .paragraph b.text] }

/-- The block with the text after its last inner block in a paragraph of its own. -/
def wrapTail (b : Block) : Block :=
  match b.inner with
  | last :: _ =>
    if last.tail.isEmpty then b
    else (b.modifyLast ({ · with tail := [] })).push (ofText .paragraph (trimStart last.tail))
  | [] => b

mutual

/-- The tags of the last inner block, of its last inner block, and so on. -/
def spine : Block → List Tag
  | ⟨_, _, inner, _⟩ => spineOf inner

/-- The tags of the first block of a list and of its spine. -/
def spineOf : List Block → List Tag
  | [] => []
  | last :: _ => last.tag :: last.spine

end

/-! ## HTML -/

def elementName : Tag → Text
  | .document => "div".toList
  | .paragraph => "p".toList
  | .heading level => 'h' :: Nat.toDigits 10 level
  | .code => "pre".toList
  | .rule => "hr".toList
  | .list ordered => if ordered then "ol".toList else "ul".toList
  | .item => "li".toList
  | .quote => "blockquote".toList

/-- The HTML of the text after a block: a line feed, if it begins with blanks only. -/
def tailHtml (t : Text) : Text :=
  match inlines t with
  | .text s :: rest => (if s.all isBlank then ['\n'] else escapeText s) ++ htmlAll rest
  | content => '\n' :: htmlAll content

mutual

def html : Block → Text
  | ⟨tag, text, inner, tail⟩ =>
    (match tag with
      | .code => element "pre".toList (element "code".toList (escapeCode (trimEnd text) ++ ['\n']))
      | .rule => "<hr />".toList
      | _ =>
        let front := if text.isEmpty && !inner.isEmpty then ['\n'] else inlineHtml text
        element (elementName tag) (front ++ innerHtml inner)) ++
      tailHtml tail

/-- The HTML of inner blocks, given the last one first. -/
def innerHtml : List Block → Text
  | [] => []
  | last :: before => innerHtml before ++ last.html

end

end Block

end Stylebook.Markdown
