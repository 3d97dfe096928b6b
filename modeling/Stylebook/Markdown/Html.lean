import Stylebook.Markdown.Emphasis

/-!
# Inline content as HTML

* `element tag content` : the text between the tags of an element;
* `escapeCode`, `escapeText` : a text in HTML; outside of code an ampersand that begins an entity stays;
* `Inline.html`, `inlineHtml` : the HTML of inline content, and of a text with inline markup.
-/

namespace Stylebook.Markdown

open Text

def element (tag content : Text) : Text :=
  '<' :: tag ++ '>' :: content ++ '<' :: '/' :: tag ++ ['>']

def escapeChar (c : Char) : Text :=
  if c == '&' then "&amp;".toList
  else if c == '<' then "&lt;".toList
  else if c == '>' then "&gt;".toList
  else [c]

def escapeCode (t : Text) : Text := t.flatMap escapeChar

def isHexDigit (c : Char) : Bool :=
  c.isDigit || ('a' ≤ c && c ≤ 'f') || ('A' ≤ c && c ≤ 'F')

/-- A character of the name of an entity: a letter or digit, or a letter whose other case is one. -/
def isNameChar (c : Char) : Bool :=
  c.isAlphanum || [0x130, 0x131, 0x17f, 0x212a].contains c.toNat

/-- The text is the name or number of an entity: letters and digits, or a number after `#` or `#x`. -/
def isEntityName : Text → Bool
  | '#' :: 'x' :: rest | '#' :: 'X' :: rest => !rest.isEmpty && rest.all isHexDigit
  | '#' :: rest => !rest.isEmpty && rest.all Char.isDigit
  | name => !name.isEmpty && name.all isNameChar

/-- After an ampersand, the text completes an entity. -/
def completesEntity (t : Text) : Bool :=
  isEntityName (t.takeWhile (· != ';')) && t.contains ';'

/-- Plain text in HTML; entities stay as they are. -/
def escapeText : Text → Text
  | [] => []
  | c :: rest =>
    (if c == '&' && completesEntity rest then [c] else escapeChar c) ++ escapeText rest

mutual

def Inline.html : Inline → Text
  | .text t => escapeText t
  | .code t => element "code".toList (escapeCode t)
  | .lineBreak => "<br />\n".toList
  | .em content => element "em".toList (htmlAll content)
  | .strong content => element "strong".toList (htmlAll content)

/-- The HTML of a sequence of inline content; blanks alone after a line break are dropped. -/
def htmlAll : List Inline → Text
  | [] => []
  | .lineBreak :: .text t :: rest =>
    Inline.lineBreak.html ++ (if t.all isBlank then [] else escapeText t) ++ htmlAll rest
  | i :: rest => i.html ++ htmlAll rest

end

def inlineHtml (t : Text) : Text := htmlAll (inlines t)

end Stylebook.Markdown
