import Stylebook.Console.Emoji
import Stylebook.Console.Handler
import Stylebook.Console.Style

/-!
# Console markup

Texts for the console carry styles as tags in brackets: `[red]Error:[/red] ...`. A backslash before a tag makes it
plain text. Only a bracket that goes on with a small letter, `#`, `/` or `@` begins a tag.

* `Markup.escape` : a text whose tags show as they are written. One that ends in a single backslash ends in two;
* `Markup.segments` : a text cut into plain texts and tags;
* `Markup.Styled`, `Markup.styled` : what is left of a text when its tags have been obeyed, with its emoji, and which styles
  it shows. A closing tag must have something to close; it may name the style in other words than the opening tag. A
  tag that begins with `@` names a handler, whose arguments must be a literal;
* `Markup.plain` : what is left, if its styles can be shown.
-/

namespace Stylebook.Markup

open Text

inductive Fault where
  | unopened (tag : Text) (position : Nat)
  | nothingOpen (position : Nat)
  | style (f : Style.Fault)
  | handler (parameters : Text) (r : Handler.Refusal)
  deriving DecidableEq

def Fault.message : Fault → Text
  | .unopened tag position =>
    "closing tag '[".toList ++ tag ++ "]' at position ".toList ++ Nat.toDigits 10 position ++
      " doesn't match any open tag".toList
  | .nothingOpen position =>
    "closing tag '[/]' at position ".toList ++ Nat.toDigits 10 position ++
      " has nothing to close".toList
  | .style f => f.message
  | .handler parameters r => r.message parameters

/-! ## Tags -/

def beginsTag (c : Char) : Bool := c.isLower || c == '#' || c == '/' || c == '@'

def tag? : Text → Option Text
  | '[' :: c :: rest =>
    let content := rest.takeWhile fun d => d != '[' && d != ']'
    if beginsTag c && (rest.drop content.length).head? == some ']' then some (c :: content) else none
  | _ => none

/-- Backslashes and a tag that begin the text: the number of backslashes, and the content of the tag. -/
def slashedTag? (t : Text) : Option (Nat × Text) :=
  let slashes := (t.takeWhile (· == '\\')).length
  (tag? (t.drop slashes)).map (slashes, ·)

def bracketed (content : Text) : Text := '[' :: content ++ [']']

/-! ## Escaping -/

/-- The text with a backslash before every tag, and the backslashes before a tag doubled; `used` characters in
front belong to a tag. -/
def escapeFrom (used : Nat) : Text → Text
  | [] => []
  | c :: rest =>
    match used with
    | n + 1 => escapeFrom n rest
    | 0 =>
      match slashedTag? (c :: rest) with
      | some (slashes, content) =>
        List.replicate (2 * slashes + 1) '\\' ++ bracketed content ++
          escapeFrom (slashes + content.length + 1) rest
      | none => c :: escapeFrom 0 rest

def escape (t : Text) : Text :=
  let escaped := escapeFrom 0 t
  if endsWith ['\\'] escaped && !endsWith ['\\', '\\'] escaped then escaped ++ ['\\'] else escaped

/-! ## Reading -/

/-- A plain text, or a tag with its place. -/
inductive Segment where
  | plain (t : Text)
  | tag (content : Text) (position : Nat)
  deriving DecidableEq

def plainSegment (t : Text) : List Segment := if t.isEmpty then [] else [.plain t]

/-- The segments of a text at a position; `chunk` is the plain text before it, the last character first, and `used`
characters in front belong to a tag. Of the backslashes before a tag, two stand for one, and one that is left makes
the tag plain text. -/
def segmentsFrom (position : Nat) (chunk : Text) (used : Nat) : Text → List Segment
  | [] => plainSegment chunk.reverse
  | c :: rest =>
    match used with
    | n + 1 => segmentsFrom (position + 1) chunk n rest
    | 0 =>
      match slashedTag? (c :: rest) with
      | some (slashes, content) =>
        plainSegment chunk.reverse ++ plainSegment (List.replicate (slashes / 2) '\\') ++
          (if slashes % 2 == 1 then .plain (bracketed content)
           else .tag content (position + 2 * (slashes / 2))) ::
          segmentsFrom (position + 1) [] (slashes + content.length + 1) rest
      | none => segmentsFrom (position + 1) (c :: chunk) 0 rest

def segments (t : Text) : List Segment := segmentsFrom 0 [] 0 t

def tagName (content : Text) : Text := content.takeWhile (· != '=')

def tagParameters? (content : Text) : Option Text :=
  match content.dropWhile (· != '=') with
  | [] => none
  | _ :: parameters => some parameters

/-- An open tag: the name of its style, its parameters, and the length of the text before it. -/
structure Opened where
  name : Text
  parameters : Option Text
  start : Nat

def Opened.style (o : Opened) : Text :=
  match o.parameters with
  | none => o.name
  | some parameters => o.name ++ ' ' :: parameters

/-- The last open tag of the given name, and the others. -/
def close? (name : Text) : List Opened → Option (Opened × List Opened)
  | [] => none
  | o :: rest => if o.name == name then some (o, rest) else (close? name rest).map fun p => (p.1, o :: p.2)

/-- A text without markup, and stretches of it with the words of their styles, those that end last first. -/
structure Styled where
  text : Text := []
  stretches : List (Text × Text) := []

namespace Styled

/-- The text with the stretch from an open tag on in its style. -/
def close (s : Styled) (o : Opened) : Styled :=
  { s with stretches := (s.text.drop o.start, o.style) :: s.stretches }

/-- The text with the stretch of a closing tag in the style of the tag that it closes, unless that names a handler. -/
def closeTag (s : Styled) (o : Opened) : Except Fault Styled :=
  if o.name.head? == some '@' then
    match o.parameters with
    | none | some [] => .ok s
    | some parameters =>
      match Handler.check parameters with
      | .ok _ => .ok s
      | .error r => .error (.handler parameters r)
  else .ok (s.close o)

/-- The stretches that are shown: all in a text of one line without tabs, and else those that are more than line
feeds. -/
def shown (s : Styled) : List (Text × Text) :=
  if s.text.any fun c => c == '\n' || c == '\t' then s.stretches.filter fun p => p.1.any (· != '\n') else s.stretches

end Styled

def styleName (t : Text) : Except Fault Text :=
  match Style.normal t with
  | .ok name => .ok name
  | .error f => .error (.style f)

/-- A text after more segments; `opened` are the open tags, the last one first. -/
def styledFrom (s : Styled) (opened : List Opened) : List Segment → Except Fault Styled
  | [] => .ok (opened.foldl Styled.close s)
  | .plain t :: rest =>
    styledFrom { s with text := s.text ++ Emoji.replace (replaceText ['\\', '['] ['['] t) } opened rest
  | .tag ('/' :: content) position :: rest => do
    let name := trim (tagName content)
    if name.isEmpty then
      match opened with
      | [] => .error (.nothingOpen position)
      | o :: others => styledFrom (← s.closeTag o) others rest
    else
      match close? (← styleName name) opened with
      | none => .error (.unopened ('/' :: content) position)
      | some (o, others) => styledFrom (← s.closeTag o) others rest
  | .tag content _ :: rest => do
    styledFrom s (⟨← styleName (tagName content), tagParameters? content, s.text.length⟩ :: opened) rest

/-- What is left of a text when its tags have been obeyed, and the styles of it. -/
def styled (t : Text) : Except Fault Styled := styledFrom {} [] (segments t)

def plain (t : Text) : Except Fault Text := do
  let s ← styled t
  match s.shown.forM fun p => discard (Style.ofText? p.2) with
  | .ok _ => return s.text
  | .error f => .error (.style f)

end Stylebook.Markup
