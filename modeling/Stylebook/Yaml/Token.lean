import Stylebook.Yaml.Literal
import Stylebook.Yaml.Quoted

/-!
# The tokens of a YAML document

The layout of a document becomes tokens too: where a block collection begins and where it ends. That a scalar or a
collection is a key is known only at the colon after it, so that a place where a key may begin is remembered until then.

* `Token` : the tokens;
* `KeyPlace` : a place where a key may begin. A key and its colon stand on one line, at most 1024 characters apart;
* `Scan` : the tokens so far, with what the next one depends on;
* `Token.ofText` : the tokens of a text.
-/

namespace Stylebook.Yaml

inductive Token where
  | version (major : Nat)
  | tagHandle (handle uri : Text)
  | directive
  | documentStart
  | documentEnd
  | blockSequence
  | blockMapping
  | blockEnd
  | openSequence
  | closeSequence
  | openMapping
  | closeMapping
  | item
  | comma
  | key
  | value
  | alias (name : Text)
  | anchor (name : Text)
  | tag (handle : Option Text) (suffix : Text)
  | scalar (t : Text) (plain : Bool)
  deriving DecidableEq

/-- A place where a key may begin, with the number of tokens before it; a required key must be one. -/
structure KeyPlace where
  tokens : Nat
  required : Bool
  index : Nat
  line : Nat
  column : Nat
  deriving DecidableEq

/-- The tokens so far, the last one first, and what the next one depends on: the column of the innermost block
collection, or -1, and those of the ones around it; for each flow collection, the innermost one first, and for the
block around them, the place where a key may have begun; and whether a key may begin here. -/
structure Scan where
  cursor : Cursor
  tokens : List Token := []
  indent : Int := -1
  outer : List Int := []
  keys : List (Option KeyPlace) := [none]
  keyAllowed : Bool := true

namespace Scan

/-! ## Places of keys -/

def inFlow (s : Scan) : Bool := 1 < s.keys.length

/-- A place that is given up, unless a key is required there. -/
def giveUp (k : KeyPlace) : Except Fault (Option KeyPlace) :=
  if k.required then .error .malformed else .ok none

def forgetKey (s : Scan) : Except Fault Scan :=
  match s.keys with
  | some k :: rest => (giveUp k).map fun place => { s with keys := place :: rest }
  | _ => .ok s

def rememberKey (s : Scan) : Except Fault Scan :=
  if s.keyAllowed then do
    let s ← s.forgetKey
    let place : KeyPlace := {
      tokens := s.tokens.length
      required := !s.inFlow && s.indent == Int.ofNat s.cursor.column
      index := s.cursor.index
      line := s.cursor.line
      column := s.cursor.column }
    return { s with keys := some place :: s.keys.tail }
  else .ok s

/-- The places are given up that are on another line, or too far back. -/
def forgetFarKeys (s : Scan) : Except Fault Scan := do
  let keys ← s.keys.mapM fun place =>
    match place with
    | some k =>
      if k.line != s.cursor.line || 1024 < s.cursor.index - k.index then giveUp k else .ok (some k)
    | none => .ok none
  return { s with keys }

/-! ## Columns of block collections -/

/-- The columns left, and the tokens, once the block collections beyond a column have ended. -/
def endBlocks (column : Int) (tokens : List Token) (indent : Int) : List Int → Int × List Int × List Token
  | [] => (indent, [], tokens)
  | next :: outer =>
    if column < indent then endBlocks column (.blockEnd :: tokens) next outer
    else (indent, next :: outer, tokens)

/-- The block collections beyond a column end; inside flow collections columns do not matter. -/
def unwind (s : Scan) (column : Int) : Scan :=
  if s.inFlow then s
  else
    let (indent, outer, tokens) := endBlocks column s.tokens s.indent s.outer
    { s with indent, outer, tokens }

/-- A block collection begins at a column, unless one has already begun there. -/
def begin? (s : Scan) (column : Nat) : Option Scan :=
  if s.indent < Int.ofNat column then some { s with indent := Int.ofNat column, outer := s.indent :: s.outer }
  else none

/-! ## Single tokens -/

def push (s : Scan) (t : Token) (n : Nat) : Scan :=
  { s with tokens := t :: s.tokens, cursor := s.cursor.skip n }

def pushTo (s : Scan) (t : Token) (after : Cursor) : Scan :=
  { s with tokens := t :: s.tokens, cursor := after }

/-- The mark of a sequence item or of an explicit key, in front of which a collection of its kind may begin. -/
def entry (s : Scan) (collection mark : Token) : Except Fault Scan := do
  let s ← if s.inFlow then pure s
    else if !s.keyAllowed then .error .malformed
    else pure (match s.begin? s.cursor.column with
      | some s => s.push collection 0
      | none => s)
  let s ← s.forgetKey
  return ({ s with keyAllowed := mark == Token.item || !s.inFlow }).push mark 1

/-- The colon in front of a value. It makes a key of what began at a remembered place. -/
def value (s : Scan) : Except Fault Scan :=
  match s.keys with
  | some k :: rest =>
    let (s, marks) := match if s.inFlow then none else s.begin? k.column with
      | some s => (s, [Token.key, .blockMapping])
      | none => (s, [.key])
    let after := s.tokens.length - k.tokens
    let s := { s with
      tokens := s.tokens.take after ++ marks ++ s.tokens.drop after, keys := none :: rest, keyAllowed := false }
    .ok (s.push .value 1)
  | _ => s.entry .blockMapping .value

def openFlow (s : Scan) (t : Token) : Except Fault Scan := do
  let s ← s.rememberKey
  return ({ s with keys := none :: s.keys, keyAllowed := true }).push t 1

def closeFlow (s : Scan) (t : Token) : Except Fault Scan :=
  if s.inFlow then do
    let s ← s.forgetKey
    return ({ s with keys := s.keys.tail, keyAllowed := false }).push t 1
  else .error .malformed

def comma (s : Scan) : Except Fault Scan := do
  let s ← s.forgetKey
  return ({ s with keyAllowed := true }).push .comma 1

/-- A mark or directive of the document, which ends all block collections. -/
def documentMark (s : Scan) (t : Token) (after : Cursor) : Except Fault Scan := do
  let s ← (s.unwind (-1)).forgetKey
  return ({ s with keyAllowed := false }).pushTo t after

def keyToken (s : Scan) (read : Cursor → Except Fault (Token × Cursor)) : Except Fault Scan := do
  let s ← s.rememberKey
  let (t, after) ← read s.cursor
  return ({ s with keyAllowed := false }).pushTo t after

/-- A plain scalar, after which a key may begin if a line ends there. -/
def plain (s : Scan) : Except Fault Scan := do
  let s ← s.rememberKey
  let (t, after, ended) := Plain.read s.inFlow (s.indent + 1).toNat s.cursor
  return ({ s with keyAllowed := ended }).pushTo (.scalar t true) after

/-- A block scalar, after which a key may begin. -/
def literal (s : Scan) : Except Fault Scan := do
  let s ← s.forgetKey
  match Literal.read? s.indent s.cursor with
  | some (t, after) => return ({ s with keyAllowed := true }).pushTo (.scalar t false) after
  | none => .error .malformed

/-! ## Names, tags and directives -/

def isNameChar (c : Char) : Bool := c.isAlphanum || c == '-' || c == '_'

def name (make : Text → Token) (cur : Cursor) : Except Fault (Token × Cursor) :=
  let name := (cur.rest.drop 1).takeWhile isNameChar
  let after := cur.skip (name.length + 1)
  let ends := endsToken after.rest || after.rest.head?.any ("?:,]\x7d%@".toList ++ [Char.ofNat 0x60]).contains
  if name.isEmpty || !ends then .error .malformed else .ok (make name, after)

/-- The length of the tag or the part of one that a text begins with; nothing if an escape in it is broken. -/
def uriLength? : Text → Option Nat
  | '%' :: a :: b :: rest => if isHex a && isHex b then (uriLength? rest).map (· + 3) else none
  | c :: rest =>
    if c == '%' then none
    else if c.isAlphanum || "-;/?:@&=+$,_.!~*'()[]".toList.contains c then (uriLength? rest).map (· + 1)
    else some 0
  | [] => some 0

def uri (cur : Cursor) : Except Fault (Text × Cursor) :=
  match uriLength? cur.rest with
  | some (n + 1) => .ok (cur.rest.take (n + 1), cur.skip (n + 1))
  | _ => .error .malformed

/-- The handle of a tag at the cursor: nothing or a name between exclamation marks, or a single one. -/
def handle (cur : Cursor) : Except Fault (Text × Cursor) :=
  match cur.rest with
  | '!' :: rest =>
    let name := rest.takeWhile isNameChar
    match rest.drop name.length with
    | '!' :: _ => .ok ('!' :: name ++ ['!'], cur.skip (name.length + 2))
    | _ => if rest.head? == some ' ' then .ok (['!'], cur.skip 1) else .error .malformed
  | _ => .error .malformed

def tag (cur : Cursor) : Except Fault (Token × Cursor) := do
  let (t, after) ← match cur.rest.drop 1 with
    | '<' :: _ => do
      let (suffix, after) ← uri (cur.skip 2)
      if after.rest.head? != some '>' then throw .malformed
      pure (Token.tag none suffix, after.step)
    | rest =>
      if endsToken rest then pure (Token.tag none ['!'], cur.step)
      else do
        let word := rest.takeWhile fun c => !(c == ' ' || isBreak c)
        let (h, next) ← if word.contains '!' then handle cur else pure (['!'], cur.step)
        let (suffix, after) ← uri next
        pure (Token.tag (some h) suffix, after)
  if endsWord after.rest then return (t, after) else throw .malformed

def digits (cur : Cursor) : Except Fault (Nat × Cursor) :=
  let ds := cur.rest.takeWhile Char.isDigit
  if ds.isEmpty then .error .malformed else .ok (inBase 10 ds, cur.skip ds.length)

def directive (cur : Cursor) : Except Fault (Token × Cursor) := do
  let name := (cur.rest.drop 1).takeWhile isNameChar
  let named := cur.skip (name.length + 1)
  if name.isEmpty || !endsWord named.rest then throw .malformed
  let (t, after) ← match String.ofList name with
    | "YAML" => do
      let (major, next) ← digits named.skipSpaces
      if next.rest.head? != some '.' then throw .malformed
      let (_, last) ← digits next.step
      if !endsWord last.rest then throw .malformed
      pure (Token.version major, last)
    | "TAG" => do
      let (h, next) ← handle named.skipSpaces
      if next.rest.head? != some ' ' then throw .malformed
      let (u, last) ← uri next.skipSpaces
      if !endsWord last.rest then throw .malformed
      pure (Token.tagHandle h u, last)
    | _ => pure (Token.directive, named.skipWhile (!isBreak ·))
  match after.skipLineEnd? with
  | some next => return (t, next)
  | none => throw .malformed

/-! ## All tokens -/

/-- The next token, at a cursor that is not at the end. -/
def token (s : Scan) (c : Char) : Except Fault Scan :=
  let rest := s.cursor.rest
  let ends := endsToken (rest.drop 1)
  if c == '%' && s.cursor.column == 0 then do
    let (t, after) ← directive s.cursor
    s.documentMark t after
  else if s.cursor.column == 0 && hasMark '-' rest then s.documentMark .documentStart (s.cursor.skip 3)
  else if s.cursor.column == 0 && hasMark '.' rest then s.documentMark .documentEnd (s.cursor.skip 3)
  else if c == '[' then s.openFlow .openSequence
  else if c == '\x7b' then s.openFlow .openMapping
  else if c == ']' then s.closeFlow .closeSequence
  else if c == '\x7d' then s.closeFlow .closeMapping
  else if c == ',' then s.comma
  else if c == '-' && ends then s.entry .blockSequence .item
  else if c == '?' && (s.inFlow || ends) then s.entry .blockMapping .key
  else if c == ':' && (s.inFlow || ends) then s.value
  else if c == '*' then s.keyToken (name .alias)
  else if c == '&' then s.keyToken (name .anchor)
  else if c == '!' then s.keyToken tag
  else if (c == '|' || c == '>') && !s.inFlow then s.literal
  else if c == '\'' || c == '"' then
    s.keyToken fun cur => (Quoted.read cur).map fun (t, after) => (.scalar t false, after)
  else if Plain.starts s.inFlow rest then s.plain
  else .error .malformed

/-- Past the layout in front of the next token, after which block collections may have ended and keys may begin. -/
def settle (s : Scan) : Except Fault Scan := do
  let cur := s.cursor
  let cur := if cur.index == 0 && cur.rest.head? == some orderMark then cur.step else cur
  let next := cur.skipGap
  let s ← forgetFarKeys { s with
    cursor := next, keyAllowed := s.keyAllowed || (!s.inFlow && cur.line < next.line) }
  return s.unwind (Int.ofNat next.column)

/-- The tokens up to the end. Every token takes up a character at least, so that the length of the text and one more
is enough fuel. -/
def run : (fuel : Nat) → Scan → Except Fault (List Token)
  | 0, _ => .error .malformed
  | fuel + 1, s => do
    let s ← s.settle
    match s.cursor.rest with
    | [] =>
      let s ← (s.unwind (-1)).forgetKey
      return s.tokens.reverse
    | c :: _ => run fuel (← s.token c)

end Scan

def Token.ofText (t : Text) : Except Fault (List Token) := Scan.run (t.length + 1) { cursor := { rest := t } }

end Stylebook.Yaml
