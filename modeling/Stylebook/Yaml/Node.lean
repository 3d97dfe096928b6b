import Stylebook.Yaml.Scalar
import Stylebook.Yaml.Token

/-!
# The nodes of a YAML document

* `Node` : scalars, sequences and mappings, before scalars stand for values;
* `Node.Source` : the tokens that are left, the nodes that have names, and the handles of tags;
* `Node.read` : the node in front, be it in a block or in a flow collection. A sequence may stand at the column of the
  key that it belongs to;
* `Node.ofTokens?` : the node of a stream of tokens, which holds one document at most.

A named node stands in the place of each alias for it; a node cannot hold itself.
-/

namespace Stylebook.Yaml

/-- A node. A scalar has the form in which it is to be read; a node with an unknown tag is refused. -/
inductive Node where
  | scalar (form : Form) (t : Text)
  | sequence (items : List Node)
  | mapping (pairs : List (Node × Node))
  | refused

namespace Node

def empty : Node := .scalar .plain []

/-- Where the tags of the format begin. -/
def standardTag (name : String) : Text := "tag:yaml.org,2002:".toList ++ name.toList

/-- The handles that every document knows. -/
def standardHandles : List (Text × Text) := [(['!'], ['!']), (['!', '!'], standardTag "")]

/-- What is left of a document. -/
structure Source where
  tokens : List Token
  named : List (Text × Node) := []
  handles : List (Text × Text) := standardHandles

/-- Reads a part of a document. -/
abbrev Reader := StateT Source Option

def peek : Reader (Option Token) := do return (← get).tokens.head?

def advance : Reader Unit := modify fun s => { s with tokens := s.tokens.tail }

def sees (ts : List Token) : Reader Bool := do return (← peek).any ts.contains

def accept (t : Token) : Reader Bool := do
  if ← sees [t] then
    advance
    return true
  else return false

def expect (t : Token) : Reader Unit := do
  if !(← accept t) then failure

def named (name : Text) : Reader Node := fun s => (s.named.lookup name).map (·, s)

/-- Gives a name to a node; no name is given twice. -/
def remember (name : Text) (n : Node) : Reader Unit := fun s =>
  if (s.named.lookup name).isSome then none else some ((), { s with named := (name, n) :: s.named })

def name : Reader (Option Text) := do
  match ← peek with
  | some (.anchor name) => do
    advance
    return some name
  | _ => return none

def tag : Reader (Option Text) := do
  match ← peek with
  | some (.tag none suffix) => do
    advance
    return some suffix
  | some (.tag (some handle) suffix) => do
    advance
    match (← get).handles.lookup handle with
    | some front => return some (front ++ suffix)
    | none => failure
  | _ => return none

/-- The name and the tag in front, in either order. -/
def properties : Reader (Option Text × Option Text) := do
  match ← name with
  | some n => return (some n, ← tag)
  | none => do
    let t ← tag
    return (← name, t)

/-- The forms that tags of the format ask for. -/
def standardForms : List (Text × Form) :=
  [(standardTag "str", .text), (standardTag "null", .null), (standardTag "bool", .truth),
    (standardTag "int", .integer), (standardTag "float", .float), (standardTag "timestamp", .timestamp)]

def ofScalar (tag : Option Text) (t : Text) (plain : Bool) : Node :=
  match tag with
  | none => .scalar (if plain then .plain else .text) t
  | some tag =>
    if tag == ['!'] then .scalar .plain t
    else match standardForms.lookup tag with
      | some form => .scalar form t
      | none => .refused

/-- A collection with a tag, given the tag of its kind. -/
def ofCollection (tag : Option Text) (kind : String) (n : Node) : Node :=
  if tag.all fun tag => tag == ['!'] || tag == standardTag kind then n else .refused

mutual

/-- A node inside a block or inside a flow collection; if it is `flush`, it may be a sequence at the column of its
key. -/
def read (block flush : Bool) : (fuel : Nat) → Reader Node
  | 0 => failure
  | fuel + 1 => do
    match ← peek with
    | some (.alias name) => do
      advance
      named name
    | _ => do
      let (name, tag) ← properties
      let n ← content block flush (name.isSome || tag.isSome) tag fuel
      match name with
      | some name => remember name n
      | none => pure ()
      return n

/-- The content of a node with a tag. Only if it is `marked`, by a name or a tag, may it be empty. -/
def content (block flush marked : Bool) (tag : Option Text) : (fuel : Nat) → Reader Node
  | 0 => failure
  | fuel + 1 => do
    if flush && (← sees [.item]) then
      return ofCollection tag "seq" (.sequence (← blockItems true [] fuel))
    else match ← peek with
      | some (.scalar t plain) => do
        advance
        return ofScalar tag t plain
      | some .openSequence => do
        advance
        return ofCollection tag "seq" (.sequence (← flowItems true [] fuel))
      | some .openMapping => do
        advance
        return ofCollection tag "map" (.mapping (← flowPairs true [] fuel))
      | some .blockSequence =>
        if block then do
          advance
          return ofCollection tag "seq" (.sequence (← blockItems false [] fuel))
        else empty?
      | some .blockMapping =>
        if block then do
          advance
          return ofCollection tag "map" (.mapping (← blockPairs [] fuel))
        else empty?
      | _ => empty?
where
  /-- An empty scalar, if the node is marked. -/
  empty? : Reader Node := if marked then return ofScalar tag [] true else failure

/-- The node in front, or the empty one if one of the tokens is there. -/
def readUnless (ts : List Token) (block : Bool) : (fuel : Nat) → Reader Node
  | 0 => failure
  | fuel + 1 => do
    if ← sees ts then return empty else read block block fuel

/-- The items of a block sequence, after those that have been read, the last one first. -/
def blockItems (flush : Bool) (items : List Node) : (fuel : Nat) → Reader (List Node)
  | 0 => failure
  | fuel + 1 => do
    if ← accept .item then
      let ends := if flush then [.item, .key, .value, .blockEnd] else [.item, .blockEnd]
      let n ← if ← sees ends then pure empty else read true false fuel
      blockItems flush (n :: items) fuel
    else if flush then return items.reverse
    else if ← accept .blockEnd then return items.reverse
    else failure

/-- The pairs of a block mapping, after those that have been read, the last one first. -/
def blockPairs (pairs : List (Node × Node)) : (fuel : Nat) → Reader (List (Node × Node))
  | 0 => failure
  | fuel + 1 => do
    if ← accept .key then
      let key ← readUnless [.key, .value, .blockEnd] true fuel
      let value ← if ← accept .value then readUnless [.key, .value, .blockEnd] true fuel else pure empty
      blockPairs ((key, value) :: pairs) fuel
    else if ← accept .blockEnd then return pairs.reverse
    else failure

/-- The items of a flow sequence, after those that have been read, the last one first. An item with a key is a mapping
of one pair. -/
def flowItems (first : Bool) (items : List Node) : (fuel : Nat) → Reader (List Node)
  | 0 => failure
  | fuel + 1 => do
    if ← accept .closeSequence then return items.reverse
    if !first then expect .comma
    if ← accept .key then
      let key ← readUnless [.value, .comma, .closeSequence] false fuel
      let value ← if ← accept .value then readUnless [.comma, .closeSequence] false fuel else pure empty
      flowItems false (.mapping [(key, value)] :: items) fuel
    else if ← accept .closeSequence then return items.reverse
    else
      let n ← read false false fuel
      flowItems false (n :: items) fuel

/-- The pairs of a flow mapping, after those that have been read, the last one first. A node without a colon is a key
of the empty node. -/
def flowPairs (first : Bool) (pairs : List (Node × Node)) : (fuel : Nat) → Reader (List (Node × Node))
  | 0 => failure
  | fuel + 1 => do
    if ← accept .closeMapping then return pairs.reverse
    if !first then expect .comma
    if ← accept .key then
      let key ← readUnless [.value, .comma, .closeMapping] false fuel
      let value ← if ← accept .value then readUnless [.comma, .closeMapping] false fuel else pure empty
      flowPairs false ((key, value) :: pairs) fuel
    else if ← accept .closeMapping then return pairs.reverse
    else
      let key ← read false false fuel
      flowPairs false ((key, empty) :: pairs) fuel

end

/-! ## Documents -/

/-- The directives in front: at most one version, which must be of the first major one, and handles, each of them once.
Gives the handles and the tokens after the directives. -/
def directives (versioned : Bool) (handles : List (Text × Text)) :
    List Token → Option (List (Text × Text) × List Token)
  | .version major :: rest => if versioned || major != 1 then none else directives true handles rest
  | .tagHandle handle uri :: rest =>
    if (handles.lookup handle).isSome then none else directives versioned ((handle, uri) :: handles) rest
  | .directive :: rest => directives versioned handles rest
  | ts => some (handles, ts)

def isDocumentMark : Token → Bool
  | .version _ | .tagHandle _ _ | .directive | .documentStart | .documentEnd => true
  | _ => false

/-- The node at the beginning of some tokens, and the tokens after it. -/
def readBlock? (handles : List (Text × Text)) (ts : List Token) : Option (Node × List Token) :=
  (read true false (8 * ts.length + 8) { tokens := ts, handles := handles ++ standardHandles }).map
    fun (n, s) => (n, s.tokens)

/-- The node of the first document, and the tokens after it. -/
def first? (ts : List Token) : Option (Node × List Token) :=
  if ts.head?.all fun t => isDocumentMark t && t != .documentEnd then
    match directives false [] ts with
    | some (handles, .documentStart :: rest) =>
      if rest.head?.all isDocumentMark then some (empty, rest) else readBlock? handles rest
    | some (_, []) => if ts.isEmpty then some (empty, []) else none
    | _ => none
  else readBlock? [] ts

/-- The node of a stream of tokens, the empty one if there is no document. -/
def ofTokens? (ts : List Token) : Option Node := do
  let (n, rest) ← first? ts
  if rest.all (· == .documentEnd) then some n else none

end Node

end Stylebook.Yaml
