import Stylebook.Text.Quoted
import Stylebook.Weight

/-!
# JSON documents

* `Json` : a document, its objects in the order in which they are written;
* `Json.write` : the document over several lines, two spaces to a level, in ASCII. Characters beyond U+FFFF are
  escaped as two surrogates, and numbers are written as weights are.
-/

namespace Stylebook

inductive Json where
  | null
  | bool (b : Bool)
  | number (w : Weight)
  | text (t : Text)
  | array (items : List Json)
  | object (fields : List (Text × Json))

namespace Json

def unitEscape (n : Nat) : Text := '\\' :: 'u' :: Text.hex 4 n

def charText (c : Char) : Text :=
  if c == '"' || c == '\\' then ['\\', c]
  else if c == '\n' then ['\\', 'n']
  else if c == '\r' then ['\\', 'r']
  else if c == '\t' then ['\\', 't']
  else if c.toNat == 0x08 then ['\\', 'b']
  else if c.toNat == 0x0c then ['\\', 'f']
  else if 0x20 ≤ c.toNat && c.toNat < 0x7f then [c]
  else if c.toNat < 0x10000 then unitEscape c.toNat
  else
    let n := c.toNat - 0x10000
    unitEscape (0xd800 + n / 0x400) ++ unitEscape (0xdc00 + n % 0x400)

def quotedText (t : Text) : Text := '"' :: t.flatMap charText ++ ['"']

/-- A line break and the indentation of a level. -/
def newline (level : Nat) : Text := '\n' :: List.replicate (2 * level) ' '

/-- Written members between brackets, each on a line of its own. -/
def bracketed (opening closing : Char) (level : Nat) (members : List Text) : Text :=
  if members.isEmpty then [opening, closing]
  else
    opening :: newline (level + 1) ++ (',' :: newline (level + 1)).intercalate members ++
      newline level ++ [closing]

/-- Finite numbers are written as weights are; for the others there are names. -/
def numberText : Weight → Text
  | .finite q => Weight.finiteText q
  | .infinite negative => (if negative then ['-'] else []) ++ "Infinity".toList
  | .nan _ => "NaN".toList

mutual

def writeAt (level : Nat) : Json → Text
  | .null => "null".toList
  | .bool true => "true".toList
  | .bool false => "false".toList
  | .number w => numberText w
  | .text t => quotedText t
  | .array items => bracketed '[' ']' level (writeItems (level + 1) items)
  | .object fields => bracketed '\x7b' '\x7d' level (writeFields (level + 1) fields)

def writeItems (level : Nat) : List Json → List Text
  | [] => []
  | item :: rest => writeAt level item :: writeItems level rest

def writeFields (level : Nat) : List (Text × Json) → List Text
  | [] => []
  | (name, value) :: rest =>
    (quotedText name ++ [':', ' '] ++ writeAt level value) :: writeFields level rest

end

def write (j : Json) : Text := writeAt 0 j

end Json

end Stylebook
