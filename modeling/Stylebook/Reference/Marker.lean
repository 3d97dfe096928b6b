import Stylebook.Phonetic.Matcher
import Stylebook.Text.Case.Full

/-!
# The marker of a reference

The last paragraph of a comment declares the reference of its section after the word `Styleguide`, which may be
written in two words, in any case, and with a colon or a dash at its end.

* `Marker.isKeyword` : a word is that keyword. A matcher also lets a misspelt one pass;
* `Marker.find? ps` : the words after the keyword in the last of the paragraphs `ps`, joined by spaces.
-/

namespace Stylebook.Marker

open Text

def keyword : Text := ['s', 't', 'y', 'l', 'e', 'g', 'u', 'i', 'd', 'e']

/-- A word without one dash or colon at its end. -/
def dropMark (word : Text) : Text :=
  match word.getLast? with
  | some c => if c == '-' || c == ':' then word.dropLast else word
  | none => word

def isKeyword (m : Option Matcher) (written : Text) : Bool :=
  let word := dropMark written
  lower word == keyword || m.any (·.alike (word.filter (· != '-')) keyword)

/-- The words after the keyword, if the words begin with it and go on. -/
def afterKeyword? (m : Option Matcher) : List Text → Option (List Text)
  | first :: second :: rest =>
    if isKeyword m first then some (second :: rest)
    else if isKeyword m (first ++ second) then some rest
    else none
  | _ => none

def find? (m : Option Matcher) (paragraphs : List Text) : Option Text :=
  match afterKeyword? m (words (paragraphs.getLastD [])) with
  | some (w :: ws) => some (unwords (w :: ws))
  | _ => none

end Stylebook.Marker
