import Stylebook.Phonetic.Matcher

/-!
# Metaphone

A code for the sound of an English word: letters that sound alike share a code letter, vowels count only at
the front, and silent letters are left out. `0` stands for the sound of `th`, `X` for that of `sh`.

* `Metaphone.sound` : what one letter contributes among its neighbours, and how many of the letters after it
  are used up with it;
* `Metaphone.code` : the code of a word, of which only the letters from `A` to `Z` count;
* `Matcher.metaphone` : two words sound alike if they have the same code, and some code at all.
-/

namespace Stylebook

namespace Metaphone

/-- What a letter adds to the code, and the number of following letters used up with it. -/
structure Sound where
  code : Text := []
  uses : Nat := 0

def isVowel (c : Char) : Bool := c == 'a' || c == 'e' || c == 'i' || c == 'o' || c == 'u'

/-- A vowel that makes the `c` or `g` before it soft. -/
def isSoft (c : Char) : Bool := c == 'i' || c == 'e' || c == 'y'

/-- The vowels that turn `si` and `ti` before them into the sound of `sh`. -/
def isOpen (c : Char) : Bool := c == 'o' || c == 'a'

/-- The sound of the lower-case letter `c`, which follows `before` and stands before `after`. -/
def sound (before : Option Char) (c : Char) (after : Text) : Sound :=
  let next := after.head?
  let second := after[1]?
  let nextIs (x : Char) : Bool := next == some x
  let secondIs (x : Char) : Bool := second == some x
  match c with
  | 'a' | 'e' | 'i' | 'o' | 'u' => if before.isNone then ⟨[c], 0⟩ else {}
  | 'b' => if before == some 'm' && next.isNone then {} else ⟨['b'], 0⟩
  | 'c' =>
    if (nextIs 'i' && secondIs 'a') || nextIs 'h' then ⟨['x'], 1⟩
    else if next.any isSoft then ⟨['s'], 1⟩
    else ⟨['k'], 0⟩
  | 'd' => if nextIs 'g' && second.any isSoft then ⟨['j'], 2⟩ else ⟨['t'], 0⟩
  | 'f' | 'j' | 'l' | 'm' | 'n' | 'r' => ⟨[c], 0⟩
  | 'g' =>
    if next.any isSoft then ⟨['j'], 0⟩
    else if nextIs 'h' && !second.any isVowel then ⟨[], 1⟩
    else if nextIs 'n' && second.isNone then ⟨[], 1⟩
    else ⟨['k'], 0⟩
  | 'h' =>
    if before.isNone || next.any isVowel || !before.any isVowel then ⟨['h'], 0⟩ else {}
  | 'k' => if before == some 'c' then {} else ⟨['k'], 0⟩
  | 'p' => if nextIs 'h' then ⟨['f'], 1⟩ else ⟨['p'], 0⟩
  | 'q' => ⟨['k'], 0⟩
  | 's' =>
    if nextIs 'h' then ⟨['x'], 1⟩
    else if nextIs 'i' && second.any isOpen then ⟨['x'], 2⟩
    else ⟨['s'], 0⟩
  | 't' =>
    if nextIs 'i' && second.any isOpen then ⟨['x'], 0⟩
    else if nextIs 'h' then ⟨['0'], 1⟩
    else if nextIs 'c' && secondIs 'h' then {}
    else ⟨['t'], 0⟩
  | 'v' => ⟨['f'], 0⟩
  | 'w' =>
    if before.isNone && nextIs 'h' then ⟨['w'], 1⟩
    else if next.any isVowel then ⟨['w'], 0⟩
    else {}
  | 'x' =>
    if before.isNone then
      if nextIs 'h' || (nextIs 'i' && second.any isOpen) then ⟨['x'], 0⟩ else ⟨['s'], 0⟩
    else ⟨['k', 's'], 0⟩
  | 'y' => if next.any isVowel then ⟨['y'], 0⟩ else {}
  | 'z' => ⟨['s'], 0⟩
  | _ => {}

/-- The sounds of the rest of a word after the letter `before`; `used` letters in front are used up. The
first of two equal letters is silent, other than `c`. -/
def codeFrom (before : Option Char) (used : Nat) : Text → Text
  | [] => []
  | c :: rest =>
    match used with
    | n + 1 => codeFrom (some c) n rest
    | 0 =>
      if rest.head? == some c && c != 'c' then codeFrom (some c) 0 rest
      else
        let s := sound before c rest
        s.code ++ codeFrom (some c) s.uses rest

/-- The word without its first letter where that is silent before the second. -/
def dropSilentStart : Text → Text
  | 'k' :: 'n' :: rest => 'n' :: rest
  | 'g' :: 'n' :: rest => 'n' :: rest
  | 'p' :: 'n' :: rest => 'n' :: rest
  | 'w' :: 'r' :: rest => 'r' :: rest
  | 'a' :: 'e' :: rest => 'e' :: rest
  | t => t

/-- The code of a word, of which only the letters from `A` to `Z` count. -/
def code (word : Text) : Text :=
  let letters := (word.filter Char.isAlpha).map Char.toLower
  (codeFrom none 0 (dropSilentStart letters)).map Char.toUpper

end Metaphone

/-- Words that have the same code sound alike, unless the code is empty. -/
def Matcher.metaphone : Matcher where
  alike written expected :=
    let c := Metaphone.code written
    !c.isEmpty && c == Metaphone.code expected

end Stylebook
