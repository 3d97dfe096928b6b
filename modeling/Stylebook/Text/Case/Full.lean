import Stylebook.Text.Basic
import Stylebook.Text.Case.Cased
import Stylebook.Text.Case.Lower

/-!
# Lower case of a whole text

* `lowerIn before c rest` : the lower-case form of `c` between the characters `before` it, the nearest
  first, and `rest`. It is one character but for the dotted capital `İ`; the capital sigma is final when
  a letter stands before it in its word and none after it;
* `lower` : the lower-case form of a text.
-/

namespace Stylebook.Text

/-- Looking outwards through marks that case ignores, the first character is a letter with case. -/
def meetsCased (t : Text) : Bool :=
  match t.dropWhile isCaseIgnorable with
  | c :: _ => isCased c
  | [] => false

/-- The lower-case form of `c` between `before`, the nearest character first, and `rest`. -/
def lowerIn (before : Text) (c : Char) (rest : Text) : Text :=
  if c == 'İ' then ['i', Char.ofNat 0x307]
  else if c == 'Σ' then [if meetsCased before && !meetsCased rest then 'ς' else 'σ']
  else [lowerChar c]

/-- Lower case of the rest of a text after the characters `before`, the nearest first. -/
def lowerFrom (before : Text) : Text → Text
  | [] => []
  | c :: rest => lowerIn before c rest ++ lowerFrom (c :: before) rest

def lower (t : Text) : Text := lowerFrom [] t

end Stylebook.Text
