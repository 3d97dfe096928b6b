import Stylebook.Text.Case.Lower

/-!
# Letters equal up to case

* `caseAliases` : lower-case letters that count as another spelling of an earlier one (the dotless `ı` of
  `i`, the long `ſ` of `s`, the micro sign of `μ`, the final `ς` of `σ`, and so on);
* `caseKey` : the representative of a character's class;
* `sameLetter` : equality up to case, character by character, without any folding to several characters.
-/

namespace Stylebook.Text

/-- Lower-case letters with the letter that represents their class. -/
def caseAliases : List (Nat × Nat) := [
  (0x131, 0x69), (0x17f, 0x73), (0x3b9, 0x345), (0x3bc, 0xb5), (0x3c3, 0x3c2), (0x3d0, 0x3b2),
  (0x3d1, 0x3b8), (0x3d5, 0x3c6), (0x3d6, 0x3c0), (0x3f0, 0x3ba), (0x3f1, 0x3c1), (0x3f5, 0x3b5),
  (0x1c80, 0x432), (0x1c81, 0x434), (0x1c82, 0x43e), (0x1c83, 0x441), (0x1c84, 0x442),
  (0x1c85, 0x442), (0x1c86, 0x44a), (0x1c87, 0x463), (0x1e9b, 0x1e61), (0x1fbe, 0x345),
  (0x1fd3, 0x390), (0x1fe3, 0x3b0), (0xa64b, 0x1c88), (0xfb06, 0xfb05)
]

/-- The representative of the class of characters that equal `c` up to case. -/
def caseKey (c : Char) : Char :=
  let l := lowerChar c
  if l.toNat < 128 then l
  else match caseAliases.lookup l.toNat with
    | some n => Char.ofNat n
    | none => l

def sameLetter (a b : Char) : Bool := caseKey a == caseKey b

end Stylebook.Text
