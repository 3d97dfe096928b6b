/-!
# Tables of code points

* `Span.holds spans c` : the code point of `c` lies in one of the closed intervals `spans`;
* `Shift` : an arithmetic run of code points with the image of its first member, the form in which the case
  maps are stored; `Shift.apply runs c` is the image of `c` under the first run that holds it, and `c`
  itself under none.
-/

namespace Stylebook.Text

abbrev Span := Nat × Nat

def Span.holds (spans : List Span) (c : Char) : Bool :=
  spans.any fun s => s.1 ≤ c.toNat && c.toNat ≤ s.2

/-- Every `step`-th code point from `first` to `last`, mapped in order to the code points from `image` on. -/
structure Shift where
  first : Nat
  last : Nat
  step : Nat
  image : Nat

def Shift.covers (s : Shift) (n : Nat) : Bool :=
  s.first ≤ n && n ≤ s.last && (n - s.first) % s.step == 0

/-- The image of `c` under the first run that holds it. -/
def Shift.apply (runs : List Shift) (c : Char) : Char :=
  match runs.find? (·.covers c.toNat) with
  | some s => Char.ofNat (s.image + (c.toNat - s.first))
  | none => c

end Stylebook.Text
