import Stylebook.Text.Basic

/-!
# The order of texts

* `isBefore` : texts are compared by code points, and a text stands before those that extend it;
* `sortTexts` : texts in this order, equal ones kept.
-/

namespace Stylebook.Text

def isBefore (a b : Text) : Bool := List.lex a b fun x y => x.toNat < y.toNat

def sortTexts (ts : List Text) : List Text := ts.mergeSort fun a b => !isBefore b a

end Stylebook.Text
