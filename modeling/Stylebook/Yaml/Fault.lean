import Stylebook.Calendar
import Stylebook.Text.Quoted

/-!
# Faults of YAML documents

* `Fault` : a text that is no document, a scalar that looks like a value and is none, or a value that is not written;
* `Fault.message` : the text of these. What is malformed is not told.
-/

namespace Stylebook.Yaml

inductive Fault where
  | malformed
  | codePoint
  | noInteger (base : Nat) (t : Text)
  | noFloat (t : Text)
  | tooManyDigits (count : Nat)
  | unwritable
  | outOfRange (e : Calendar.Error)
  deriving DecidableEq

def Fault.message : Fault → Text
  | .malformed => "invalid YAML".toList
  | .codePoint => "chr() arg not in range(0x110000)".toList
  | .noInteger base t =>
    "invalid literal for int() with base ".toList ++ Nat.toDigits 10 base ++ [':', ' '] ++ Text.quoted t
  | .noFloat t => "could not convert string to float: ".toList ++ Text.quoted t
  | .tooManyDigits count =>
    "Exceeds the limit (4300 digits) for integer string conversion: value has ".toList ++ Nat.toDigits 10 count ++
      " digits; use sys.set_int_max_str_digits() to increase the limit".toList
  | .unwritable =>
    "Exceeds the limit (4300 digits) for integer string conversion; ".toList ++
      "use sys.set_int_max_str_digits() to increase the limit".toList
  | .outOfRange e => e.message

end Stylebook.Yaml
