import Stylebook.Text.Basic

/-!
# Warnings

What a user should hear of although the work goes on: a reference that two sections declare, and a file that
is no text.
-/

namespace Stylebook

inductive Warning where
  | duplicate (reference : Text)
  | skipped (file : Text)
  deriving DecidableEq

def Warning.message : Warning → Text
  | .duplicate reference => "Duplicate style guide reference: ".toList ++ reference
  | .skipped file => "Skipping ".toList ++ file

end Stylebook
