import Stylebook.Text.Basic

/-!
# Matchers

A matcher decides whether a word sounds like an expected one, so that misspelt labels and keywords are still
recognised.
-/

namespace Stylebook

/-- Decides whether a written word sounds like an expected one. -/
structure Matcher where
  alike : (written expected : Text) → Bool

end Stylebook
