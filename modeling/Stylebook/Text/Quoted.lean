import Stylebook.Text.Basic
import Stylebook.Text.Printable

/-!
# Quoted texts

`quoted t` is `t` as messages show it: between single quotes, or double quotes where that saves escaping, with
a backslash before the quote and the backslash, `\n`, `\r`, `\t` for these three controls, and hexadecimal
escapes of two, four or eight digits for the other characters that are not printable.
-/

namespace Stylebook.Text

/-- The lower-case hexadecimal digits of `n`, at least `width` of them. -/
def hex (width n : Nat) : Text :=
  let ds := Nat.toDigits 16 n
  List.replicate (width - ds.length) '0' ++ ds

def hexEscape (c : Char) : Text :=
  let n := c.toNat
  if n < 0x100 then '\\' :: 'x' :: hex 2 n
  else if n < 0x10000 then '\\' :: 'u' :: hex 4 n
  else '\\' :: 'U' :: hex 8 n

def quotedChar (quote c : Char) : Text :=
  if c == quote || c == '\\' then ['\\', c]
  else if c == '\n' then ['\\', 'n']
  else if c == '\r' then ['\\', 'r']
  else if c == '\t' then ['\\', 't']
  else if isPrintable c then [c]
  else hexEscape c

/-- The text between quotes: double ones if it holds a single quote and no double one. -/
def quoted (t : Text) : Text :=
  let quote := if t.contains '\'' && !t.contains '"' then '"' else '\''
  quote :: t.flatMap (quotedChar quote) ++ [quote]

end Stylebook.Text
