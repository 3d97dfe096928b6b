import Stylebook.Console.Emoji.Codes
import Stylebook.Text.Case.Full

/-!
# Emoji in texts

A name between colons stands for an emoji. After the name, `-text` or `-emoji` asks for one of its two looks.

* `Emoji.ofCode?` : the emoji that the text between two colons stands for;
* `Emoji.replace` : a text with its emoji.
-/

namespace Stylebook.Emoji

open Text

/-- The name that a code has before a look, and the character that asks for the look. -/
def lookOf (code : Text) : Text × Text :=
  if endsWith "-emoji".toList code then (code.take (code.length - 6), [Char.ofNat 0xfe0f])
  else if endsWith "-text".toList code then (code.take (code.length - 5), [Char.ofNat 0xfe0e])
  else (code, [])

/-- The emoji that the text between two colons stands for. -/
def ofCode? (code : Text) : Option Text :=
  let (name, look) := lookOf code
  (find? (lower name)).map (· ++ look)

/-- The text between a colon in front and the next one, if there are no blanks in it. -/
def code? (t : Text) : Option Text :=
  match t with
  | ':' :: rest =>
    let code := rest.takeWhile fun c => c != ':' && !isBlank c
    if (rest.drop code.length).head? == some ':' then some code else none
  | _ => none

/-- The text with its emoji; `used` characters in front belong to a code. A code that stands for nothing stays. -/
def replaceFrom (used : Nat) : Text → Text
  | [] => []
  | c :: rest =>
    match used with
    | n + 1 => replaceFrom n rest
    | 0 =>
      match code? (c :: rest) with
      | some code =>
        (ofCode? code).getD (':' :: code ++ [':']) ++ replaceFrom (code.length + 1) rest
      | none => c :: replaceFrom 0 rest

def replace (t : Text) : Text := replaceFrom 0 t

end Stylebook.Emoji
