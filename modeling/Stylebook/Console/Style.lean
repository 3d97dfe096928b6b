import Stylebook.Text.Case.Full
import Stylebook.Text.Digit

/-!
# Console styles

A style is written as words: attributes such as `bold` or `b`, `not` and an attribute, a colour, `on` and a colour, `link`
and an address. Different words can mean the same style.

* `Style`, `Style.ofText?` : the style that words mean. A colour of three parts must have digits in each: else nothing can be
  told, not even that there is no style;
* `Style.name` : its name, the same for all words that mean the style;
* `Style.normal` : the name of the style that a text means; a text that means none is a name in lower case.
-/

namespace Stylebook

open Text

/-- Attributes that are on or off, a colour, the colour behind the text, and an address. -/
structure Style where
  attributes : List (Text × Bool) := []
  colour : Option Text := none
  ground : Option Text := none
  link : Option Text := none

namespace Style

/-- Why a part of a colour is no number. -/
inductive Fault where
  | noDigits
  | tooManyDigits (count : Nat)
  deriving DecidableEq

def Fault.message : Fault → Text
  | .noDigits => "invalid literal for int() with base 10: ''".toList
  | .tooManyDigits count =>
    "Exceeds the limit (4300 digits) for integer string conversion: value has ".toList ++ Nat.toDigits 10 count ++
      " digits; use sys.set_int_max_str_digits() to increase the limit".toList

/-- The attributes in the order in which names list them. -/
def attributeNames : List String :=
  ["bold", "dim", "italic", "underline", "blink", "blink2", "reverse", "conceal", "strike", "underline2", "frame",
    "encircle", "overline"]

def shortNames : List (String × String) :=
  [("b", "bold"), ("d", "dim"), ("i", "italic"), ("u", "underline"), ("r", "reverse"), ("c", "conceal"),
    ("s", "strike"), ("uu", "underline2"), ("o", "overline")]

def attribute? (word : Text) : Option Text :=
  let name := String.ofList word
  if attributeNames.contains name then some word else (shortNames.lookup name).map String.toList

def colourNames : String := "
  black red green yellow blue magenta cyan white bright_black bright_red bright_green bright_yellow
  bright_blue bright_magenta bright_cyan bright_white grey0 gray0 navy_blue dark_blue blue3 blue1
  dark_green deep_sky_blue4 dodger_blue3 dodger_blue2 green4 spring_green4 turquoise4 deep_sky_blue3
  dodger_blue1 green3 spring_green3 dark_cyan light_sea_green deep_sky_blue2 deep_sky_blue1
  spring_green2 cyan3 dark_turquoise turquoise2 green1 spring_green1 medium_spring_green cyan2 cyan1
  dark_red deep_pink4 purple4 purple3 blue_violet orange4 grey37 gray37 medium_purple4 slate_blue3
  royal_blue1 chartreuse4 dark_sea_green4 pale_turquoise4 steel_blue steel_blue3 cornflower_blue
  chartreuse3 cadet_blue sky_blue3 steel_blue1 pale_green3 sea_green3 aquamarine3 medium_turquoise
  chartreuse2 sea_green2 sea_green1 aquamarine1 dark_slate_gray2 dark_magenta dark_violet purple
  light_pink4 plum4 medium_purple3 slate_blue1 yellow4 wheat4 grey53 gray53 light_slate_grey
  light_slate_gray medium_purple light_slate_blue dark_olive_green3 dark_sea_green light_sky_blue3
  sky_blue2 dark_sea_green3 dark_slate_gray3 sky_blue1 chartreuse1 light_green pale_green1
  dark_slate_gray1 red3 medium_violet_red magenta3 dark_orange3 indian_red hot_pink3 medium_orchid3
  medium_orchid medium_purple2 dark_goldenrod light_salmon3 rosy_brown grey63 gray63 medium_purple1
  gold3 dark_khaki navajo_white3 grey69 gray69 light_steel_blue3 light_steel_blue yellow3
  dark_sea_green2 light_cyan3 light_sky_blue1 green_yellow dark_olive_green2 dark_sea_green1
  pale_turquoise1 deep_pink3 magenta2 hot_pink2 orchid medium_orchid1 orange3 light_pink3 pink3 plum3
  violet light_goldenrod3 tan misty_rose3 thistle3 plum2 khaki3 light_goldenrod2 light_yellow3 grey84
  gray84 light_steel_blue1 yellow2 dark_olive_green1 honeydew2 light_cyan1 red1 deep_pink2 deep_pink1
  magenta1 orange_red1 indian_red1 hot_pink dark_orange salmon1 light_coral pale_violet_red1 orchid2
  orchid1 orange1 sandy_brown light_salmon1 light_pink1 pink1 plum1 gold1 navajo_white1 misty_rose1
  thistle1 yellow1 light_goldenrod1 khaki1 wheat1 cornsilk1 grey100 gray100 grey3 gray3 grey7 gray7
  grey11 gray11 grey15 gray15 grey19 gray19 grey23 gray23 grey27 gray27 grey30 gray30 grey35 gray35
  grey39 gray39 grey42 gray42 grey46 gray46 grey50 gray50 grey54 gray54 grey58 gray58 grey62 gray62
  grey66 gray66 grey70 gray70 grey74 gray74 grey78 gray78 grey82 gray82 grey85 gray85 grey89 gray89
  grey93 gray93"

def isHexDigit (c : Char) : Bool := c.isDigit || ('a' ≤ c && c ≤ 'f')

/-- The text between a front, and a parenthesis at the end. -/
def argument? (front : String) (t : Text) : Option Text :=
  match afterText? front.toList t with
  | some rest => if endsWith [')'] rest then some rest.dropLast else none
  | none => none

/-- The number that digits of any script mean. -/
def number (ds : Text) : Except Fault Nat :=
  if ds.isEmpty then .error .noDigits
  else if 4300 < ds.length then .error (.tooManyDigits ds.length)
  else .ok (ds.foldl (fun n c => 10 * n + (digitValue? c).getD 0) 0)

/-- The numbers between commas are the three parts of a colour. -/
def isTriple (ds : Text) : Except Fault Bool :=
  match ds.splitOn ',' with
  | [red, green, blue] => return [← number red, ← number green, ← number blue].all (· ≤ 255)
  | _ => .ok false

/-- The word in lower case means a colour: by its name, by its three parts in hexadecimal or decimal digits, or by its
number. -/
def isColour (word : Text) : Except Fault Bool :=
  if word == "default".toList || (words colourNames.toList).contains word then .ok true
  else
    match word with
    | '#' :: ds => .ok (ds.length == 6 && ds.all isHexDigit)
    | _ =>
      match argument? "color(" word with
      | some ds => if ds.length ≤ 3 && ds.all Char.isDigit && !ds.isEmpty then (· ≤ 255) <$> number ds else .ok false
      | none =>
        match argument? "rgb(" word with
        | some ds => if ds.all fun c => isDecimal c || c == ',' then isTriple ds else .ok false
        | none => .ok false

def withAttribute (s : Style) (name : Text) (on : Bool) : Style := { s with attributes := (name, on) :: s.attributes }

/-- The style that more words mean together with those read before. -/
def ofWords? (s : Style) : List Text → Except Fault (Option Style)
  | [] => .ok (some s)
  | spelled :: rest =>
    let word := lower spelled
    match String.ofList word, rest with
    | "on", colour :: rest => do
      if ← isColour (lower colour) then ofWords? { s with ground := some (lower colour) } rest else return none
    | "not", name :: rest =>
      match attribute? name with
      | some name => ofWords? (s.withAttribute name false) rest
      | none => .ok none
    | "link", address :: rest => ofWords? { s with link := some address } rest
    | "on", [] | "not", [] | "link", [] => .ok none
    | _, rest =>
      match attribute? word with
      | some name => ofWords? (s.withAttribute name true) rest
      | none => do if ← isColour word then ofWords? { s with colour := some word } rest else return none

def ofText? (t : Text) : Except Fault (Option Style) :=
  if trim t == "none".toList then .ok (some {}) else ofWords? {} (words t)

/-- The name of a style: its attributes in order, its colours and its address. -/
def name (s : Style) : Text :=
  let attributes := attributeNames.filterMap fun name =>
    (s.attributes.lookup name.toList).map fun on => if on then name.toList else "not ".toList ++ name.toList
  let parts := attributes ++ s.colour.toList ++ (s.ground.map ("on ".toList ++ ·)).toList ++
    (s.link.map ("link ".toList ++ ·)).toList
  if parts.isEmpty then "none".toList else unwords parts

/-- The name of the style that a text means, or the text in lower case. -/
def normal (t : Text) : Except Fault Text := do
  match ← ofText? t with
  | some s => return s.name
  | none => return lower (trim t)

end Style

end Stylebook
