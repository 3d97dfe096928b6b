import Stylebook.Text.Digit
import Stylebook.Text.Quoted
import Stylebook.Text.Word

/-!
# Tokens of handler arguments

A tag such as `@press=show('a', 1)` names a handler and its arguments. The arguments are read as tokens: names, numerals,
texts between quotes, and marks. Brackets must match.

* `Handler.Fault`, `Fault.message` : why arguments cannot be read;
* `Token`, `Token.all` : the tokens of a text, with one at the end that tells whether more should follow.
-/

namespace Stylebook.Handler

open Text

inductive Fault where
  | malformed
  | missingComma
  | missingElse
  | missingColon
  | missingValue
  | starredValue
  | star
  | starred
  | doublyStarred
  | comparison
  | target (name : String)
  | binding (name : String)
  | call (name : Text)
  | unclosed (opener : Char)
  | unopened (closer : Char)
  | crossed (opener closer : Char)
  | tooDeep
  | character (c : Char)
  | continuation
  | cutOff
  | openText (long : Bool) (line : Nat)
  | mixedTexts
  | wideBytes
  | numeral (kind : String)
  | digit (c : Char) (kind : String)
  | leadingZero
  deriving DecidableEq

/-- The code point in upper-case hexadecimal digits, at least four of them. -/
def codePoint (c : Char) : Text := "U+".toList ++ (hex 4 c.toNat).map Char.toUpper

def Fault.message : Fault → Text
  | .malformed => "invalid syntax".toList
  | .missingComma => "invalid syntax. Perhaps you forgot a comma?".toList
  | .missingElse => "expected 'else' after 'if' expression".toList
  | .missingColon => "':' expected after dictionary key".toList
  | .missingValue => "expression expected after dictionary key and ':'".toList
  | .starredValue => "cannot use a starred expression in a dictionary value".toList
  | .star => "Invalid star expression".toList
  | .starred => "cannot use starred expression here".toList
  | .doublyStarred => "cannot use double starred expression here".toList
  | .comparison => "invalid syntax. Maybe you meant '==' or ':=' instead of '='?".toList
  | .target name =>
    "cannot assign to ".toList ++ name.toList ++ " here. Maybe you meant '==' instead of '='?".toList
  | .binding name => "cannot use assignment expressions with ".toList ++ name.toList
  | .call name =>
    "Missing parentheses in call to '".toList ++ name ++ "'. Did you mean ".toList ++ name ++ "(...)?".toList
  | .unclosed opener => '\'' :: opener :: "' was never closed".toList
  | .unopened closer => "unmatched '".toList ++ [closer, '\'']
  | .crossed opener closer =>
    "closing parenthesis '".toList ++ closer :: "' does not match opening parenthesis '".toList ++ [opener, '\'']
  | .tooDeep => "too many nested parentheses".toList
  | .character c =>
    if isPrintable c then "invalid character '".toList ++ c :: "' (".toList ++ codePoint c ++ [')']
    else "invalid non-printable character ".toList ++ codePoint c
  | .continuation => "unexpected character after line continuation character".toList
  | .cutOff => "unexpected EOF while parsing".toList
  | .openText long line =>
    "unterminated ".toList ++ (if long then "triple-quoted ".toList else []) ++
      "string literal (detected at line ".toList ++ Nat.toDigits 10 line ++ [')']
  | .mixedTexts => "cannot mix bytes and nonbytes literals".toList
  | .wideBytes => "bytes can only contain ASCII literal characters".toList
  | .numeral kind => "invalid ".toList ++ kind.toList ++ " literal".toList
  | .digit c kind => "invalid digit '".toList ++ c :: "' in ".toList ++ kind.toList ++ " literal".toList
  | .leadingZero =>
    "leading zeros in decimal integer literals are not permitted; use an 0o prefix for octal integers".toList

/-- How a text between quotes is meant. -/
inductive Flavour where
  | plain
  | bytes (wide : Bool)
  | formatted
  deriving DecidableEq

/-- A name, a word with a meaning of its own, a numeral, a text, a mark, or the end, with what is wrong there. -/
inductive Token where
  | name (t : Text)
  | word (t : Text)
  | numeral (imaginary : Bool)
  | text (f : Flavour)
  | mark (t : Text)
  | stop (f : Option Fault)
  deriving DecidableEq

/-! ## Numerals -/

/-- What follows digits, which may have single underscores between them. -/
def afterDigits (isDigit : Char → Bool) (fault : Text → Fault) : Text → Except Fault Text
  | [] => .ok []
  | c :: rest =>
    if isDigit c then afterDigits isDigit fault rest
    else if c == '_' then
      if rest.head?.any isDigit then afterDigits isDigit fault rest else .error (fault rest)
    else .ok (c :: rest)

def afterDecimals (t : Text) : Except Fault Text := afterDigits Char.isDigit (fun _ => .numeral "decimal") t

/-- The character can stand in a name, as far as its code tells. -/
def inName (c : Char) : Bool := c.isAlphanum || c == '_' || 0x80 ≤ c.toNat

/-- The text begins with a word that may follow a numeral without a space. -/
def joinsNumeral (t : Text) : Bool :=
  ["if", "in", "is"].any (fun w => w.toList.isPrefixOf t) ||
    ["and", "else", "for", "or", "not"].any fun w => t.takeWhile inName == w.toList

/-- A numeral ends before the text unless that goes on as a name. -/
def endNumeral (kind : String) (t : Text) : Except Fault Text :=
  if joinsNumeral t || !t.head?.any (fun c => c.isAlphanum || c == '_') then .ok t else .error (.numeral kind)

/-- What follows a numeral whose digits, with a base other than ten, begin the text. -/
def afterBased (kind : String) (isDigit : Char → Bool) (t : Text) : Except Fault Text := do
  let fault (rest : Text) : Fault :=
    match rest with
    | c :: _ => if c.isDigit then .digit c kind else .numeral kind
    | [] => .numeral kind
  let digits := if t.head? == some '_' then t.drop 1 else t
  if !digits.head?.any isDigit then .error (fault digits)
  else
    let rest ← afterDigits isDigit fault digits
    if rest.head?.any Char.isDigit then .error (fault rest) else endNumeral kind rest

/-- What follows a numeral after its exponent, and whether it is imaginary. -/
def endDecimal (t : Text) : Except Fault (Bool × Text) :=
  match t with
  | c :: rest =>
    if c == 'j' || c == 'J' then (true, ·) <$> endNumeral "imaginary" rest else (false, ·) <$> endNumeral "decimal" t
  | [] => .ok (false, [])

def afterFraction (t : Text) : Except Fault (Bool × Text) :=
  match t with
  | c :: rest =>
    if c == 'e' || c == 'E' then
      match rest with
      | d :: more =>
        if d == '+' || d == '-' then
          if more.head?.any Char.isDigit then do endDecimal (← afterDecimals more) else .error (.numeral "decimal")
        else if d.isDigit then do endDecimal (← afterDecimals rest)
        else (false, ·) <$> endNumeral "decimal" t
      | [] => .error (.numeral "decimal")
    else endDecimal t
  | [] => .ok (false, [])

def afterPoint (t : Text) : Except Fault (Bool × Text) := do
  if t.head?.any Char.isDigit then afterFraction (← afterDecimals t) else afterFraction t

def afterWhole : Text → Except Fault (Bool × Text)
  | '.' :: rest => afterPoint rest
  | t => afterFraction t

/-- What follows the numeral that begins the text, and whether it is imaginary. -/
def afterNumeral (t : Text) : Except Fault (Bool × Text) :=
  match t with
  | '.' :: rest => afterPoint rest
  | '0' :: c :: rest =>
    if c == 'x' || c == 'X' then
      (false, ·) <$> afterBased "hexadecimal" (fun d => d.isDigit || ('a' ≤ d.toLower && d.toLower ≤ 'f')) rest
    else if c == 'o' || c == 'O' then (false, ·) <$> afterBased "octal" (fun d => '0' ≤ d && d ≤ '7') rest
    else if c == 'b' || c == 'B' then (false, ·) <$> afterBased "binary" (fun d => d == '0' || d == '1') rest
    else do
      let whole ← afterDecimals t
      let digits := t.take (t.length - whole.length)
      if digits.all fun d => d == '0' || d == '_' then afterWhole whole
      else if whole.head?.any fun d => d == '.' || d == 'e' || d == 'E' || d == 'j' || d == 'J' then afterWhole whole
      else .error .leadingZero
  | _ => do afterWhole (← afterDecimals t)

/-! ## Texts between quotes -/

/-- What follows a text that ends with a number of quotes of which `seen` stand right before. It is an error to meet the
end, or in a short text the end of a line; `line` is the line. -/
def afterQuotes (quote : Char) (long : Bool) (line seen : Nat) : Text → Except Fault Text
  | [] => .error (.openText long line)
  | '\\' :: c :: rest => afterQuotes quote long (if c == '\n' then line + 1 else line) 0 rest
  | c :: rest =>
    if c == quote then
      if long && seen < 2 then afterQuotes quote long line (seen + 1) rest else .ok rest
    else if c == '\n' then
      if long then afterQuotes quote long (line + 1) 0 rest else .error (.openText long line)
    else afterQuotes quote long line 0 rest

def afterQuoted (line : Nat) : Text → Except Fault Text
  | [] => .error .malformed
  | quote :: rest =>
    if [quote, quote].isPrefixOf rest then afterQuotes quote true line 0 (rest.drop 2)
    else afterQuotes quote false line 0 rest

def isQuote (c : Char) : Bool := c == '\'' || c == '"'

def quoteLetters : List String := ["", "r", "u", "b", "f", "br", "rb", "fr", "rf"]

def quoteLetters? (t : Text) : Option Text :=
  let letters := t.takeWhile Char.isAlpha
  let known := quoteLetters.contains (String.ofList (letters.map Char.toLower))
  if known && (t.drop letters.length).head?.any isQuote then some letters else none

/-! ## Names and marks -/

def reserved : List String := ["False", "None", "True", "and", "as", "assert", "async", "await", "break", "class",
  "continue", "def", "del", "elif", "else", "except", "finally", "for", "from", "global", "if", "import", "in", "is",
  "lambda", "nonlocal", "not", "or", "pass", "raise", "return", "try", "while", "with", "yield"]

/-- The first character of a name that may not stand there. -/
def badCharacter? : Text → Option Char
  | [] => none
  | c :: rest =>
    if 0x80 ≤ c.toNat && (!isWord c || looksNumeric c) then some c
    else rest.find? fun d => 0x80 ≤ d.toNat && (!isWord d || (looksNumeric d && !isDecimal d))

/-- The marks of more than one character, longer ones first. -/
def longMarks : List String := ["**=", "//=", ">>=", "<<=", "...", "!=", "->", "**", "*=", "+=", "-=", "//", "/=", "%=",
  "&=", "|=", "^=", "@=", "==", "<=", ">=", "<<", ">>", "<>", ":="]

def markAt (t : Text) : Text :=
  match longMarks.find? fun m => m.toList.isPrefixOf t with
  | some m => m.toList
  | none => t.take 1

def closerOf : Char → Char
  | '(' => ')'
  | '[' => ']'
  | _ => '\x7d'

def isOpener (c : Char) : Bool := c == '(' || c == '[' || c == '\x7b'

def isCloser (c : Char) : Bool := c == ')' || c == ']' || c == '\x7d'

def bracketsAfter (opened : List Char) : Text → Except Fault (List Char)
  | [c] =>
    if isOpener c then if 200 ≤ opened.length then .error .tooDeep else .ok (c :: opened)
    else if isCloser c then
      match opened with
      | [] => .error (.unopened c)
      | opener :: others => if closerOf opener == c then .ok others else .error (.crossed opener c)
    else .ok opened
  | _ => .ok opened

/-! ## All tokens -/

/-- The token that begins a text, on a line, and what follows it. -/
def first (line : Nat) (t : Text) : Except Fault (Token × Text) :=
  match t with
  | [] => .ok (.stop none, [])
  | c :: rest =>
    match quoteLetters? t with
    | some letters => do
      let after ← afterQuoted line (t.drop letters.length)
      let body := t.take (t.length - after.length)
      let flavour : Flavour :=
        if letters.any (fun l => l.toLower == 'b') then .bytes (body.any fun d => 0x80 ≤ d.toNat)
        else if letters.any (fun l => l.toLower == 'f') then .formatted
        else .plain
      return (.text flavour, after)
    | none =>
      if c.isDigit || (c == '.' && rest.head?.any Char.isDigit) then do
        let (imaginary, after) ← afterNumeral t
        return (.numeral imaginary, after)
      else if inName c then
        let name := t.takeWhile inName
        match badCharacter? name with
        | some d => .error (.character d)
        | none =>
          .ok (if reserved.contains (String.ofList name) then .word name else .name name, t.drop name.length)
      else if !isPrintable c then .error (.character c)
      else
        let m := markAt t
        .ok (.mark m, t.drop m.length)

/-- The tokens of a text; `used` characters in front belong to a token, `opened` are the open brackets, `line` is the
number of the line, and `fresh` holds where no token stands on it yet. -/
def Token.allFrom (used : Nat) (opened : List Char) (line : Nat) (fresh : Bool) : Text → Except Fault (List Token)
  | [] => .ok [.stop (opened.head?.map .unclosed)]
  | c :: rest =>
    let line' := if c == '\n' then line + 1 else line
    match used with
    | n + 1 => allFrom n opened line' fresh rest
    | 0 =>
      if c == ' ' || c == '\t' || c == '\x0c' then allFrom 0 opened line fresh rest
      else if c == '#' then allFrom (rest.takeWhile (· != '\n')).length opened line fresh rest
      else if c == '\n' then
        if fresh || !opened.isEmpty then allFrom 0 opened line' true rest
        else (.mark ['\n'] :: ·) <$> allFrom 0 opened line' true rest
      else if c == '\\' then
        match rest with
        | ['\n'] => .ok [.stop (some .cutOff)]
        | '\n' :: _ => allFrom 1 opened line fresh rest
        | _ => .ok [.stop (some .continuation)]
      else do
        let (token, after) ← first line (c :: rest)
        let opened ← match token with
          | .mark m => bracketsAfter opened m
          | _ => .ok opened
        return token :: (← allFrom (rest.length - after.length) opened line' false rest)

def Token.all (t : Text) : Except Fault (List Token) := Token.allFrom 0 [] 1 true t

end Stylebook.Handler
