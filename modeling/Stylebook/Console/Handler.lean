import Stylebook.Console.Handler.Token

/-!
# Handlers of console tags

A tag such as `@press=show('a', 1)` names a handler and its arguments. The arguments must be a literal: a number, a text, one
of `None`, `True` and `False`, or a tuple, set or dictionary of literals.

* `Handler.argumentsOf` : the arguments in the parameters of a tag;
* `Expression`, `Handler.reading` : the expression that a text writes. If it writes none, a second reading looks for what is
  wrong;
* `Handler.Refusal`, `Handler.check` : why the parameters of a tag are not accepted.
-/

namespace Stylebook.Handler

open Text

/-- The value that an expression has, if it is a literal. Sets and dictionaries are mutable, and so are tuples of them; a
mutable value cannot be a member of a set or a key. -/
inductive Value where
  | number (imaginary signed : Bool)
  | constant
  | mutable (kind : String)
  | clash (kind : String)
  | unknown
  deriving DecidableEq

structure Expression where
  name : String
  value : Value := .unknown

/-- What a reading finds at the front of tokens: an expression and the tokens after it, or none. -/
abbrev Found := Except Fault (Option (Expression × List Token))

/-- A reading may only accept or refuse, or also look for faults, outside of all brackets or inside. -/
inductive Mode where
  | plain
  | outside
  | inside
  deriving DecidableEq

def Mode.inner : Mode → Mode
  | .plain => .plain
  | _ => .inside

/-- How tightly an operation binds. -/
inductive Level where
  | disjunction
  | conjunction
  | inversion
  | comparison
  | arithmetic
  deriving DecidableEq

/-- The next token and those after it. To ask for a token beyond an end where more should follow is an error. -/
def next : List Token → Except Fault (Token × List Token)
  | .stop (some f) :: _ => .error f
  | token :: rest => .ok (token, rest)
  | [] => .ok (.stop none, [])

def after? (token : Token) (ts : List Token) : Except Fault (Option (List Token)) := do
  let (found, rest) ← next ts
  return if found == token then some rest else none

def mark? (m : String) (ts : List Token) : Except Fault (Option (List Token)) := after? (.mark m.toList) ts

def word? (w : String) (ts : List Token) : Except Fault (Option (List Token)) := after? (.word w.toList) ts

def atMark (ms : List String) (ts : List Token) : Except Fault Bool := do
  match ← next ts with
  | (.mark m, _) => return ms.contains (String.ofList m)
  | _ => return false

def operator? (level : Level) (ts : List Token) : Except Fault (Option (List Token)) := do
  match level, ← next ts with
  | .disjunction, (.word w, rest) => return if w == "or".toList then some rest else none
  | .conjunction, (.word w, rest) => return if w == "and".toList then some rest else none
  | .comparison, (.word w, rest) =>
    match String.ofList w with
    | "in" => return some rest
    | "is" => return some ((← word? "not" rest).getD rest)
    | "not" => word? "in" rest
    | _ => return none
  | .comparison, (.mark m, rest) =>
    return if ["==", "!=", "<", "<=", ">", ">="].contains (String.ofList m) then some rest else none
  | .arithmetic, (.mark m, rest) =>
    return if ["|", "^", "&", "<<", ">>", "+", "-", "*", "/", "//", "%", "@"].contains (String.ofList m) then some rest
      else none
  | _, _ => return none

/-- The result of an operation on two operands. A real and an imaginary number make one number. -/
def operated (level : Level) (operator : Option Token) (a b : Expression) : Expression :=
  match level, operator, a.value, b.value with
  | .comparison, _, _, _ => ⟨"comparison", .unknown⟩
  | .arithmetic, some (.mark m), .number false _, .number true false =>
    ⟨"expression", if m == ['+'] || m == ['-'] then .constant else .unknown⟩
  | _, _, _, _ => ⟨"expression", .unknown⟩

def signedExpression (sign : Text) (e : Expression) : Expression :=
  match e.value with
  | .number imaginary false => ⟨"expression", if sign == ['~'] then .unknown else .number imaginary true⟩
  | _ => ⟨"expression", .unknown⟩

/-- The value cannot be had: its expression is no literal, or holds a mutable value in the wrong place. -/
def Value.isBad : Value → Bool
  | .unknown | .clash _ => true
  | _ => false

def Value.isMutable : Value → Bool
  | .mutable _ => true
  | _ => false

def tupleValue (vs : List Value) : Value := (vs.find? (·.isBad) <|> vs.find? (·.isMutable)).getD .constant

def Value.asKey : Value → Value
  | .mutable kind => .clash kind
  | v => v

def collectionValue (kind : String) (vs : List Value) : Value := (vs.find? (·.isBad)).getD (.mutable kind)

def pairValue (key value : Value) : Value :=
  if key.isBad then key else if value.isBad then value else key.asKey

def texts : List Token → List Flavour × List Token
  | .text f :: rest => ((texts rest).1.cons f, (texts rest).2)
  | ts => ([], ts)

def Flavour.isBytes : Flavour → Bool
  | .bytes _ => true
  | _ => false

/-- The expression of texts that stand side by side. -/
def textExpression (fs : List Flavour) : Except Fault Expression :=
  if fs.contains (.bytes true) then .error .wideBytes
  else if fs.any (·.isBytes) && !fs.all (·.isBytes) then .error .mixedTexts
  else if fs.contains .formatted then .ok ⟨"f-string expression", .unknown⟩
  else .ok ⟨"literal", .constant⟩

/-- Words that have a meaning of their own only in some places. -/
def softWords : List String := ["_", "case", "match"]

/-- A missing comma is not looked for after these tokens: a name before a text, and a name with which a soft word
begins. -/
def exempt (ts : List Token) : Except Fault Bool := do
  match ← next ts with
  | (.name t, rest) =>
    if softWords.any fun w => t.isPrefixOf w.toList then return true
    else
      match ← next rest with
      | (.text _, _) => return true
      | _ => return false
  | _ => return false

/-- The name is that of a former command. -/
def isCommand (t : Text) : Bool := t == "print".toList || t == "exec".toList

/-- The tokens up to `rest` are the name of a former command. -/
def isCommandAlone (ts rest : List Token) : Bool :=
  match ts with
  | .name t :: tail => isCommand t && tail == rest
  | _ => false

/-- Names of expressions to which nothing can be assigned, and of which that is not told. -/
def fixedNames : List String := ["tuple", "True", "False", "None"]

mutual

def expression (fuel : Nat) (m : Mode) (ts : List Token) : Found :=
  match fuel with
  | 0 => .ok none
  | n + 1 => do conditional n m ts (← operation n m .disjunction ts)

/-- An expression whose first operand has been read. -/
def conditional (fuel : Nat) (m : Mode) (ts : List Token) (first : Option (Expression × List Token)) : Found :=
  match fuel, first with
  | n + 1, some (_, rest) => do
    if m != .plain then blame n m ts rest
    let some afterIf ← word? "if" rest | return first
    let some (_, rest') ← operation n m .disjunction afterIf | return first
    let some afterElse ← word? "else" rest' | return first
    let some (_, rest') ← expression n m afterElse | return first
    return some (⟨"conditional expression", .unknown⟩, rest')
  | _, _ => .ok none

def blame (fuel : Nat) (m : Mode) (ts rest : List Token) : Except Fault Unit :=
  match fuel with
  | 0 => .ok ()
  | n + 1 => do
    let exempted ← exempt ts
    let second ← if exempted then pure none else operation n .plain .disjunction rest
    if (← conditional n .plain rest second).isSome then
      if m == .inside && !isCommandAlone ts rest then .error .missingComma
    else
      if let some afterIf ← word? "if" rest then
        if let some (_, rest') ← operation n m .disjunction afterIf then
          if !(← word? "else" rest').isSome && !(← atMark [":"] rest') then .error .missingElse
    match ts with
    | .name name :: tail =>
      if !(← atMark ["("] tail) then
        let found ←
          if tail == rest then do
            conditional n m tail (← if exempted then operation n m .disjunction tail else pure second)
          else if exempted || isCommand name then expression n m tail
          else pure none
        if let some (_, rest') := found then
          if let some rest' ← mark? "," rest' then
            let _ ← expressions n m rest'
          if isCommand name then .error (.call name)
    | _ => return

def expressions (fuel : Nat) (m : Mode) (ts : List Token) : Found :=
  match fuel with
  | 0 => .ok none
  | n + 1 => do
    let some (e, rest) ← expression n m ts | return none
    let some rest ← mark? "," rest | return some (e, rest)
    match ← expressions n m rest with
    | none => return some (⟨"tuple", tupleValue [e.value]⟩, rest)
    | some (e', rest) => return some (⟨"tuple", tupleValue [e.value, e'.value]⟩, rest)

def operation (fuel : Nat) (m : Mode) (level : Level) (ts : List Token) : Found :=
  match fuel with
  | 0 => .ok none
  | n + 1 => do
    let some (e, rest) ← operand n m level ts | return none
    if level == .inversion then return some (e, rest) else operations n m level e rest

/-- The operators and operands after the first operand. -/
def operations (fuel : Nat) (m : Mode) (level : Level) (e : Expression) (ts : List Token) : Found :=
  match fuel with
  | 0 => .ok (some (e, ts))
  | n + 1 => do
    let some rest ← operator? level ts | return some (e, ts)
    let some (e', rest') ← operand n m level rest | return some (e, ts)
    operations n m level (operated level ts.head? e e') rest'

def operand (fuel : Nat) (m : Mode) (level : Level) (ts : List Token) : Found :=
  match fuel with
  | 0 => .ok none
  | n + 1 =>
    match level with
    | .disjunction => operation n m .conjunction ts
    | .conjunction => operation n m .inversion ts
    | .comparison => operation n m .arithmetic ts
    | .arithmetic => factor n m ts
    | .inversion => do
      match ← word? "not" ts with
      | some rest =>
        let some (_, rest) ← operand n m .inversion rest | return none
        return some (⟨"expression", .unknown⟩, rest)
      | none => operation n m .comparison ts

def factor (fuel : Nat) (m : Mode) (ts : List Token) : Found :=
  match fuel with
  | 0 => .ok none
  | n + 1 => do
    match ← next ts with
    | (.mark sign, rest) =>
      if sign == ['+'] || sign == ['-'] || sign == ['~'] then
        let some (e, rest) ← factor n m rest | return none
        return some (signedExpression sign e, rest)
      else power n m ts
    | _ => power n m ts

def power (fuel : Nat) (m : Mode) (ts : List Token) : Found :=
  match fuel with
  | 0 => .ok none
  | n + 1 => do
    let some (e, rest) ← atom n m ts | return none
    let some (e, rest) ← trailers n m e rest | return none
    let some exponent ← mark? "**" rest | return some (e, rest)
    let some (_, rest') ← factor n m exponent | return some (e, rest)
    return some (⟨"expression", .unknown⟩, rest')

/-- Members and calls after an expression. -/
def trailers (fuel : Nat) (m : Mode) (e : Expression) (ts : List Token) : Found :=
  match fuel with
  | 0 => .ok (some (e, ts))
  | n + 1 => do
    match ← next ts with
    | (.mark ['.'], rest) =>
      match ← next rest with
      | (.name _, rest) => trailers n m ⟨"attribute", .unknown⟩ rest
      | _ => return some (e, ts)
    | (.mark ['('], rest) =>
      match ← mark? ")" rest with
      | some rest => trailers n m ⟨"function call", if e.name == "set" then .mutable "set" else .unknown⟩ rest
      | none =>
        let some rest ← callArguments n m.inner rest | return some (e, ts)
        trailers n m ⟨"function call", .unknown⟩ rest
    | (.mark ['\x7b'], rest) =>
      if m != .plain then
        let _ ← members n m.inner rest
      return some (e, ts)
    | _ => return some (e, ts)

/-- The tokens after the arguments of a call and its closing bracket. -/
def callArguments (fuel : Nat) (m : Mode) (ts : List Token) : Except Fault (Option (List Token)) :=
  match fuel with
  | 0 => .ok none
  | n + 1 => do
    let some rest ← callArgument n m ts | return none
    match ← next rest with
    | (.mark [')'], rest) => return some rest
    | (.mark [','], rest) =>
      match ← mark? ")" rest with
      | some rest => return some rest
      | none => callArguments n m rest
    | _ => return none

/-- The tokens after an argument of a call, which may have stars or a name. -/
def callArgument (fuel : Nat) (m : Mode) (ts : List Token) : Except Fault (Option (List Token)) :=
  match fuel with
  | 0 => .ok none
  | n + 1 => do
    match ← next ts with
    | (.mark ['*'], _) => afterStarred n m ts
    | (.mark ['*', '*'], rest) => return (← expression n m rest).map Prod.snd
    | (.name _, rest) =>
      match ← next rest with
      | (.mark ['='], rest) | (.mark [':', '='], rest) => return (← expression n m rest).map Prod.snd
      | _ => return (← expression n m ts).map Prod.snd
    | _ => return (← expression n m ts).map Prod.snd

/-- An expression without signs, operators and members. -/
def atom (fuel : Nat) (m : Mode) (ts : List Token) : Found :=
  match fuel with
  | 0 => .ok none
  | n + 1 => do
    match ← next ts with
    | (.name t, rest) => return some (⟨if t == "set".toList then "set" else "name", .unknown⟩, rest)
    | (.word w, rest) =>
      return if w == "True".toList || w == "False".toList || w == "None".toList then
        some (⟨String.ofList w, .constant⟩, rest) else none
    | (.numeral imaginary, rest) => return some (⟨"literal", .number imaginary false⟩, rest)
    | (.text _, _) =>
      let (fs, rest) := texts ts
      let _ ← next rest
      return some (← textExpression fs, rest)
    | (.mark ['.', '.', '.'], rest) => return some (⟨"ellipsis", .constant⟩, rest)
    | (.mark ['('], rest) => group n m.inner rest
    | (.mark ['\x7b'], rest) => collection n m.inner rest
    | _ => return none

/-- What stands after an opening round bracket: a tuple or an expression. -/
def group (fuel : Nat) (m : Mode) (ts : List Token) : Found :=
  match fuel with
  | 0 => .ok none
  | n + 1 => do
    match ← mark? ")" ts with
    | some rest => return some (⟨"tuple", .constant⟩, rest)
    | none =>
      let found ← grouped n m ts
      if m != .plain && found.isNone then blameStars n m ts
      return found

/-- The members of a tuple and its closing bracket, or an expression and the bracket. -/
def grouped (fuel : Nat) (m : Mode) (ts : List Token) : Found :=
  match fuel with
  | 0 => .ok none
  | n + 1 => do
    let some (e, rest) ← member n m ts | return none
    match ← next rest with
    | (.mark [','], rest) =>
      let (vs, rest) ← members n m rest
      let some rest ← mark? ")" rest | return none
      return some (⟨"tuple", tupleValue (e.value :: vs)⟩, rest)
    | (.mark [')'], rest) => return if e.name == "starred" then none else some (e, rest)
    | _ => return none

/-- The tokens after an expression with a star, which must follow the star unless a reading only accepts or refuses. -/
def afterStarred (fuel : Nat) (m : Mode) (ts : List Token) : Except Fault (Option (List Token)) :=
  match fuel with
  | 0 => .ok none
  | n + 1 => do
    let some start ← mark? "*" ts | return none
    match ← expression n m start with
    | some (_, rest) => return some rest
    | none => if m == .plain then return none else .error .star

/-- Looks for stars in the wrong place after an opening round bracket. -/
def blameStars (fuel : Nat) (m : Mode) (ts : List Token) : Except Fault Unit :=
  match fuel with
  | 0 => .ok ()
  | n + 1 => do
    if let some rest ← afterStarred n m ts then
      if (← mark? ")" rest).isSome then .error .starred
    if let some start ← mark? "**" ts then
      if let some (_, rest) ← expression n m start then
        if (← mark? ")" rest).isSome then .error .doublyStarred

def members (fuel : Nat) (m : Mode) (ts : List Token) : Except Fault (List Value × List Token) :=
  match fuel with
  | 0 => .ok ([], ts)
  | n + 1 => do
    let some (e, rest) ← member n m ts | return ([], ts)
    let some rest ← mark? "," rest | return ([e.value], rest)
    let (vs, rest) ← members n m rest
    return (e.value :: vs, rest)

/-- A member of a tuple or set: an expression with a star, one that is given a name, or one without. -/
def member (fuel : Nat) (m : Mode) (ts : List Token) : Found :=
  match fuel with
  | 0 => .ok none
  | n + 1 => do
    match ← mark? "*" ts with
    | some rest =>
      let some (_, rest) ← operation n m .arithmetic rest | return none
      return some (⟨"starred", .unknown⟩, rest)
    | none =>
      let bound? ← match ← next ts with
        | (.name _, rest) => mark? ":=" rest
        | _ => pure none
      match bound? with
      | some start =>
        let some (_, rest) ← expression n m start | return none
        return some (⟨"named expression", .unknown⟩, rest)
      | none =>
        let found ← expression n m ts
        if m != .plain then blameAssignment n m ts found
        let some (e, rest) := found | return none
        if (← mark? ":=" rest).isSome then return none else return some (e, rest)

/-- Looks for an assignment where a comparison is meant. -/
def blameAssignment (fuel : Nat) (m : Mode) (ts : List Token) (found : Option (Expression × List Token)) :
    Except Fault Unit :=
  match fuel with
  | 0 => .ok ()
  | n + 1 => do
    if let some (e, rest) := found then
      if let some start ← mark? ":=" rest then
        if (← expression n m start).isSome then .error (.binding e.name)
    let some (e, rest) ← operation n m .arithmetic ts | return
    let some start ← mark? "=" rest | return
    let some (_, rest') ← operation n m .arithmetic start | return
    if ← atMark ["=", ":="] rest' then return
    match ts with
    | .name _ :: tail =>
      if tail == rest then .error .comparison else .error (.target e.name)
    | _ => if !fixedNames.contains e.name then .error (.target e.name)

/-- What stands after an opening brace: a dictionary or a set. -/
def collection (fuel : Nat) (m : Mode) (ts : List Token) : Found :=
  match fuel with
  | 0 => .ok none
  | n + 1 => do
    match ← mark? "\x7d" ts with
    | some rest => return some (⟨"dict literal", .mutable "dict"⟩, rest)
    | none =>
      let (vs, rest) ← pairs n m true ts
      let closed? ← if vs.isEmpty then pure none else mark? "\x7d" rest
      match closed? with
      | some rest => return some (⟨"dict literal", collectionValue "dict" vs⟩, rest)
      | none =>
        let (vs, rest) ← members n m ts
        let closed? ← if vs.isEmpty then pure none else mark? "\x7d" rest
        match closed? with
        | some rest => return some (⟨"set display", collectionValue "set" (vs.map (·.asKey))⟩, rest)
        | none =>
          if m != .plain then
            let _ ← afterStarred n m ts
          return none

def pairs (fuel : Nat) (m : Mode) (initial : Bool) (ts : List Token) : Except Fault (List Value × List Token) :=
  match fuel with
  | 0 => .ok ([], ts)
  | n + 1 => do
    let some (v, rest) ← pair n m initial ts | return ([], ts)
    let some rest ← mark? "," rest | return ([v], rest)
    let (vs, rest) ← pairs n m false rest
    return (v :: vs, rest)

/-- A key and its value, or another dictionary after two stars. -/
def pair (fuel : Nat) (m : Mode) (initial : Bool) (ts : List Token) : Except Fault (Option (Value × List Token)) :=
  match fuel with
  | 0 => .ok none
  | n + 1 => do
    match ← mark? "**" ts with
    | some rest =>
      let some (_, rest) ← operation n m .arithmetic rest | return none
      return some (.unknown, rest)
    | none =>
      let some (key, rest) ← expression n m ts | return none
      match ← mark? ":" rest with
      | none => if initial then return none else .error .missingColon
      | some start =>
        match ← expression n m start with
        | some (value, rest) => return some (pairValue key.value value.value, rest)
        | none =>
          if let some rest ← mark? "*" start then
            if (← operation n m .arithmetic rest).isSome then .error .starredValue
          if ← atMark ["\x7d", ","] start then .error .missingValue else return none

end

def whole (m : Mode) (ts : List Token) : Except Fault (Option Expression) := do
  let some (e, rest) ← expressions (24 * ts.length + 48) m ts | return none
  match rest with
  | [.stop _] => return some e
  | _ => return none

def reading (t : Text) : Except Fault Expression := do
  let ts ← Token.all t
  match ← whole .plain ts with
  | some e => return e
  | none =>
    let _ ← whole .outside ts
    .error .malformed

inductive Refusal where
  | unreadable (arguments : Text) (f : Fault)
  | unhashable (kind : String)
  | noLiteral
  deriving DecidableEq

def Refusal.message (parameters : Text) : Refusal → Text
  | .unreadable arguments f =>
    "error parsing ".toList ++ quoted arguments ++ " in ".toList ++ quoted parameters ++ "; ".toList ++ f.message
  | .unhashable kind =>
    "error parsing ".toList ++ quoted parameters ++ "; unhashable type: '".toList ++ kind.toList ++ ['\'']
  | .noLiteral => "error parsing ".toList ++ quoted parameters ++ "; malformed node or string on line 1".toList

/-- The arguments in the parameters of a tag: what stands in round brackets after a name, none after a name alone, and else
all of the parameters. -/
def argumentsOf (parameters : Text) : Text :=
  let t := trim parameters
  match t.dropWhile fun c => isWord c || c == '.' with
  | [] => ['(', ')']
  | '(' :: rest => if endsWith [')'] rest && !rest.contains '\n' then '(' :: rest else t
  | _ => t

/-- Refuses parameters whose arguments are no literal. -/
def check (parameters : Text) : Except Refusal Unit :=
  let arguments := argumentsOf parameters
  match reading arguments with
  | .error f => .error (.unreadable arguments f)
  | .ok e =>
    match e.value with
    | .unknown => .error .noLiteral
    | .clash kind => .error (.unhashable kind)
    | _ => .ok ()

end Stylebook.Handler
