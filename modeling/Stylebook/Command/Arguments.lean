import Stylebook.Options

/-!
# Command-line arguments

Arguments are options and operands, in any order. An option takes its value from after an equals sign or from the
next argument; a flag takes none, and of repeated flags the last counts. After `--` there are only operands.
The options of the program itself stand before the name of a command.

* `Choices` : what the options of a command choose;
* `Command` : a command with its choices and sources;
* `Request`, `Request.ofArguments` : what the arguments ask for: help, the version, a command, or nothing that makes
  sense.
-/

namespace Stylebook.Command

open Text

structure Choices where
  config : Option Text := none
  mask : Option Text := none
  markdown : Option Bool := none
  header : Option Bool := none
  typos : Option Bool := none
  custom : List Text := []
  json : Bool := false
  sorted : Bool := false
  help : Bool := false
  operands : List Text := []
  deriving DecidableEq

def Choices.settings (c : Choices) : List Setting :=
  (c.markdown.map .markdown).toList ++ (c.header.map .header).toList ++ (c.typos.map .typos).toList ++
    (if c.custom.isEmpty then [] else [.custom c.custom])

/-- What an option does to the choices: a flag by itself, and others with a value. -/
inductive Effect where
  | flag (choose : Choices → Choices)
  | value (choose : Text → Choices → Choices)

def commonOption? (name : String) : Option Effect :=
  match name with
  | "--config" => some (.value fun v c => { c with config := some v })
  | "--mask" => some (.value fun v c => { c with mask := some v })
  | "--markdown" => some (.flag fun c => { c with markdown := some true })
  | "--no-markdown" => some (.flag fun c => { c with markdown := some false })
  | "--header" => some (.flag fun c => { c with header := some true })
  | "--no-header" => some (.flag fun c => { c with header := some false })
  | "--typos" => some (.flag fun c => { c with typos := some true })
  | "--no-typos" => some (.flag fun c => { c with typos := some false })
  | "--custom" => some (.value fun v c => { c with custom := c.custom ++ [v] })
  | "--help" => some (.flag fun c => { c with help := true })
  | _ => none

def listOption? (name : String) : Option Effect :=
  match name with
  | "--json" => some (.flag fun c => { c with json := true })
  | "--sorted" => some (.flag fun c => { c with sorted := true })
  | _ => commonOption? name

/-- The argument is an option: it begins with a dash and goes on. -/
def isOption (a : Text) : Bool := a.head? == some '-' && 1 < a.length

/-- The name of an option, and the value after an equals sign. -/
def splitValue (a : Text) : Text × Option Text :=
  let name := a.takeWhile (· != '=')
  match a.drop name.length with
  | _ :: value => (name, some value)
  | [] => (name, none)

/-- The choices that arguments make, if every option is known and used rightly. -/
def choose? (known : String → Option Effect) (c : Choices) : List Text → Option Choices
  | [] => some c
  | a :: rest =>
    if a == ['-', '-'] then some { c with operands := c.operands ++ rest }
    else if isOption a then
      let (name, value) := splitValue a
      match known (String.ofList name), value with
      | some (.flag f), none => choose? known (f c) rest
      | some (.flag _), some _ => none
      | some (.value f), some v => choose? known (f v c) rest
      | some (.value f), none =>
        match rest with
        | v :: others => choose? known (f v c) others
        | [] => none
      | none, _ => none
    else choose? known { c with operands := c.operands ++ [a] } rest

inductive Action where
  | list (json sorted : Bool)
  | detail (reference : Text)
  deriving DecidableEq

end Command

structure Command where
  action : Command.Action
  choices : Command.Choices
  sources : List Text
  deriving DecidableEq

namespace Command

inductive Request where
  | misuse
  | help
  | version
  | run (command : Command)
  deriving DecidableEq

def Request.ofCommand (name : Text) (args : List Text) : Request :=
  match String.ofList name with
  | "parse" =>
    match choose? listOption? {} args with
    | none => .misuse
    | some c => if c.help then .help else .run ⟨.list c.json c.sorted, c, c.operands⟩
  | "show" =>
    match choose? commonOption? {} args with
    | none => .misuse
    | some c =>
      if c.help then .help
      else match c.operands with
        | reference :: sources => .run ⟨.detail reference, c, sources⟩
        | [] => .misuse
  | _ => .misuse

/-- What the program's own options in front ask for, after what has been asked before, and the arguments after them;
nothing if one of them is unknown. Of two that ask for something the first counts. -/
def ownOptions? (asked : Option Request) : List Text → Option (Option Request × List Text)
  | [] => some (asked, [])
  | a :: rest =>
    if a == ['-', '-'] then some (asked, rest)
    else if isOption a then
      match String.ofList a with
      | "--verbose" => ownOptions? asked rest
      | "--version" => ownOptions? (asked <|> some .version) rest
      | "--help" => ownOptions? (asked <|> some .help) rest
      | _ => if a.drop 1 |>.all (· == 'v') then ownOptions? asked rest else none
    else some (asked, a :: rest)

/-- The request that the program's own options in front make, when no command follows them. -/
def Request.ofOptions (args : List Text) : Request :=
  match ownOptions? none args with
  | some (some r, _) => r
  | _ => .misuse

def isCommand (name : Text) : Bool := name == "parse".toList || name == "show".toList

/-- What the arguments of the program ask for. What its own options ask for counts more than a command. Where `--` is
followed by no command, options may follow once more. -/
def Request.ofArguments (args : List Text) : Request :=
  match ownOptions? none args with
  | none => .misuse
  | some (some r, _) => r
  | some (none, []) => .misuse
  | some (none, name :: rest) =>
    if isCommand name then ofCommand name rest else .ofOptions (name :: rest)

end Command

end Stylebook
