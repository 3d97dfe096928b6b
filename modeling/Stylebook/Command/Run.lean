import Stylebook.Command.Arguments
import Stylebook.Console.Line
import Stylebook.Guide.Record
import Stylebook.Settings
import Stylebook.Text.Case.Title
import Stylebook.Yaml.Document

/-!
# Running commands

* `Command.guide` : the guide that a command is about, read with the settings of a file and the choices of the
  command, which count more;
* `Command.listing`, `Command.details` : the table of all sections, and everything about one;
* `Outcome`, `Command.run`, `Command.runArguments` : what comes of a command, and of the arguments of the program.
-/

namespace Stylebook

open Text

/-- An error that ends the program without a message of its own. -/
inductive Failure where
  | settings (f : Settings.Fault)
  | rank (f : Rank.Fault)
  | markup (f : Markup.Fault)
  deriving DecidableEq

def Failure.message : Failure → Text
  | .settings f => f.message
  | .rank f => f.message
  | .markup f => f.message

inductive Outcome where
  | misuse
  | help
  | printed (code : Nat) (lines : List Console.Line)
  | document (text : Text)
  | failed (f : Failure)
  deriving DecidableEq

namespace Outcome

def ofLines (code : Nat) : Except Markup.Fault (List Console.Line) → Outcome
  | .ok ls => .printed code ls
  | .error f => .failed (.markup f)

/-- A text with markup that ends the program with a failure. -/
def complaint (markup : Text) : Outcome := ofLines 1 (Console.printed markup)

/-- A complaint that is marked as an error. -/
def error (markup : Text) : Outcome := complaint ("[red]Error:[/red] ".toList ++ markup)

end Outcome

namespace Command

/-- The sources to look in: those of the command if it has any, and else those of the settings. -/
def sourcesWith (c : Command) (s : Settings) : List Path :=
  (if c.sources.isEmpty then s.source else c.sources).map Path.ofText

/-- The mask to use: that of the command unless it is empty, and else that of the settings. -/
def maskWith (c : Command) (s : Settings) : Text :=
  match c.choices.mask with
  | some mask => if mask.isEmpty then s.mask else mask
  | none => s.mask

def settings (files : Files) (c : Command) : Except Outcome Settings :=
  match Settings.load Yaml.read files c.choices.config with
  | .ok s => .ok s
  | .error f =>
    match f with
    | .problem _ _ => .error (.error f.message)
    | _ => .error (.failed (.settings f))

/-- The guide that a command is about, with the warnings of reading it. -/
def guide (files : Files) (c : Command) : Except Outcome (Guide × List Warning) := do
  let s ← settings files c
  let sources := c.sourcesWith s
  if sources.isEmpty then .error (.error "No source directories given".toList)
  else
    let reader := Reader.ofOptions (s.options.applyAll c.choices.settings) none none
    match Guide.ofTree reader files (c.maskWith s) sources with
    | .error f => .error (.error f.message)
    | .ok (g, warnings) =>
      if g.sections.isEmpty then
        .error (.complaint "[yellow]No KSS documentation found in the given sources[/yellow]".toList)
      else .ok (g, warnings)

def countCell (es : List Entry) : Text := if es.isEmpty then ['-'] else Nat.toDigits 10 es.length

def statusCell (s : Section) : Text :=
  let flags := (if s.deprecated then ["[red]deprecated[/red]".toList] else []) ++
    (if s.experimental then ["[yellow]experimental[/yellow]".toList] else [])
  if flags.isEmpty then ['-'] else [',', ' '].intercalate flags

def sectionRow (s : Section) : List Text :=
  [Markup.escape s.reference, Markup.escape s.header, countCell s.modifiers, countCell s.parameters,
    statusCell s]

def listing (g : Guide) (sections : List Section) : Except Markup.Fault (List Console.Line) := do
  let rows ← Console.table "Style Guide Sections".toList
    ["Reference".toList, "Header".toList, "Modifiers".toList, "Parameters".toList, "Status".toList]
    (sections.map sectionRow)
  let total := Nat.toDigits 10 g.sections.length ++ " sections in ".toList ++
    Nat.toDigits 10 g.files.length ++ " files".toList
  return rows ++ (← Console.printed total)

/-- A name in bold and a value. -/
def labelled (name value : Text) : Text :=
  "[bold]".toList ++ name ++ ":[/bold] ".toList ++ value

def detailLines (s : Section) : List Text :=
  [labelled "Reference".toList (Markup.escape s.reference)] ++
    (if s.deprecated then ["[red]Deprecated[/red]".toList] else []) ++
    (if s.experimental then ["[yellow]Experimental[/yellow]".toList] else []) ++
    (if s.weight == 0 then [] else [labelled "Weight".toList (Weight.text s.weight)]) ++
    (if s.description.isEmpty then [] else [[], Markup.escape (trim s.description)]) ++
    s.custom.entries.map fun p => labelled (Markup.escape (title p.1)) (Markup.escape p.2)

def details (s : Section) : Except Markup.Fault (List Console.Line) := do
  let frame ← Console.panel (Markup.escape s.header) (unlines (detailLines s))
  let markup ← match s.markup with
    | some t => do
      let head ← Console.printed "[bold]Markup:[/bold]".toList
      pure (head ++ Console.message (Emoji.replace t))
    | none => pure []
  let kind := if s.modifiers.isEmpty then "Parameters".toList else "Modifiers".toList
  let rows := s.entries.map fun e => [Markup.escape e.name, Markup.escape e.description]
  let entries ←
    if rows.isEmpty then pure []
    else Console.table kind ["Name".toList, "Description".toList] rows
  return frame ++ markup ++ entries

def act (g : Guide) : Action → Outcome
  | .list true sorted =>
    match g.json sorted with
    | .ok j => .document (j.write ++ ['\n'])
    | .error f => .failed (.rank f)
  | .list false sorted =>
    match if sorted then g.sorted else .ok g.sections with
    | .ok sections => .ofLines 0 (listing g sections)
    | .error f => .failed (.rank f)
  | .detail reference =>
    match g.find? reference with
    | some s => .ofLines 0 (details s)
    | none => .error ("Section '".toList ++ reference ++ "' not found".toList)

def run (files : Files) (c : Command) : Outcome × List Warning :=
  match c.guide files with
  | .ok (g, warnings) => (act g c.action, warnings)
  | .error outcome => (outcome, [])

def versionLine : Text := "cli, version 0.1.0".toList

def runArguments (files : Files) (args : List Text) : Outcome × List Warning :=
  match Request.ofArguments args with
  | .misuse => (.misuse, [])
  | .help => (.help, [])
  | .version => (.printed 0 [.text versionLine], [])
  | .run c => c.run files

end Command

end Stylebook
