import LifeStory.Command.Options

/-!
# Help on the command line

The help has a line for every option and switch, in the order in which they are declared: how it is
written, what it does, what holds without it, and which values there are. What the options do stands
in a column of its own, two blanks behind the longest of the forms.
-/

namespace LifeStory.Command

/-- The name of the program. -/
def programName : String := "rabbithole-tester"

/-- What the program says about itself. -/
def versionLine : String := programName ++ " 0.1.0"

/-- A line of the help. -/
structure HelpLine where
  /-- How the option is written. -/
  form : String
  /-- What it does. -/
  purpose : String
  /-- What holds without it. -/
  usual : Option String
  /-- Its values, if they are few. -/
  choices : List String
deriving DecidableEq, Repr

namespace HelpLine

/-- The line of a switch, which may have a letter. -/
def ofSwitch (letter : Option Char) (name purpose : String) : HelpLine :=
  let mark := letter.elim "    " fun c ↦ "-" ++ String.singleton c ++ ", "
  ⟨mark ++ "--" ++ name, purpose, none, []⟩

/-- The word that stands for the value of an option: its name in capitals. -/
def placeholder (name : String) : String :=
  name.map fun c ↦ if c = '-' then '_' else c.toUpper

/-- The line of an option that takes a value. -/
def ofKey (key : Key) (purpose : String) (usual : Option String) (choices : List String) :
    HelpLine :=
  ⟨"    --" ++ key.name ++ " <" ++ placeholder key.name ++ ">", purpose, usual, choices⟩

/-- What is said behind the purpose. -/
def remarks (line : HelpLine) : String :=
  line.usual.elim "" (fun usual ↦ " [default: " ++ usual ++ "]")
    ++ (if line.choices = [] then ""
      else " [possible values: " ++ String.intercalate ", " line.choices ++ "]")

/-- The line, with forms of the given width. -/
def text (width : Nat) (line : HelpLine) : String :=
  "  " ++ line.form ++ String.ofList (List.replicate (width - line.form.length) ' ') ++ "  "
    ++ line.purpose ++ line.remarks

end HelpLine

namespace Help

/-- What the options do. -/
def lines : List HelpLine :=
  let usual : Options := .default
  [ .ofKey .mode "Test mode: logic sweeps or a live run" (some "logic") ["logic", "live"],
    .ofKey .content "Content directory holding base.json and packs/" none [],
    .ofKey .packs "Packs to enable: all, none, or comma-separated pack names" usual.packs [],
    .ofKey .scenarios "Scenarios to run (comma-separated, or \x60all\x60)" usual.scenarios [],
    .ofSwitch none "list-scenarios" "List all available scenarios and exit",
    .ofKey .seeds "Seeds to run (comma-separated; integers, 0x hex or ranges like 1..5)"
      usual.seeds [],
    .ofKey .iterations "Number of iterations per scenario and seed (logic mode only)"
      (toString usual.iterations) [],
    .ofKey .strategy "Override every scenario's play strategy" none
      (Trial.Strategy.all.map Trial.Strategy.key),
    .ofKey .maxTurns "Override every scenario's turn limit; also bounds live runs" none [],
    .ofKey .report "Output report format" usual.report.key
      ([.json, .markdown, .console].map Trial.Format.key),
    .ofSwitch (some 'v') "verbose" "Verbose output",
    .ofKey .output "Optional path to write the report output instead of stdout" none [],
    .ofKey .tick "Milliseconds between live turns" (toString usual.tick) [],
    .ofKey .talents "Talents for the live run (comma-separated)" usual.talents [],
    .ofKey .resume "Save slot to resume the live run from" none [],
    .ofKey .save "Save slot to write when the live run stops" none [],
    .ofKey .saveFolder "Directory holding save slots" usual.saveFolder [],
    .ofSwitch (some 'h') "help" "Print help",
    .ofSwitch (some 'V') "version" "Print version" ]

/-- The width of the longest form. -/
def width : Nat := (lines.map fun line ↦ line.form.length).foldl max 0

/-- The help. -/
def text : String :=
  Trial.Overview.unlines
    ([ "Automated scenario testing and live playback for the Rabbithole engine", "",
      "Usage: " ++ programName ++ " [OPTIONS]", "", "Options:" ]
      ++ lines.map (HelpLine.text width))

end Help

end LifeStory.Command
