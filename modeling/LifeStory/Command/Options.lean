import LifeStory.Trial.Overview
import LifeStory.Trial.Seeds

/-!
# Options of the command line

Arguments are read from left to right. An option takes its value from behind an equals sign or from
the next argument, which must not look like an option then; a switch takes none. Nothing may be
given twice. Reading stops at the first argument that is wrong, and at a question for help or for
the version; what is wrong before the question counts more than the question.
-/

namespace LifeStory.Command

/-- What the program does. -/
inductive Mode where
  /-- Trials of scenarios. -/
  | logic
  /-- One playback. -/
  | live
deriving DecidableEq, Repr

/-- The mode with a name. -/
def Mode.ofKey? : String → Option Mode
  | "logic" => some logic
  | "live" => some live
  | _ => none

/-- What the arguments say. -/
structure Options where
  mode : Mode
  /-- The folder of content, if it is not the usual one. -/
  content : Option String
  packs : String
  scenarios : String
  listScenarios : Bool
  seeds : String
  iterations : Nat
  /-- The strategy in place of that of each scenario. -/
  strategy : Option Trial.Strategy
  /-- The limit in place of that of each scenario, and of the playback. -/
  maxTurns : Option Nat
  report : Trial.Format
  verbose : Bool
  /-- The file that output is written to. -/
  output : Option String
  tick : Nat
  talents : String
  resume : Option String
  save : Option String
  saveFolder : String
deriving DecidableEq, Repr

/-- What holds without arguments. -/
def Options.default : Options where
  mode := .logic
  content := none
  packs := "all"
  scenarios := "smoke"
  listScenarios := false
  seeds := "1337"
  iterations := 10
  strategy := none
  maxTurns := none
  report := .console
  verbose := false
  output := none
  tick := 250
  talents := ""
  resume := none
  save := none
  saveFolder := "target/rabbithole-saves"

/-- An option that takes a value. -/
inductive Key where
  | mode
  | content
  | packs
  | scenarios
  | seeds
  | iterations
  | strategy
  | maxTurns
  | report
  | output
  | tick
  | talents
  | resume
  | save
  | saveFolder
deriving DecidableEq, Repr

namespace Key

/-- All options that take a value. -/
def all : List Key :=
  [mode, content, packs, scenarios, seeds, iterations, strategy, maxTurns, report, output, tick,
    talents, resume, save, saveFolder]

/-- The name of an option, without the hyphens. -/
def name : Key → String
  | mode => "mode"
  | content => "content"
  | packs => "packs"
  | scenarios => "scenarios"
  | seeds => "seeds"
  | iterations => "iterations"
  | strategy => "strategy"
  | maxTurns => "max-turns"
  | report => "report"
  | output => "output"
  | tick => "tick-ms"
  | talents => "talents"
  | resume => "resume"
  | save => "save"
  | saveFolder => "save-dir"

end Key

/-- A switch. -/
inductive Switch where
  | listScenarios
  | verbose
  | help
  | version
deriving DecidableEq, Repr

namespace Switch

/-- The switch with a name. -/
def ofName? : String → Option Switch
  | "list-scenarios" => some listScenarios
  | "verbose" => some verbose
  | "help" => some help
  | "version" => some version
  | _ => none

/-- The switch with a letter. -/
def ofLetter? : Char → Option Switch
  | 'v' => some verbose
  | 'h' => some help
  | 'V' => some version
  | _ => none

end Switch

/-- What is wrong with the arguments. -/
inductive Misuse where
  | unknown (argument : String)
  | repeated (option : String)
  | valueMissing (option : String)
  | valueNeedless (option : String)
  | valueWrong (option value : String)
deriving DecidableEq, Repr

/-- What the user is told. -/
def Misuse.message : Misuse → String
  | unknown argument => "error: unexpected argument '" ++ argument ++ "' found"
  | repeated option => "error: the argument '--" ++ option ++ "' cannot be used multiple times"
  | valueMissing option => "error: a value is required for '--" ++ option ++ "'"
  | valueNeedless option => "error: no value is allowed for '--" ++ option ++ "'"
  | valueWrong option value =>
    "error: invalid value '" ++ value ++ "' for '--" ++ option ++ "'"

/-- Why reading stops before the end. -/
inductive Stop where
  | help
  | version
  | misuse (reason : Misuse)
deriving DecidableEq, Repr

/-! ### Values -/

/-- A count; a plus sign may stand before it. -/
def count? (value : String) : Option Nat :=
  Trial.Seeds.natural? 10 Trial.Seeds.maxSeed value.toList

/-- The largest limit of turns. -/
def maxTurnLimit : Nat := 4294967295

/-- A limit of turns; zero may have a minus sign. -/
def turnLimit? (value : String) : Option Nat :=
  match value.toList with
  | '-' :: digits => (Trial.Seeds.digits? 10 digits).filter (· = 0)
  | cs => Trial.Seeds.natural? 10 maxTurnLimit cs

/-- A path. -/
def path? (value : String) : Option String := if value = "" then none else some value

/-- The options under a value for one of them. -/
def Options.set? (options : Options) (key : Key) (value : String) : Option Options :=
  match key with
  | .mode => (Mode.ofKey? value).map fun mode ↦ { options with mode }
  | .content => (path? value).map fun path ↦ { options with content := some path }
  | .packs => some { options with packs := value }
  | .scenarios => some { options with scenarios := value }
  | .seeds => some { options with seeds := value }
  | .iterations => (count? value).map fun iterations ↦ { options with iterations }
  | .strategy =>
    (Trial.Strategy.ofKey? value).map fun strategy ↦ { options with strategy := some strategy }
  | .maxTurns => (turnLimit? value).map fun limit ↦ { options with maxTurns := some limit }
  | .report => (Trial.Format.ofKey? value).map fun report ↦ { options with report }
  | .output => (path? value).map fun path ↦ { options with output := some path }
  | .tick => (count? value).map fun tick ↦ { options with tick }
  | .talents => some { options with talents := value }
  | .resume => some { options with resume := some value }
  | .save => some { options with save := some value }
  | .saveFolder => (path? value).map fun path ↦ { options with saveFolder := path }

/-! ### Arguments -/

/-- How far the arguments have been read. -/
structure Progress where
  options : Options
  /-- The names of what was given. -/
  given : List String
  /-- The option that waits for its value. -/
  waiting : Option Key

namespace Progress

/-- Nothing has been read. -/
def start : Progress := ⟨.default, [], none⟩

/-- No option may wait for its value any more. -/
def settle (progress : Progress) : Except Stop Progress :=
  match progress.waiting with
  | some key => .error (.misuse (.valueMissing key.name))
  | none => .ok progress

/-- Takes down that something was given, which must not have been given before. -/
def mark (progress : Progress) (name : String) : Except Stop Progress :=
  if name ∈ progress.given then .error (.misuse (.repeated name))
  else .ok { progress with given := name :: progress.given }

/-- Gives an option its value. -/
def give (progress : Progress) (key : Key) (value : String) : Except Stop Progress := do
  let progress ← progress.mark key.name
  match progress.options.set? key value with
  | some options => .ok { progress with options := options, waiting := none }
  | none => .error (.misuse (.valueWrong key.name value))

/-- Turns a switch on. -/
def turnOn (progress : Progress) (switch : Switch) : Except Stop Progress := do
  let progress ← progress.settle
  match switch with
  | .help => .error .help
  | .version => .error .version
  | .listScenarios => do
    let progress ← progress.mark "list-scenarios"
    return { progress with options := { progress.options with listScenarios := true } }
  | .verbose => do
    let progress ← progress.mark "verbose"
    return { progress with options := { progress.options with verbose := true } }

/-- Reads an option or a switch by its name, perhaps with a value. -/
def readNamed (progress : Progress) (name : String) (value : Option String) :
    Except Stop Progress :=
  match Key.all.find? fun key ↦ key.name = name, Switch.ofName? name, value with
  | some key, _, some value => do (← progress.settle).give key value
  | some key, _, none => do return { ← progress.settle with waiting := some key }
  | none, some switch, none => progress.turnOn switch
  | none, some _, some _ => .error (.misuse (.valueNeedless name))
  | none, none, _ => .error (.misuse (.unknown ("--" ++ name)))

/-- Reads switches by their letters. -/
def readLetters (progress : Progress) : List Char → Except Stop Progress
  | [] => .ok progress
  | letter :: rest =>
    match Switch.ofLetter? letter with
    | some switch => do (← progress.turnOn switch).readLetters rest
    | none => .error (.misuse (.unknown (String.ofList ['-', letter])))

/-- Reads an argument that is no option: the value that is waited for. -/
def readValue (progress : Progress) (value : String) : Except Stop Progress :=
  match progress.waiting with
  | some key => progress.give key value
  | none => .error (.misuse (.unknown value))

/-- Cuts a text at its first equals sign. -/
def cutEquals : List Char → String × Option String
  | [] => ("", none)
  | '=' :: rest => ("", some (String.ofList rest))
  | c :: rest =>
    let (name, value) := cutEquals rest
    (String.singleton c ++ name, value)

/-- Reads an argument. -/
def read (progress : Progress) (argument : String) : Except Stop Progress :=
  match argument.toList with
  | '-' :: '-' :: named =>
    let (name, value) := cutEquals named
    progress.readNamed name value
  | '-' :: letter :: letters => progress.readLetters (letter :: letters)
  | _ => progress.readValue argument

/-- Reads arguments. Two hyphens end the options, and nothing may come after them. -/
def readAll (progress : Progress) : List String → Except Stop Progress
  | [] => progress.settle
  | ["--"] => progress.settle
  | "--" :: argument :: _ => .error (.misuse (.unknown argument))
  | argument :: rest => do (← progress.read argument).readAll rest

end Progress

/-- What arguments say, or why reading them stops. -/
def Options.ofArguments (arguments : List String) : Except Stop Options :=
  (Progress.start.readAll arguments).map Progress.options

end LifeStory.Command
