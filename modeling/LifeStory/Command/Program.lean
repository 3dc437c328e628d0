import LifeStory.Command.Help
import LifeStory.Command.Options
import LifeStory.Playback
import LifeStory.Trial.Seeds

/-!
# The program

What the command line does with its options: it lists the scenarios, or loads a library and then
runs trials or plays a run back. The program answers with an exit code: zero if all went well, one
for trouble and for trials that fail, two for arguments that cannot be read.
-/

namespace LifeStory.Command

/-- Why the program gives up. -/
inductive Failure where
  /-- The content of a folder cannot be loaded. -/
  | content (folder : String) (reason : LibraryError)
  /-- The file for the output cannot be made. -/
  | cannotCreate (path : String)
  /-- The output cannot be written. -/
  | cannotWrite
  | seeds (reason : Trial.SeedError)
  | playback (reason : Playback.Trouble)

/-- What is reported; what lies behind comes after the first line. -/
def Failure.message : Failure → String
  | content folder reason =>
    "failed to load content from " ++ folder ++ "\n\nCaused by:\n    " ++ reason.message
  | cannotCreate path => "failed to create " ++ path
  | cannotWrite => "failed to write output"
  | seeds reason => reason.message
  | playback reason => reason.message

/-- Where output goes. -/
inductive Outlet where
  | console
  | file (path : String)

/-- Parts of the program, which may give up. -/
abbrev Task (m : Type → Type) (α : Type) : Type := ExceptT Failure m α

variable {m : Type → Type} [Monad m] [Host m]

namespace Outlet

/-- Writes a text; says whether that was possible. -/
def write (outlet : Outlet) (text : String) : m Bool := do
  match outlet with
  | console => do
    Host.print text
    return true
  | file path => Host.appendText path text

/-- The outlet of the options. A file is made anew. -/
def ofOptions (options : Options) : Task m Outlet := do
  match options.output with
  | none => return console
  | some path =>
    if ← Host.writeText (m := m) path "" then return file path else throw (.cannotCreate path)

end Outlet

/-- Prints a line. -/
def say (line : String) : Task m Unit := Host.print (m := m) (line ++ "\n")

/-- Prints a line about trouble. -/
def warn (line : String) : Task m Unit := Host.complain (m := m) (line ++ "\n")

/-- Writes all of the output. -/
def deliver (options : Options) (text : String) : Task m Unit := do
  let outlet ← Outlet.ofOptions (m := m) options
  if ← outlet.write (m := m) text then return else throw .cannotWrite

/-- A text in a style, if colours are on. -/
def painted (style : Text.Style) (text : String) : Task m String := do
  return style.paint (← Host.colours (m := m)) text

/-! ### The list of scenarios -/

/-- How wide the names of scenarios are. -/
def nameWidth : Nat := 25

/-- A scenario in the list. -/
def scenarioLine (scenario : Trial.Scenario) : String :=
  "  " ++ scenario.name ++ String.ofList (List.replicate (nameWidth - scenario.name.length) ' ')
    ++ " - " ++ scenario.description

/-- The list of scenarios. -/
def scenarioList : String :=
  Trial.Overview.unlines ("Available scenarios:" :: Trial.Scenario.all.map scenarioLine)

/-! ### Content -/

/-- Loads the content, and tells which packs were skipped. -/
def loadContent (usualFolder : String) (options : Options) : Task m (Setting Float) := do
  let folder := options.content.getD usualFolder
  let library : Library := ⟨folder, .ofText options.packs⟩
  match ← (library.load (m := m)).run with
  | .error reason => throw (.content folder reason)
  | .ok (setting, batch) =>
    for skipped in batch.skipped do
      let source ← painted .yellow skipped.source
      warn ("⚠️  Skipped pack " ++ source ++ ": " ++ skipped.reason.message)
    return setting

/-- The seeds of the options. -/
def seedsOf (options : Options) : Task m (List UInt64) :=
  match Trial.Seeds.ofTokens (Text.commaList options.seeds) with
  | .ok seeds => return seeds.map Nat.toUInt64
  | .error reason => throw (.seeds reason)

/-! ### Trials -/

/-- Whether the report on the trials is for a program to read. -/
def isStructured (options : Options) : Bool := options.report ≠ .console

/-- Whether the course of the program is told. It is not where that would spoil a report. -/
def isTold (options : Options) : Bool :=
  options.output.isSome || options.mode = .live || !isStructured options

/-- Prints the name of the program. -/
def announce : Task m Unit := do
  say (← painted .boldBrightCyan "🐇 Rabbithole Automated Tester")
  say (← painted .cyan "================================")

/-- Whether a name stands for all scenarios. -/
def isAll (name : String) : Bool := Text.asciiLower name = "all"

/-- The names of scenarios in a list; `all` adds those that are not named. -/
def scenarioNames (list : String) : List String :=
  let names := Text.commaList list
  if names.any isAll then
    let named := names.filter fun name ↦ !isAll name
    named ++ (Trial.Scenario.all.map Trial.Scenario.name).filter fun name ↦ !named.contains name
  else names

/-- A scenario under the options. -/
def adjust (options : Options) (scenario : Trial.Scenario) : Trial.Scenario :=
  let plan := scenario.plan
  { scenario with
    plan := { plan with
      strategy := options.strategy.getD plan.strategy
      maxTurns := options.maxTurns.getD plan.maxTurns } }

/-- Attempts a scenario once, and takes the time of an attempt that passes. -/
def attempt (options : Options) (setting : Setting Float) (scenario : Trial.Scenario)
    (seed : UInt64) (attempts index : Nat) : Task m (Trial.Outcome × Nat) := do
  let count := toString (index + 1) ++ "/" ++ toString attempts
  let start ← Host.now (m := m)
  match scenario.attempt setting seed index with
  | .passed turns reason =>
    let duration := (← Host.now (m := m)) - start
    if options.verbose then
      say ("  ✅ Iteration " ++ count ++ " passed (" ++ Text.duration duration ++ ") turns:"
        ++ toString turns ++ " ending:" ++ reason)
    return (.passed turns reason, duration)
  | .failed failure =>
    if options.verbose then
      say ("  ❌ Iteration " ++ count ++ " failed: " ++ (← painted .red failure))
    return (.failed failure, 0)

/-- Attempts a scenario for a seed. -/
def runSeed (options : Options) (setting : Setting Float) (scenario : Trial.Scenario)
    (seed : UInt64) : Task m Trial.Result := do
  if options.verbose then
    say ("🧪 Testing scenario: " ++ (← painted .brightWhite scenario.name) ++ " (strategy: "
      ++ scenario.plan.strategy.label ++ " seed: " ++ toString seed.toNat ++ ")")
  let attempts := max options.iterations 1
  let outcomes ← (List.range attempts).mapM (attempt options setting scenario seed attempts)
  return .ofOutcomes scenario.name seed outcomes

/-- Tells a result. -/
def tellResult (result : Trial.Result) : Task m Unit := do
  let mark ← if result.passed then painted .green "✅" else painted .red "❌"
  say (mark ++ " " ++ result.scenario ++ " seed " ++ toString result.seed ++ " - "
    ++ Trial.Overview.attemptsText result)

/-- Attempts a scenario for all seeds. A name that is not known is passed over. -/
def runScenario (options : Options) (setting : Setting Float) (seeds : List UInt64)
    (name : String) : Task m (List Trial.Result) := do
  match Trial.Scenario.ofName? name with
  | none =>
    warn ("⚠️  Unknown scenario: " ++ (← painted .yellow name))
    return []
  | some scenario =>
    let scenario := adjust options scenario
    if options.verbose then
      say ("📋 " ++ (← painted .bold scenario.name) ++ ": " ++ scenario.description)
    let results ← seeds.mapM (runSeed options setting scenario)
    if isTold options then results.forM tellResult
    return results

/-- The report on results. -/
def reportText (options : Options) (colours : Bool) (results : List Trial.Result)
    (total : Nat) : String :=
  match options.report with
  | .console =>
    (if results.isEmpty then "No logic scenarios executed.\n"
      else Trial.Overview.console colours results total)
      ++ "\n🏁 Total time: " ++ Text.duration total ++ "\n"
  | format => Trial.Overview.text format colours results total

/-- Runs trials; says whether all passed. -/
def runTrials (options : Options) (setting : Setting Float) : Task m Bool := do
  if isTold options then announce
  let start ← Host.now (m := m)
  let seeds ← seedsOf options
  if isTold options then
    say (← painted .boldBrightYellow "🧠 Running Logic Tests")
    say (← painted .yellow "------------------------------")
  let results ← (scenarioNames options.scenarios).mapM (runScenario options setting seeds)
  let results := results.flatten
  let total := (← Host.now (m := m)) - start
  deliver options (reportText options (← Host.colours (m := m)) results total)
  return results.all Trial.Result.passed

/-! ### Playback -/

/-- How many turns are played back unless it is said otherwise. -/
def defaultPlaybackTurns : Nat := 500

/-- The playback of the options. -/
def playbackOf (options : Options) (seeds : List UInt64) : Playback where
  seed := seeds.headD 0
  tick := options.tick
  maxTurns := options.maxTurns.getD defaultPlaybackTurns
  talents := Text.commaList options.talents
  resume := options.resume
  save := options.save
  styled := options.output.isNone

/-- Plays a run back. -/
def playBack (options : Options) (setting : Setting Float) : Task m Unit := do
  announce
  let playback := playbackOf options (← seedsOf options)
  say ((← painted .boldBrightBlue "📺 Live run") ++ " seed " ++ toString playback.seed.toNat
    ++ " every " ++ Text.duration (playback.tick * Trial.Result.nanosecondsPerMillisecond))
  let outlet ← Outlet.ofOptions (m := m) options
  match ← (playback.run (m := m) setting ⟨options.saveFolder⟩ outlet.write).run with
  | .error reason => throw (.playback reason)
  | .ok summary =>
    say ("🏁 " ++ (← painted .bold summary.phase.name) ++ " after "
      ++ toString summary.turnsPlayed ++ " turns (turn " ++ toString summary.finalTurn
      ++ "), reason " ++ summary.reason.getD "-")

/-! ### The command line -/

/-- Does what the options say; says whether all went well. -/
def perform (usualFolder : String) (options : Options) : Task m Bool := do
  if options.listScenarios then
    deliver options scenarioList
    return true
  let setting ← loadContent usualFolder options
  match options.mode with
  | .logic => runTrials options setting
  | .live =>
    playBack options setting
    return true

/-- Runs the program; the answer is the exit code. Content is loaded from the usual folder unless
the arguments name another. -/
def run (usualFolder : String) (arguments : List String) : m UInt32 := do
  match Options.ofArguments arguments with
  | .error .help => do
    Host.print Help.text
    return 0
  | .error .version => do
    Host.print (versionLine ++ "\n")
    return 0
  | .error (.misuse reason) => do
    Host.complain (reason.message ++ "\n")
    return 2
  | .ok options =>
    match ← (perform (m := m) usualFolder options).run with
    | .ok passed => return if passed then 0 else 1
    | .error failure => do
      Host.complain ("Error: " ++ failure.message ++ "\n")
      return 1

end LifeStory.Command
