import Underlay.Conformance.Builtin
import Underlay.Conformance.Emitter
import Underlay.Conformance.Report
import Underlay.Conformance.Room
import Underlay.Files

/-!
Campaigns. A campaign verifies fixture sets in order, either those that files hold or the built-in
one, and tells how it went. With a log it also observes every lifecycle event: the events of a
case stand in the log before its verdict, and the whole run between a start and an end.
-/

namespace Underlay.Conformance

/-- Why a campaign cannot be held, or its results cannot be stored. -/
inductive Fault where
  /-- The path names neither a file nor a directory. -/
  | unreadable (path : String)
  /-- The directory holds no fixtures. -/
  | noFixtures (path : String)
  | unopened (path : String)
  | malformed (path : String) (fault : Json.Fault)
deriving DecidableEq, Repr, Inhabited

namespace Fault

def name : Fault → String
  | unreadable _ => "Io"
  | noFixtures _ => "NoFixtures"
  | unopened _ => "Os"
  | malformed _ _ => "Error"

def path : Fault → String
  | unreadable path | noFixtures path | unopened path | malformed path _ => path

def render (fault : Fault) : String :=
  fault.name ++ "(" ++ Text.quote fault.path ++ ")"

end Fault

/-- The fixture files of a directory, in the order of their names. -/
def fixtureNames (names : List String) : List String :=
  (names.filter fun name => Files.extension? name == some "json").mergeSort fun a b =>
    decide (a ≤ b)

/-- The fixture files among the entries of a directory; `none` if it cannot be read. -/
def choose (path : String) (names : Option (List String)) : Except Fault (List String) :=
  match names with
  | none => .error (.unreadable path)
  | some names =>
      let chosen := fixtureNames names
      if chosen.isEmpty then .error (.noFixtures path) else .ok (chosen.map (Files.join path))

/-- The fixture files that a path means: itself, or those of the directory that it names. -/
def fixturePaths (files : Files) (path : String) : Except Fault (List String) :=
  if (files.read? path).isSome then .ok [path] else choose path (files.list? path)

structure Loaded where
  set : FixtureSet
  source : Source
deriving Repr, Inhabited

namespace Loaded

def ofContent (path : String) (content : Option String) : Except Fault Loaded :=
  match content with
  | none => .error (.unopened path)
  | some text =>
      match FixtureSet.parse text with
      | .error fault => .error (.malformed path fault)
      | .ok set => .ok { set, source := .ofText set.family path text }

def builtin : Loaded :=
  { set := .builtin
    source := .ofText FixtureSet.builtin.family "<builtin>" FixtureSet.builtinText }

end Loaded

def load (files : Files) (path : String) : Except Fault (List Loaded) := do
  (← fixturePaths files path).mapM fun path => Loaded.ofContent path (files.read? path)

/-- The observer without its records, and an entry for each of them. -/
def drainEntries (now : Instant) (s : Session) : List Entry × Session :=
  let (records, log) := s.observer.log.drain
  (records.map (Entry.ofRecord now), s.observe { s.observer with log })

/-- Verify cases of one family in order, with what goes to the log. -/
def verifyLogged (now : Instant) (family : String) :
    List Case → Numbering → Session → List Verdict × List Entry × Numbering × Session
  | [], n, s => ([], [], n, s)
  | c :: rest, n, s =>
      let (verdict, s) := c.verify family s
      let (records, s) := drainEntries now s
      let (records, n) := completeAll n records
      let (trace, n) := n.next
      let entry := Entry.ofVerdict now trace verdict
      let (verdicts, entries, n, s) := verifyLogged now family rest n s
      (verdict :: verdicts, records ++ entry :: entries, n, s)

def verifySetsLogged (now : Instant) :
    List FixtureSet → Numbering → Session → List Verdict × List Entry × Numbering × Session
  | [], n, s => ([], [], n, s)
  | set :: rest, n, s =>
      let (first, entries, n, s) := verifyLogged now set.family set.cases n s
      let (verdicts, more, n, s) := verifySetsLogged now rest n s
      (first ++ verdicts, entries ++ more, n, s)

def verifySets : List FixtureSet → Session → List Verdict × Session
  | [], s => ([], s)
  | set :: rest, s =>
      let (first, s) := set.verify s
      let (verdicts, s) := verifySets rest s
      (first ++ verdicts, s)

/-- The end of the log of a run that gave verdicts. -/
def closing (now : Instant) (verdicts : List Verdict) : Entry :=
  { Entry.bare now "" .info "run_end" with
    details := some (.object [("failed", .nat (failedCount verdicts)),
      ("passed", .nat (passedCount verdicts)), ("total", .nat verdicts.length)]) }

def logged (campaign : String) (sets : List FixtureSet) (now : Instant) (s : Session) :
    List Verdict × List Entry × Session :=
  let (trace, n) := Numbering.next { run := campaign }
  let first := Entry.bare now trace .info "run_start"
  let (verdicts, entries, n, s) := verifySetsLogged now sets n (s.setTracking .trace)
  let (last, _) := n.complete (closing now verdicts)
  (verdicts, first :: entries ++ [last], s)

def reportTitle (campaign : String) : String :=
  "pyrt conformance: " ++ campaign

def reportOf (campaign : String) (sources : List Source) (verdicts : List Verdict)
    (now : Instant) : Report :=
  { title := reportTitle campaign, timestamp := now.render, sources, verdicts }

/-- Hold a campaign: its report, and its log if one is kept. -/
def conduct (campaign : String) (sets : List Loaded) (keepLog : Bool) (now : Instant)
    (s : Session) : Report × Option (List Entry) × Session :=
  let sources := sets.map Loaded.source
  if keepLog then
    let (verdicts, entries, s) := logged campaign (sets.map Loaded.set) now s
    (reportOf campaign sources verdicts now, some entries, s)
  else
    let (verdicts, s) := verifySets (sets.map Loaded.set) s
    (reportOf campaign sources verdicts now, none, s)

def failureMessage (v : Verdict) : String :=
  "FAIL " ++ v.caseName ++ " (" ++ v.function ++ "): expected " ++ Text.quote v.expected ++
    ", got " ++ Text.quote v.actual

def writtenMessage (path : String) : String :=
  "Report written to " ++ path

def closingMessages (verdicts : List Verdict) : List String :=
  (verdicts.filter fun v => !v.passed).map failureMessage ++
    [toString verdicts.length ++ " cases, " ++ toString (passedCount verdicts) ++ " passed, " ++
      toString (failedCount verdicts) ++ " failed"]

/-- How a run of the program ended: its exit code, what it told, and the files behind it. -/
structure Ending where
  exit : Nat
  messages : List String
  files : Files
deriving Repr, Inhabited

def exitCode (verdicts : List Verdict) : Nat :=
  if allPassed verdicts then 0 else 1

def faultMessage (fault : Fault) : String :=
  "Error: " ++ fault.render

def store (path : String) (text : Option String) (files : Files) : Except Fault Files :=
  match text with
  | none => .ok files
  | some text =>
      match files.write? path text with
      | some files => .ok files
      | none => .error (.unopened path)

/-- Where a program is asked to leave its log and its report. -/
structure Outputs where
  log : Option String := none
  report : Option String := none
deriving DecidableEq, Repr, Inhabited

def Ending.ofFault (told : List String) (fault : Fault) (files : Files) : Ending :=
  { exit := 1, messages := told ++ [faultMessage fault], files }

/-- Hold a campaign over loaded sets and store what is asked for, where the log was opened. The
report is written when the log is complete. -/
def conclude (campaign : String) (sets : List Loaded) (outputs : Outputs) (told : List String)
    (now : Instant) (opened : Files) (s : Session) : Ending :=
  let (report, entries, _) := conduct campaign sets outputs.log.isSome now s
  match store (outputs.log.getD "") (entries.map logText) opened with
  | .error fault => .ofFault told fault opened
  | .ok logged =>
      match store (outputs.report.getD "") (outputs.report.map fun _ => report.markdown)
          logged with
      | .error fault => .ofFault told fault logged
      | .ok files =>
          let written := outputs.report.toList.map writtenMessage
          { exit := exitCode report.verdicts
            messages := told ++ written ++ closingMessages report.verdicts
            files }

/-- Whether the program has room for every case of loaded sets. -/
def haveRoom (sets : List Loaded) (system : System) : Bool :=
  sets.all fun loaded => loaded.set.fits system

/-- Open the log, hold a campaign, and store what is asked for. The program does not outlive a case
for which it has no room. -/
def hold (campaign : String) (sets : List Loaded) (outputs : Outputs) (told : List String)
    (now : Instant) (files : Files) (s : Session) : Course Ending :=
  match store (outputs.log.getD "") (outputs.log.map fun _ => "") files with
  | .error fault => .reached (.ofFault told fault files)
  | .ok opened =>
      if haveRoom sets s.system then
        .reached (conclude campaign sets outputs told now opened s)
      else
        .aborted

def openingMessage (fixture : String) : String :=
  "Verifying against fixtures in " ++ fixture

inductive Command where
  | verify (fixture : String) (outputs : Outputs)
  | selftest (log : Option String)
deriving DecidableEq, Repr, Inhabited

def Command.outputs : Command → Outputs
  | .verify _ outputs => outputs
  | .selftest log => { log }

def Command.run (command : Command) (now : Instant) (files : Files) (s : Session) :
    Course Ending :=
  match command with
  | .selftest log => hold "selftest" [.builtin] { log } [] now files s
  | .verify fixture outputs =>
      let told := [openingMessage fixture]
      match load files fixture with
      | .error fault => .reached (.ofFault told fault files)
      | .ok sets => hold "fixture-verify" sets outputs told now files s

end Underlay.Conformance
