import Underlay.Conformance.Campaign
import Underlay.Text.Alphanumeric
import Underlay.Workbench.Views

/-!
Operations of a workbench on fixtures, reports, logs of runs, and the program that verifies.
-/

namespace Underlay.Workbench

open Conformance

def onSession {α : Type} (act : Session → α × Session) : Bench α :=
  run fun machine =>
    let (a, session) := act machine.session
    (a, { machine with session })

def refused (refusal : Refusal) : Answer :=
  let name := match refusal with
    | .unknownFunction _ => "UnknownFunction"
    | .badInput _ => "BadInput"
  [("error", .string name), ("message", .string refusal.message)]

/-- Go on if the program has room for what is to be executed. -/
def requireRoom (fits : System → Bool) : Bench Unit := do
  unless fits (← machine').session.system do
    throw .aborted

def exec (function : String) (inputs : Json) : Bench Answer := do
  requireRoom (Case.fits { name := "", function, inputs, expected := "" })
  match ← onSession (execute function inputs) with
  | .ok shown => return ok (.string shown)
  | .error refusal => return refused refusal

def malformed (fault : Json.Fault) : Answer :=
  let category := match fault with
    | .malformed => "Syntax"
    | .truncated => "Eof"
    | .mistyped => "Data"
  [("error", .string "Json"), ("category", .string category)]

def unloaded (fault : Fault) : Answer :=
  let name := match fault with
    | .unreadable _ | .unopened _ => "Io"
    | .malformed _ _ => "Json"
    | .noFixtures _ => "NoFixtures"
  [("error", .string name)]

/-- Verify a set from its text; the answer may carry the report. -/
def verifyFixtures (text campaign origin : String) (reporting : Bool) : Bench Answer := do
  match FixtureSet.parse text with
  | .error fault => return malformed fault
  | .ok set =>
      requireRoom set.fits
      let verdicts ← onSession set.verify
      let report : Report :=
        { title := reportTitle campaign, timestamp := "T"
          sources := [.ofText set.family origin text], verdicts }
      let texts : Answer := [("markdown", .string report.markdown),
        ("json", .string report.json.indented)]
      return ok (View.summary verdicts)
        ([("campaign", .string campaign), ("version", .string set.version)] ++
          if reporting then texts else [])

def fixtureText (text : String) : Answer :=
  match FixtureSet.parse text with
  | .error fault => malformed fault
  | .ok set => ok (.string set.json.indented)

def verifyBuiltin : Bench Answer := do
  requireRoom FixtureSet.builtin.fits
  return ok (View.summary (← onSession FixtureSet.builtin.verify))
    [("sha256", .string (Digest.hex (Text.encode FixtureSet.builtinText)))]

def fixtureFile (files : Files) (path : String) : Answer :=
  match Loaded.ofContent path (files.read? path) with
  | .error fault => unloaded fault
  | .ok loaded =>
      ok (.object [("version", .string loaded.set.version), ("family", .string loaded.set.family),
        ("cases", .nat loaded.set.cases.length)])

/-- A path without what only says that it begins here. -/
def relative (path : List Char) : List Char :=
  match path with
  | ['.'] => []
  | '.' :: '/' :: rest => relative rest
  | '/' :: rest => relative rest
  | _ => path
termination_by path.length

/-- The fixture files that a path means, each by its path from here. The path is taken from here
on, so that an empty one means this directory. -/
def fixtureFiles (files : Files) (path : String) : Answer :=
  match fixturePaths files (if path.isEmpty then "." else path) with
  | .error fault => unloaded fault
  | .ok paths => ok (View.strings (paths.map fun path => String.ofList (relative path.toList)))

def reportText (report : Report) : Answer :=
  ok (.string report.markdown) [("json", .string report.json.indented),
    ("all_passed", .bool (allPassed report.verdicts))]

def logLine (line : String) : Answer :=
  match Entry.validate line with
  | .ok entry => ok (.string entry.line)
  | .error objection =>
      let wording : Answer := match objection with
        | .missing _ => [("message", .string objection.message)]
        | .malformed | .mistyped => []
      [("error", .string "LogValidationError"), ("field", .string objection.field)] ++ wording

def emit (name : String) (steps : List Emission) : Bench Answer := do
  let now := (← get).now
  let (entries, traces) := emitAll (steps.map fun step => (now, step)) { run := name }
  let lines := entries.map Entry.line
  return ok (View.strings lines) [("returned", View.strings traces),
    ("valid", .bool (lines.all fun line => (Entry.validate line).toOption.isSome))]

def setClock (seconds : Int) (nanoseconds : Nat) : Bench Answer := do
  let now := Instant.ofClock seconds nanoseconds
  modify fun w => { w with now }
  return ok (.string now.render)

/-! The program -/

/-- A text with every digit in the same form, so that texts of different times are alike. -/
def maskDigits (text : String) : String :=
  String.ofList (text.toList.map fun c => if Text.isDigit c then '9' else c)

/-- A member of an entry of a log without what differs between runs. -/
def maskMember : String × Json → String × Json
  | ("timestamp", .string text) => ("timestamp", .string (maskDigits text))
  | ("ptr", _) => ("ptr", .string "0x")
  | member => member

/-- A line of a log without what differs between runs. A line that is not JSON is shown as null. -/
def maskEntry (line : String) : Json :=
  match Json.parse .any line with
  | .error _ => .null
  | .ok (.object members) => .object (members.map maskMember)
  | .ok json => json

/-- A line of a report without what differs between runs. -/
def maskReport (line : String) : Json :=
  .string (if line.startsWith "- Timestamp: " then maskDigits line else line)

def linesOf (view : String → Json) (text : String) : Json :=
  .array ((Text.splitLines text).map view)

/-- Run the program over a tree of files. What it told is given up to the name of a fault. A report
that is not there is null; a log that is not there has no lines. -/
def runProgram (command : Command) (files : Files) : Bench Answer := do
  let ending ← reach (command.run (← get).now files {})
  let outputs := command.outputs
  let lines := ending.messages.flatMap fun message => Text.splitLines (message ++ "\n")
  let told := lines.takeWhile fun line => !line.startsWith "Error: "
  let fault := (lines.drop told.length).head?.map fun line =>
    String.ofList ((line.toList.drop "Error: ".length).takeWhile Text.isAlphanumeric)
  let report (path : String) : String × Json :=
    ("report", Json.ofOption (linesOf maskReport) (ending.files.read? path))
  let log (path : String) : String × Json :=
    ("log", linesOf maskEntry ((ending.files.read? path).getD ""))
  return ok (.object (
    [("exit", .nat ending.exit), ("stdout", .string ""), ("stderr", View.strings told)] ++
    (fault.toList.map fun name => ("failed", .string name)) ++
    outputs.report.toList.map report ++ outputs.log.toList.map log))

end Underlay.Workbench
