import Std.Time.DateTime.Timestamp
import Underlay.Conformance.Request
import Underlay.Settings.Cell

/-!
The command line. It takes the settings from the environment and the fixtures from files, holds
the campaign that its words ask for, and stores the log and the report. What it tells goes to the
error stream. It exits with zero when every case passed, with one when a case failed or a file
stood in the way, and with two when its words ask for nothing.
-/

namespace Underlay.CommandLine

open Underlay.Conformance

/-- The texts of the environment that the program was started in. -/
def environment : IO Environment := do
  return {
    tracking := ← IO.getEnv "PYRT_MEMORY_TRACKING"
    poolCapacity := ← IO.getEnv "PYRT_POOL_CAPACITY" }

def openSession : IO Session := do
  let settings := (← environment).settings
  return ({ poolCapacity := settings.poolCapacity } : Session).setTracking settings.tracking

def readClock : IO Instant := do
  let shown := (← Std.Time.Timestamp.now).val
  return .ofClock shown.second.val shown.nano.val.toNat

def placeOf (path : String) : IO.FS.DirEntry :=
  { root := path, fileName := "" }

def isFile (path : String) : IO Bool := do
  try
    return (← (placeOf path).root.metadata).type == .file
  catch _ =>
    return false

def listDirectory (path : String) : IO (Option (List String)) := do
  try
    return some ((← (placeOf path).root.readDir).toList.map fun place => place.fileName)
  catch _ =>
    return none

def readText (path : String) : IO (Option String) := do
  try
    return some (← IO.FS.readFile path)
  catch _ =>
    return none

def writeText (path text : String) : IO Bool := do
  try
    IO.FS.writeFile path text
    return true
  catch _ =>
    return false

def storeText (path text : String) : ExceptT Fault IO Unit := do
  unless ← writeText path text do
    throw (.unopened path)

def loadFixtures (path : String) : ExceptT Fault IO (List Loaded) := do
  let paths ←
    if ← isFile path then pure [path] else ofExcept (choose path (← listDirectory path))
  paths.mapM fun path => do ofExcept (Loaded.ofContent path (← readText path))

/-- The exit code of a program that ends for want of room. -/
def abortCode : UInt32 := 134

/-- Hold a campaign over loaded sets and store what is asked for: the exit code. -/
def holdCampaign (campaign : String) (sets : List Loaded) (outputs : Outputs) :
    ExceptT Fault IO UInt32 := do
  for path in outputs.log do
    storeText path ""
  let session ← openSession
  unless haveRoom sets session.system do
    return abortCode
  let (report, entries, _) := conduct campaign sets outputs.log.isSome (← readClock) session
  for path in outputs.log do
    storeText path (logText (entries.getD []))
  for path in outputs.report do
    storeText path report.markdown
    IO.eprintln (writtenMessage path)
  for message in closingMessages report.verdicts do
    IO.eprintln message
  return (exitCode report.verdicts).toUInt32

def runCommand : Command → ExceptT Fault IO UInt32
  | .selftest log => holdCampaign "selftest" [.builtin] { log }
  | .verify fixture outputs => do
      IO.eprintln (openingMessage fixture)
      holdCampaign "fixture-verify" (← loadFixtures fixture) outputs

end Underlay.CommandLine

open Underlay Underlay.Conformance

def main (words : List String) : IO UInt32 := do
  match Command.ofWords? words with
  | none =>
      for line in usage do
        IO.eprintln line
      return 2
  | some command =>
      match ← (CommandLine.runCommand command).run with
      | .ok code => return code
      | .error fault =>
          IO.eprintln (faultMessage fault)
          return 1
