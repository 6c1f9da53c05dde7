import Underlay.Conformance.Campaign

/-!
Requests: the words that ask for a command. The first word is the verb; options follow in any
order, each at most once. The value of an option stands behind an equals sign or in the next word,
which then does not look like an option itself.
-/

namespace Underlay.Conformance

structure Choice where
  name : String
  value : String
deriving DecidableEq, Repr, Inhabited

namespace Choice

/-- An option that carries its value in the same word. -/
def ofWord? (word : String) : Option Choice :=
  let name := word.toList.takeWhile (· != '=')
  match word.toList.drop name.length with
  | _ :: value => some { name := String.ofList name, value := String.ofList value }
  | [] => none

/-- A lone dash is a value. -/
def looksLikeOption (word : String) : Bool :=
  word.startsWith "-" && word != "-"

def ofWords? : List String → Option (List Choice)
  | [] => some []
  | word :: rest =>
      match ofWord? word with
      | some choice => (ofWords? rest).map (choice :: ·)
      | none =>
          match rest with
          | [] => none
          | value :: rest =>
              if looksLikeOption value then none
              else (ofWords? rest).map ({ name := word, value } :: ·)

def value? (choices : List Choice) (name : String) : Option String :=
  (choices.find? fun choice => choice.name == name).map Choice.value

/-- Whether every option has a known name and none is given twice. -/
def wellFormed (known : List String) (choices : List Choice) : Bool :=
  choices.all (fun choice => known.contains choice.name) &&
    decide ((choices.map Choice.name).Nodup)

end Choice

def Command.ofWords? : List String → Option Command
  | "verify" :: rest => do
      let choices ← Choice.ofWords? rest
      guard (Choice.wellFormed ["--fixture", "--report", "--log"] choices)
      return .verify (← Choice.value? choices "--fixture")
        { log := Choice.value? choices "--log", report := Choice.value? choices "--report" }
  | "selftest" :: rest => do
      let choices ← Choice.ofWords? rest
      guard (Choice.wellFormed ["--log"] choices)
      return .selftest (Choice.value? choices "--log")
  | _ => none

/-- What is told to somebody whose words ask for no command. -/
def usage : List String :=
  ["Fixture-driven conformance harness for the pyrt runtime", "",
    "  verify --fixture <PATH> [--report <PATH>] [--log <PATH>]",
    "  selftest [--log <PATH>]"]

end Underlay.Conformance
