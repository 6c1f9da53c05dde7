import Underlay.Conformance.Entry

/-!
Emitting entries. An emitter writes each entry on a line of its own. It numbers correlation texts
in order, one for each event that it writes itself, for each entry that has none, and for whoever
asks for one.
-/

namespace Underlay.Conformance

/-- The correlation text of a run under a number. -/
def correlation (run : String) (number : Nat) : String :=
  run ++ "::" ++ decimal 4 number

/-- The correlation texts of a run: its name and a number, counted from one. -/
structure Numbering where
  run : String
  issued : Nat := 0
deriving DecidableEq, Repr, Inhabited

namespace Numbering

def next (n : Numbering) : String × Numbering :=
  let issued := n.issued + 1
  (correlation n.run issued, { n with issued })

/-- The entry with a correlation text of its own: an empty one is filled in. -/
def complete (n : Numbering) (e : Entry) : Entry × Numbering :=
  if e.trace.isEmpty then
    let (trace, n) := n.next
    ({ e with trace }, n)
  else
    (e, n)

end Numbering

/-- Give each entry that lacks a correlation text one of its own. -/
def completeAll (n : Numbering) : List Entry → List Entry × Numbering
  | [] => ([], n)
  | entry :: rest =>
      let (entry, n) := n.complete entry
      let (entries, n) := completeAll n rest
      (entry :: entries, n)

/-- A step of an emitter. -/
inductive Emission where
  | next
  /-- Write an entry under a new correlation text. -/
  | bare (level : Lifecycle.Level) (event : String)
  /-- Write an entry, under a new correlation text if it has none. -/
  | full (entry : Entry)

/-- The entries that steps write at their times, and the correlation texts that they return. -/
def emitAll : List (Instant × Emission) → Numbering → List Entry × List String
  | [], _ => ([], [])
  | (_, .next) :: rest, n =>
      let (trace, n) := n.next
      let (entries, traces) := emitAll rest n
      (entries, trace :: traces)
  | (now, .bare level event) :: rest, n =>
      let (trace, n) := n.next
      let (entries, traces) := emitAll rest n
      (.bare now trace level event :: entries, trace :: traces)
  | (_, .full entry) :: rest, n =>
      let (entry, n) := n.complete entry
      let (entries, traces) := emitAll rest n
      (entry :: entries, traces)

/-- The text that an emitter leaves. -/
def logText (entries : List Entry) : String :=
  String.join (entries.map fun entry => entry.line ++ "\n")

end Underlay.Conformance
