import Mathlib.Data.List.Forall2
import Underlay.Proofs.Conformance.Entries
import Underlay.Text.Lines

/-!
# What an emitter writes is read back

An emitter leaves one line for each entry that it was asked to write, and every line is admitted and
read as that entry under the correlation text that the emitter gave it.
-/

namespace Underlay

namespace Text

theorem lines_append_newline {text : List Char} (newline : '\n' ∉ text) (carriage : '\r' ∉ text)
    (rest : List Char) : lines (text ++ '\n' :: rest) = text :: lines rest := by
  induction text with
  | nil => rfl
  | cons c text inductionHypothesis =>
      rw [List.mem_cons, not_or] at newline carriage
      rw [List.cons_append, lines, inductionHypothesis newline.2 carriage.2]
      · rintro rfl
        exact newline.1 rfl
      · rintro _ rfl
        exact absurd rfl carriage.1

end Text

namespace Conformance

theorem toList_logText (entries : List Entry) :
    (logText entries).toList = entries.flatMap fun e => e.line.toList ++ ['\n'] := by
  simp [logText, List.flatMap_map]

/-- The text of sound entries has their lines and no others. -/
theorem splitLines_logText {entries : List Entry} (sound : ∀ e ∈ entries, e.Sound) :
    Text.splitLines (logText entries) = entries.map Entry.line := by
  rw [Text.splitLines, toList_logText]
  induction entries with
  | nil => rfl
  | cons e rest inductionHypothesis =>
      obtain ⟨first, others⟩ := List.forall_mem_cons.mp sound
      have printable := Entry.printable_line first
      rw [List.flatMap_cons, List.append_assoc, List.singleton_append,
        Text.lines_append_newline (printable.not_mem (by decide))
          (printable.not_mem (by decide)), List.map_cons, inductionHypothesis others,
        String.ofList_toList, List.map_cons]

/-- The entry that a step asks an emitter to write at its time. -/
def Emission.asked? (now : Instant) : Emission → Option Entry
  | .next => none
  | .bare level event => some (.bare now "" level event)
  | .full entry => some entry

/-- The entries that steps ask for. -/
def asked (steps : List (Instant × Emission)) : List Entry :=
  steps.filterMap fun (now, step) => step.asked? now

/-- An entry has a correlation text, its own if it had one, and is otherwise as it was given. -/
structure Completes (given e : Entry) : Prop where
  same : e = { given with trace := e.trace }
  kept : given.trace ≠ "" → e.trace = given.trace
  filled : e.trace ≠ ""

theorem Completes.sound {e e' : Entry} (completes : Completes e e') (sound : e.Sound) :
    e'.Sound := by
  rw [completes.same]
  exact { sound with }

theorem next_ne_empty (n : Numbering) : n.next.1 ≠ "" := by
  simp [Numbering.next, correlation]

theorem Completes.event {e e' : Entry} (completes : Completes e e') : e'.event = e.event := by
  rw [completes.same]

theorem completes_complete (n : Numbering) (e : Entry) : Completes e (n.complete e).1 := by
  unfold Numbering.complete
  split
  · rename_i empty
    exact ⟨rfl, fun given => absurd (by simpa using empty) given, next_ne_empty n⟩
  · rename_i given
    exact ⟨rfl, fun _ => rfl, by simpa using given⟩

/-- An emitter writes what it was asked to write, in the order in which it was asked. -/
theorem completes_emitAll (steps : List (Instant × Emission)) (n : Numbering) :
    List.Forall₂ Completes (asked steps) (emitAll steps n).1 := by
  induction steps generalizing n with
  | nil => exact .nil
  | cons first rest inductionHypothesis =>
      obtain ⟨now, step⟩ := first
      cases step with
      | next => exact inductionHypothesis _
      | bare level event =>
          exact .cons ⟨rfl, fun given => absurd rfl given, next_ne_empty n⟩ (inductionHypothesis _)
      | full e => exact .cons (completes_complete n e) (inductionHypothesis _)

/-- Every entry that is written was asked for. -/
theorem exists_asked {steps : List (Instant × Emission)} {n : Numbering} {e : Entry}
    (written : e ∈ (emitAll steps n).1) : ∃ e₀ ∈ asked steps, Completes e₀ e := by
  have completes := completes_emitAll steps n
  generalize asked steps = given, (emitAll steps n).1 = entries at written completes
  induction completes with
  | nil => exact absurd written List.not_mem_nil
  | @cons e₀ _ _ _ first _ inductionHypothesis =>
      rcases List.mem_cons.mp written with rfl | later
      · exact ⟨e₀, List.mem_cons_self, first⟩
      · obtain ⟨e₀, there, completes⟩ := inductionHypothesis later
        exact ⟨e₀, List.mem_cons_of_mem _ there, completes⟩

/-- An entry that is put together from texts and numbers is sound. A sound entry that says what
happened, and under which text, has a line without line breaks, which is admitted and read as the
entry. An emitter that is asked for sound entries that say what happened leaves as many lines as
entries were asked for; each is the line of what was asked for, completed by a correlation text if
it had none, and is admitted and read as that. -/
theorem lines_read_back :
    (∀ e : Entry, e.Built → e.Sound) ∧
      (∀ e : Entry, e.Sound → e.trace ≠ "" → e.event ≠ "" →
        '\n' ∉ e.line.toList ∧ '\r' ∉ e.line.toList ∧
          Text.splitLines (logText [e]) = [e.line] ∧ Entry.validate e.line = .ok e) ∧
      ∀ (steps : List (Instant × Emission)) (n : Numbering),
        (∀ e ∈ asked steps, e.Sound ∧ e.event ≠ "") →
          let entries := (emitAll steps n).1
          List.Forall₂ Completes (asked steps) entries ∧
            Text.splitLines (logText entries) = entries.map Entry.line ∧
            (Text.splitLines (logText entries)).length = (asked steps).length ∧
            ∀ e ∈ entries, Entry.validate e.line = .ok e := by
  refine ⟨fun e built => built.sound, fun e sound trace event => ?_, fun steps n sound => ?_⟩
  · have printable := Entry.printable_line sound
    refine ⟨printable.not_mem (by decide), printable.not_mem (by decide), ?_,
      Entry.validate_line sound trace event⟩
    exact splitLines_logText (by simpa using sound)
  · have completes := completes_emitAll steps n
    have written (e : Entry) (there : e ∈ (emitAll steps n).1) :
        e.Sound ∧ e.trace ≠ "" ∧ e.event ≠ "" := by
      obtain ⟨e₀, there, completes⟩ := exists_asked there
      obtain ⟨sound, event⟩ := sound e₀ there
      exact ⟨completes.sound sound, completes.filled, completes.event ▸ event⟩
    have split := splitLines_logText fun e there => (written e there).1
    refine ⟨completes, split, ?_, fun e there => ?_⟩
    · rw [split, List.length_map, completes.length_eq]
    · obtain ⟨sound, trace, event⟩ := written e there
      exact Entry.validate_line sound trace event

/-- A verdict with quotes, a line break and a control character in its texts, between an event and
an entry without a correlation text. -/
theorem lines_read_back_control_characters :
    let verdict := Entry.ofVerdict { seconds := 86400 } "" {
      caseName := "a \"case\"\r\n", family := "index", function := "resolve", passed := false,
      expected := "\x00", actual := "error:ValueError", difference := none }
    let steps : List (Instant × Emission) :=
      [({}, .bare .info "run_start"), ({}, .next), ({ seconds := 1 }, .full verdict)]
    verdict.Sound ∧ (∀ e ∈ asked steps, e.event ≠ "") ∧
      (Text.splitLines (logText (emitAll steps { run := "selftest" }).1)).length = 2 ∧
      Entry.validate ({ verdict with trace := "selftest::0003" } : Entry).line =
        .ok { verdict with trace := "selftest::0003" } := by
  intro verdict steps
  have sound : verdict.Sound := lines_read_back.1 verdict (.verdict ..)
  have events : ∀ e ∈ asked steps, e.event ≠ "" := by
    rintro e there
    rcases List.mem_pair.mp there with rfl | rfl <;> decide
  have start : Entry.Sound (.bare {} "" .info "run_start") := lines_read_back.1 _ (.bare ..)
  have all : ∀ e ∈ asked steps, e.Sound ∧ e.event ≠ "" := by
    rintro e there
    refine ⟨?_, events e there⟩
    rcases List.mem_pair.mp there with rfl | rfl
    · exact start
    · exact sound
  refine ⟨sound, events, (lines_read_back.2.2 steps _ all).2.2.1, ?_⟩
  have traced : Entry.Sound { verdict with trace := "selftest::0003" } :=
    lines_read_back.1 _ (.traced (.verdict ..) _)
  exact (lines_read_back.2.1 _ traced (by decide) (by decide)).2.2.2

end Conformance

end Underlay
