import Underlay.Proofs.Conformance.Correlation
import Underlay.Proofs.Conformance.History
import Underlay.Proofs.Conformance.Recording

/-!
# What the log of a campaign says

The log of a campaign is put together from its cases, one part a case: what the case reported while
it ran, as far as the log has room, and then its verdict.
-/

namespace Underlay

open Lifecycle

namespace Session

/-- The session without the records of its log. -/
def drained (s : Session) : Session :=
  s.observe { s.observer with log := s.observer.log.drain.2 }

end Session

namespace Conformance

/-- A case of a campaign: its verdict, what it reported, and the number of the first report. -/
structure Part where
  verdict : Verdict
  events : List Event
  first : Nat

namespace Part

/-- What a log with room for so many records retains of a case. -/
def records (capacity : Nat) (part : Part) : List Record :=
  (numbered part.first part.events).rtake capacity

end Part

/-- Whatever the log holds before, the act appends these events to it. -/
def Reports {α : Type} (act : Session → α × Session) (s : Session) (events : List Event) : Prop :=
  ∀ log, (act (s.observe { s.observer with log })).2.observer.log = events.foldl Log.record log

/-- Cases that are verified one after the other, with the log drained behind each of them, have the
given parts. -/
inductive Unfolds : Session → List (String × Case) → List Part → Session → Prop where
  | nil (s : Session) : Unfolds s [] [] s
  | cons {s s' : Session} {family : String} {c : Case} {rest : List (String × Case)} {part : Part}
      {parts : List Part} (verdict : part.verdict = (c.verify family s).1)
      (reports : Reports (c.verify family) s part.events)
      (first : part.first = s.observer.log.nextId)
      (later : Unfolds (c.verify family s).2.drained rest parts s') :
      Unfolds s ((family, c) :: rest) (part :: parts) s'

/-- The session observes every event, and its log is empty. -/
structure Ready (s : Session) : Prop where
  traces : s.observer.tracking = .trace
  circular : s.observer.log.Circular
  empty : s.observer.log.toList = []

/-- The entries of a part under the number of its verdict. -/
def Part.entries (now : Instant) (campaign : String) (capacity number : Nat) (part : Part) :
    List Entry :=
  (part.records capacity).map (Entry.ofRecord now) ++
    [Entry.ofVerdict now (correlation campaign number) part.verdict]

/-- The entries of parts, whose verdicts are numbered from `number` on. -/
def partEntries (now : Instant) (campaign : String) (capacity : Nat) : Nat → List Part → List Entry
  | _, [] => []
  | number, part :: rest =>
      part.entries now campaign capacity number ++
        partEntries now campaign capacity (number + 1) rest

theorem Unfolds.append {s s' s'' : Session} {cases more : List (String × Case)}
    {parts others : List Part} (unfolds : Unfolds s cases parts s')
    (later : Unfolds s' more others s'') : Unfolds s (cases ++ more) (parts ++ others) s'' := by
  induction unfolds with
  | nil s => exact later
  | cons verdict reports first _ inductionHypothesis =>
      exact .cons verdict reports first (inductionHypothesis later)

theorem partEntries_append (now : Instant) (campaign : String) (capacity number : Nat)
    (parts more : List Part) :
    partEntries now campaign capacity number (parts ++ more) =
      partEntries now campaign capacity number parts ++
        partEntries now campaign capacity (number + parts.length) more := by
  induction parts generalizing number with
  | nil => rfl
  | cons part rest inductionHypothesis =>
      simp only [List.cons_append, partEntries, inductionHypothesis, List.length_cons,
        List.append_assoc]
      rw [Nat.add_right_comm number 1, Nat.add_assoc number]

/-- What verifying a case makes of a session that is ready for it. -/
theorem exists_part (c : Case) (family : String) {s : Session} (ready : Ready s) :
    ∃ part : Part, part.verdict = (c.verify family s).1 ∧
      Reports (c.verify family) s part.events ∧ part.first = s.observer.log.nextId ∧
      (c.verify family s).2.observer.log.toList = part.records s.observer.log.capacity ∧
      Ready (c.verify family s).2.drained ∧
      (c.verify family s).2.observer.log.capacity = s.observer.log.capacity := by
  obtain ⟨verdict, slot, repeats⟩ := repeats_verify c family s
  obtain ⟨pools, scopes, notes, law⟩ := repeats s s.akin_self
  have reports : Reports (c.verify family) s (notes.filterMap Observer.event?) := by
    intro log
    rw [law]
    exact (Observer.hearAll_of_trace { s.observer with log } ready.traces notes).2
  obtain ⟨traces, log⟩ := Observer.hearAll_of_trace s.observer ready.traces notes
  have itself : c.verify family s = _ := law s.observer
  refine ⟨⟨(c.verify family s).1, notes.filterMap Observer.event?, s.observer.log.nextId⟩, rfl,
    reports, rfl, ?_, ?_, ?_⟩
  · rw [itself]
    exact log ▸ Log.toList_foldl_record ready.circular ready.empty _
  · rw [itself]
    have circular : (s.observer.hearAll notes).log.Circular :=
      log ▸ ready.circular.foldl_record _
    exact ⟨traces, circular.drain, rfl⟩
  · rw [itself]
    exact log ▸ Log.capacity_foldl_record _ _

/-- Records have correlation texts of their own. -/
theorem completeAll_ofRecord (now : Instant) (n : Numbering) (records : List Record) :
    completeAll n (records.map (Entry.ofRecord now)) = (records.map (Entry.ofRecord now), n) := by
  induction records with
  | nil => rfl
  | cons r rest inductionHypothesis =>
      have traced : ¬ r.trace.isEmpty = true := by
        simp [Record.trace]
      have whole : n.complete (Entry.ofRecord now r) = (Entry.ofRecord now r, n) := if_neg traced
      rw [List.map_cons, completeAll, whole]
      simp only [inductionHypothesis]

/-- What verifying cases with a log gives, and how it leaves the session. -/
structure Records (now : Instant) (cases : List (String × Case)) (n : Numbering) (s : Session)
    (parts : List Part) (given : List Verdict × List Entry × Numbering × Session) : Prop where
  unfolds : Unfolds s cases parts given.2.2.2
  verdicts : given.1 = parts.map Part.verdict
  entries : given.2.1 = partEntries now n.run s.observer.log.capacity (n.issued + 1) parts
  numbering : given.2.2.1 = { n with issued := n.issued + parts.length }
  ready : Ready given.2.2.2
  capacity : given.2.2.2.observer.log.capacity = s.observer.log.capacity

theorem exists_records_verifyLogged (now : Instant) (family : String) (cases : List Case)
    (n : Numbering) {s : Session} (ready : Ready s) :
    ∃ parts, Records now (cases.map (family, ·)) n s parts
      (verifyLogged now family cases n s) := by
  induction cases generalizing n s with
  | nil => exact ⟨[], .nil s, rfl, rfl, rfl, ready, rfl⟩
  | cons c rest inductionHypothesis =>
      obtain ⟨part, verdict, reports, first, retained, ready', capacity⟩ :=
        exists_part c family ready
      obtain ⟨parts, later⟩ := inductionHypothesis { n with issued := n.issued + 1 } ready'
      have drains : drainEntries now (c.verify family s).2 =
          ((part.records s.observer.log.capacity).map (Entry.ofRecord now),
            (c.verify family s).2.drained) := by
        rw [drainEntries, Log.drain, retained]
        rfl
      have whole : verifyLogged now family (c :: rest) n s =
          let given :=
            verifyLogged now family rest { n with issued := n.issued + 1 }
              (c.verify family s).2.drained
          ((c.verify family s).1 :: given.1,
            part.entries now n.run s.observer.log.capacity (n.issued + 1) ++ given.2.1,
            given.2.2) := by
        simp only [verifyLogged, drains, completeAll_ofRecord, Numbering.next, Part.entries,
          verdict, List.append_assoc, List.singleton_append]
      rw [whole]
      have room : (c.verify family s).2.drained.observer.log.capacity =
        s.observer.log.capacity := capacity
      refine ⟨part :: parts, .cons verdict reports first later.unfolds, ?_, ?_, ?_, later.ready,
        later.capacity.trans room⟩
      · exact congr (congrArg List.cons verdict.symm) later.verdicts
      · dsimp only
        rw [later.entries, room]
        rfl
      · dsimp only
        rw [later.numbering, List.length_cons, Nat.add_assoc, Nat.add_comm 1]

/-- The cases of fixture sets in order, each with its family. -/
def casesOf (sets : List FixtureSet) : List (String × Case) :=
  sets.flatMap fun set => set.cases.map (set.family, ·)

theorem exists_records_verifySetsLogged (now : Instant) (sets : List FixtureSet) (n : Numbering)
    {s : Session} (ready : Ready s) :
    ∃ parts, Records now (casesOf sets) n s parts
      (verifySetsLogged now sets n s) := by
  induction sets generalizing n s with
  | nil => exact ⟨[], .nil s, rfl, rfl, rfl, ready, rfl⟩
  | cons set rest inductionHypothesis =>
      obtain ⟨parts, first⟩ := exists_records_verifyLogged now set.family set.cases n ready
      obtain ⟨others, later⟩ := inductionHypothesis
        (verifyLogged now set.family set.cases n s).2.2.1 first.ready
      have run := congrArg Numbering.run first.numbering
      have issued := congrArg Numbering.issued first.numbering
      refine ⟨parts ++ others, first.unfolds.append later.unfolds, ?_, ?_, ?_, later.ready,
        later.capacity.trans first.capacity⟩
      · simp only [verifySetsLogged, List.map_append, ← first.verdicts, ← later.verdicts]
      · simp only [verifySetsLogged, first.entries, later.entries, partEntries_append,
          first.capacity, run, issued]
        rw [Nat.add_right_comm]
      · simp only [verifySetsLogged, later.numbering, run, issued, List.length_append,
          Nat.add_assoc]

end Conformance

end Underlay
