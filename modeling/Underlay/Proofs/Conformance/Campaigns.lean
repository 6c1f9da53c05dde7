import Mathlib.Data.List.Nodup
import Underlay.Proofs.Conformance.Account
import Underlay.Proofs.Files

/-!
# Campaigns are complete and their logs are ordered

The log of a campaign begins with its start and ends with its totals, and between them the cases
follow each other. It is read in two ways: what the campaign itself says is numbered without gaps,
and what it repeats from the lifecycle log has ascending numbers.
-/

namespace Underlay.Conformance

open Lifecycle

/-! What is repeated from the lifecycle log -/

theorem ids_records (capacity : Nat) (part : Part) :
    List.Sublist ((part.records capacity).map Record.id)
      (List.range' part.first part.events.length) := by
  rw [← ids_numbered]
  exact (List.drop_sublist _ _).map Record.id

theorem nextId_of_reports {α : Type} {act : Session → α × Session} {s : Session}
    {events : List Event} (reports : Reports act s events) :
    (act s).2.drained.observer.log.nextId = s.observer.log.nextId + events.length := by
  have log : (act s).2.observer.log = events.foldl Log.record s.observer.log :=
    reports s.observer.log
  change (act s).2.observer.log.nextId = _
  rw [log, Log.nextId_foldl_record]

/-- The numbers of what is repeated ascend, from the next number of the lifecycle log on. -/
theorem Unfolds.ascending {s s' : Session} {cases : List (String × Case)} {parts : List Part}
    (unfolds : Unfolds s cases parts s') (capacity : Nat) :
    ((parts.flatMap (Part.records capacity)).map Record.id).Pairwise (· < ·) ∧
      ∀ id ∈ (parts.flatMap (Part.records capacity)).map Record.id,
        s.observer.log.nextId ≤ id := by
  induction unfolds with
  | nil s => simp
  | @cons s s' family c rest part parts verdict reports first later inductionHypothesis =>
      obtain ⟨ascending, above⟩ := inductionHypothesis
      rw [nextId_of_reports reports] at above
      have ids := ids_records capacity part
      have range (id : Nat) (there : id ∈ (part.records capacity).map Record.id) :
          s.observer.log.nextId ≤ id ∧ id < s.observer.log.nextId + part.events.length := by
        have inside := List.mem_range'_1.mp (ids.subset there)
        rwa [first] at inside
      rw [List.flatMap_cons, List.map_append]
      constructor
      · refine List.pairwise_append.mpr ⟨?_, ascending, fun id there id' later => ?_⟩
        · exact List.Pairwise.sublist ids List.pairwise_lt_range'
        · exact Nat.lt_of_lt_of_le (range id there).2 (above id' later)
      · intro id there
        rcases List.mem_append.mp there with here | later
        · exact (range id here).1
        · exact Nat.le_trans (Nat.le_add_right _ _) (above id later)

section Entries

variable (now : Instant) (campaign : String) (capacity number : Nat) (parts : List Part)

/-- What is repeated of the records. -/
theorem repeated_partEntries :
    (partEntries now campaign capacity number parts).filter (fun e => !e.record.isNone) =
      (parts.flatMap (Part.records capacity)).map (Entry.ofRecord now) := by
  induction parts generalizing number with
  | nil => rfl
  | cons part rest inductionHypothesis =>
      have repeated (records : List Record) :
          (records.map (Entry.ofRecord now)).filter (fun e => !e.record.isNone) =
            records.map (Entry.ofRecord now) :=
        List.filter_eq_self.mpr (by simp [Entry.ofRecord])
      rw [partEntries, Part.entries, List.append_assoc, List.filter_append, List.filter_append,
        repeated, inductionHypothesis, List.flatMap_cons, List.map_append]
      rfl

/-- What the campaign itself says of its cases is numbered without gaps. -/
theorem own_partEntries :
    ((partEntries now campaign capacity number parts).filter fun e => e.record.isNone).map
        Entry.trace =
      (List.range' number parts.length).map (correlation campaign) := by
  induction parts generalizing number with
  | nil => rfl
  | cons part rest inductionHypothesis =>
      have repeated (records : List Record) :
          (records.map (Entry.ofRecord now)).filter (fun e => e.record.isNone) = [] :=
        List.filter_eq_nil_iff.mpr (by simp [Entry.ofRecord])
      rw [partEntries, Part.entries, List.append_assoc, List.filter_append, List.filter_append,
        repeated, List.map_append, List.map_append, inductionHypothesis, List.length_cons,
        List.range'_succ]
      rfl

/-! The same with an entry of the campaign in front and another one behind -/

variable {first last : Entry}

theorem repeated_enclosed (begins : first.record = none) (ends : last.record = none) :
    (first :: (partEntries now campaign capacity number parts ++ [last])).filter
        (fun e => !e.record.isNone) =
      (parts.flatMap (Part.records capacity)).map (Entry.ofRecord now) := by
  rw [List.filter_cons_of_neg (by simp [begins]), List.filter_append, repeated_partEntries,
    List.filter_cons_of_neg (by simp [ends]), List.filter_nil, List.append_nil]

theorem own_enclosed (begins : first.record = none) (ends : last.record = none)
    (begun : first.trace = correlation campaign number)
    (ended : last.trace = correlation campaign (number + 1 + parts.length)) :
    ((first :: (partEntries now campaign capacity (number + 1) parts ++ [last])).filter
        fun e => e.record.isNone).map Entry.trace =
      (List.range' number (parts.length + 2)).map (correlation campaign) := by
  rw [List.filter_cons_of_pos (by simp [begins]), List.filter_append,
    List.filter_cons_of_pos (by simp [ends]), List.filter_nil, List.map_cons, List.map_append,
    own_partEntries, List.map_cons, List.map_nil, begun, ended, List.range'_succ,
    List.range'_concat, Nat.one_mul, List.map_cons, List.map_append, List.map_cons, List.map_nil]

end Entries

/-- The record numbers in a log are those of the records that it repeats. -/
theorem filterMap_record {now : Instant} {log : List Entry} {records : List Record}
    (repeated : log.filter (fun e => !e.record.isNone) = records.map (Entry.ofRecord now)) :
    log.filterMap Entry.record = records.map Record.id := by
  have kept : log.filterMap Entry.record =
      (log.filter (fun e => !e.record.isNone)).filterMap Entry.record := by
    rw [List.filterMap_filter]
    congr 1
    funext e
    cases e.record <;> rfl
  have number : Entry.record ∘ Entry.ofRecord now = some ∘ Record.id := rfl
  rw [kept, repeated, List.filterMap_map, number, List.filterMap_eq_map]

/-- A log in which what is repeated has ascending numbers, and what a campaign itself says has
ascending numbers as well, has no correlation text twice, unless the campaign has a name like a
record. -/
theorem nodup_traces {now : Instant} {campaign : String} {log : List Entry} {records : List Record}
    {numbers : List Nat} (other : ∀ rest, campaign ≠ "membrane::" ++ rest)
    (repeated : log.filter (fun e => !e.record.isNone) = records.map (Entry.ofRecord now))
    (ascending : (records.map Record.id).Pairwise (· < ·))
    (own : (log.filter fun e => e.record.isNone).map Entry.trace =
      numbers.map (correlation campaign)) (distinct : numbers.Nodup) :
    (log.map Entry.trace).Nodup := by
  have split := (List.filter_append_perm (fun e : Entry => e.record.isNone) log).map Entry.trace
  refine split.nodup_iff.mp ?_
  rw [List.map_append, own, repeated, List.map_map]
  refine List.nodup_append.mpr ⟨?_, ?_, ?_⟩
  · exact List.Nodup.map (fun _ _ same => correlation_injective campaign same) distinct
  · rw [List.pairwise_map] at ascending
    exact List.pairwise_map.mpr
      (ascending.imp fun below same => Nat.ne_of_lt below (id_of_trace_eq same))
  · intro trace run trace' record same
    obtain ⟨number, -, rfl⟩ := List.mem_map.mp run
    obtain ⟨r, -, rfl⟩ := List.mem_map.mp record
    have stem : campaign = r.event.stem := stem_of_correlation_eq same
    refine other (r.event.component ++ "::" ++ r.event.name) ?_
    rw [stem, Event.stem]
    simp [String.append_assoc]

/-! Totals -/

theorem passedCount_add_failedCount (verdicts : List Verdict) :
    passedCount verdicts + failedCount verdicts = verdicts.length := by
  have some : passedCount verdicts ≤ verdicts.length := List.countP_le_length
  unfold failedCount
  omega

theorem exitCode_eq_zero (verdicts : List Verdict) :
    exitCode verdicts = 0 ↔ ∀ v ∈ verdicts, v.passed = true := by
  have all : passedCount verdicts = verdicts.length ↔ ∀ v ∈ verdicts, v.passed = true :=
    List.countP_eq_length
  have sum := passedCount_add_failedCount verdicts
  rw [← all, exitCode, allPassed]
  by_cases none : failedCount verdicts = 0
  · simp [none]
    omega
  · simp [none]
    omega

theorem passed_verify (c : Case) (family : String) (s : Session) :
    (c.verify family s).1.passed = true ↔
      (c.verify family s).1.actual = (c.verify family s).1.expected :=
  beq_iff_eq

theorem Unfolds.length_eq {s s' : Session} {cases : List (String × Case)} {parts : List Part}
    (unfolds : Unfolds s cases parts s') : parts.length = cases.length := by
  induction unfolds with
  | nil s => rfl
  | cons _ _ _ _ inductionHypothesis => exact congrArg (· + 1) inductionHypothesis

/-- What a campaign over cases, held from a session on, makes of its parts: one verdict for each
case, and the log. -/
structure Account (campaign : String) (cases : List (String × Case)) (now : Instant) (s : Session)
    (parts : List Part) (verdicts : List Verdict) (log : List Entry) : Prop where
  unfolds : ∃ s', Unfolds (s.setTracking .trace) cases parts s'
  concluded : verdicts = parts.map Part.verdict
  /-- Every case has the verdict that it would have alone. -/
  alone : verdicts = cases.map fun (family, c) => (c.verify family s).1
  /-- A start, the parts in order, and an end that tells the totals. -/
  composed : log = Entry.bare now (correlation campaign 1) .info "run_start" ::
    (partEntries now campaign s.observer.log.capacity 2 parts ++
      [{ closing now verdicts with trace := correlation campaign (cases.length + 2) }])
  /-- What is repeated from the lifecycle log has ascending numbers, also across cases. -/
  ascending : (log.filterMap Entry.record).Pairwise (· < ·)
  /-- What the campaign itself says is numbered from one, without gaps. -/
  consecutive : (log.filter fun e => e.record.isNone).map Entry.trace =
    (List.range' 1 (cases.length + 2)).map (correlation campaign)
  distinct : (∀ rest, campaign ≠ "membrane::" ++ rest) → (log.map Entry.trace).Nodup
  complete : verdicts.length = cases.length
  total : passedCount verdicts + failedCount verdicts = verdicts.length
  success : exitCode verdicts = 0 ↔ ∀ v ∈ verdicts, v.actual = v.expected

section Logged

variable {campaign : String} {sets : List FixtureSet} {now : Instant} {s : Session}
  {parts : List Part}

theorem verdicts_logged (campaign : String) (sets : List FixtureSet) (now : Instant)
    (s : Session) :
    (logged campaign sets now s).1 =
      (casesOf sets).map fun (family, c) => (c.verify family s).1 := by
  have akin : s.Akin (s.setTracking .trace) := s.akin_observe _
  have alone := (verifySetsLogged_akin now sets (Numbering.next { run := campaign }).2 akin).1
  have same : (logged campaign sets now s).1 = _ := alone
  rw [same, casesOf, List.map_flatMap]
  simp [verdictsAlone, List.map_map, Function.comp_def]

theorem log_logged {given : List Verdict × List Entry × Numbering × Session}
    (verified : verifySetsLogged now sets { run := campaign, issued := 1 } (s.setTracking .trace) =
      given)
    (records : Records now (casesOf sets) { run := campaign, issued := 1 } (s.setTracking .trace)
      parts given) :
    (logged campaign sets now s).2.1 =
      Entry.bare now (correlation campaign 1) .info "run_start" ::
        (partEntries now campaign s.observer.log.capacity 2 parts ++
          [{ closing now given.1 with
             trace := correlation campaign ((casesOf sets).length + 2) }]) := by
  have entries := records.entries
  have numbering := records.numbering
  have many := records.unfolds.length_eq
  obtain ⟨verdicts, found, n, after⟩ := given
  have last (n : Numbering) (verdicts : List Verdict) :
      (n.complete (closing now verdicts)).1 =
        { closing now verdicts with trace := correlation n.run (n.issued + 1) } := rfl
  simp only at entries numbering
  simp only [logged, Numbering.next, Nat.zero_add, verified, last, entries, numbering, many]
  have number : 1 + (casesOf sets).length + 1 = (casesOf sets).length + 2 := by omega
  rw [number]
  rfl

end Logged

theorem account_of_logged (campaign : String) (sets : List FixtureSet) (now : Instant) {s : Session}
    (circular : s.observer.log.Circular) (empty : s.observer.log.toList = []) :
    ∃ parts, Account campaign (casesOf sets) now s parts
      (logged campaign sets now s).1 (logged campaign sets now s).2.1 := by
  have ready : Ready (s.setTracking .trace) := ⟨rfl, circular, empty⟩
  obtain ⟨parts, records⟩ := exists_records_verifySetsLogged now sets
    { run := campaign, issued := 1 } ready
  have concluded : (logged campaign sets now s).1 = parts.map Part.verdict := records.verdicts
  have composed := log_logged rfl records
  rw [show (verifySetsLogged now sets { run := campaign, issued := 1 } (s.setTracking .trace)).1 =
    (logged campaign sets now s).1 from rfl] at composed
  have alone := verdicts_logged campaign sets now s
  have many := records.unfolds.length_eq
  have ascending := (records.unfolds.ascending s.observer.log.capacity).1
  generalize (logged campaign sets now s).1 = verdicts at concluded composed alone ⊢
  generalize (logged campaign sets now s).2.1 = log at composed ⊢
  have repeated : log.filter (fun e => !e.record.isNone) =
      (parts.flatMap (Part.records s.observer.log.capacity)).map (Entry.ofRecord now) := by
    rw [composed]
    exact repeated_enclosed now campaign _ 2 parts rfl rfl
  have consecutive : (log.filter fun e => e.record.isNone).map Entry.trace =
      (List.range' 1 ((casesOf sets).length + 2)).map (correlation campaign) := by
    rw [composed, ← many]
    refine own_enclosed now campaign _ 1 parts rfl rfl rfl ?_
    rw [Nat.add_comm parts.length]
  refine ⟨parts, ⟨_, records.unfolds⟩, concluded, alone, composed, ?_, consecutive, ?_, ?_,
    passedCount_add_failedCount verdicts, ?_⟩
  · rw [filterMap_record repeated]
    exact ascending
  · exact fun other => nodup_traces other repeated ascending consecutive List.nodup_range'
  · rw [alone, List.length_map]
  · rw [exitCode_eq_zero, alone]
    refine List.forall_mem_map.trans (Iff.trans ?_ List.forall_mem_map.symm)
    exact forall₂_congr fun c _ => passed_verify c.2 c.1 s

/-! Endings -/

/-- The report that a run is asked for, if it is, can be stored among the files. -/
def Storable (outputs : Outputs) (report : Report) (files : Files) : Prop :=
  ∀ path, outputs.report = some path → ∃ stored, files.write? path report.markdown = some stored

theorem storable_iff {outputs : Outputs} {report : Report} {files : Files} :
    Storable outputs report files ↔ ∃ stored, store (outputs.report.getD "")
      (outputs.report.map fun _ => report.markdown) files = .ok stored := by
  obtain ⟨log, asked⟩ := outputs
  cases asked with
  | none => simp [Storable, store]
  | some path =>
      cases written : files.write? path report.markdown <;> simp [Storable, store, written]

/-- A run whose log is kept succeeds if its report is stored and all its cases pass. -/
theorem exit_conclude {campaign : String} {sets : List Loaded} {outputs : Outputs} {now : Instant}
    {s after : Session} {report : Report} {entries : List Entry} {path : String}
    {opened kept : Files} (told : List String) (asked : outputs.log = some path)
    (conducted : conduct campaign sets true now s = (report, some entries, after))
    (keeps : opened.write? path (logText entries) = some kept) :
    (conclude campaign sets outputs told now opened s).exit = 0 ↔
      Storable outputs report kept ∧ exitCode report.verdicts = 0 := by
  rw [storable_iff]
  simp only [conclude, asked, Option.getD_some, Option.map_some, Option.isSome_some, conducted]
  simp only [store.eq_2, keeps]
  cases store (outputs.report.getD "") (outputs.report.map fun _ => report.markdown) kept with
  | error fault => simp [Ending.ofFault]
  | ok stored => simp

section Room

variable {campaign : String} {sets : List Loaded} {outputs : Outputs} {told : List String}
  {now : Instant} {files opened : Files} {s : Session} {path : String}

theorem hold_of_room (room : haveRoom sets s.system = true) (asked : outputs.log = some path)
    (opens : files.write? path "" = some opened) :
    hold campaign sets outputs told now files s =
      .reached (conclude campaign sets outputs told now opened s) := by
  simp only [hold, asked, Option.getD_some, Option.map_some, store.eq_2, opens, room, if_true]

theorem hold_of_no_room (short : haveRoom sets s.system = false) (asked : outputs.log = some path)
    (opens : files.write? path "" = some opened) :
    hold campaign sets outputs told now files s = .aborted := by
  simp only [hold, asked, Option.getD_some, Option.map_some, store.eq_2, opens, short,
    Bool.false_eq_true, if_false]

end Room

/-- The account of a campaign over loaded sets that keeps a log, where the program has room for all
cases and the lifecycle log is empty before it begins. The lifecycle log keeps as many of the
records of a case as it has room for, which is 4096 unless it was made otherwise. Where the log can
be opened it can be kept, and the run comes to an end. -/
theorem account_of_campaign (campaign : String) (sets : List Loaded) (now : Instant) {s : Session}
    (circular : s.observer.log.Circular) (empty : s.observer.log.toList = [])
    (room : haveRoom sets s.system = true) :
    let report := (conduct campaign sets true now s).1
    ∃ parts entries, (conduct campaign sets true now s).2.1 = some entries ∧
      Account campaign (casesOf (sets.map Loaded.set)) now s parts report.verdicts entries ∧
      ∀ outputs path told files opened, outputs.log = some path →
        files.write? path "" = some opened →
          ∃ kept ending, opened.write? path (logText entries) = some kept ∧
            hold campaign sets outputs told now files s = .reached ending ∧
            (ending.exit = 0 ↔
              Storable outputs report kept ∧ ∀ v ∈ report.verdicts, v.actual = v.expected) := by
  obtain ⟨parts, account⟩ := account_of_logged campaign (sets.map Loaded.set) now circular empty
  refine ⟨parts, _, rfl, account, fun outputs path told files opened asked opens => ?_⟩
  obtain ⟨kept, keeps⟩ := Files.exists_write?_again opens _
  exact ⟨kept, _, keeps, hold_of_room room asked opens,
    (exit_conclude told asked rfl keeps).trans (and_congr Iff.rfl account.success)⟩

/-- Two campaigns that keep a log. One has a case that asks for a destination larger than a pointer
can span, and does not come to an end whatever the system grants. In the other one every case gives
what is expected of it, but a directory stands where the report is to go, and the run fails. -/
theorem not_account_of_campaign :
    let loaded (c : Case) : Loaded :=
      { set := { version := "v1", family := "core", cases := [c] }, source := default }
    let vast := loaded { name := "vast", function := "checked_copy", expected := "a"
                         inputs := .object [("dest_size", .integer 0xFFFFFFFFFFFFFFFF),
                           ("src", .string "a")] }
    let first := loaded { name := "first", function := "normalize_index", expected := "0"
                          inputs := .object [("index", .integer 0), ("length", .integer 3)] }
    let outputs : Outputs := { log := some "log.jsonl", report := some "report.md" }
    let files : Files := .ofList [("report.md", none)]
    let s : Session := {}
    let generous : Session := { system := { grants := fun _ => true } }
    hold "fixture-verify" [vast] outputs [] default {} generous = .aborted ∧
      (∀ v ∈ (conduct "fixture-verify" [first] true default s).1.verdicts,
        v.actual = v.expected) ∧
      ∃ ending, hold "fixture-verify" [first] outputs [] default files s = .reached ending ∧
        ending.exit ≠ 0 := by
  intro loaded vast first outputs files s generous
  have short : haveRoom [vast] generous.system = false := by decide +kernel
  have room : haveRoom [first] s.system = true := by decide +kernel
  have passes : ∀ v ∈ (conduct "fixture-verify" [first] true default s).1.verdicts,
      v.actual = v.expected := by decide +kernel
  have alone : Files.write? {} "log.jsonl" "" = some { entries := [(["log.jsonl"], some "")] } := by
    decide +kernel
  have beside : files.write? "log.jsonl" "" =
      some { entries := [(["report.md"], none), (["log.jsonl"], some "")] } := by
    decide +kernel
  refine ⟨hold_of_no_room short rfl alone, passes, _, hold_of_room room rfl beside, ?_⟩
  decide +kernel

/-- The built-in cases in a fresh session, with the log in a file. -/
theorem account_of_campaign_selftest :
    let s : Session := {}
    let now : Instant := default
    let report := (conduct "selftest" [.builtin] true now s).1
    s.observer.log.Circular ∧ s.observer.log.toList = [] ∧ haveRoom [.builtin] s.system = true ∧
      ∃ parts entries opened ending,
        Account "selftest" (casesOf [.builtin]) now s parts report.verdicts entries ∧
        (entries.map Entry.trace).Nodup ∧ Files.write? {} "run.jsonl" "" = some opened ∧
        Command.run (.selftest (some "run.jsonl")) now {} s = .reached ending ∧
        (ending.exit = 0 ↔ ∀ v ∈ report.verdicts, v.actual = v.expected) := by
  intro s now report
  have circular : s.observer.log.Circular := Lifecycle.Log.circular_withCapacity 4096
  have empty : s.observer.log.toList = [] := rfl
  have room : haveRoom [.builtin] s.system = true := by decide +kernel
  obtain ⟨parts, entries, -, account, ends⟩ :=
    account_of_campaign "selftest" [.builtin] now circular empty room
  have other (rest : String) : "selftest" ≠ "membrane::" ++ rest := by
    intro same
    have heads := congrArg (fun text => text.toList.head?) same
    simp at heads
  have opens : Files.write? {} "run.jsonl" "" = some { entries := [(["run.jsonl"], some "")] } := by
    decide +kernel
  obtain ⟨kept, ending, -, held, success⟩ :=
    ends { log := some "run.jsonl" } "run.jsonl" [] {} _ rfl opens
  refine ⟨circular, empty, room, parts, entries, _, ending, account, account.distinct other, opens,
    held, ?_⟩
  exact success.trans (and_iff_right fun path asked => nomatch asked)

end Underlay.Conformance
