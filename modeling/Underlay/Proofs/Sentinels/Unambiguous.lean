import Underlay.Proofs.Failures.Reporting
import Underlay.Proofs.Sentinels.Calls
import Underlay.Proofs.Slices.Normalization

/-!
# Reserved values mean failures and nothing else

A call answers with its reserved value exactly when it has put a failure into the slot itself.
Nearly every entry point makes one call that reports (`Reports`) and translates its result; then
it is enough to look at the values that stand for successes. The numbers among them are never
minus one, because they are positions and counts.
-/

namespace Underlay

theorem Kind.code_ne_ok {kind : Kind} (failed : kind ≠ .ok) : kind.code ≠ Kind.ok.code := by
  intro same
  have numbered := Kind.ofCode?_code kind
  rw [same, Kind.ofCode?_code] at numbered
  exact failed (Option.some.inj numbered).symm

namespace Boundary

theorem genuine_require {α : Type} (pointer : Option α) (operation what : String) :
    Genuine (require pointer operation what) := by
  cases pointer <;> simp [require]

end Boundary

namespace Sentinels

open Boundary

/-- A call answers with a reserved value or leaves the slot alone, and never both. -/
structure Unambiguous (call : Machine → Reply × Machine) (machine : Machine) : Prop where
  reserved : (call machine).1.reserved = true ↔ ∃ failure, Records call machine failure
  quiet : (¬∃ failure, Records call machine failure) → Quiet call machine
  status : ∀ code, (call machine).1 = .status code → code ≠ Kind.ok.code →
    (call machine).2.slot.code.code = code

section

variable {call : Machine → Reply × Machine} {machine : Machine} {failure : Failure}

theorem Quiet.not_records (quiet : Quiet call machine) : ¬Records call machine failure := by
  rintro ⟨genuine, records⟩
  -- An empty slot would stay empty and hold the failure.
  have stored := (quiet {}).symm.trans (records {})
  exact genuine (congrArg Slot.code stored).symm

theorem Unambiguous.of_quiet (quiet : Quiet call machine)
    (plain : (call machine).1.reserved = false) : Unambiguous call machine := by
  refine ⟨?_, fun _ => quiet, ?_⟩
  · rw [plain]
    simp [quiet.not_records]
  · intro code answered failed
    rw [answered] at plain
    exact absurd (by simpa [Reply.reserved] using plain) failed

theorem Unambiguous.of_records (records : Records call machine failure)
    (reserved : (call machine).1.reserved = true)
    (status : ∀ code, (call machine).1 = .status code → code = failure.kind.code) :
    Unambiguous call machine := by
  refine ⟨?_, ?_, ?_⟩
  · simpa [reserved] using ⟨failure, records⟩
  · intro unrecorded
    exact absurd ⟨failure, records⟩ unrecorded
  · intro code answered _
    have stored := records.2 machine.slot
    change (call machine).2.slot = _ at stored
    rw [stored, status code answered]
    rfl

end

section Translated

variable {α : Type} {act : Machine → Except Failure α × Machine}
  {call : Machine → Reply × Machine} {machine : Machine}

/-- A call that translates the result of one that reports. -/
theorem unambiguous_of_reports (reports : Reports act) (reply : Except Failure α → Reply)
    (translates : ∀ machine, call machine = (reply (act machine).1, (act machine).2))
    (success : ∀ a, (act machine).1 = .ok a → (reply (.ok a)).reserved = false)
    (refusal : ∀ failure, failure.kind ≠ .ok → (reply (.error failure)).reserved = true)
    (coded : ∀ failure code, reply (.error failure) = .status code → code = failure.kind.code) :
    Unambiguous call machine := by
  cases answered : (act machine).1 with
  | ok a =>
      apply Unambiguous.of_quiet
      · intro slot
        rw [translates, reports.law, answered]
        rfl
      · rw [translates, answered]
        exact success a answered
  | error failure =>
      have genuine := reports.genuine machine failure answered
      have records : Records call machine failure := by
        refine ⟨genuine, ?_⟩
        intro slot
        rw [translates, reports.law, answered]
        rfl
      apply Unambiguous.of_records records
      · rw [translates, answered]
        exact refusal failure genuine
      · intro code
        rw [translates, answered]
        exact coded failure code

theorem unambiguous_number {act : Machine → Except Failure Int × Machine} (reports : Reports act)
    (translates : ∀ machine, call machine =
      (.number ((act machine).1.toOption.getD (-1)), (act machine).2))
    (legal : ∀ i, (act machine).1 = .ok i → 0 ≤ i) : Unambiguous call machine := by
  apply unambiguous_of_reports reports (fun result => .number (result.toOption.getD (-1))) translates
  · intro i answered
    have nonnegative := legal i answered
    have distinct : i ≠ -1 := by omega
    simpa [Reply.reserved, Except.toOption] using distinct
  · intro failure genuine
    rfl
  · intro failure code coded
    cases coded

theorem unambiguous_pointer (reports : Reports act)
    (translates : ∀ machine, call machine =
      (.pointer (act machine).1.toOption.isSome, (act machine).2)) : Unambiguous call machine := by
  apply unambiguous_of_reports reports (fun result => .pointer result.toOption.isSome) translates
  · intro a answered
    rfl
  · intro failure genuine
    rfl
  · intro failure code coded
    cases coded

theorem unambiguous_status (reports : Reports act)
    (translates : ∀ machine, call machine =
      (.status (Boundary.status (act machine).1), (act machine).2)) : Unambiguous call machine := by
  apply unambiguous_of_reports reports (fun result => .status (Boundary.status result)) translates
  · intro a answered
    rfl
  · intro failure genuine
    simpa [Reply.reserved, Boundary.status] using Kind.code_ne_ok genuine
  · intro failure code coded
    exact (Reply.status.inj coded).symm

end Translated

section Translations

variable {α : Type} {machine : Machine}

theorem unambiguous_answer {result : Except Failure Int} (genuine : Genuine result)
    (legal : ∀ i, result = .ok i → 0 ≤ i) :
    Unambiguous (fun machine => number (answer (-1) result machine)) machine := by
  apply unambiguous_number (Machine.reports_attempt genuine)
  · intro machine
    cases result <;> rfl
  · exact legal

theorem unambiguous_answer_map {result : Except Failure α} {value : α → Int}
    (genuine : Genuine result) (legal : ∀ a, result = .ok a → 0 ≤ value a) :
    Unambiguous (fun machine => number (answer (-1) (result.map value) machine)) machine := by
  apply unambiguous_answer (genuine.map value)
  intro i answered
  cases result with
  | error failure => cases answered
  | ok a =>
      obtain rfl := Except.ok.inj answered
      exact legal a rfl

theorem unambiguous_answerCount {result : Except Failure (List α)} (genuine : Genuine result) :
    Unambiguous (fun machine => number (answerCount result machine)) machine :=
  unambiguous_answer_map genuine fun elements _ => clip_nonneg elements.length

theorem unambiguous_answerPointer {result : Except Failure α} (genuine : Genuine result) :
    Unambiguous (fun machine => pointer (answerPointer result machine)) machine := by
  apply unambiguous_pointer (Machine.reports_attempt genuine)
  intro machine
  cases result <;> rfl

theorem unambiguous_answerStatus {result : Except Failure α} (genuine : Genuine result) :
    Unambiguous (fun machine => status (answerStatus result machine)) machine :=
  unambiguous_status (Machine.reports_attempt genuine) fun _ => rfl

/-- A handle is demanded before the scope behind it is looked at. -/
theorem reports_onScope (scope : Option Nat) (operation : String)
    {act : Machine → Nat → Except Failure α × Machine} (reports : ∀ id, Reports (act · id)) :
    Reports fun machine => onScope scope operation machine (act machine) := by
  cases scope with
  | none => exact Machine.reports_attempt (genuine_require none operation "scope")
  | some id => exact reports id

end Translations

end Sentinels

end Underlay
