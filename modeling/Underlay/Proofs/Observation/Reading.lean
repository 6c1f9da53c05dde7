import Mathlib.Data.List.TakeWhile
import Underlay.Proofs.Observation.Records

/-!
# The records of one scope

All scopes record into the same log. A record of a scope begins its details with the number of the
scope, so the records of one scope can be read out: those of the blocks that it registered, of the
calls that it refused and of its closing. What they tell is compared with the scope.
-/

namespace Underlay

namespace Lifecycle.Event

/-- Whether a record is one of a scope. -/
def isOf (scope : Nat) (event : Event) : Bool :=
  event.component == "scope" &&
    event.details.toList.takeWhile (· != ' ') == ("scope=" ++ toString scope).toList

theorem component_of_isOf {event : Event} {scope : Nat} (ours : event.isOf scope = true) :
    event.component = "scope" :=
  eq_of_beq (Bool.and_eq_true_iff.mp ours).1

end Lifecycle.Event

namespace Scope

open Lifecycle

/-- Records of calls on a scope that registered a block. -/
def registrations (scope : Nat) (records : List Event) : List Event :=
  records.filter fun record => record.isOf scope &&
    (record.outcome == "ok" && ["alloc", "alloc_zeroed", "register"].contains record.name)

/-- Records of calls on a scope that failed. -/
def refusals (scope : Nat) (records : List Event) : List Event :=
  records.filter fun record => record.isOf scope && record.outcome == "failed"

def closings (scope : Nat) (records : List Event) : List Event :=
  records.filter fun record => record.isOf scope && record.name == "close"

theorem registrations_append (scope : Nat) (records more : List Event) :
    registrations scope (records ++ more) =
      registrations scope records ++ registrations scope more :=
  List.filter_append ..

theorem refusals_append (scope : Nat) (records more : List Event) :
    refusals scope (records ++ more) = refusals scope records ++ refusals scope more :=
  List.filter_append ..

theorem closings_append (scope : Nat) (records more : List Event) :
    closings scope (records ++ more) = closings scope records ++ closings scope more :=
  List.filter_append ..

/-! Whose a record is. -/

theorem toString_inj {n m : Nat} : toString n = toString m ↔ n = m := by
  constructor
  · intro same
    have same := congrArg (Nat.ofDigitChars 10 ·.toList 0) same
    simpa only [Nat.toString_eq_repr, Nat.toList_repr, Nat.ofDigitChars_ten_toDigits] using same
  · exact congrArg toString

theorem takeWhile_details (id : Nat) {suffix : String}
    (apart : ∀ c ∈ suffix.toList.head?, c = ' ') :
    ("scope=" ++ toString id ++ suffix).toList.takeWhile (· != ' ') =
      ("scope=" ++ toString id).toList := by
  have front : ∀ c ∈ ("scope=" ++ toString id).toList, (c != ' ') = true := by
    intro c listed
    rw [String.toList_append, List.mem_append, Nat.toString_eq_repr, Nat.toList_repr] at listed
    rcases listed with fixed | digit
    · have plain : "scope=".toList.all (· != ' ') = true := by decide
      exact List.all_eq_true.mp plain c fixed
    · have digit := Nat.isDigit_of_mem_toDigits (by decide) (by decide) digit
      exact bne_iff_ne.mpr fun blank => by cases blank ▸ digit
  have stops : suffix.toList.takeWhile (· != ' ') = [] := by
    cases listed : suffix.toList with
    | nil => rfl
    | cons c rest =>
        obtain rfl := apart c (by rw [listed]; rfl)
        rfl
  rw [String.toList_append, List.takeWhile_append_of_pos front, stops, List.append_nil]

/-- A record of a scope is one of the scope with its number, and of no other. -/
theorem isOf_event (s : Scope) (name : String) {suffix : String}
    (apart : ∀ c ∈ suffix.toList.head?, c = ' ') (scope : Nat) :
    (s.event name suffix).isOf scope = decide (s.id = scope) := by
  simp only [Event.isOf, event, takeWhile_details s.id apart, BEq.rfl, Bool.true_and]
  rw [Bool.eq_iff_iff, beq_iff_eq, decide_eq_true_iff, String.toList_inj]
  constructor
  · intro same
    have same := congrArg String.toList same
    rw [String.toList_append, String.toList_append, List.append_cancel_left_eq,
      String.toList_inj] at same
    exact toString_inj.mp same
  · rintro rfl
    rfl

@[simp]
theorem isOf_opening (s : Scope) (scope : Nat) :
    (s.event "open").isOf scope = decide (s.id = scope) :=
  s.isOf_event "open" (by simp) scope

@[simp]
theorem isOf_registration (s : Scope) (call : String) (block : BlockId) (size : Option Nat)
    (scope : Nat) : (s.registration call block size).isOf scope = decide (s.id = scope) :=
  s.isOf_event call (by simp) scope

@[simp]
theorem isOf_refusal (s : Scope) (call : String) (size scope : Nat) :
    (s.refusal call size).isOf scope = decide (s.id = scope) :=
  s.isOf_event call (by simp) scope

@[simp]
theorem isOf_closing (s : Scope) (scope : Nat) :
    s.closing.isOf scope = decide (s.id = scope) :=
  s.isOf_event "close" (by simp) scope

/-! What the records of a scope tell. -/

/-- What happened to a scope, the oldest call first. -/
structure Past where
  /-- Calls that registered a block. -/
  registered : List String := []
  /-- Calls that failed, with the sizes that they asked for. -/
  refused : List (String × Nat) := []
  closed : Bool := false
deriving DecidableEq

/-- The records of a scope tell its past, and how much it owns while it is open. -/
structure Told (scope : Nat) (records : List Event) (owned? : Option Nat) (past : Past) : Prop where
  registered : (registrations scope records).map Event.name = past.registered
  live : ∀ place record, (registrations scope records)[place]? = some record →
    record.details = "scope=" ++ toString scope ++ (" live=" ++ toString (place + 1))
  owned : ∀ owned ∈ owned?, past.registered.length = owned ∧ past.closed = false
  refused : refusals scope records =
    past.refused.map fun call => ({ id := scope } : Scope).refusal call.1 call.2
  closed : closings scope records =
    if past.closed then
      [({ id := scope } : Scope).event "close"
        (" released=" ++ toString past.registered.length)]
    else []

namespace Told

variable {scope : Nat} {records : List Event} {owned? : Option Nat} {past : Past} {s : Scope}

theorem start (scope : Nat) : Told scope [] none {} :=
  ⟨rfl, nofun, nofun, rfl, rfl⟩

/-- Records of no interest change nothing. -/
theorem append (told : Told scope records owned? past) {more : List Event}
    (registers : registrations scope more = []) (refuses : refusals scope more = [])
    (closes : closings scope more = []) : Told scope (records ++ more) owned? past := by
  refine ⟨?_, ?_, told.owned, ?_, ?_⟩
  · rw [registrations_append, registers, List.append_nil]
    exact told.registered
  · rw [registrations_append, registers, List.append_nil]
    exact told.live
  · rw [refusals_append, refuses, List.append_nil]
    exact told.refused
  · rw [closings_append, closes, List.append_nil]
    exact told.closed

theorem apart (told : Told scope records owned? past) {more : List Event}
    (others : ∀ record ∈ more, record.isOf scope = false) :
    Told scope (records ++ more) owned? past := by
  refine told.append ?_ ?_ ?_ <;>
  · refine List.filter_eq_nil_iff.mpr fun record listed => ?_
    simp [others record listed]

/-- Before its opening a scope has no past. -/
theorem opens (told : Told scope records none {}) :
    Told scope (records ++ [({ id := scope } : Scope).event "open"]) (some 0) {} := by
  have quiet : Told scope records (some 0) {} := by
    refine ⟨told.registered, told.live, fun owned owns => ?_, told.refused, told.closed⟩
    obtain rfl := Option.some.inj owns
    exact ⟨rfl, rfl⟩
  refine quiet.append ?_ ?_ ?_
  · simp [registrations, event]
  · simp [refusals, event]
  · simp [closings, event]

theorem registers (told : Told s.id records (some s.owned.length) past) {call : String}
    (registers : call ∈ ["alloc", "alloc_zeroed", "register"]) (block : BlockId)
    (size : Option Nat) :
    Told s.id (records ++ [s.registration call block size]) (some (s.owned.length + 1))
      { past with registered := past.registered ++ [call] } := by
  obtain ⟨length, unclosed⟩ := told.owned _ rfl
  have many : (registrations s.id records).length = s.owned.length := by
    rw [← length, ← told.registered, List.length_map]
  have opens : call ≠ "close" := fun closes => absurd (closes ▸ registers) (by decide)
  have one : registrations s.id [s.registration call block size] =
      [s.registration call block size] := by
    refine List.filter_eq_self.mpr (List.forall_mem_singleton.mpr ?_)
    simp only [isOf_registration, Bool.and_eq_true, decide_true, List.contains_iff_mem]
    exact ⟨trivial, rfl, registers⟩
  have refuses : refusals s.id [s.registration call block size] = [] :=
    List.filter_eq_nil_iff.mpr (by simp [registration, event])
  have closes : closings s.id [s.registration call block size] = [] :=
    List.filter_eq_nil_iff.mpr (by simp [registration, event, opens])
  refine ⟨?_, ?_, ?_, ?_, ?_⟩
  · rw [registrations_append, one, List.map_append, told.registered]
    rfl
  · intro place record found
    rw [registrations_append, one, List.getElem?_append] at found
    split at found
    · exact told.live place record found
    · rename_i behind
      rw [List.getElem?_singleton] at found
      split at found
      · have latest : place = s.owned.length := by omega
        obtain rfl := Option.some.inj found
        rw [latest]
        rfl
      · cases found
  · rintro owned ⟨⟩
    rw [List.length_append, length]
    exact ⟨rfl, unclosed⟩
  · rw [refusals_append, refuses, List.append_nil]
    exact told.refused
  · rw [closings_append, closes, List.append_nil, told.closed, unclosed]
    rfl

theorem refuses (told : Told s.id records owned? past) {call : String} (opens : call ≠ "close")
    (size : Nat) :
    Told s.id (records ++ [s.refusal call size]) owned?
      { past with refused := past.refused ++ [(call, size)] } := by
  have registers : registrations s.id [s.refusal call size] = [] :=
    List.filter_eq_nil_iff.mpr (by simp [refusal, event])
  have one : refusals s.id [s.refusal call size] = [s.refusal call size] := by
    refine List.filter_eq_self.mpr (List.forall_mem_singleton.mpr ?_)
    simp only [isOf_refusal, decide_true, Bool.true_and]
    rfl
  have closes : closings s.id [s.refusal call size] = [] :=
    List.filter_eq_nil_iff.mpr (by simp [refusal, event, opens])
  refine ⟨?_, ?_, told.owned, ?_, ?_⟩
  · rw [registrations_append, registers, List.append_nil]
    exact told.registered
  · rw [registrations_append, registers, List.append_nil]
    exact told.live
  · rw [refusals_append, one, told.refused, List.map_append]
    rfl
  · rw [closings_append, closes, List.append_nil]
    exact told.closed

theorem closes (told : Told s.id records (some s.owned.length) past) :
    Told s.id (records ++ [s.closing]) none { past with closed := true } := by
  obtain ⟨length, unclosed⟩ := told.owned _ rfl
  have registers : registrations s.id [s.closing] = [] :=
    List.filter_eq_nil_iff.mpr (by simp [closing, event])
  have refuses : refusals s.id [s.closing] = [] :=
    List.filter_eq_nil_iff.mpr (by simp [closing, event])
  have one : closings s.id [s.closing] = [s.closing] := by
    refine List.filter_eq_self.mpr (List.forall_mem_singleton.mpr ?_)
    simp only [isOf_closing, decide_true, Bool.true_and]
    rfl
  refine ⟨?_, ?_, nofun, ?_, ?_⟩
  · rw [registrations_append, registers, List.append_nil]
    exact told.registered
  · rw [registrations_append, registers, List.append_nil]
    exact told.live
  · rw [refusals_append, refuses, List.append_nil]
    exact told.refused
  · rw [closings_append, one, told.closed, unclosed, length]
    rfl

end Told

end Scope

end Underlay
