import Underlay.Conformance.Emitter
import Underlay.Text.Utf8

/-!
# Correlation texts are told apart

A correlation text ends in a number behind two colons. No colon stands in a number, so the text
tells where the number begins, and with it both the number and what stands in front. Texts of a run
differ from each other by their numbers, and so do those of lifecycle records; the two sorts differ
in front, unless the run has a name that begins like theirs.
-/

namespace Underlay

/-- The digits of a number with zeros in front. -/
def padded (base width n : Nat) : List Char :=
  List.replicate (width - (Nat.toDigits base n).length) '0' ++ Nat.toDigits base n

/-- The number that digits denote. -/
def denoted (base acc : Nat) (digits : List Char) : Nat :=
  digits.foldl (fun n c => base * n + (Text.hexValue? c).getD 0) acc

theorem denoted_append (base acc : Nat) (digits more : List Char) :
    denoted base acc (digits ++ more) = denoted base (denoted base acc digits) more :=
  List.foldl_append

theorem hexValue?_digitChar {d : Nat} (digit : d < 16) :
    Text.hexValue? d.digitChar = some d ∧ d.digitChar ≠ ':' := by
  revert digit d
  decide

theorem denoted_toDigits {base : Nat} (more : 1 < base) (few : base ≤ 16) (n : Nat) :
    denoted base 0 (Nat.toDigits base n) = n ∧ ':' ∉ Nat.toDigits base n := by
  induction n using Nat.strongRecOn with
  | ind n inductionHypothesis =>
      by_cases small : n < base
      · obtain ⟨value, colon⟩ := hexValue?_digitChar (Nat.lt_of_lt_of_le small few)
        rw [Nat.toDigits_of_lt_base small]
        simp [denoted, value, Ne.symm colon]
      · have large : base ≤ n := Nat.le_of_not_lt small
        have last : n % base < 16 := Nat.lt_of_lt_of_le (Nat.mod_lt n (by omega)) few
        obtain ⟨value, colon⟩ := hexValue?_digitChar last
        obtain ⟨front, noColon⟩ := inductionHypothesis (n / base)
          (Nat.div_lt_self (by omega) more)
        rw [Nat.toDigits_of_base_le more large]
        rw [denoted_append, front]
        simp [denoted, value, noColon, Ne.symm colon, Nat.div_add_mod]

theorem denoted_zeros (base count : Nat) : denoted base 0 (List.replicate count '0') = 0 := by
  induction count with
  | zero => rfl
  | succ count inductionHypothesis => exact inductionHypothesis

theorem denoted_padded {base : Nat} (more : 1 < base) (few : base ≤ 16) (width n : Nat) :
    denoted base 0 (padded base width n) = n := by
  rw [padded, denoted_append, denoted_zeros, (denoted_toDigits more few n).1]

theorem padded_injective {base : Nat} (more : 1 < base) (few : base ≤ 16) {width n n' : Nat}
    (same : padded base width n = padded base width n') : n = n' := by
  rw [← denoted_padded more few width n, same, denoted_padded more few]

theorem colon_not_mem_padded {base : Nat} (more : 1 < base) (few : base ≤ 16) (width n : Nat) :
    ':' ∉ padded base width n := by
  have digits := (denoted_toDigits more few n).2
  simp [padded, digits]

/-- What stands behind the last colon is told by a text. -/
theorem eq_of_append_colon {front front' back back' : List Char} (none : ':' ∉ back)
    (none' : ':' ∉ back') (same : front ++ ':' :: back = front' ++ ':' :: back') :
    front = front' ∧ back = back' := by
  rcases List.append_eq_append_iff.mp same with ⟨more, rfl, behind⟩ | ⟨more, rfl, behind⟩
  · cases more with
    | nil => exact ⟨(List.append_nil front).symm, (List.cons.inj behind).2⟩
    | cons c more => exact absurd ((List.cons.inj behind).2 ▸ by simp) none
  · cases more with
    | nil => exact ⟨List.append_nil front', (List.cons.inj behind).2.symm⟩
    | cons c more => exact absurd ((List.cons.inj behind).2 ▸ by simp) none'

namespace Conformance

theorem toList_correlation (run : String) (number : Nat) :
    (correlation run number).toList = run.toList ++ [':'] ++ ':' :: padded 10 4 number := by
  simp [correlation, decimal, padded]

theorem toList_trace (r : Lifecycle.Record) :
    r.trace.toList = r.event.stem.toList ++ [':'] ++ ':' :: padded 16 16 r.id := by
  simp [Lifecycle.Record.trace, Lifecycle.hexadecimal, padded]

theorem correlation_injective (run : String) {number number' : Nat}
    (same : correlation run number = correlation run number') : number = number' := by
  have same := congrArg String.toList same
  rw [toList_correlation, toList_correlation] at same
  exact padded_injective (by decide) (by decide) (List.cons.inj (List.append_cancel_left same)).2

theorem id_of_trace_eq {r r' : Lifecycle.Record} (same : r.trace = r'.trace) : r.id = r'.id := by
  have same := congrArg String.toList same
  rw [toList_trace, toList_trace] at same
  have digits := (eq_of_append_colon (colon_not_mem_padded (by decide) (by decide) 16 r.id)
    (colon_not_mem_padded (by decide) (by decide) 16 r'.id) same).2
  exact padded_injective (by decide) (by decide) digits

/-- The correlation text of a run is that of a record only if its name begins like one. -/
theorem stem_of_correlation_eq {run : String} {number : Nat} {r : Lifecycle.Record}
    (same : correlation run number = r.trace) : run = r.event.stem := by
  have same := congrArg String.toList same
  rw [toList_correlation, toList_trace] at same
  have front := (eq_of_append_colon (colon_not_mem_padded (by decide) (by decide) 4 number)
    (colon_not_mem_padded (by decide) (by decide) 16 r.id) same).1
  exact String.toList_injective (List.append_cancel_right front)

end Conformance

end Underlay
