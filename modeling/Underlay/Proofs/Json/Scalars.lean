import Mathlib.Data.List.Basic
import Mathlib.Tactic.IntervalCases
import Underlay.Json.Reader

/-!
# Strings and numerals are read as they were written

A character is written as itself or as an escape, and either way it is what comes next when the
string is read. The digits of an integer are absorbed to the last one, as long as a word holds it,
and reading stops behind them if what follows does not continue a numeral.
-/

namespace Underlay.Json.Reader

/-! Strings -/

theorem stringFrom_of_plain {c : Char} (quote : c ≠ '"') (backslash : c ≠ '\\')
    (printable : ¬ c.toNat < 0x20) (read rest : List Char) :
    stringFrom read (c :: rest) = stringFrom (c :: read) rest := by
  rw [stringFrom.eq_def]
  split <;> simp_all

theorem stringFrom_of_escaped {read text behind : List Char} {c : Char}
    {shorter : behind.length < text.length} (back : escaped text = .ok ⟨(c, behind), shorter⟩) :
    stringFrom read ('\\' :: text) = stringFrom (c :: read) behind := by
  rw [stringFrom.eq_def]
  simp only [back]

theorem hex4_toDigits {n : Nat} (control : n < 0x20) (rest : List Char) :
    ∃ shorter, hex4 (List.replicate (4 - (Nat.toDigits 16 n).length) '0' ++ Nat.toDigits 16 n ++
      rest) = .ok ⟨(n, rest), shorter⟩ := by
  interval_cases n <;> exact ⟨_, rfl⟩

/-- The escape of a control character by its number. -/
theorem escaped_toDigits {n : Nat} (control : n < 0x20) (rest : List Char) :
    ∃ shorter, escaped ('u' :: (List.replicate (4 - (Nat.toDigits 16 n).length) '0' ++
      Nat.toDigits 16 n ++ rest)) = .ok ⟨(Char.ofNat n, rest), shorter⟩ := by
  obtain ⟨shorter, read⟩ := hex4_toDigits control rest
  have whole : n < 0xD800 ∨ 0xDFFF < n := .inl (by omega)
  simp only [escaped, read, whole, if_true]
  exact ⟨Nat.lt_succ_of_lt shorter, trivial⟩

theorem stringFrom_escapeChar (c : Char) (read rest : List Char) :
    stringFrom read (escapeChar c ++ rest) = stringFrom (c :: read) rest := by
  unfold escapeChar
  split
  case h_8 c quote backslash _ _ _ _ _ =>
    split
    · rename_i control
      obtain ⟨shorter, back⟩ := escaped_toDigits control rest
      rw [Char.ofNat_toNat] at back
      simpa using stringFrom_of_escaped back
    · rename_i printable
      exact stringFrom_of_plain quote backslash printable read rest
  all_goals exact stringFrom_of_escaped rfl

/-- A string is read back from its text, whatever follows. -/
theorem stringFrom_flatMap (text read rest : List Char) :
    stringFrom read (text.flatMap escapeChar ++ '"' :: rest) =
      .ok (String.ofList (read.reverse ++ text), rest) := by
  induction text generalizing read with
  | nil =>
      rw [stringFrom.eq_def]
      simp
  | cons c text inductionHypothesis =>
      rw [List.flatMap_cons, List.append_assoc, stringFrom_escapeChar, inductionHypothesis]
      simp

/-! Numerals -/

/-- A text does not go on with a numeral. -/
def Stops (rest : List Char) : Prop :=
  ∀ c ∈ rest.head?, Text.isDigit c = false ∧ c ≠ '.' ∧ c ≠ 'e' ∧ c ≠ 'E'

theorem stops_nil : Stops [] := by
  intro c first
  cases first

theorem stops_cons {c : Char} {rest : List Char}
    (plain : Text.isDigit c = false ∧ c ≠ '.' ∧ c ≠ 'e' ∧ c ≠ 'E') : Stops (c :: rest) := by
  rintro d ⟨⟩
  exact plain

theorem le_number (acc : Nat) (digits : List Char) : acc ≤ Text.number acc digits := by
  induction digits generalizing acc with
  | nil => exact Nat.le_refl acc
  | cons c digits inductionHypothesis =>
      have further := inductionHypothesis (10 * acc + Text.digitValue c)
      rw [Text.number, List.foldl_cons, ← Text.number]
      omega

theorem absorb_eq {digits : List Char} {acc : Nat} (fits : Text.number acc digits < Word.limit) :
    absorb acc digits = (Text.number acc digits, []) := by
  induction digits generalizing acc with
  | nil => rfl
  | cons c digits inductionHypothesis =>
      rw [Text.number, List.foldl_cons, ← Text.number] at fits ⊢
      have next := le_number (10 * acc + Text.digitValue c) digits
      rw [absorb, Nat.mul_comm acc 10, if_pos (by omega)]
      exact inductionHypothesis fits

theorem number_toDigits (n : Nat) : Text.number 0 (Nat.toDigits 10 n) = n :=
  Nat.ofDigitChars_ten_toDigits

theorem isDigit_of_mem_toDigits {n : Nat} {c : Char} (digit : c ∈ Nat.toDigits 10 n) :
    Text.isDigit c = true := by
  have digit := Nat.isDigit_of_mem_toDigits (by decide) (by decide) digit
  simpa [Text.isDigit, Char.isDigit, Char.le_def] using digit

theorem span_digits {digits rest : List Char} (all : ∀ c ∈ digits, Text.isDigit c = true)
    (stops : Stops rest) :
    (digits ++ rest).takeWhile Text.isDigit = digits ∧
      (digits ++ rest).dropWhile Text.isDigit = rest := by
  rw [List.takeWhile_append_of_pos all, List.dropWhile_append_of_pos all]
  cases rest with
  | nil => simp
  | cons c rest =>
      have behind := (stops c rfl).1
      simp [behind]

/-- Only zero begins with the digit zero. -/
theorem eq_zero_of_head?_toDigits {n : Nat} (zero : (Nat.toDigits 10 n).head? = some '0') :
    n = 0 := by
  induction n using Nat.strongRecOn with
  | ind n inductionHypothesis =>
      by_cases small : n < 10
      · rw [Nat.toDigits_of_lt_base small] at zero
        interval_cases n
        · rfl
        all_goals cases zero
      · rw [Nat.toDigits_of_base_le (by decide) (Nat.le_of_not_lt small),
          List.head?_append_of_ne_nil _ Nat.toDigits_ne_nil] at zero
        have front := inductionHypothesis (n / 10) (by omega) zero
        omega

theorem absorb_toDigits {n : Nat} (fits : n < Word.limit) :
    absorb 0 (Nat.toDigits 10 n) = (n, []) := by
  have whole : Text.number 0 (Nat.toDigits 10 n) < Word.limit := by rwa [number_toDigits]
  rw [absorb_eq whole, number_toDigits]

theorem span_toDigits (n : Nat) {rest : List Char} (stops : Stops rest) :
    (Nat.toDigits 10 n ++ rest).takeWhile Text.isDigit = Nat.toDigits 10 n ∧
      (Nat.toDigits 10 n ++ rest).dropWhile Text.isDigit = rest :=
  span_digits (fun _ => isDigit_of_mem_toDigits) stops

/-- Digits are followed by a digit only if the first one is not zero. -/
theorem leadingZero_toDigits {n : Nat} {first : Char} {others rest : List Char}
    (listed : Nat.toDigits 10 n = first :: others) (stops : Stops rest) :
    (first == '0' && ((others ++ rest).head?.map Text.isDigit).getD false) = false := by
  by_cases zero : first = '0'
  · obtain rfl : n = 0 := eq_zero_of_head?_toDigits (by rw [listed, zero]; rfl)
    obtain ⟨-, rfl⟩ := List.cons.inj (listed.symm.trans (Nat.toDigits_zero 10))
    cases rest with
    | nil => simp
    | cons c rest => simp [(stops c rfl).1]
  · simp [zero]

/-- What reading makes of the digits of a number that a word holds. -/
theorem numeral_toDigits {n : Nat} (fits : n < Word.limit) {rest : List Char} (stops : Stops rest)
    (negative : Bool) :
    numeral negative (Nat.toDigits 10 n ++ rest) =
      if !negative then .ok (.integer n, rest)
      else if 0 < n ∧ Word.least ≤ -(n : Int) then .ok (.integer (-n), rest)
      else scaled true n 0 rest := by
  obtain ⟨taken, dropped⟩ := span_toDigits n stops
  have absorbed := absorb_toDigits fits
  cases listed : Nat.toDigits 10 n with
  | nil => exact absurd listed Nat.toDigits_ne_nil
  | cons first others =>
      have digit : Text.isDigit first = true :=
        isDigit_of_mem_toDigits (listed ▸ List.mem_cons_self)
      have leading := leadingZero_toDigits listed stops
      rw [listed] at taken dropped absorbed
      rw [List.cons_append] at taken dropped ⊢
      simp only [numeral, digit, leading, taken, dropped, absorbed, Bool.not_true, Bool.or_self,
        Bool.false_eq_true, if_false]
      split
      · rename_i more
        exact absurd rfl (stops '.' rfl).2.1
      · rename_i more
        exact absurd rfl (stops 'e' rfl).2.2.1
      · rename_i more
        exact absurd rfl (stops 'E' rfl).2.2.2
      · rfl

end Underlay.Json.Reader
