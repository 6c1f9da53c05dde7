import Underlay.Conformance.Verdict
import Underlay.Proofs.Text.Lines

/-!
# What a difference shows

A difference has a hunk for each line at which two texts differ, where a text that has ended counts
as empty lines. So it shows a hunk exactly if the texts differ in more than how their lines end: of
two texts that differ in that alone it shows nothing but its two header lines.
-/

namespace Underlay.Conformance

/-- The text of a hunk for the line `number`. -/
def hunkText (number : Nat) (expected actual : String) : String :=
  "@@ line " ++ toString number ++ " @@\n-" ++ expected ++ "\n+" ++ actual ++ "\n"

/-- Behind two header lines a text has a hunk for a line, which is counted from one. -/
def ShowsHunk (text : String) : Prop :=
  ∃ (line : Nat) (expected actual rest : String), expected ≠ actual ∧
    text = "--- expected\n+++ actual\n" ++ (hunkText (line + 1) expected actual ++ rest)

section Hunks

/-- Each line has a hunk of its own or none. -/
theorem hunks_eq (number : Nat) (expected actual : List String) :
    hunks number expected actual =
      (List.range (max expected.length actual.length)).flatMap fun i =>
        hunks.hunk (number + i) (expected.getD i "") (actual.getD i "") := by
  have further (n number : Nat) (hunk : Nat → Nat → List String) :
      (List.range (n + 1)).flatMap (fun i => hunk (number + i) i) =
        hunk number 0 ++ (List.range n).flatMap fun i => hunk (number + 1 + i) (i + 1) := by
    simp only [List.range_succ_eq_map, List.flatMap_cons, List.flatMap_map, Nat.add_zero,
      Nat.add_right_comm number 1, Nat.add_assoc]
  fun_induction hunks number expected actual with
  | case1 => rfl
  | case2 number expected rest inductionHypothesis =>
      rw [inductionHypothesis, List.length_nil, Nat.max_zero, Nat.max_zero]
      exact (further _ number fun number i =>
        hunks.hunk number ((expected :: rest).getD i "") "").symm
  | case3 number actual rest inductionHypothesis =>
      rw [inductionHypothesis, List.length_nil, Nat.zero_max, Nat.zero_max]
      exact (further _ number fun number i =>
        hunks.hunk number "" ((actual :: rest).getD i "")).symm
  | case4 number expected rest actual rest' inductionHypothesis =>
      rw [inductionHypothesis, List.length_cons, List.length_cons, Nat.add_max_add_right]
      exact (further _ number fun number i =>
        hunks.hunk number ((expected :: rest).getD i "") ((actual :: rest').getD i "")).symm

/-- There are no hunks exactly if no line differs. -/
theorem hunks_eq_nil_iff (number : Nat) (expected actual : List String) :
    hunks number expected actual = [] ↔ ∀ i, expected.getD i "" = actual.getD i "" := by
  rw [hunks_eq, List.flatMap_eq_nil_iff]
  constructor
  · intro none i
    by_cases inside : i < max expected.length actual.length
    · by_contra different
      have hunk := none i (List.mem_range.mpr inside)
      rw [hunks.hunk, if_neg different] at hunk
      cases hunk
    · rw [List.getD_eq_default _ _ (by omega), List.getD_eq_default _ _ (by omega)]
  · intro same i _
    exact if_pos (same i)

theorem mem_hunks {number : Nat} {expected actual : List String} {text : String}
    (there : text ∈ hunks number expected actual) :
    ∃ i, expected.getD i "" ≠ actual.getD i "" ∧
      text = hunkText (number + i) (expected.getD i "") (actual.getD i "") := by
  rw [hunks_eq, List.mem_flatMap] at there
  obtain ⟨i, -, there⟩ := there
  rw [hunks.hunk] at there
  split at there
  · cases there
  · rename_i different
    exact ⟨i, different, List.mem_singleton.mp there⟩

end Hunks

theorem difference_of_ne {expected actual : String} (different : expected ≠ actual) :
    difference expected actual = "--- expected\n+++ actual\n" ++
      String.join (hunks 1 (Text.splitLines expected) (Text.splitLines actual)) :=
  if_neg different

theorem difference_eq_identical_iff (expected actual : String) :
    difference expected actual = "[identical]" ↔ expected = actual := by
  constructor
  · intro identical
    by_contra different
    rw [difference_of_ne different] at identical
    have front := congrArg (fun text => text.toList.head?) identical
    simp at front
  · exact fun same => if_pos same

/-- Different texts have a hunk in their difference exactly if they differ in more than how their
lines end. -/
theorem showsHunk_difference_iff {expected actual : String} (different : expected ≠ actual) :
    ShowsHunk (difference expected actual) ↔ Text.visible expected ≠ Text.visible actual := by
  rw [difference_of_ne different, ne_eq, Text.visible_eq_iff, ← hunks_eq_nil_iff 1]
  constructor
  · rintro ⟨line, _, _, rest, -, shown⟩ none
    rw [none] at shown
    have empty := congrArg String.length shown
    simp [hunkText] at empty
  · intro some
    obtain ⟨hunk, more, listed⟩ := List.exists_cons_of_ne_nil some
    obtain ⟨i, apart, text⟩ := mem_hunks (listed ▸ List.mem_cons_self)
    rw [listed, String.join_cons, text, Nat.add_comm 1 i]
    exact ⟨i, _, _, _, apart, rfl⟩

theorem difference_of_failed {c : Case} {family : String} {result : Except Refusal String}
    (failed : (c.judge family result).passed = false) :
    c.expected ≠ given result ∧
      (c.judge family result).difference = some (difference c.expected (given result)) := by
  have different : (given result == c.expected) = false := failed
  refine ⟨fun same => ne_of_beq_false different same.symm, ?_⟩
  rw [Case.judge, different]
  rfl

/-- The difference of two texts says that they are identical exactly if they are. Otherwise it shows
a hunk behind its header exactly if the texts differ in more than how line breaks are written and in
line breaks at the end. A verdict that is not passed carries the difference of two texts that are not
the same, which shows a hunk under just this condition. -/
theorem showsHunk_of_failed (expected actual : String) :
    (difference expected actual = "[identical]" ↔ expected = actual) ∧
      (expected ≠ actual → (ShowsHunk (difference expected actual) ↔
        Text.visible expected ≠ Text.visible actual)) ∧
      ∀ (c : Case) (family : String) (s : Session),
        let v := (c.verify family s).1
        v.passed = false → ∃ d, v.difference = some d ∧ d ≠ "[identical]" ∧
          (ShowsHunk d ↔ Text.visible v.expected ≠ Text.visible v.actual) := by
  refine ⟨difference_eq_identical_iff expected actual, showsHunk_difference_iff, ?_⟩
  intro c family s v failed
  obtain ⟨different, carried⟩ := difference_of_failed failed
  exact ⟨_, carried, fun identical => different ((difference_eq_identical_iff _ _).mp identical),
    showsHunk_difference_iff different⟩

/-- Texts whose lines end in different ways, the second of which is not the same, and a verdict on
an operation that there is not. -/
theorem showsHunk_of_failed_second_line :
    let expected := "a\r\nb\n"
    let actual := "a\nc"
    let c : Case := { name := "sum", function := "sum", inputs := .null, expected }
    let v := (c.verify "index" {}).1
    expected ≠ actual ∧ Text.visible expected ≠ Text.visible actual ∧
      ShowsHunk (difference expected actual) ∧
      v.passed = false ∧ ∃ d, v.difference = some d ∧ ShowsHunk d := by
  intro expected actual c v
  have different : expected ≠ actual := by decide
  have seen : Text.visible expected ≠ Text.visible actual := by decide +kernel
  have failed : v.passed = false := by decide +kernel
  have apart : Text.visible v.expected ≠ Text.visible v.actual := by decide +kernel
  obtain ⟨-, shows, carries⟩ := showsHunk_of_failed expected actual
  obtain ⟨d, carried, -, shows'⟩ := carries c "index" {} failed
  exact ⟨different, seen, (shows different).mpr seen, failed, d, carried, shows'.mpr apart⟩

/-- Of a text and the same text with a line break behind it the difference shows nothing. -/
theorem not_showsHunk_of_ne :
    ¬ ∀ expected actual : String,
      (difference expected actual = "[identical]" ↔ expected = actual) ∧
        (expected ≠ actual → ShowsHunk (difference expected actual)) := by
  intro claimed
  have different : "a\n" ≠ "a" := by decide
  have same : Text.visible "a\n" = Text.visible "a" := by decide +kernel
  exact (showsHunk_difference_iff different).mp ((claimed "a\n" "a").2 different) same

end Underlay.Conformance
