import Mathlib.Data.List.DropRight
import Mathlib.Data.List.GetD
import Underlay.Text.Lines

/-!
# What the lines of a text show

Lines do not tell how they ended. Two texts have the same lines, if a text that has ended counts as
empty lines, exactly if they are the same but for how line breaks are written and for line breaks at
the end.
-/

namespace Underlay.Text

/-- A text with every line break written in one way. -/
def unified : List Char → List Char
  | [] => []
  | '\r' :: '\n' :: rest => '\n' :: unified rest
  | c :: rest => c :: unified rest

/-- What lines show of a text: its characters, with line breaks written in one way and none of them
at the end. -/
def visible (text : String) : List Char :=
  (unified text.toList).rdropWhile (· == '\n')

section Trailing

variable {α : Type}

theorem rdropWhile_cons (p : α → Bool) (a : α) (l : List α) :
    (a :: l).rdropWhile p =
      if l.rdropWhile p = [] ∧ p a = true then [] else a :: l.rdropWhile p := by
  induction l using List.reverseRecOn with
  | nil => simp [List.rdropWhile_singleton]
  | append_singleton l last inductionHypothesis =>
      rw [← List.cons_append, List.rdropWhile_concat, List.rdropWhile_concat]
      split
      · exact inductionHypothesis
      · simp

variable [BEq α] [LawfulBEq α] (d : α)

theorem rdropWhile_eq_nil_iff_getD (l : List α) :
    l.rdropWhile (· == d) = [] ↔ ∀ i, l.getD i d = d := by
  rw [List.rdropWhile_eq_nil_iff]
  constructor
  · intro all i
    rw [List.getD_eq_getElem?_getD]
    cases found : l[i]? with
    | none => rfl
    | some a => exact beq_iff_eq.mp (all a (List.mem_of_getElem? found))
  · intro all a there
    obtain ⟨i, inside, rfl⟩ := List.getElem_of_mem there
    have filled := all i
    rw [List.getD_eq_getElem _ _ inside] at filled
    exact beq_iff_eq.mpr filled

/-- Lists are the same but for what is dropped at their ends exactly if they are filled up to the
same. -/
theorem rdropWhile_eq_iff_getD (l l' : List α) :
    l.rdropWhile (· == d) = l'.rdropWhile (· == d) ↔ ∀ i, l.getD i d = l'.getD i d := by
  induction l generalizing l' with
  | nil =>
      rw [List.rdropWhile_nil, eq_comm, rdropWhile_eq_nil_iff_getD]
      simp [eq_comm]
  | cons a l inductionHypothesis =>
      cases l' with
      | nil =>
          rw [List.rdropWhile_nil, rdropWhile_eq_nil_iff_getD]
          simp
      | cons a' l' =>
          have filled : (∀ i, (a :: l).getD i d = (a' :: l').getD i d) ↔
              a = a' ∧ ∀ i, l.getD i d = l'.getD i d :=
            ⟨fun all => ⟨all 0, fun i => all (i + 1)⟩, fun ⟨first, others⟩ i => by
              cases i with
              | zero => exact first
              | succ i => exact others i⟩
          rw [filled, ← inductionHypothesis, rdropWhile_cons, rdropWhile_cons]
          generalize l.rdropWhile (· == d) = kept, l'.rdropWhile (· == d) = kept'
          grind

end Trailing

theorem newline_notMem_lines (text : List Char) : ∀ line ∈ lines text, '\n' ∉ line := by
  fun_induction lines text with
  | case1 => simp
  | case2 rest inductionHypothesis => simpa using inductionHypothesis
  | case3 rest inductionHypothesis => simpa using inductionHypothesis
  | case4 c rest other _ ended _ => simpa using Ne.symm other
  | case5 c rest other _ line more listed inductionHypothesis =>
      rw [listed, List.forall_mem_cons] at inductionHypothesis
      rw [List.forall_mem_cons, List.mem_cons, not_or]
      exact ⟨⟨Ne.symm other, inductionHypothesis.1⟩, inductionHypothesis.2⟩

/-- Lines of which the last is not empty are told by the text that joins them. -/
theorem intercalate_inj {ls ls' : List (List Char)} (broken : ∀ line ∈ ls, '\n' ∉ line)
    (broken' : ∀ line ∈ ls', '\n' ∉ line) (ends : ∀ filled : ls ≠ [], ls.getLast filled ≠ [])
    (ends' : ∀ filled : ls' ≠ [], ls'.getLast filled ≠ []) :
    ['\n'].intercalate ls = ['\n'].intercalate ls' ↔ ls = ls' := by
  refine ⟨fun same => ?_, fun same => same ▸ rfl⟩
  have split := congrArg (List.splitOn '\n') same
  rcases eq_or_ne ls [] with rfl | filled <;> rcases eq_or_ne ls' [] with rfl | filled'
  · rfl
  · rw [List.splitOn_intercalate '\n' broken' filled'] at split
    subst split
    exact absurd rfl (ends' filled')
  · rw [List.splitOn_intercalate '\n' broken filled] at split
    subst split
    exact absurd rfl (ends filled)
  · rwa [List.splitOn_intercalate '\n' broken filled,
      List.splitOn_intercalate '\n' broken' filled'] at split

/-- The lines of a text without the empty ones at its end. -/
def filledLines (text : List Char) : List (List Char) :=
  (lines text).rdropWhile (· == [])

theorem intercalate_filledLines_inj (text text' : List Char) :
    ['\n'].intercalate (filledLines text) = ['\n'].intercalate (filledLines text') ↔
      filledLines text = filledLines text' := by
  have broken (text : List Char) : ∀ line ∈ filledLines text, '\n' ∉ line := fun line there =>
    newline_notMem_lines text line ((List.rdropWhile_prefix _ _).subset there)
  have ends (text : List Char) (filled : filledLines text ≠ []) :
      (filledLines text).getLast filled ≠ [] := fun empty =>
    List.rdropWhile_last_not _ _ filled (beq_iff_eq.mpr empty)
  exact intercalate_inj (broken text) (broken text') (ends text) (ends text')

/-- A character in front of the first line is one in front of all of them. -/
theorem intercalate_char (c : Char) (line : List Char) (more : List (List Char)) :
    ['\n'].intercalate (((c :: line) :: more).rdropWhile (· == [])) =
      c :: ['\n'].intercalate ((line :: more).rdropWhile (· == [])) := by
  have filled : ¬ ((c :: line) == []) = true := by simp
  rw [rdropWhile_cons _ (c :: line), rdropWhile_cons _ line, if_neg fun both => filled both.2]
  split
  · rename_i both
    rw [both.1, beq_iff_eq.mp both.2]
    rfl
  · exact List.intercalate_cons_cons_left

/-- What is visible of a text are its lines without the empty ones at its end. -/
theorem rdropWhile_unified (text : List Char) :
    (unified text).rdropWhile (· == '\n') = ['\n'].intercalate (filledLines text) := by
  -- An empty line in front is a line break, unless only empty lines follow.
  have broken {rest : List Char}
      (joined : (unified rest).rdropWhile (· == '\n') = ['\n'].intercalate (filledLines rest)) :
      ('\n' :: unified rest).rdropWhile (· == '\n') =
        ['\n'].intercalate (([] :: lines rest).rdropWhile (· == [])) := by
    have none_iff := intercalate_filledLines_inj rest []
    rw [rdropWhile_cons, rdropWhile_cons]
    by_cases none : filledLines rest = []
    · rw [none] at joined
      rw [if_pos ⟨joined, rfl⟩, if_pos ⟨none, rfl⟩]
      rfl
    · have some : ¬ (unified rest).rdropWhile (· == '\n') = [] := fun empty =>
        none (none_iff.mp (joined.symm.trans empty))
      have joins : ['\n'].intercalate ([] :: filledLines rest) =
          ['\n'] ++ ['\n'].intercalate (filledLines rest) :=
        List.intercalate_cons_of_ne_nil none
      rw [if_neg fun both => some both.1, if_neg fun both => none both.1, joined]
      exact joins.symm
  fun_induction lines text with
  | case1 => rfl
  | case2 rest inductionHypothesis => exact broken inductionHypothesis
  | case3 rest inductionHypothesis => exact broken inductionHypothesis
  | case4 c rest other carriage ended inductionHypothesis =>
      have first : lines (c :: rest) = [[c]] := by rw [lines, ended] <;> assumption
      have same : unified (c :: rest) = c :: unified rest := by rw [unified]; assumption
      have plain : ¬ (c == '\n') = true := by simpa using other
      rw [filledLines, ended] at inductionHypothesis
      rw [filledLines, first, same, rdropWhile_cons, if_neg fun both => plain both.2,
        inductionHypothesis]
      rfl
  | case5 c rest other carriage line more listed inductionHypothesis =>
      have first : lines (c :: rest) = (c :: line) :: more := by rw [lines, listed] <;> assumption
      have same : unified (c :: rest) = c :: unified rest := by rw [unified]; assumption
      have plain : ¬ (c == '\n') = true := by simpa using other
      rw [filledLines, listed] at inductionHypothesis
      rw [filledLines, first, same, rdropWhile_cons, if_neg fun both => plain both.2,
        inductionHypothesis, intercalate_char]

theorem getD_splitLines (text : String) (i : Nat) :
    (splitLines text).getD i "" = String.ofList ((lines text.toList).getD i []) :=
  List.getD_map _ _ String.ofList

/-- Two texts show the same exactly if they have the same lines, where a text that has ended counts
as empty lines. -/
theorem visible_eq_iff (text text' : String) :
    visible text = visible text' ↔
      ∀ i, (splitLines text).getD i "" = (splitLines text').getD i "" := by
  simp only [getD_splitLines, String.ofList_inj]
  rw [visible, visible, rdropWhile_unified, rdropWhile_unified, intercalate_filledLines_inj,
    filledLines, filledLines, rdropWhile_eq_iff_getD]

end Underlay.Text
