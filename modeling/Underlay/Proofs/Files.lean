import Mathlib.Data.List.Basic
import Underlay.Files

/-!
# A file that was written can be written again

Writing a file takes no directory away and leads no path elsewhere, so what was written once can be
written again under the same path.
-/

namespace Underlay

namespace Files

variable {files : Files} {place : List String}

theorem isDirectoryAt_iff {other : List String} :
    files.isDirectoryAt other = true ↔ other = [] ∨ ∃ entry ∈ files.entries,
      (entry.1 = other ∧ entry.2 = none) ∨ (other <+: entry.1 ∧ other.length < entry.1.length) := by
  simp [isDirectoryAt]

/-- A file in place of a file takes no directory away. -/
theorem isDirectoryAt_set (isFile : files.isDirectoryAt place = false) (content : String)
    {other : List String} (directory : files.isDirectoryAt other = true) :
    (files.set place (some content)).isDirectoryAt other = true := by
  have apart : other ≠ place := by
    rintro rfl
    exact Bool.noConfusion (isFile.symm.trans directory)
  refine isDirectoryAt_iff.mpr ((isDirectoryAt_iff.mp directory).imp_right ?_)
  rintro ⟨entry, there, makes⟩
  by_cases same : entry.1 = place
  · -- The entry that is replaced names the place, and so does the new one.
    refine ⟨(place, some content), by simp [set], makes.imp ?_ fun way => same ▸ way⟩
    exact fun itself => absurd (itself.1.symm.trans same) apart
  · exact ⟨entry, by simp [set, there, same], makes⟩

theorem isDirectoryAt_set_self (isFile : files.isDirectoryAt place = false) (content : String) :
    (files.set place (some content)).isDirectoryAt place = false := by
  refine Bool.eq_false_iff.mpr fun directory => Bool.eq_false_iff.mp isFile ?_
  refine isDirectoryAt_iff.mpr ((isDirectoryAt_iff.mp directory).imp_right ?_)
  rintro ⟨entry, there, makes⟩
  rcases List.mem_append.mp there with old | new
  · exact ⟨entry, (List.mem_filter.mp old).1, makes⟩
  · obtain rfl := List.mem_singleton.mp new
    rcases makes with ⟨-, none⟩ | ⟨-, shorter⟩
    · exact nomatch none
    · exact absurd shorter (Nat.lt_irrefl _)

theorem contentAt?_set (content : String) {other : List String}
    (holds : (files.contentAt? other).isSome) :
    ((files.set place (some content)).contentAt? other).isSome := by
  by_cases same : other = place
  · subst same
    have gone : (files.entries.filter fun entry => entry.1 != other).find?
        (fun entry => entry.1 == other) = none := by
      simp [List.find?_eq_none]
    simp [contentAt?, set, List.find?_append, gone]
  · have kept : (files.entries.filter fun entry => entry.1 != place).find?
        (fun entry => entry.1 == other) = files.entries.find? fun entry => entry.1 == other := by
      rw [List.find?_filter]
      congr 1
      funext entry
      by_cases here : entry.1 = other
      · simp [here, same]
      · simp [here]
    obtain ⟨found, first⟩ := Option.isSome_iff_exists.mp holds
    obtain ⟨entry, first, text⟩ := Option.bind_eq_some_iff.mp first
    simp [contentAt?, set, List.find?_append, kept, first, text]

theorem walk_set (isFile : files.isDirectoryAt place = false) (content : String)
    {start stop : List String} {names : List String} (leads : files.walk start names = some stop) :
    (files.set place (some content)).walk start names = some stop := by
  induction names generalizing start with
  | nil => exact leads
  | cons name rest inductionHypothesis =>
      by_cases up : name = ".."
      · subst up
        exact inductionHypothesis leads
      · rw [walk.eq_3 _ _ _ _ up] at leads ⊢
        by_cases goes : (files.isDirectoryAt (start ++ [name]) ||
            (rest.isEmpty && (files.contentAt? (start ++ [name])).isSome)) = true
        · have still : ((files.set place (some content)).isDirectoryAt (start ++ [name]) ||
              (rest.isEmpty &&
                ((files.set place (some content)).contentAt? (start ++ [name])).isSome)) := by
            simp only [Bool.or_eq_true, Bool.and_eq_true] at goes ⊢
            exact goes.imp (isDirectoryAt_set isFile content)
              (And.imp_right (contentAt?_set content))
          rw [if_pos goes] at leads
          rw [if_pos still]
          exact inductionHypothesis leads
        · rw [if_neg goes] at leads
          exact nomatch leads

theorem write?_eq_some_iff {path content : String} {written : Files} :
    files.write? path content = some written ↔ namesDirectory path = false ∧
      ∃ name parent, (names path).getLast? = some name ∧
        files.walk [] (names path).dropLast = some parent ∧
        files.isDirectoryAt (parent ++ [name]) = false ∧ files.isDirectoryAt parent = true ∧
        files.set (parent ++ [name]) (some content) = written := by
  simp [write?, guard, Option.bind_eq_some_iff, and_assoc]

/-- What was written under a path can be replaced under it. -/
theorem exists_write?_again {written : Files} {path content : String}
    (once : files.write? path content = some written) (more : String) :
    ∃ kept, written.write? path more = some kept := by
  obtain ⟨file, name, parent, last, leads, isFile, lies, rfl⟩ := write?_eq_some_iff.mp once
  exact ⟨_, write?_eq_some_iff.mpr ⟨file, name, parent, last, walk_set isFile content leads,
    isDirectoryAt_set_self isFile content, isDirectoryAt_set isFile content lies, rfl⟩⟩

end Files

end Underlay
