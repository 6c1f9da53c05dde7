import Mathlib.Data.List.Basic
import Underlay.Proofs.Settings.Run

/-!
# What was set is not lost to the environment

However getters and setters interleave, a getter answers with what its last load says. Once a word
has been stored, only another setter changes it: a reader that is still at work finds that its
claim is gone, and publishes nothing. So from then on every answer is what was set last.
-/

namespace Underlay

variable {α : Type}

namespace Cell

variable (c : Cell α)

theorem read_of_ne {word : Nat} (value : word ≠ c.unresolved ∧ word ≠ c.resolving) :
    c.read word = c.meaning word :=
  if_neg (not_or.mpr value)

theorem read_eq (word : Nat) :
    c.read word = c.default ∨
      (word ≠ c.unresolved ∧ word ≠ c.resolving) ∧ c.read word = c.meaning word := by
  by_cases value : word = c.unresolved ∨ word = c.resolving
  · exact .inl (if_pos value)
  · exact .inr ⟨not_or.mp value, if_neg value⟩

namespace Reader

variable {c} {e : Environment} {reader : Reader α} {word : Nat}

/-- Whichever load a reader ends with, it answers what that load means. -/
theorem answer_of_step {answer : α} (under : reader.answer? = none)
    (ended : (reader.step c e word).1 = .done answer) : answer = c.read word := by
  cases reader with
  | start =>
      simp only [step] at ended
      split at ended
      · rename_i resolving
        rw [← Reader.done.inj ended]
        exact (if_pos (.inr resolving)).symm
      · rename_i idle
        split at ended
        · cases ended
        · rename_i resolved
          rw [← Reader.done.inj ended, c.read_of_ne ⟨resolved, idle⟩]
  | claim =>
      simp only [step] at ended
      split at ended <;> cases ended
  | publish => cases ended
  | lost | last => exact (Reader.done.inj ended).symm
  | done _ => cases under

/-- Readers leave a value in its place. -/
theorem word_step_of_ne (reader : Reader α) (e : Environment)
    (value : word ≠ c.unresolved ∧ word ≠ c.resolving) : (reader.step c e word).2 = word := by
  cases reader with
  | start | claim | publish => simp [step, value]
  | lost | last | done _ => rfl

theorem word_step_ne_unresolved (reader : Reader α) (e : Environment)
    (resolved : word ≠ c.unresolved) : (reader.step c e word).2 ≠ c.unresolved := by
  cases reader with
  | start =>
      simp only [step]
      split
      · exact resolved
      · simp [resolved]
  | claim => simp [step, resolved]
  | publish =>
      simp only [step]
      split
      · exact (c.found_ne e).1
      · exact resolved
  | lost | last | done _ => exact resolved

/-- How far a reader has come. -/
def rank : Reader α → Nat
  | start => 0
  | claim => 1
  | lost | publish => 2
  | last => 3
  | done _ => 4

theorem rank_lt_of_under (under : reader.answer? = none) : reader.rank < 4 := by
  cases reader with
  | done _ => cases under
  | start | claim | lost | publish | last => simp [rank]

/-- No step is a step of waiting. -/
theorem rank_step (under : reader.answer? = none) (c : Cell α) (e : Environment) (word : Nat) :
    reader.rank < (reader.step c e word).1.rank := by
  cases reader with
  | start =>
      simp only [step]
      split
      · exact Nat.zero_lt_succ 3
      · split
        · exact Nat.zero_lt_one
        · exact Nat.zero_lt_succ 3
  | claim =>
      simp only [step]
      split <;> exact Nat.lt_add_one 1
  | lost | publish | last => simp [step, rank]
  | done _ => cases under

end Reader

end Cell

namespace Interleaving

open Cell (Reader)

section Steps

variable (c : Cell α)

/-! One step of one getter -/

/-- A getter that has not answered takes a step of its reader. -/
theorem advance_of_under {number : Nat} {cache : Cache α} {getter : Getter α}
    (called : cache.getters[number]? = some getter) (under : getter.reader.answer? = none) :
    advance c number cache =
      (arrival number (getter.reader.step c getter.environment cache.word).1,
        { word := (getter.reader.step c getter.environment cache.word).2
          getters := cache.getters.set number
            { getter with reader := (getter.reader.step c getter.environment cache.word).1 } }) := by
  simp only [advance, called, under, Option.isSome_none, Bool.false_eq_true, if_false]

theorem advance_cases (number : Nat) (cache : Cache α) :
    advance c number cache = (.idle, cache) ∨
      ∃ getter, cache.getters[number]? = some getter ∧ getter.reader.answer? = none := by
  unfold advance
  cases called : cache.getters[number]? with
  | none => exact .inl rfl
  | some getter =>
      dsimp only
      cases answered : getter.reader.answer? with
      | some answer => exact .inl rfl
      | none => exact .inr ⟨getter, rfl, answered⟩

theorem eq_done_of_arrival {number other : Nat} {answer : α} {reader : Reader α}
    (arrived : arrival number reader = .answered other answer) : reader = .done answer := by
  cases reader with
  | done a =>
      cases arrived
      rfl
  | start | claim | lost | publish | last => cases arrived

@[simp]
theorem latest_arrival (number : Nat) (reader : Reader α) (past : List (Event α)) :
    latest (arrival number reader :: past) = latest past := by
  cases reader <;> rfl

theorem answer_of_advance {number other : Nat} {cache : Cache α} {answer : α}
    (answered : (advance c number cache).1 = .answered other answer) :
    answer = c.read cache.word := by
  rcases advance_cases c number cache with idle | ⟨getter, called, under⟩
  · rw [idle] at answered
    cases answered
  · rw [advance_of_under c called under] at answered
    exact Reader.answer_of_step under (eq_done_of_arrival answered)

theorem answer_of_perform {number : Nat} {cache : Cache α} {command : Command α} {answer : α}
    (answered : (perform c cache command).1 = .answered number answer) :
    answer = c.read cache.word := by
  cases command with
  | call environment => cases answered
  | advance other => exact answer_of_advance c answered
  | set a => cases answered

theorem word_perform_ne_unresolved {cache : Cache α} (resolved : cache.word ≠ c.unresolved)
    (command : Command α) : (perform c cache command).2.word ≠ c.unresolved := by
  cases command with
  | call environment => exact resolved
  | advance number =>
      change (advance c number cache).2.word ≠ c.unresolved
      rcases advance_cases c number cache with idle | ⟨getter, called, under⟩
      · rw [idle]
        exact resolved
      · rw [advance_of_under c called under]
        exact Reader.word_step_ne_unresolved _ _ resolved
  | set a => exact (c.word_ne a).1

end Steps

/-! What was set -/

theorem exists_latest {past : List (Event α)} {a : α} (stored : .set a ∈ past) :
    ∃ b, latest past = some b := by
  induction past with
  | nil => cases stored
  | cons event past inductionHypothesis =>
      cases event with
      | set b => exact ⟨b, rfl⟩
      | called _ | advanced _ | answered _ _ | idle =>
          exact inductionHypothesis (by simpa using stored)

/-- The cell holds what was set last, and every answer was what had been set last. -/
structure Tracks (c : Cell α) (run : Run (Cache α) (Event α)) : Prop where
  word (a : α) (set : latest run.history = some a) : run.state.word = c.word a
  answers {recent past : List (Event α)} {number : Nat} {answer a : α}
    (given : run.history = recent ++ .answered number answer :: past)
    (set : latest past = some a) : answer = c.meaning (c.word a)

variable {c : Cell α}

theorem Tracks.read {run : Run (Cache α) (Event α)} (tracks : Tracks c run) {a : α}
    (set : latest run.history = some a) : c.read run.state.word = c.meaning (c.word a) := by
  rw [tracks.word a set]
  exact c.read_of_ne (c.word_ne a)

theorem Tracks.word_perform {run : Run (Cache α) (Event α)} (tracks : Tracks c run)
    (command : Command α) (a : α)
    (set : latest ((perform c run.state command).1 :: run.history) = some a) :
    (perform c run.state command).2.word = c.word a := by
  cases command with
  | call environment => exact tracks.word a set
  | advance number =>
      change (advance c number run.state).2.word = c.word a
      change latest ((advance c number run.state).1 :: run.history) = some a at set
      rcases advance_cases c number run.state with idle | ⟨getter, called, under⟩
      · rw [idle] at set ⊢
        exact tracks.word a set
      · rw [advance_of_under c called under] at set ⊢
        rw [latest_arrival] at set
        have value := c.word_ne a
        rw [← tracks.word a set] at value
        exact (Reader.word_step_of_ne _ _ value).trans (tracks.word a set)
  | set b =>
      obtain rfl := Option.some.inj set
      rfl

theorem Tracks.step {run : Run (Cache α) (Event α)} (tracks : Tracks c run)
    (command : Command α) :
    Tracks c (run.step (fun run => perform c run.state) command) where
  word := tracks.word_perform command
  answers {recent past number answer a} given set := by
    -- Either the answer is the event of this step, or it was given before.
    cases recent with
    | nil =>
        obtain ⟨answered, rfl⟩ := List.cons.inj given
        rw [answer_of_perform c answered]
        exact tracks.read set
    | cons event recent => exact tracks.answers (List.cons.inj given).2 set

theorem tracks_run (c : Cell α) (commands : List (Command α)) : Tracks c (run c commands) := by
  apply Run.steps_induction
  · exact fun _ command tracks => tracks.step command
  · refine ⟨fun _ set => (by cases set), ?_⟩
    intro recent past number answer a given set
    simp at given

/-- Every answer is what some load says. -/
def Loaded (c : Cell α) (run : Run (Cache α) (Event α)) : Prop :=
  ∀ number answer, .answered number answer ∈ run.history → ∃ word, answer = c.read word

theorem loaded_run (c : Cell α) (commands : List (Command α)) : Loaded c (run c commands) := by
  apply Run.steps_induction
  · intro run command inductionHypothesis number answer answered
    rcases List.mem_cons.mp answered with now | before
    · exact ⟨run.state.word, answer_of_perform c now.symm⟩
    · exact inductionHypothesis number answer before
  · intro number answer answered
    cases answered

theorem word_steps_ne_unresolved {run : Run (Cache α) (Event α)}
    (resolved : run.state.word ≠ c.unresolved) (later : List (Command α)) :
    (run.steps (fun run => perform c run.state) later).state.word ≠ c.unresolved := by
  induction later generalizing run with
  | nil => exact resolved
  | cons command later inductionHypothesis =>
      exact inductionHypothesis (word_perform_ne_unresolved c resolved command)

/-! Every getter answers -/

variable (c)

/-- A getter that is let take a step answers, or comes further. -/
theorem answered_or_further {number : Nat} {cache : Cache α} {getter : Getter α}
    (called : cache.getters[number]? = some getter) (under : getter.reader.answer? = none) :
    (∃ answer, (advance c number cache).1 = .answered number answer) ∨
      ∃ further, (advance c number cache).2.getters[number]? = some further ∧
        further.reader.answer? = none ∧ getter.reader.rank < further.reader.rank := by
  have inside := (List.getElem?_eq_some_iff.mp called).1
  have further := Reader.rank_step under c getter.environment cache.word
  rw [advance_of_under c called under]
  generalize getter.reader.step c getter.environment cache.word = stepped at further
  obtain ⟨reader, word⟩ := stepped
  cases answered : reader.answer? with
  | some answer =>
      cases reader with
      | done answer => exact .inl ⟨answer, rfl⟩
      | start | claim | lost | publish | last => cases answered
  | none => exact .inr ⟨_, List.getElem?_set_self inside, answered, further⟩

theorem getElem?_perform_of_other {number : Nat} {cache : Cache α} {getter : Getter α}
    (called : cache.getters[number]? = some getter) {command : Command α}
    (other : command.advances number = false) :
    (perform c cache command).2.getters[number]? = some getter := by
  cases command with
  | call environment =>
      have inside := (List.getElem?_eq_some_iff.mp called).1
      exact (List.getElem?_append_left inside).trans called
  | advance moved =>
      have distinct : moved ≠ number := by simpa [Command.advances] using other
      change (advance c moved cache).2.getters[number]? = some getter
      rcases advance_cases c moved cache with idle | ⟨_, there, under⟩
      · rw [idle]
        exact called
      · rw [advance_of_under c there under]
        exact (List.getElem?_set_ne distinct).trans called
  | set a => exact called

/-- A getter that has not answered has done so when it has been let take as many steps as may be
left. -/
theorem answered_of_steps (commands : List (Command α)) {run : Run (Cache α) (Event α)}
    {number : Nat} {getter : Getter α} (called : run.state.getters[number]? = some getter)
    (under : getter.reader.answer? = none)
    (enough : 4 ≤ getter.reader.rank + commands.countP (Command.advances number)) :
    ∃ answer, .answered number answer ∈
      (run.steps (fun run => perform c run.state) commands).history := by
  induction commands generalizing run getter with
  | nil =>
      have rank := Reader.rank_lt_of_under under
      rw [List.countP_nil] at enough
      omega
  | cons command commands inductionHypothesis =>
      rw [List.countP_cons] at enough
      cases mine : command.advances number with
      | false =>
          rw [mine] at enough
          exact inductionHypothesis (getElem?_perform_of_other c called mine) under
            (by simpa using enough)
      | true =>
          obtain rfl : command = .advance number := by
            cases command with
            | advance other => simpa [Command.advances] using mine
            | call _ | set _ => cases mine
          rw [mine, if_pos rfl] at enough
          rcases answered_or_further c called under with ⟨answer, answered⟩ | further
          · refine ⟨answer, ?_⟩
            rw [Run.steps, List.foldl_cons, ← Run.steps, Run.history_steps]
            exact List.mem_append_right _ (answered ▸ List.mem_cons_self)
          · obtain ⟨moved, there, under', further⟩ := further
            exact inductionHypothesis there under' (by omega)

/-! All of it together -/

/-- What callers of the getters and setters of one cell may rely on, however they interleave. -/
structure Dependable (c : Cell α) : Prop where
  /-- Once something was set, every answer is what was set last. -/
  overridden {commands : List (Command α)} {recent past : List (Event α)} {number : Nat}
    {answer a : α} (given : (run c commands).history = recent ++ .answered number answer :: past)
    (set : .set a ∈ past) :
      ∃ b, latest past = some b ∧ answer = c.meaning (c.word b)
  /-- The word does not become unresolved again. -/
  resolved {commands : List (Command α)} (later : List (Command α))
    (once : (run c commands).state.word ≠ c.unresolved) :
      (run c (commands ++ later)).state.word ≠ c.unresolved
  /-- A getter that finds another one at work by its first load answers the default by it. -/
  unhindered {commands : List (Command α)} {number : Nat} {getter : Getter α}
    (called : (run c commands).state.getters[number]? = some getter)
    (first : getter.reader = .start) (busy : (run c commands).state.word = c.resolving) :
      (perform c (run c commands).state (.advance number)).1 = .answered number c.default
  /-- A getter has answered when it has taken four steps. -/
  answers (commands : List (Command α)) (environment : Environment) {later : List (Command α)}
    (enough : 4 ≤ later.countP
      (Command.advances (run c commands).state.getters.length)) :
      ∃ answer, .answered (run c commands).state.getters.length answer ∈
        (run c (commands ++ .call environment :: later)).history

theorem dependable : Dependable c where
  overridden {commands recent past number answer a} given set := by
    obtain ⟨b, last⟩ := exists_latest set
    exact ⟨b, last, (tracks_run c commands).answers given last⟩
  resolved {commands} later once := by
    rw [run, Run.steps_append]
    exact word_steps_ne_unresolved once later
  unhindered {commands number getter} called first busy := by
    have under : getter.reader.answer? = none := by rw [first]; rfl
    change (advance c number _).1 = _
    rw [advance_of_under c called under, first, busy]
    simp [Reader.step, arrival]
  answers commands environment {later} enough := by
    let getter : Getter α := { environment }
    have called : ((run c commands).state.getters ++ [getter])[
        (run c commands).state.getters.length]? = some getter :=
      List.getElem?_concat_length
    rw [run, Run.steps_append]
    exact answered_of_steps c later called rfl (Nat.le_add_left_of_le enough)

/-- For the level of tracking and for the capacity of pools alike, however getters and setters
interleave and whatever the environment says: what was set last is what getters answer from then
on, the cell is never unresolved again, nobody waits, and every getter answers. What is set as a
level is that level; what is set as a capacity, and every capacity that is answered, is neither
zero nor the greatest size. -/
theorem answers_of_interleaving :
    Dependable Cell.tracking ∧ Dependable Cell.poolCapacity ∧
      (∀ level, Cell.tracking.meaning (Cell.tracking.word level) = level) ∧
      (∀ capacity,
        Cell.poolCapacity.meaning (Cell.poolCapacity.word capacity) =
          PoolCapacity.accept capacity) ∧
      ∀ commands number answer,
        .answered number answer ∈ (run Cell.poolCapacity commands).history →
          answer ≠ 0 ∧ answer ≠ Word.limit - 1 := by
  refine ⟨dependable _, dependable _, Tracking.ofWord_word, fun _ => rfl, ?_⟩
  intro commands number answer answered
  obtain ⟨word, rfl⟩ := loaded_run Cell.poolCapacity commands number answer answered
  rcases Cell.poolCapacity.read_eq word with nothing | ⟨value, meant⟩
  · rw [nothing]
    exact PoolCapacity.default_ne
  · rw [meant]
    exact value

end Interleaving

end Underlay
