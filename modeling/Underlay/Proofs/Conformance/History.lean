import Underlay.Conformance.Campaign
import Underlay.Proofs.Conformance.Scripts

/-!
# Verdicts do not depend on what happened before

An operation gives the same text in every session that opens pools with the same capacity and to
which the system grants the same sizes, and it leaves such a session behind. So a case has one
verdict, whatever ran before it, in whatever order, and whether or not a log is kept.
-/

namespace Underlay

namespace Session

variable {s s' s'' : Session}

theorem akin_self (s : Session) : s.Akin s where
  poolCapacity := rfl
  agrees _ := rfl

theorem Akin.trans (akin : s.Akin s') (further : s'.Akin s'') : s.Akin s'' where
  poolCapacity := further.poolCapacity.trans akin.poolCapacity
  agrees size := (further.agrees size).trans (akin.agrees size)

theorem akin_observe (s : Session) (o : Observer) : s.Akin (s.observe o) where
  poolCapacity := rfl
  agrees _ := rfl

end Session

namespace Conformance

section Repeats

variable {α : Type} {act : Session → α × Session} {s s' : Session} {a : α} {slot : Slot}

theorem Repeats.answer (repeats : Repeats act s a slot) (akin : s.Akin s') : (act s').1 = a := by
  obtain ⟨_, _, _, law⟩ := repeats s' akin
  exact congrArg Prod.fst (law s'.observer)

theorem Repeats.leaves (repeats : Repeats act s a slot) (akin : s.Akin s') :
    (act s').2.slot = slot := by
  obtain ⟨_, _, _, law⟩ := repeats s' akin
  exact congrArg (fun after => after.2.slot) (law s'.observer)

theorem Repeats.akin (repeats : Repeats act s a slot) (akin : s.Akin s') :
    s.Akin (act s').2 := by
  obtain ⟨_, _, _, law⟩ := repeats s' akin
  have law : act s' = _ := law s'.observer
  rw [law]
  exact { akin with }

end Repeats

variable {s s' : Session}

/-- The verdicts on cases, each as if it were alone. -/
def verdictsAlone (s : Session) (family : String) (cases : List Case) : List Verdict :=
  cases.map fun c => (c.verify family s).1

theorem verify_akin (c : Case) (family : String) (akin : s.Akin s') :
    (c.verify family s').1 = (c.verify family s).1 ∧ s.Akin (c.verify family s').2 := by
  obtain ⟨verdict, slot, repeats⟩ := repeats_verify c family s
  exact ⟨(repeats.answer akin).trans (repeats.answer s.akin_self).symm, repeats.akin akin⟩

theorem verifyAll_akin (family : String) (cases : List Case) (akin : s.Akin s') :
    (verifyAll family cases s').1 = verdictsAlone s family cases ∧
      s.Akin (verifyAll family cases s').2 := by
  induction cases generalizing s' with
  | nil => exact ⟨rfl, akin⟩
  | cons c rest inductionHypothesis =>
      obtain ⟨verdict, akin⟩ := verify_akin c family akin
      obtain ⟨verdicts, akin⟩ := inductionHypothesis akin
      exact ⟨congr (congrArg List.cons verdict) verdicts, akin⟩

theorem verifySets_akin (sets : List FixtureSet) (akin : s.Akin s') :
    (verifySets sets s').1 = sets.flatMap (fun set => verdictsAlone s set.family set.cases) ∧
      s.Akin (verifySets sets s').2 := by
  induction sets generalizing s' with
  | nil => exact ⟨rfl, akin⟩
  | cons set rest inductionHypothesis =>
      obtain ⟨first, akin⟩ := verifyAll_akin set.family set.cases akin
      obtain ⟨verdicts, akin⟩ := inductionHypothesis akin
      exact ⟨congr (congrArg HAppend.hAppend first) verdicts, akin⟩

theorem verifyLogged_akin (now : Instant) (family : String) (cases : List Case) (n : Numbering)
    (akin : s.Akin s') :
    (verifyLogged now family cases n s').1 = verdictsAlone s family cases ∧
      s.Akin (verifyLogged now family cases n s').2.2.2 := by
  induction cases generalizing n s' with
  | nil => exact ⟨rfl, akin⟩
  | cons c rest inductionHypothesis =>
      obtain ⟨verdict, akin⟩ := verify_akin c family akin
      have akin := akin.trans (Session.akin_observe _ { (c.verify family s').2.observer with
        log := (c.verify family s').2.observer.log.drain.2 })
      obtain ⟨verdicts, akin⟩ := inductionHypothesis _ akin
      exact ⟨congr (congrArg List.cons verdict) verdicts, akin⟩

theorem verifySetsLogged_akin (now : Instant) (sets : List FixtureSet) (n : Numbering)
    (akin : s.Akin s') :
    (verifySetsLogged now sets n s').1 =
        sets.flatMap (fun set => verdictsAlone s set.family set.cases) ∧
      s.Akin (verifySetsLogged now sets n s').2.2.2 := by
  induction sets generalizing n s' with
  | nil => exact ⟨rfl, akin⟩
  | cons set rest inductionHypothesis =>
      obtain ⟨first, akin⟩ := verifyLogged_akin now set.family set.cases n akin
      obtain ⟨verdicts, akin⟩ := inductionHypothesis _ akin
      exact ⟨congr (congrArg HAppend.hAppend first) verdicts, akin⟩

theorem verdicts_conduct (campaign : String) (sets : List Loaded) (keepLog : Bool) (now : Instant)
    (akin : s.Akin s') :
    (conduct campaign sets keepLog now s').1.verdicts =
      sets.flatMap fun loaded => verdictsAlone s loaded.set.family loaded.set.cases := by
  cases keepLog with
  | false =>
      have verdicts := (verifySets_akin (sets.map Loaded.set) akin).1
      rwa [List.flatMap_map] at verdicts
  | true =>
      have akin := akin.trans (s'.akin_observe { s'.observer with tracking := .trace })
      have verdicts := (verifySetsLogged_akin now (sets.map Loaded.set)
        (Numbering.next { run := campaign }).2 akin).1
      rwa [List.flatMap_map] at verdicts

/-- Two sessions may differ in all but the capacity of pools opened without one and the sizes that
the system grants: in the failure that they hold, in what is observed and how, and in how many pools
and scopes were opened. An execution gives the same text or the same refusal in both and leaves the
same failure. The cases of a fixture set have the same verdicts in every order, each the one that it
has alone, and so have the cases of a campaign, whether or not it observes everything for its log. -/
theorem verdicts_without_history (akin : s.Akin s') :
    (∀ function inputs,
        (execute function inputs s').1 = (execute function inputs s).1 ∧
          (execute function inputs s').2.slot = (execute function inputs s).2.slot) ∧
      (∀ (set : FixtureSet) (cases : List Case), cases.Perm set.cases →
        (FixtureSet.verify { set with cases } s').1 =
            cases.map (fun c => (c.verify set.family s).1) ∧
          (FixtureSet.verify { set with cases } s').1.Perm (set.verify s).1) ∧
      ∀ (campaign : String) (sets : List Loaded) (keepLog : Bool) (now : Instant),
        (conduct campaign sets keepLog now s').1.verdicts =
          sets.flatMap fun loaded =>
            loaded.set.cases.map fun c => (c.verify loaded.set.family s).1 := by
  refine ⟨fun function inputs => ?_, fun set cases reordered => ?_,
    fun campaign sets keepLog now => verdicts_conduct campaign sets keepLog now akin⟩
  · obtain ⟨result, slot, repeats⟩ := repeats_execute function inputs s
    exact ⟨(repeats.answer akin).trans (repeats.answer s.akin_self).symm,
      (repeats.leaves akin).trans (repeats.leaves s.akin_self).symm⟩
  · have there := (verifyAll_akin set.family cases akin).1
    have here := (verifyAll_akin set.family set.cases s.akin_self).1
    refine ⟨there, ?_⟩
    rw [FixtureSet.verify, FixtureSet.verify, here, there]
    exact reordered.map _

/-- A session in which something failed, everything is observed, and pools and scopes were opened,
beside a fresh one. -/
theorem verdicts_without_history_used :
    let used : Session := {
      slot := .ofFailure (.raise .memory "failed to allocate 8 bytes" "checked_malloc")
      observer := { tracking := .trace, log := Lifecycle.Log.withCapacity 2 }
      poolsOpened := 3
      scopesOpened := 5 }
    let inputs : Json := .object [("capacity", .nat 0), ("sizes", .array [.nat 24])]
    let builtin := FixtureSet.builtin
    Session.Akin {} used ∧
      (execute "pool" inputs used).1 = (execute "pool" inputs {}).1 ∧
      (FixtureSet.verify { builtin with cases := builtin.cases.reverse } used).1.Perm
        (builtin.verify {}).1 := by
  intro used inputs builtin
  have akin : Session.Akin {} used := { poolCapacity := rfl, agrees := fun _ => rfl }
  have reversed := (verdicts_without_history akin).2.1 builtin _ (List.reverse_perm builtin.cases)
  exact ⟨akin, ((verdicts_without_history akin).1 "pool" inputs).1, reversed.2⟩

end Conformance

end Underlay
