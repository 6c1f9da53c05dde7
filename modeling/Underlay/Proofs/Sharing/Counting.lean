import Underlay.Proofs.Sharing.Cascade
import Underlay.Proofs.Sharing.Run

/-!
# Reference counts are exact

`Tracks` compares a state with its history: counts balance with the handles outside, and of every
object that was ever made the history knows what it was made of and whether its destructor ran.
Every command keeps it, also the one that starts a cascade, so it holds in every state that a run
can reach.
-/

namespace Underlay.Sharing

variable {π : Type}

structure Tracks (run : Run (State π) (Event π)) : Prop where
  balanced : run.state.objects.Balanced (run.state.plain ++ run.state.raw)
  numbered : ∀ id < run.state.objects.slots.length, ∃ payload destructor children,
    .created id payload destructor children ∈ run.history
  made : ∀ id payload destructor children, .created id payload destructor children ∈ run.history →
    id < run.state.objects.slots.length ∧
      (Objects.destructed (happenings run.history)).count id + run.state.objects.owed id =
        destructor.isSome.toNat ∧
      (run.state.objects.bare id = none ∨
        run.state.objects.bare id = some { count := 0, payload, destructor, children })
  unmade : ∀ id, run.state.objects.slots.length ≤ id →
    (Objects.destructed (happenings run.history)).count id = 0

namespace Tracks

variable {state : State π} {history : List (Event π)}

theorem start (observer : Observer) :
    Tracks ({ state := { observer } } : Run (State π) (Event π)) := by
  refine ⟨Objects.Balanced.empty, ?_, ?_, ?_⟩
  · intro id below
    cases below
  · intro id payload destructor children created
    cases created
  · intro id above
    rfl

/-- An event that is about no making and no giving up, with objects that only count otherwise. -/
theorem step_kept {next : State π} {event : Event π} (tracks : Tracks { state, history })
    (made : ∀ id payload destructor children, event ≠ .created id payload destructor children)
    (quiet : happenings (event :: history) = happenings history)
    (length : next.objects.slots.length = state.objects.slots.length)
    (bare : next.objects.bare = state.objects.bare)
    (balanced : next.objects.Balanced (next.plain ++ next.raw)) :
    Tracks { state := next, history := event :: history } := by
  have owed (id : ObjectId) : next.objects.owed id = state.objects.owed id := by
    simp only [Objects.owed, bare]
  refine ⟨balanced, ?_, ?_, ?_⟩
  · intro id below
    obtain ⟨payload, destructor, children, created⟩ := tracks.numbered id (by rwa [← length])
    exact ⟨payload, destructor, children, List.mem_cons_of_mem event created⟩
  · intro id payload destructor children created
    simp only [quiet, length, bare, owed]
    refine tracks.made id payload destructor children ?_
    exact List.mem_of_ne_of_mem (made id payload destructor children).symm created
  · intro id above
    simp only [quiet]
    exact tracks.unmade id (by rwa [← length])

theorem step_created (tracks : Tracks { state, history }) (payload : π)
    (destructor : Option (Destructor π)) {children : List ObjectId}
    (held : ∀ child ∈ children, children.count child ≤ state.plain.count child) :
    let made := state.objects.create payload destructor children state.observer
    Tracks { state := { objects := made.2.1, observer := made.2.2,
                        plain := made.1 :: state.plain.diff children, raw := state.raw },
             history := .created made.1 payload destructor children :: history } := by
  intro made
  have length : made.2.1.slots.length = state.objects.slots.length + 1 := by
    simp [made, Objects.create]
  have bare (id : ObjectId) : made.2.1.bare id =
      if id = state.objects.slots.length then
        some { count := 0, payload, destructor, children }
      else
        state.objects.bare id := by
    simp only [made, Objects.bare, Objects.get?_create]
    split <;> rfl
  refine ⟨?_, ?_, ?_, ?_⟩
  · have taken : (state.plain ++ state.raw).Perm
        (children ++ (state.plain.diff children ++ state.raw)) := by
      rw [← List.append_assoc]
      exact (List.subperm_append_diff_self_of_count_le held).symm.append_right state.raw
    exact (tracks.balanced.of_perm taken).create payload destructor state.observer
  · intro id below
    simp only [length] at below
    by_cases new : id = state.objects.slots.length
    · exact ⟨payload, destructor, children, by simp [new, made, Objects.create]⟩
    · obtain ⟨payload, destructor, children, created⟩ :=
        tracks.numbered id (Nat.lt_of_le_of_ne (Nat.le_of_lt_succ below) new)
      exact ⟨payload, destructor, children, List.mem_cons_of_mem _ created⟩
  · intro id payload' destructor' children' created
    simp only [length, bare, Objects.owed, happenings]
    rcases List.mem_cons.mp created with new | earlier
    · simp only [Event.created.injEq] at new
      obtain ⟨rfl, rfl, rfl, rfl⟩ := new
      have unrun := tracks.unmade state.objects.slots.length (Nat.le_refl _)
      simp only [made, Objects.create, if_true]
      refine ⟨Nat.lt_succ_self _, ?_, .inr trivial⟩
      simp only at unrun
      rw [unrun, Option.bind_some, Nat.zero_add]
    · obtain ⟨below, share, same⟩ := tracks.made id payload' destructor' children' earlier
      have old : id ≠ state.objects.slots.length := Nat.ne_of_lt below
      simp only [if_neg old]
      exact ⟨Nat.lt_succ_of_lt below, share, same⟩
  · intro id above
    simp only [length] at above
    exact tracks.unmade id (Nat.le_of_succ_le above)

/-- A plain handle is given up as the nesting says, and the other handles stay balanced. -/
theorem gaveUp (tracks : Tracks { state, history }) {id : ObjectId} (held : id ∈ state.plain) :
    let next := (giveUp state id).2.2
    Objects.GivesUp state.objects [id] (giveUp state id).2.1 next.objects ∧
      next.objects.Balanced (next.plain ++ next.raw) := by
  have taken : (state.plain ++ state.raw).Perm ([id] ++ (state.plain.erase id ++ state.raw)) :=
    (List.perm_cons_erase held).append_right state.raw
  exact Objects.givesUp_giveUp (tracks.balanced.of_perm taken) state.observer

theorem step_gaveUp (tracks : Tracks { state, history }) {id : ObjectId} (answer : Option Bool)
    {happened : List (Happening π)} {next : State π}
    (given : Objects.GivesUp state.objects [id] happened next.objects)
    (balanced : next.objects.Balanced (next.plain ++ next.raw)) :
    Tracks { state := next, history := .gaveUp id answer happened :: history } := by
  refine ⟨balanced, ?_, ?_, ?_⟩
  · intro other below
    simp only [given.length_slots] at below
    obtain ⟨payload, destructor, children, created⟩ := tracks.numbered other below
    exact ⟨payload, destructor, children, List.mem_cons_of_mem _ created⟩
  · intro other payload destructor children created
    obtain ⟨below, share, same⟩ :=
      tracks.made other payload destructor children (by simpa using created)
    simp only [given.length_slots, happenings, Objects.destructed_append, List.count_append]
    refine ⟨below, ?_, ?_⟩
    · have now := given.count_destructed other
      simp only at share
      omega
    · rcases given.frame other with gone | still
      · exact .inl gone
      · exact same.imp still.trans still.trans
  · intro other above
    simp only [given.length_slots] at above
    have unrun := tracks.unmade other above
    have absent : state.objects.get? other = none := by
      simp [Objects.get?, List.getElem?_eq_none above]
    have now := given.count_destructed other
    simp only [happenings, Objects.destructed_append, List.count_append]
    simp only [Objects.owed, Objects.bare, absent] at now unrun
    simp at now
    omega

theorem step_ifHeld (tracks : Tracks { state, history }) {held : Prop} [Decidable held]
    {call : Event π × State π}
    (answered : held → Tracks { state := call.2, history := call.1 :: history }) :
    Tracks { state := (ifHeld state held call).2,
             history := (ifHeld state held call).1 :: history } := by
  unfold ifHeld
  split
  · rename_i held
    exact answered held
  · exact tracks.step_kept (fun _ _ _ _ => nofun) rfl rfl rfl tracks.balanced

theorem step_retained (tracks : Tracks { state, history }) {id : ObjectId}
    (live : (state.objects.get? id).isSome) :
    let retained := state.objects.retain id state.observer
    Tracks { state := { objects := retained.1, observer := retained.2,
                        plain := id :: state.plain, raw := state.raw },
             history := .retained id :: history } := by
  intro retained
  obtain ⟨object, present⟩ := Option.isSome_iff_exists.mp live
  have counted : retained.1 =
      state.objects.set id (some { object with count := object.count + 1 }) := by
    simp only [retained, Objects.retain, present]
  refine tracks.step_kept (fun _ _ _ _ => nofun) rfl ?_ ?_ ?_
  · simp only [counted, Objects.set, List.length_set]
  · funext other
    simp only [counted]
    exact Objects.bare_recount present _ other
  · simp only [counted]
    refine tracks.balanced.recount present (Nat.succ_pos _) ?_ ?_
    · simp only [List.cons_append, List.count_cons_self]
      omega
    · intro other distinct
      exact List.count_cons_of_ne (Ne.symm distinct)

theorem step (tracks : Tracks { state, history }) (command : Command π) :
    Tracks { state := (perform state command).2,
             history := (perform state command).1 :: history } := by
  cases command with
  | create payload destructor children =>
      apply tracks.step_ifHeld
      intro held
      exact tracks.step_created payload destructor held
  | retain id =>
      apply tracks.step_ifHeld
      intro live
      exact tracks.step_retained live
  | release id | drop id =>
      apply tracks.step_ifHeld
      intro held
      obtain ⟨given, balanced⟩ := tracks.gaveUp held
      exact tracks.step_gaveUp _ given balanced
  | intoRaw id =>
      apply tracks.step_ifHeld
      intro held
      refine tracks.step_kept (fun _ _ _ _ => nofun) rfl rfl rfl (tracks.balanced.of_perm ?_)
      exact ((List.perm_cons_erase held).append_right state.raw).trans List.perm_middle.symm
  | fromRaw id =>
      apply tracks.step_ifHeld
      intro held
      refine tracks.step_kept (fun _ _ _ _ => nofun) rfl rfl rfl (tracks.balanced.of_perm ?_)
      exact ((List.perm_cons_erase held).append_left state.plain).trans List.perm_middle

/-- Of an object that was made with a destructor, the destructor has run once if the object is
gone, and not before. -/
theorem count_destructed {run : Run (State π) (Event π)} (tracks : Tracks run) {id : ObjectId}
    {payload : π} {destructor : Option (Destructor π)} {children : List ObjectId}
    (created : .created id payload destructor children ∈ run.history) :
    (Objects.destructed (happenings run.history)).count id =
      if destructor.isSome ∧ ¬ run.state.objects.Live id then 1 else 0 := by
  obtain ⟨-, share, gone | same⟩ := tracks.made id payload destructor children created
  · have dead : ¬ run.state.objects.Live id := by
      simpa [Objects.Live, Objects.bare] using gone
    rw [Objects.owed, gone] at share
    cases destructor <;> simpa [dead] using share
  · have live : run.state.objects.Live id := by
      obtain ⟨object, present, -⟩ := Option.map_eq_some_iff.mp same
      exact Objects.live_iff.mpr ⟨object, present⟩
    rw [Objects.owed, same] at share
    cases destructor <;> simpa [live] using share

theorem count_destructed_le {run : Run (State π) (Event π)} (tracks : Tracks run)
    (id : ObjectId) : (Objects.destructed (happenings run.history)).count id ≤ 1 := by
  by_cases below : id < run.state.objects.slots.length
  · obtain ⟨payload, destructor, children, created⟩ := tracks.numbered id below
    rw [tracks.count_destructed created]
    split <;> decide
  · rw [tracks.unmade id (Nat.le_of_not_lt below)]
    decide

theorem last_iff {run : Run (State π) (Event π)} (tracks : Tracks run) {id : ObjectId}
    (held : id ∈ run.state.plain) :
    (giveUp run.state id).1 = true ↔ ¬ (giveUp run.state id).2.2.objects.Live id := by
  rw [← (tracks.gaveUp held).1.count_eq_one_iff]
  exact beq_iff_eq

end Tracks

theorem tracks_run (observer : Observer) (commands : List (Command π)) :
    Tracks (run observer commands) :=
  Run.steps_induction _ (fun _ command tracks => tracks.step command) (Tracks.start observer)
    commands

/-- In every state that a run can reach, every object counts its holders: plain handles, handles
that are out as addresses, and references that live objects keep to it, each as often as it is
there. An object is live exactly when it can be reached from a handle outside. A destructor has
run at most once, and it has run exactly when its object is gone. Giving up a handle does what the
nesting says: at the last holder the destructor runs, then the payload is dropped, then the
children are given up; and a release answers whether its object is gone. -/
theorem counts_of_run (observer : Observer) (commands : List (Command π)) :
    let ran := run observer commands
    let objects := ran.state.objects
    (∀ id, objects.count id =
      ran.state.plain.count id + ran.state.raw.count id + objects.stored id) ∧
    (∀ id, objects.Live id ↔ ∃ holder, (holder ∈ ran.state.plain ∨ holder ∈ ran.state.raw) ∧
      Relation.ReflTransGen objects.Keeps holder id) ∧
    (∀ id, (Objects.destructed (happenings ran.history)).count id ≤ 1) ∧
    (∀ id payload destructor children,
      .created id payload destructor children ∈ ran.history →
        (Objects.destructed (happenings ran.history)).count id =
          if destructor.isSome ∧ ¬ objects.Live id then 1 else 0) ∧
    ∀ id ∈ ran.state.plain,
      let after := (giveUp ran.state id).2.2.objects
      Objects.GivesUp objects [id] (giveUp ran.state id).2.1 after ∧
        ((giveUp ran.state id).1 = true ↔ ¬ after.Live id) := by
  intro ran objects
  have tracks : Tracks ran := tracks_run observer commands
  refine ⟨?_, ?_, tracks.count_destructed_le, ?_, ?_⟩
  · intro id
    rw [tracks.balanced.counted id, List.count_append]
  · intro id
    simp only [← List.mem_append]
    exact tracks.balanced.live_iff_reachable id
  · intro id payload destructor children created
    exact tracks.count_destructed created
  · intro id held
    exact ⟨(tracks.gaveUp held).1, tracks.last_iff held⟩

/-- A top keeps a pair, and the pair keeps one leaf twice. The leaf is also out as an address. -/
def nested : List (Command String) :=
  [.create "leaf" (some { tag := "l" }) [], .retain 0, .retain 0,
    .create "pair" (some { tag := "p" }) [0, 0], .retain 1, .release 1,
    .create "top" (some { tag := "t", act := (· ++ "!") }) [1], .intoRaw 0, .intoRaw 2, .fromRaw 2]

/-- When the top is given up, the pair goes with it, and the leaf stays. -/
theorem counts_of_run_nested :
    let ran := run {} nested
    .created 0 "leaf" (some { tag := "l" }) [] ∈ ran.history ∧ 2 ∈ ran.state.plain ∧
      ran.state.objects.count 0 = 3 ∧ ran.state.objects.Live 1 ∧
      (Objects.destructed (happenings ran.history)).count 0 = 0 ∧
      (giveUp ran.state 2).2.1 =
        [.released 2 0, .destructed 2 "t" "top" 1, .dropped 2 "top!",
          .released 1 0, .destructed 1 "p" "pair" 2, .dropped 1 "pair",
          .released 0 2, .released 0 1] ∧
      ¬ (giveUp ran.state 2).2.2.objects.Live 2 := by
  obtain ⟨counted, reachable, -, ended, given⟩ := counts_of_run {} nested
  have created : .created 0 "leaf" (some { tag := "l" }) [] ∈ (run {} nested).history :=
    List.mem_of_getLast? rfl
  have held : 2 ∈ (run {} nested).state.plain := by decide +kernel
  have kept : (run {} nested).state.objects.Keeps 2 1 := by
    have children : ((run {} nested).state.objects.get? 2).map Object.children = some [1] := by
      decide +kernel
    obtain ⟨object, found, same⟩ := Option.map_eq_some_iff.mp children
    exact ⟨object, found, same ▸ List.mem_singleton_self 1⟩
  refine ⟨created, held, (counted 0).trans (by decide +kernel), ?_, ?_, by decide +kernel, ?_⟩
  · exact (reachable 1).mpr ⟨2, .inl held, .single kept⟩
  · rw [ended 0 "leaf" (some { tag := "l" }) [] created]
    decide +kernel
  · exact (given 2 held).2.mp (by decide +kernel)

end Underlay.Sharing
