import Underlay.Proofs.Sharing.Cells

/-!
# Handles balance

Every call keeps the objects what their accounts tell. So a live handle counts one holder and one
more for each time it was retained, less those that were given up; what a call answers follows from
the account; and the destructor of an object runs once, when the last holder goes.
-/

namespace Underlay.Cells

/-- The state is the one that the accounts tell. -/
structure Tracks (system : System) (run : Run Machine Event) : Prop where
  system : run.state.session.system = system
  /-- Numbers that were not given to an object yet. -/
  fresh : ∀ id, run.state.cells.slots.length ≤ id → account id run.history = none
  unmade : ∀ id, account id run.history = none →
    (Objects.destructed (happenings run.history)).count id = 0
  made : ∀ id a, account id run.history = some a →
    a.releases ≤ 1 + a.retains ∧ run.state.cells.get? id = a.object? ∧
      (Objects.destructed (happenings run.history)).count id = a.runs

theorem account_cons (id : ObjectId) (event : Event) (past : List Event) :
    account id (event :: past) = event.tell id (account id past) :=
  rfl

namespace Tracks

variable {system : System} {machine next : Machine} {history : List Event} {id : ObjectId}
  {a after : Account}

theorem start (machine : Machine) : Tracks machine.session.system { state := machine } :=
  ⟨rfl, fun _ _ => rfl, fun _ _ => rfl, fun _ _ => nofun⟩

theorem step_idle (tracks : Tracks system { state := machine, history })
    (same : next.session.system = machine.session.system) (cells : next.cells = machine.cells) :
    Tracks system { state := next, history := .idle :: history } := by
  refine ⟨same.trans tracks.system, ?_, tracks.unmade, ?_⟩
  · intro id above
    simp only [cells] at above
    exact tracks.fresh id above
  · intro id a known
    simp only [cells]
    exact tracks.made id a known

theorem step_created (tracks : Tracks system { state := machine, history }) (size : Nat)
    (destructor : Option (Destructor Block)) :
    let made := Boundary.newObject size destructor machine
    Tracks system
      { state := made.2, history := made.1.elim .idle (.created · size destructor) :: history } := by
  intro made
  by_cases reserved : machine.session.system.reserves (Boundary.payloadRoom size) = true
  · obtain ⟨o, cells, answer, length, get?⟩ := newObject_of_reserved reserved destructor
    have told (id : ObjectId) :
        account id (.created machine.cells.slots.length size destructor :: history) =
          if machine.cells.slots.length = id then some { size, destructor }
          else account id history := rfl
    simp only [made, answer, Option.elim_some]
    refine ⟨tracks.system, ?_, ?_, ?_⟩
    · intro id above
      simp only [length] at above
      rw [told, if_neg (Nat.ne_of_lt above)]
      exact tracks.fresh id (Nat.le_of_succ_le above)
    · intro id unknown
      rw [told] at unknown
      split at unknown
      · cases unknown
      · exact tracks.unmade id unknown
    · intro id a known
      simp only [get?]
      rw [told] at known
      split at known
      · rename_i new
        obtain rfl := Option.some.inj known
        obtain rfl := new
        have live : ({ size, destructor } : Account).Live := Nat.zero_lt_one
        have unrun := tracks.unmade _ (tracks.fresh _ (Nat.le_refl _))
        exact ⟨Nat.zero_le _, if_pos rfl, unrun.trans (Account.runs_of_live live).symm⟩
      · rename_i old
        rw [if_neg (Ne.symm old)]
        exact tracks.made id a known
  · obtain ⟨failure, answer⟩ := newObject_of_refused reserved destructor
    simp only [made, answer, Option.elim_none]
    exact tracks.step_idle rfl rfl

/-- An event about one live object, which leaves it as its account tells. -/
theorem step_told (tracks : Tracks system { state := machine, history }) {event : Event}
    (happened : List (Happening Block)) (known : account id history = some a) (live : a.Live)
    (same : next.session.system = machine.session.system)
    (cells : next.cells = machine.cells.set id after.object?)
    (tells : event.tell id (some a) = some after)
    (silent : ∀ other ≠ id, ∀ b, event.tell other b = b)
    (happens : happenings (event :: history) = happenings history ++ happened)
    (bounded : after.releases ≤ 1 + after.retains)
    (runs : ∀ other, (Objects.destructed happened).count other =
      if other = id then after.runs else 0) :
    Tracks system { state := next, history := event :: history } := by
  obtain ⟨granting, fresh, unmade, made⟩ := tracks
  dsimp only at granting fresh unmade made
  obtain ⟨-, present, ran⟩ := made id a known
  rw [a.object?_of_live live] at present
  have told (other : ObjectId) : account other (event :: history) =
      if other = id then some after else account other history := by
    rw [account_cons]
    split
    · rename_i same
      rw [same, known, tells]
    · rename_i different
      exact silent other different _
  refine ⟨same.trans granting, ?_, ?_, ?_⟩
  · intro other above
    simp only [cells, Objects.set, List.length_set] at above
    have older : other ≠ id :=
      Nat.ne_of_gt (Nat.lt_of_lt_of_le (Objects.lt_length_of_get? present) above)
    rw [told, if_neg older]
    exact fresh other above
  · intro other unknown
    simp only [told] at unknown
    split at unknown
    · cases unknown
    · rename_i different
      rw [happens, Objects.destructed_append, List.count_append, unmade other unknown, runs,
        if_neg different]
  · intro other b account
    simp only [told] at account
    rw [happens, Objects.destructed_append, List.count_append, runs, cells]
    split at account
    · rename_i same
      obtain rfl := Option.some.inj account
      rw [if_pos same, same, ran, Account.runs_of_live live, Nat.zero_add,
        Objects.get?_set_self present]
      exact ⟨bounded, rfl, rfl⟩
    · rename_i different
      rw [if_neg different, Objects.get?_set_of_ne _ different]
      exact made other b account

theorem step_onLive (tracks : Tracks system { state := machine, history })
    {call : Event × Machine}
    (answered : ∀ a, account id history = some a → a.Live →
      Tracks system { state := call.2, history := call.1 :: history }) :
    Tracks system
      { state := (onLive { state := machine, history } id call).2,
        history := (onLive { state := machine, history } id call).1 :: history } := by
  unfold onLive
  split
  · rename_i live
    obtain ⟨a, known, live⟩ := (Option.any_eq_true _ _).mp live
    exact answered a known (of_decide_eq_true live)
  · exact tracks.step_idle rfl rfl

theorem step (tracks : Tracks system { state := machine, history }) (command : Command) :
    Tracks system
      { state := (perform { state := machine, history } command).2,
        history := (perform { state := machine, history } command).1 :: history } := by
  cases command with
  | create size destructor => exact tracks.step_created size destructor
  | count handle => exact tracks.step_idle rfl rfl
  | retain handle =>
      cases handle with
      | none => exact tracks.step_idle rfl rfl
      | some id =>
          apply tracks.step_onLive
          intro a known live
          obtain ⟨bounded, present, -⟩ := tracks.made id a known
          refine tracks.step_told [] known live rfl (cells_retain present live)
            (if_pos rfl) (fun other different b => if_neg (Ne.symm different))
            (List.append_nil _).symm (Nat.le_succ_of_le bounded) fun other => ?_
          rw [Account.runs_of_live (Account.live_retain live), ite_self]
          rfl
  | release handle =>
      cases handle with
      | none => exact tracks.step_idle rfl rfl
      | some id =>
          apply tracks.step_onLive
          intro a known live
          obtain ⟨-, present, -⟩ := tracks.made id a known
          obtain ⟨o, answer⟩ := release_eq present live
          rw [answer]
          exact tracks.step_told _ known live rfl rfl (if_pos rfl)
            (fun other different b => if_neg (Ne.symm different)) rfl live
            (Account.count_destructed_farewell live id)
  | data handle written =>
      cases handle with
      | none => exact tracks.step_idle rfl rfl
      | some id =>
          apply tracks.step_onLive
          intro a known live
          obtain ⟨bounded, present, -⟩ := tracks.made id a known
          rw [payload_eq present live]
          refine tracks.step_told [] known live rfl rfl (if_pos rfl)
            (fun other different b => if_neg (Ne.symm different)) (List.append_nil _).symm bounded
            fun other => ?_
          have still : (a.write written).Live := live
          rw [Account.runs_of_live still, ite_self]
          rfl

end Tracks

theorem tracks_run (machine : Machine) (commands : List Command) :
    Tracks machine.session.system (run machine commands) :=
  Run.steps_induction perform (fun _ command tracks => tracks.step command) (Tracks.start machine)
    commands

/-- What the calls answer on a live handle. Nobody but the last holder makes the destructor run, and
it runs on the payload that every holder was shown. -/
structure Serves (machine : Machine) (id : ObjectId) (a : Account) : Prop where
  counts : Boundary.holders (some id) machine = 1 + a.retains - a.releases
  retains : (Boundary.retain (some id) machine).1 = some id
  shows : (Boundary.payload (some id) [] machine).1 = some a.bytes
  room : a.size ≤ a.bytes.length
  zero : ∀ i < a.bytes.length, (∀ written ∈ a.writes, written.length ≤ i) → a.bytes[i]? = some 0
  /-- Looking at the payload, and writing to it, changes no count. -/
  quiet : ∀ written other, Boundary.holders other (Boundary.payload (some id) written machine).2 =
    Boundary.holders other machine
  releases : (Boundary.release (some id) machine).1 = true ↔ a.releases + 1 = 1 + a.retains
  happens : (Boundary.release (some id) machine).2.1 = a.farewell id

theorem serves_of_live {machine : Machine} {id : ObjectId} {a : Account}
    (present : machine.cells.get? id = a.object?) (live : a.Live) : Serves machine id a := by
  have alive := present.trans (Account.object?_of_live live)
  obtain ⟨o, release⟩ := release_eq present live
  refine ⟨?_, rfl, ?_, ?_, ?_, ?_, ?_, ?_⟩
  · exact Objects.count_of_get? alive
  · rw [payload_eq present live, Account.bytes_write_nil]
  · rw [Account.bytes, Memory.length_read]
    exact Word.le_roundUp a.size (by decide)
  · intro i inside untouched
    rw [Account.bytes, Memory.length_read] at inside
    rw [Account.bytes, Memory.getElem?_read, if_pos inside, Nat.zero_add,
      Account.memory_payload_eq_zero untouched]
  · intro written other
    cases other with
    | none => rfl
    | some other =>
        rw [payload_eq present live]
        have still : (a.write written).Live := live
        by_cases same : other = id
        · subst same
          exact (Objects.count_of_get? ((Objects.get?_set_self alive _).trans
            (Account.object?_of_live still))).trans (Objects.count_of_get? alive).symm
        · simp only [Boundary.holders, Option.map_some, Objects.count,
            Objects.get?_set_of_ne _ same]
  · rw [release, decide_eq_true_iff]
    omega
  · rw [release]

/-- After any calls, an object with a live handle counts one holder and one more for each time it
was retained, less those that were given up, and serves every call as its account tells. Its
destructor has run once if the holders balance, and not before. A new object is refused only
where there is no room for its payload, rounded up; an empty payload needs none. -/
theorem balance_of_run (machine : Machine) (commands : List Command) :
    let ran := run machine commands
    (∀ size destructor, (Boundary.newObject size destructor ran.state).1.isSome =
      machine.session.system.reserves (Boundary.payloadRoom size)) ∧
    ∀ id a, account id ran.history = some a →
      a.releases ≤ 1 + a.retains ∧
        (Objects.destructed (happenings ran.history)).count id =
          (if a.destructor.isSome ∧ a.releases = 1 + a.retains then 1 else 0) ∧
        (a.releases < 1 + a.retains → Serves ran.state id a) := by
  intro ran
  have tracks := tracks_run machine commands
  refine ⟨?_, ?_⟩
  · intro size destructor
    rw [← tracks.system]
    by_cases reserved : ran.state.session.system.reserves (Boundary.payloadRoom size) = true
    · obtain ⟨o, cells, answer, -⟩ := newObject_of_reserved reserved destructor
      rw [answer, reserved]
      rfl
    · obtain ⟨failure, answer⟩ := newObject_of_refused reserved destructor
      rw [answer, Bool.eq_false_iff.mpr reserved]
      rfl
  · intro id a known
    obtain ⟨bounded, present, ran⟩ := tracks.made id a known
    refine ⟨bounded, ran.trans ?_, serves_of_live present⟩
    have ended : ¬ a.Live ↔ a.releases = 1 + a.retains := by
      unfold Account.Live
      omega
    rw [Account.runs]
    simp only [ended]

/-- An object of 24 bytes, marked in front by one holder and retained; a holder is gone. -/
def marked : List Command :=
  [.create 24 (some { tag := "d" }), .data (some 0) [42], .retain (some 0), .release (some 0),
    .count (some 0), .release none]

def markedAccount : Account :=
  { size := 24, destructor := some { tag := "d" }, retains := 1, releases := 1, writes := [[42]] }

/-- The next release is the last one, and the destructor finds the mark. -/
theorem balance_of_run_marked :
    let ran := run {} marked
    account 0 ran.history = some markedAccount ∧
      Boundary.holders (some 0) ran.state = 1 ∧
      (Boundary.payload (some 0) [] ran.state).1 = some (42 :: List.replicate 31 0) ∧
      (Objects.destructed (happenings ran.history)).count 0 = 0 ∧
      (Boundary.release (some 0) ran.state).1 = true ∧
      (Boundary.release (some 0) ran.state).2.1 =
        [.released 0 0, .destructed 0 "d" markedAccount.payload 0,
          .dropped 0 markedAccount.payload] := by
  obtain ⟨-, accounts⟩ := balance_of_run {} marked
  obtain ⟨-, runs, serves⟩ := accounts 0 markedAccount rfl
  have serves := serves (by decide)
  exact ⟨rfl, serves.counts, serves.shows.trans (by decide +kernel), runs,
    serves.releases.mpr rfl, serves.happens⟩

end Underlay.Cells
