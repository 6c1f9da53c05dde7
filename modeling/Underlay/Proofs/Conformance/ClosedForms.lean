import Underlay.Conformance.Execution
import Underlay.Proofs.Sharing.Cascade

/-!
# Executions in closed form

What is answered for blocks in a scope, for a shared object and for resources of a registry can be
told without running anything. A scope allocates up to the first size that is zero or that the
budget does not reach, and releases what it has in the opposite order; of so many releases of a
shared object the last one destroys it; resources are cleaned up from the last one to the first.
-/

namespace Underlay

/-- What a scope does over a recording heap: an empty request is refused before the budget is looked
at, and every other one is granted as long as the budget lasts. -/
theorem Scope.alloc_recording {h : Heap} {budget : Option Nat}
    (recording : h.source = .recording budget) (s : Scope) (size : Nat) (o : Observer) :
    (size = 0 ∧ ∃ failure, (s.alloc h size o).1 = .error failure ∧ failure.kind = .value) ∨
      (size ≠ 0 ∧ budget = some 0 ∧
        ∃ failure, (s.alloc h size o).1 = .error failure ∧ failure.kind = .memory) ∨
      (size ≠ 0 ∧ budget ≠ some 0 ∧ ∃ block s' h', (s.alloc h size o).1 = .ok (block, s', h') ∧
        h'.source = .recording (budget.map Nat.pred)) := by
  by_cases empty : size = 0
  · refine .inl ⟨empty, .raise .value "cannot allocate zero bytes" "checked_malloc", ?_, rfl⟩
    rw [alloc, Heap.malloc, if_pos empty]
  · refine .inr ?_
    rw [alloc, Heap.malloc, if_neg empty, Heap.allocate, Heap.grant, recording]
    rcases budget with _ | _ | left
    · exact .inr ⟨empty, by simp, _, _, _, rfl, rfl⟩
    · exact .inl ⟨empty, rfl, _, rfl, rfl⟩
    · exact .inr ⟨empty, by simp, _, _, _, rfl, rfl⟩

namespace Conformance

namespace Execution

/-- Allocation of blocks of the given sizes ends before the block of this number: its size is zero,
or the budget grants no more; or there is no such block. -/
structure Stops (sizes : List Nat) (budget : Option Nat) (number : Nat) : Prop where
  le_length : number ≤ sizes.length
  before : ∀ earlier < number, sizes[earlier]? ≠ some 0 ∧ budget ≠ some earlier
  here : number < sizes.length → sizes[number]? = some 0 ∨ budget = some number

/-- How the answer ends. A size that is zero comes before the budget. -/
def ending (sizes : List Nat) (number : Nat) : String :=
  if sizes[number]? = some 0 then " error=ValueError"
  else if number < sizes.length then " error=MemoryError"
  else ""

namespace Stops

variable {size : Nat} {sizes : List Nat} {budget : Option Nat} {number other : Nat}

theorem unique (stops : Stops sizes budget number) (also : Stops sizes budget other) :
    number = other := by
  rcases Nat.lt_trichotomy number other with less | same | more
  · obtain ⟨positive, granted⟩ := also.before number less
    rcases stops.here (Nat.lt_of_lt_of_le less also.le_length) with empty | spent
    · exact absurd empty positive
    · exact absurd spent granted
  · exact same
  · obtain ⟨positive, granted⟩ := stops.before other more
    rcases also.here (Nat.lt_of_lt_of_le more stops.le_length) with empty | spent
    · exact absurd empty positive
    · exact absurd spent granted

theorem nil (budget : Option Nat) : Stops [] budget 0 :=
  ⟨Nat.le_refl 0, fun _ => nofun, nofun⟩

theorem head (stopped : size = 0 ∨ budget = some 0) : Stops (size :: sizes) budget 0 := by
  refine ⟨Nat.zero_le _, fun _ => nofun, fun _ => stopped.imp ?_ id⟩
  rintro rfl
  rfl

theorem tail (positive : size ≠ 0) (granted : budget ≠ some 0)
    (stops : Stops sizes (budget.map Nat.pred) number) :
    Stops (size :: sizes) budget (number + 1) := by
  refine ⟨Nat.succ_le_succ stops.le_length, ?_, ?_⟩
  · intro earlier less
    cases earlier with
    | zero => exact ⟨by simpa using positive, granted⟩
    | succ earlier =>
        obtain ⟨positive, granted⟩ := stops.before earlier (Nat.lt_of_succ_lt_succ less)
        refine ⟨positive, ?_⟩
        rintro rfl
        exact granted rfl
  · intro inside
    refine (stops.here (Nat.lt_of_succ_lt_succ inside)).imp id fun spent => ?_
    obtain ⟨left, rfl, pred⟩ := Option.map_eq_some_iff.mp spent
    cases left with
    | zero => exact absurd rfl granted
    | succ left => exact congrArg (some <| · + 1) pred

end Stops

/-- Allocation stops where it has to, and the scope then owns the blocks in front of what it owned,
the newest first. -/
theorem allocateAll_spec (sizes : List Nat) (budget : Option Nat) (scope : Scope) (heap : Heap)
    (s : Session) (recording : heap.source = .recording budget) :
    ∃ blocks failure scope' heap' s' number,
      allocateAll sizes scope heap s = (blocks, failure, scope', heap', s') ∧
      Stops sizes budget number ∧ blocks.length = number ∧
      scope'.owned.map Registration.block =
        blocks.reverse ++ scope.owned.map Registration.block ∧
      heap'.releases = heap.releases ∧
      (failure.elim "" fun failure => " error=" ++ failure.kind.name) = ending sizes number := by
  induction sizes generalizing budget scope heap s with
  | nil => exact ⟨[], none, scope, heap, s, 0, rfl, .nil budget, rfl, rfl, rfl, rfl⟩
  | cons size rest inductionHypothesis =>
      have cases := scope.alloc_recording recording size s.observer
      obtain ⟨⟨result, observer⟩, answered⟩ :
        ∃ call, scope.alloc heap size s.observer = call := ⟨_, rfl⟩
      rw [answered] at cases
      rw [allocateAll, answered]
      dsimp only at cases ⊢
      rcases cases with ⟨rfl, failure, rfl, kind⟩ | ⟨positive, rfl, failure, rfl, kind⟩ |
        ⟨positive, left, block, scope', heap', rfl, recording'⟩
      · refine ⟨[], some failure, scope, heap, _, 0, rfl, .head (.inl rfl), rfl, rfl, rfl, ?_⟩
        rw [Option.elim_some, kind]
        rfl
      · refine ⟨[], some failure, scope, heap, _, 0, rfl, .head (.inr rfl), rfl, rfl, rfl, ?_⟩
        have inside : 0 < (size :: rest).length := Nat.succ_pos _
        rw [Option.elim_some, kind, ending, if_neg (by simpa using positive), if_pos inside]
        rfl
      · obtain ⟨owner, unreleased⟩ := Scope.alloc_eq_ok answered
        obtain ⟨blocks, failure, scope'', heap'', s', number, later, stops, length, owned,
          releases, suffix⟩ := inductionHypothesis (budget.map Nat.pred) scope' heap'
            ((s.observe observer).note (.ok (block, scope', heap'))) recording'
        refine ⟨block :: blocks, failure, scope'', heap'', s', number + 1, ?_,
          stops.tail positive left, congrArg (· + 1) length, ?_, releases.trans unreleased, ?_⟩
        · simp only [later]
        · rw [owned, owner, List.map_cons, List.reverse_cons, List.append_assoc]
          rfl
        · rw [suffix]
          simp [ending]

theorem runScope_eq {inputs : Json} {sizes : List Nat} {budget : Option Nat}
    (sizesGiven : Inputs.sizes inputs "sizes" = .ok sizes)
    (budgetGiven : Inputs.integer? inputs "fail_after" = .ok (budget.map Int.ofNat))
    (s : Session) :
    ∃ number, Stops sizes budget number ∧
      (runScope inputs s).1 = .ok ("registered=" ++ toString number ++ " released=" ++
        toString number ++ " lifo=true" ++ ending sizes number) := by
  obtain ⟨blocks, failure, scope, heap, s', number, ran, stops, length, owned, releases, suffix⟩ :=
    allocateAll_spec sizes budget s.openScope.1 { source := .recording budget } s.openScope.2 rfl
  have released : (scope.close heap s'.observer).1.releases = blocks.reverse := by
    rw [Scope.releases_of_close, releases, owned]
    exact List.append_nil _
  refine ⟨number, stops, ?_⟩
  have text : scopeText blocks failure (scope.close heap s'.observer).1 =
      "registered=" ++ toString number ++ " released=" ++ toString number ++ " lifo=true" ++
        ending sizes number := by
    rw [← suffix, ← length]
    cases failure <;> simp [scopeText, released, shownFlag, String.append_assoc]
  rw [← text]
  unfold runScope scopeRequests
  rw [sizesGiven, budgetGiven]
  cases budget with
  | none => simp only [Option.map_none, bind, Except.bind, pure, Except.pure, ran]
  | some budget => simp [bind, Except.bind, pure, Except.pure, ran]

/-! A shared object. -/

theorem get?_retainAll {id : ObjectId} {objects : Objects Unit} {object : Object Unit}
    (present : objects.get? id = some object) (count : Nat) (o : Observer) :
    (retainAll id count objects o).1.get? id =
      some { object with count := object.count + count } := by
  induction count generalizing objects object o with
  | zero => exact present
  | succ count inductionHypothesis =>
      rw [retainAll, Objects.retain, present]
      dsimp only
      rw [inductionHypothesis (Objects.get?_set_self present _)]
      simp only [Nat.add_right_comm, Nat.add_assoc]

/-- The last of as many releases as there are holders destroys the object. -/
theorem releaseAll_eq_last {id : ObjectId} {objects : Objects Unit} {object : Object Unit}
    (present : objects.get? id = some object) (childless : object.children = []) {left : Nat}
    (held : object.count = left + 1) (number : Nat) (o : Observer) :
    ∃ happened o',
      releaseAll id number (left + 1) objects o = (some (number + left), happened, o') ∧
      (happened.countP fun happening => happening matches .destructed ..) =
        object.destructor.isSome.toNat := by
  induction left generalizing objects object number o with
  | zero =>
      refine ⟨.released id 0 :: Objects.ending id object ++ [],
        Objects.report object (o.emit (Objects.event "destroy" id)), ?_, ?_⟩
      · rw [releaseAll, Objects.release_of_eq_one present held childless]
        rfl
      · cases declared : object.destructor <;> simp [Objects.ending, declared]
  | succ left inductionHypothesis =>
      have shared : 1 < object.count := by omega
      obtain ⟨happened, o', later, runs⟩ := inductionHypothesis
        (Objects.get?_set_self present (some { object with count := object.count - 1 })) childless
        (by simp only [held]; omega) (number + 1)
        (o.emit (Objects.event "release" id ("count=" ++ toString (object.count - 1))))
      refine ⟨.released id (object.count - 1) :: happened, o', ?_, runs⟩
      rw [releaseAll, Objects.release_of_lt present shared]
      dsimp only
      rw [later]
      simp [Nat.add_right_comm, Nat.add_assoc]

theorem runShared_eq {inputs : Json} {retains : Nat}
    (given : Inputs.size inputs "retains" = .ok retains) (s : Session) :
    (runShared inputs s).1 = .ok ("releases=" ++ toString (retains + 1) ++ " destroyed_on=" ++
      toString (retains + 1) ++ " destructor_runs=1") := by
  obtain ⟨objects, o, made, present⟩ : ∃ objects o,
      ({} : Objects Unit).create () (some { tag := "" }) [] s.observer = (0, objects, o) ∧
        objects.get? 0 = some { count := 1, payload := (), destructor := some { tag := "" } } :=
    ⟨_, _, rfl, rfl⟩
  obtain ⟨⟨shared, o'⟩, retained⟩ : ∃ call, retainAll 0 retains objects o = call := ⟨_, rfl⟩
  have held := get?_retainAll present retains o
  rw [retained] at held
  obtain ⟨happened, o'', released, runs⟩ :=
    releaseAll_eq_last held rfl (Nat.add_comm 1 retains) 1 o'
  have text : sharedText retains (some (retains + 1)) happened =
      "releases=" ++ toString (retains + 1) ++ " destroyed_on=" ++ toString (retains + 1) ++
        " destructor_runs=" ++ toString 1 :=
    congrArg ("releases=" ++ toString (retains + 1) ++ " destroyed_on=" ++
      toString (retains + 1) ++ " destructor_runs=" ++ toString ·) runs
  rw [Nat.add_comm 1 retains] at released
  simp only [runShared, given, made, retained, released, text, String.append_assoc]
  rfl

/-! Resources of a registry. -/

theorem pending_registerAll (names : List String) (registry : Registry) (o : Observer) :
    (names.foldl (fun (call : Registry × Observer) name =>
        call.1.register { name := some name, cleanup := .resource name } call.2)
      (registry, o)).1.pending =
      (names.map fun name => { name := some name, cleanup := .resource name }).reverse ++
        registry.pending := by
  induction names generalizing registry o with
  | nil => rfl
  | cons name rest inductionHypothesis =>
      rw [List.foldl_cons, inductionHypothesis]
      simp [Registry.register]

theorem registryText_resources (names : List String) :
    registryText (names.map .resource) =
      "ran=" ++ toString names.length ++ " order=[" ++ ", ".intercalate names ++ "]" := by
  have kept (resource? : Cleanup → Option String)
      (resource : ∀ name, resource? (.resource name) = some name) :
      (names.map Cleanup.resource).filterMap resource? = names := by
    have inside : resource? ∘ Cleanup.resource = some := funext resource
    rw [List.filterMap_map, inside, List.filterMap_some]
  have shown : names.map toString = names := List.map_id names
  rw [registryText, kept _ fun _ => rfl, List.length_map, listed, shown]
  simp only [String.append_assoc]
  rfl

theorem runRegistry_eq {inputs : Json} {names : List String}
    (given : Inputs.texts inputs "names" = .ok names) (s : Session) :
    (runRegistry inputs s).1 = .ok ("ran=" ++ toString names.length ++ " order=[" ++
      ", ".intercalate names.reverse ++ "]") := by
  have pending := pending_registerAll names {} s.observer
  have length : names.length = names.reverse.length := List.length_reverse.symm
  rw [runRegistry, given]
  dsimp only
  rw [Registry.ran_cleanup, pending, List.append_nil, ← List.map_reverse, List.map_map, length]
  exact congrArg Except.ok (registryText_resources names.reverse)

/-! Every list of sizes and every budget can be asked for. -/

theorem mapM_size?_numbers {sizes : List Nat} (fitting : ∀ size ∈ sizes, size < Word.limit) :
    (sizes.map Json.nat).mapM Json.size? = some sizes := by
  induction sizes with
  | nil => rfl
  | cons size rest inductionHypothesis =>
      obtain ⟨fits, others⟩ := List.forall_mem_cons.mp fitting
      have number : (Json.nat size).size? = some size := by
        simp [Json.nat, Json.size?, fits]
      rw [List.map_cons, List.mapM_cons, number, inductionHypothesis others]
      rfl

theorem exists_inputs {sizes : List Nat} {budget : Option Nat}
    (fitting : ∀ size ∈ sizes, size < Word.limit)
    (bounded : ∀ granted, budget = some granted → (granted : Int) ≤ Word.greatest) :
    ∃ inputs, Inputs.sizes inputs "sizes" = .ok sizes ∧
      Inputs.integer? inputs "fail_after" = .ok (budget.map Int.ofNat) := by
  refine ⟨.object [("sizes", .array (sizes.map .nat)),
    ("fail_after", budget.elim .null .nat)], ?_, ?_⟩
  · have found := mapM_size?_numbers fitting
    simp [Inputs.sizes, Json.get?, Json.array?, found, Inputs.demand]
  · cases budget with
    | none => rfl
    | some granted =>
        have fits := bounded granted rfl
        simp [Inputs.integer?, Json.get?, Json.nat, Json.signed?, fits, Word.least, Inputs.demand]

end Execution

open Execution in
/-- In every session, and whatever else the inputs hold: blocks in a scope are allocated up to the
number at which they have to stop, and exactly these are released, the newest first; a shared
object with so many holders goes with the last of as many releases, which runs its destructor
once; resources are cleaned up from the last one to the first. -/
theorem closed_forms (inputs : Json) (s : Session) :
    (∀ (sizes : List Nat) (budget : Option Nat), Inputs.sizes inputs "sizes" = .ok sizes →
      Inputs.integer? inputs "fail_after" = .ok (budget.map Int.ofNat) →
        ∃ number, (∀ other, Stops sizes budget other ↔ other = number) ∧
          (execute "scope" inputs s).1 = .ok ("registered=" ++ toString number ++ " released=" ++
            toString number ++ " lifo=true" ++
              if sizes[number]? = some 0 then " error=ValueError"
              else if number < sizes.length then " error=MemoryError"
              else "")) ∧
    (∀ retains, Inputs.size inputs "retains" = .ok retains →
      (execute "refcount" inputs s).1 = .ok ("releases=" ++ toString (retains + 1) ++
        " destroyed_on=" ++ toString (retains + 1) ++ " destructor_runs=1")) ∧
    (∀ names, Inputs.texts inputs "names" = .ok names →
      (execute "registry" inputs s).1 = .ok ("ran=" ++ toString names.length ++ " order=[" ++
        ", ".intercalate names.reverse ++ "]")) ∧
    ∀ (sizes : List Nat) (budget : Option Nat), (∀ size ∈ sizes, size < Word.limit) →
      (∀ granted, budget = some granted → (granted : Int) ≤ Word.greatest) →
        ∃ others, Inputs.sizes others "sizes" = .ok sizes ∧
          Inputs.integer? others "fail_after" = .ok (budget.map Int.ofNat) := by
  have named (operation : Operation) :
      execute operation.name inputs s = operation.run inputs { s with slot := .clear } := by
    rw [execute, Operation.ofName?_name]
  refine ⟨?_, ?_, ?_, fun sizes budget => exists_inputs⟩
  · intro sizes budget sizesGiven budgetGiven
    obtain ⟨number, stops, answer⟩ := runScope_eq sizesGiven budgetGiven { s with slot := .clear }
    refine ⟨number, fun other => ⟨fun also => also.unique stops, ?_⟩, ?_⟩
    · rintro rfl
      exact stops
    · exact (congrArg Prod.fst (named .scope)).trans answer
  · intro retains given
    exact (congrArg Prod.fst (named .shared)).trans (runShared_eq given _)
  · intro names given
    exact (congrArg Prod.fst (named .registry)).trans (runRegistry_eq given _)

/-- The third size is zero, and the budget ends there too. -/
theorem closed_forms_empty_block :
    let inputs : Json := .object [("sizes", .array [.nat 16, .nat 8, .nat 0, .nat 4]),
      ("fail_after", .nat 2), ("retains", .nat 2), ("names", .array [.string "a", .string "b"])]
    (execute "scope" inputs {}).1 = .ok "registered=2 released=2 lifo=true error=ValueError" ∧
      (execute "refcount" inputs {}).1 = .ok "releases=3 destroyed_on=3 destructor_runs=1" ∧
      (execute "registry" inputs {}).1 = .ok "ran=2 order=[b, a]" ∧
      ∃ others, Inputs.sizes others "sizes" = .ok [16, 8, 0, 4] ∧
        Inputs.integer? others "fail_after" = .ok (some 2) := by
  intro inputs
  obtain ⟨scope, shared, registry, asked⟩ := closed_forms inputs {}
  obtain ⟨number, stops, answer⟩ := scope [16, 8, 0, 4] (some 2) rfl rfl
  have two : Execution.Stops [16, 8, 0, 4] (some 2) 2 :=
    ⟨by decide, by decide, fun _ => .inl rfl⟩
  obtain rfl := (stops 2).mp two
  exact ⟨answer, shared 2 rfl, registry ["a", "b"] rfl,
    asked [16, 8, 0, 4] (some 2) (by decide) (by decide)⟩

end Conformance

end Underlay
