import Underlay.Proofs.Blocks.Contents
import Underlay.Proofs.Blocks.Step

/-!
# Blocks granted and given back

As long as nobody touches a block that is not there or that a scope owns, the counters say how many
blocks are there: all that were granted less all that were given back. The invariant `Tracks` keeps
together the ledger of blocks, the heaps that granted them, the scopes that own them, and the
counters. What an event enters into the ledger and strikes from it is what it counts each way.
-/

namespace Underlay.Blocks

variable {machine after : Machine} {history : List Event} {event : Event} {block : BlockId}
  {heap : HeapId} {command : Command}

/-! The block that an event uses up, if it does. -/

/-- The block that is no longer there, or no longer free. -/
def Event.spent? : Event → Option BlockId
  | .resized _ block _ | .released block | .registered _ block => some block
  | _ => none

/-- An event uses up no other block than the command names. -/
def Spares (command : Command) (event : Event) : Prop :=
  ∀ block ∈ event.spent?, command.block? = some block

theorem spares_of_none (unspent : event.spent? = none) : Spares command event := by
  intro block used
  rw [unspent] at used
  cases used

theorem spares_of_named {tell : BlockId → Event} (told : ∀ block, (tell block).spent? = some block)
    {otherwise : Event} (unspent : otherwise.spent? = none) {old : Option BlockId}
    (named : command.block? = old) : Spares command ((old.map tell).getD otherwise) := by
  cases old with
  | none => exact spares_of_none unspent
  | some id =>
      intro block used
      rw [named]
      exact (told id).symm.trans used

theorem spares_onHeap {call : Event × Machine} (spares : Spares command call.1) :
    Spares command (onHeap machine heap call).1 := by
  unfold onHeap
  split
  · exact spares
  · exact spares_of_none rfl

theorem spares_onScope {scope : Nat} {call : HeapId → Event × Machine}
    (spares : ∀ heap, Spares command (call heap).1) :
    Spares command (onScope machine scope call).1 := by
  unfold onScope
  split
  · exact spares_onHeap (spares _)
  · exact spares_of_none rfl

theorem spares_asked (owner : Option Nat) (reaches : Bool)
    (result : Except Failure BlockId × Machine) :
    Spares command (asked heap owner reaches result).1 := by
  apply spares_of_none
  obtain ⟨_ | block, after⟩ := result
  · cases reaches <;> rfl
  · rfl

theorem spares_resized {old : Option BlockId} (named : command.block? = old) (size : Nat)
    (result : Except Failure (Option BlockId) × Machine) :
    Spares command (resized heap old size result).1 := by
  obtain ⟨_ | _ | new, after⟩ := result
  · apply spares_of_none
    rw [resized]
    split <;> rfl
  · exact spares_of_named (fun _ => rfl) rfl named
  · have told (old : BlockId) : (Event.resized heap old new).spent? = some old := rfl
    exact spares_of_named told rfl named

theorem spares_registered (scope : Nat) {block : Option BlockId} (named : command.block? = block)
    (result : Except Failure Unit × Machine) :
    Spares command (registered scope block result).1 := by
  obtain ⟨_ | _, after⟩ := result
  · exact spares_of_none rfl
  · exact spares_of_named (fun _ => rfl) rfl named

theorem spares_perform (machine : Machine) (command : Command) :
    Spares command (perform machine command).1 := by
  cases command with
  | malloc heap size => exact spares_onHeap (spares_asked _ _ _)
  | calloc heap count size => exact spares_onHeap (spares_asked _ _ _)
  | realloc heap block size => exact spares_onHeap (spares_resized rfl _ _)
  | free heap block size => exact spares_onHeap (spares_of_named (fun _ => rfl) rfl rfl)
  | copyText text => exact spares_onHeap (spares_asked _ _ _)
  | copyTerminated text => exact spares_onHeap (spares_asked _ _ _)
  | allocateRaw heap size zeroed =>
      have unspent (answer : Option BlockId) :
          ((answer.map (Event.taken heap)).getD (.refused heap)).spent? = none := by
        cases answer <;> rfl
      exact spares_onHeap (spares_of_none (unspent _))
  | write block change => exact spares_of_none rfl
  | openScope heap => exact spares_of_none rfl
  | scopeAlloc scope size => exact spares_onScope fun _ => spares_asked _ _ _
  | scopeAllocZeroed scope count size => exact spares_onScope fun _ => spares_asked _ _ _
  | scopeRegister scope block => exact spares_onScope fun _ => spares_registered scope rfl _
  | closeScope scope => exact spares_of_none rfl
  | keepRecords on => exact spares_of_none rfl
  | setSystem system => exact spares_of_none rfl

/-! The ledger. -/

/-- Whether a block belongs to a scope. -/
def belongs (scope : Nat) (entry : BlockId × Option Nat) : Bool :=
  entry.2 == some scope

theorem countP_cons_belongs (scope owner : Nat) (block : BlockId)
    (entries : List (BlockId × Option Nat)) :
    ((block, some owner) :: entries).countP (belongs scope) =
      if owner = scope then entries.countP (belongs scope) + 1
      else entries.countP (belongs scope) := by
  by_cases same : owner = scope
  · rw [if_pos same]
    exact List.countP_cons_of_pos (by simp [belongs, same])
  · rw [if_neg same]
    exact List.countP_cons_of_neg (by simp [belongs, same])

theorem countP_filter_belongs (scope id : Nat) (entries : List (BlockId × Option Nat)) :
    (entries.filter fun entry => entry.2 != some scope).countP (belongs id) =
      if scope = id then 0 else entries.countP (belongs id) := by
  rw [List.countP_filter]
  by_cases same : scope = id
  · subst same
    rw [if_pos rfl]
    exact List.countP_eq_zero.mpr fun entry _ => by simp [belongs]
  · rw [if_neg same]
    refine List.countP_congr fun entry _ => ?_
    simp only [belongs, Bool.and_eq_true, beq_iff_eq, bne_iff_ne, and_iff_left_iff_imp]
    exact fun owner other => same (Option.some.inj (other.symm.trans owner))

theorem length_filter_belongs (scope : Nat) (entries : List (BlockId × Option Nat)) :
    (entries.filter fun entry => entry.2 != some scope).length +
      entries.countP (belongs scope) = entries.length := by
  have parts := List.length_eq_countP_add_countP (belongs scope) (l := entries)
  have kept : (fun entry : BlockId × Option Nat => entry.2 != some scope) =
      fun entry => decide ¬belongs scope entry = true := by
    funext entry
    by_cases owner : entry.2 = some scope <;> simp [belongs, owner]
  rw [kept, ← List.countP_eq_length_filter, Nat.add_comm, ← parts]

/-- A ledger without the entry of a block that nobody owns. -/
structure Strikes (entries : List (BlockId × Option Nat)) (block : BlockId)
    (rest : List (BlockId × Option Nat)) : Prop where
  length : rest.length + 1 = entries.length
  listed : ∀ id ∈ rest.map Prod.fst, id ∈ entries.map Prod.fst
  once : (entries.map Prod.fst).Nodup → (block :: rest.map Prod.fst).Nodup
  owned : ∀ scope, rest.countP (belongs scope) = entries.countP (belongs scope)

theorem strikes_erase {entries : List (BlockId × Option Nat)} (free : (block, none) ∈ entries) :
    Strikes entries block (entries.erase (block, none)) := by
  have perm := List.perm_cons_erase free
  refine ⟨perm.length_eq.symm, fun id listed => ?_, (perm.map Prod.fst).nodup, fun scope => ?_⟩
  · exact (perm.map Prod.fst).mem_iff.mpr (List.mem_cons_of_mem _ listed)
  · rw [perm.countP_eq]
    exact (List.countP_cons_of_neg (by simp [belongs])).symm

/-- Ledger, heaps, scopes and counters of a run belong together. -/
structure Tracks (run : Run Machine Event) : Prop where
  named : ∀ heap, heap < run.state.heaps.size → (run.state.heap heap).id = heap
  there : ∀ id ∈ (live run.history).map Prod.fst,
    id.number < (run.state.heap id.heap).blocks.size
  once : ((live run.history).map Prod.fst).Nodup
  owned : ∀ scope, run.state.scopeSize scope = (live run.history).countP (belongs scope)
  tallied : ∃ returned, grants run.history = returned + (live run.history).length ∧
    run.state.observer.Tallied (grants run.history) returned

theorem grants_cons (event : Event) (history : List Event) :
    grants (event :: history) = grants history + event.allocations := by
  cases event <;> rfl

theorem present_of_blocks (granted : 0 < (machine.heap heap).blocks.size) :
    heap < machine.heaps.size := by
  by_cases present : heap < machine.heaps.size
  · exact present
  · rw [Machine.heap_of_absent present] at granted
    cases granted

namespace Tracks

theorem there_step (tracks : Tracks { state := machine, history })
    (taken : Step machine event after) {id : BlockId}
    (listed : id ∈ (live history).map Prod.fst) :
    id.number < (after.heap id.heap).blocks.size :=
  Nat.lt_of_lt_of_le (tracks.there id listed) (taken.turns id.heap).blocks_le

/-- A block that a heap grants was not there before. -/
theorem fresh (tracks : Tracks { state := machine, history }) (taken : Step machine event after)
    (granted : event.answer heap = some (some block)) :
    block ∉ (live history).map Prod.fst ∧
      block.number < (after.heap block.heap).blocks.size := by
  have turn := taken.turns heap
  rw [granted] at turn
  obtain ⟨rfl, blocks⟩ := turn.next
  have present : heap < machine.heaps.size :=
    taken.size ▸ present_of_blocks (blocks ▸ Nat.succ_pos _)
  have named : (machine.heap heap).id = heap := tracks.named heap present
  rw [named]
  refine ⟨fun listed => ?_, ?_⟩
  · -- The blocks that are there have lower numbers than the next one.
    exact Nat.lt_irrefl _ (tracks.there _ listed)
  · rw [blocks]
    exact Nat.lt_succ_self _

/-- An event that enters only what a heap grants with it, and that changes the ledger by as much as
it counts, keeps all of it together. -/
theorem next (tracks : Tracks { state := machine, history }) (taken : Step machine event after)
    (there : ∀ id ∈ (live (event :: history)).map Prod.fst,
      id ∈ (live history).map Prod.fst ∨ ∃ heap, event.answer heap = some (some id))
    (once : ((live (event :: history)).map Prod.fst).Nodup)
    (owned : ∀ scope, (live (event :: history)).countP (belongs scope) =
      event.owned scope ((live history).countP (belongs scope)))
    (balanced : (live (event :: history)).length + event.frees machine =
      (live history).length + event.allocations) :
    Tracks { state := after, history := event :: history } := by
  refine ⟨fun heap present => ?_, fun id listed => ?_, once, fun scope => ?_, ?_⟩
  · have before : heap < machine.heaps.size := taken.size ▸ present
    exact (taken.turns heap).same_id.trans (tracks.named heap before)
  · rcases there id listed with old | ⟨heap, granted⟩
    · exact tracks.there_step taken old
    · exact (tracks.fresh taken granted).2
  · have before : machine.scopeSize scope = _ := tracks.owned scope
    exact (taken.owned scope).trans (before ▸ (owned scope).symm)
  · obtain ⟨returned, granted, tallied⟩ := tracks.tallied
    refine ⟨returned + event.frees machine, ?_, ?_⟩
    · rw [grants_cons]
      simp only at granted ⊢
      omega
    · rw [grants_cons]
      exact taken.tallies _ _ tallied

theorem still (tracks : Tracks { state := machine, history }) (taken : Step machine event after)
    (same : live (event :: history) = live history)
    (unowned : ∀ scope size, event.owned scope size = size)
    (uncounted : event.allocations = 0 ∧ event.frees machine = 0) :
    Tracks { state := after, history := event :: history } := by
  refine tracks.next taken ?_ ?_ ?_ ?_
  all_goals rw [same]
  · exact fun id listed => .inl listed
  · exact tracks.once
  · exact fun scope => (unowned scope _).symm
  · rw [uncounted.1, uncounted.2]

theorem granted {owner : Option Nat} (tracks : Tracks { state := machine, history })
    (taken : Step machine (.granted heap owner block) after) :
    Tracks { state := after, history := .granted heap owner block :: history } := by
  have answer : (Event.granted heap owner block).answer heap = some (some block) := if_pos rfl
  refine tracks.next taken ?_ ?_ ?_ rfl
  · rintro id (_ | ⟨_, listed⟩)
    · exact .inr ⟨heap, answer⟩
    · exact .inl listed
  · exact List.nodup_cons.mpr ⟨(tracks.fresh taken answer).1, tracks.once⟩
  · intro scope
    cases owner with
    | none => rfl
    | some owner => exact countP_cons_belongs scope owner block (live history)

theorem resized {old new : BlockId} (tracks : Tracks { state := machine, history })
    (free : (old, none) ∈ live history) (taken : Step machine (.resized heap old new) after) :
    Tracks { state := after, history := .resized heap old new :: history } := by
  have answer : (Event.resized heap old new).answer heap = some (some new) := if_pos rfl
  have strikes := strikes_erase free
  refine tracks.next taken ?_ ?_ ?_ strikes.length
  · rintro id (_ | ⟨_, listed⟩)
    · exact .inr ⟨heap, answer⟩
    · exact .inl (strikes.listed id listed)
  · refine List.nodup_cons.mpr ⟨fun listed => ?_, (strikes.once tracks.once).of_cons⟩
    exact (tracks.fresh taken answer).1 (strikes.listed new listed)
  · exact fun scope => strikes.owned scope

theorem released (tracks : Tracks { state := machine, history })
    (free : (block, none) ∈ live history) (taken : Step machine (.released block) after) :
    Tracks { state := after, history := .released block :: history } := by
  have strikes := strikes_erase free
  refine tracks.next taken ?_ ?_ ?_ strikes.length
  · exact fun id listed => .inl (strikes.listed id listed)
  · exact (strikes.once tracks.once).of_cons
  · exact fun scope => strikes.owned scope

theorem registered {scope : Nat} (tracks : Tracks { state := machine, history })
    (free : (block, none) ∈ live history) (taken : Step machine (.registered scope block) after) :
    Tracks { state := after, history := .registered scope block :: history } := by
  have strikes := strikes_erase free
  refine tracks.next taken ?_ (strikes.once tracks.once) ?_ strikes.length
  · rintro id (_ | ⟨_, listed⟩)
    · exact .inl (List.mem_map.mpr ⟨_, free, rfl⟩)
    · exact .inl (strikes.listed id listed)
  · intro id
    rw [live, countP_cons_belongs, strikes.owned]
    rfl

theorem closed {scope : Nat} (tracks : Tracks { state := machine, history })
    (taken : Step machine (.closed scope) after) :
    Tracks { state := after, history := .closed scope :: history } := by
  have rest : (live (.closed scope :: history)).Sublist (live history) := List.filter_sublist
  refine tracks.next taken ?_ ?_ ?_ ?_
  · exact fun id listed => .inl ((rest.map Prod.fst).subset listed)
  · exact (rest.map Prod.fst).nodup tracks.once
  · exact fun id => countP_filter_belongs scope id (live history)
  · have counted : machine.scopeSize scope = _ := tracks.owned scope
    rw [live, Event.frees, counted]
    exact length_filter_belongs scope (live history)

theorem step (tracks : Tracks { state := machine, history }) (taken : Step machine event after)
    (free : ∀ block ∈ event.spent?, (block, none) ∈ live history) :
    Tracks { state := after, history := event :: history } := by
  cases event with
  | granted heap owner block => exact tracks.granted taken
  | resized heap old new => exact tracks.resized (free old rfl) taken
  | released block => exact tracks.released (free block rfl) taken
  | registered scope block => exact tracks.registered (free block rfl) taken
  | closed scope => exact tracks.closed taken
  | taken heap block => exact tracks.still taken rfl (fun _ _ => rfl) ⟨rfl, rfl⟩
  | refused heap => exact tracks.still taken rfl (fun _ _ => rfl) ⟨rfl, rfl⟩
  | idle => exact tracks.still taken rfl (fun _ _ => rfl) ⟨rfl, rfl⟩

end Tracks

/-- A machine that counts from zero, with no scope open. -/
structure Fresh (machine : Machine) : Prop where
  idle : machine.scopes = []
  counts : machine.observer.tracking.counts = true
  counters : machine.observer.counters = {}
  named : ∀ heap, heap < machine.heaps.size → (machine.heap heap).id = heap

theorem Fresh.tracks (fresh : Fresh machine) : Tracks { state := machine } := by
  refine ⟨fresh.named, fun id listed => (nomatch listed), List.nodup_nil, fun scope => ?_,
    ⟨0, rfl, fresh.counts, ?_, ?_⟩⟩
  · rw [Machine.scopeSize, Machine.scope?, fresh.idle]
    rfl
  · rw [fresh.counters]
    rfl
  · rw [fresh.counters]
    rfl

theorem tracks_orderly (fresh : Fresh machine) (commands : List Command) :
    Tracks (orderly machine commands) := by
  refine Run.steps_induction _ (fun run command tracks => ?_) fresh.tracks commands
  rw [Run.step, performOrderly]
  by_cases permitted : permits run.history command
  · rw [if_pos permitted]
    refine tracks.step (step_perform run.state command) fun block spent => ?_
    have named := spares_perform run.state command block spent
    rw [permits, named] at permitted
    exact of_decide_eq_true permitted
  · rw [if_neg permitted]
    exact tracks.step (step_self run.state) fun block spent => nomatch spent

/-- In every orderly run the counters, wherever they wrap, are apart by the number of the blocks
that are there. As long as fewer blocks were granted than the word holds they do not wrap, and the
blocks that are there are those allocated less those freed. Every one of them is there once and was
granted by its heap. -/
theorem balance_of_orderly (machine : Machine) (fresh : Fresh machine) (commands : List Command) :
    let ran := orderly machine commands
    let counters := ran.state.observer.counters
    let blocks := live ran.history
    counters.allocations = Word.wrap (counters.frees + blocks.length) ∧
    (grants ran.history < Word.limit →
      counters.frees ≤ counters.allocations ∧
        counters.allocations - counters.frees = blocks.length) ∧
    (blocks.map Prod.fst).Nodup ∧
    ∀ block ∈ blocks.map Prod.fst, (ran.state.block? block).isSome := by
  intro ran counters blocks
  have tracks : Tracks ran := tracks_orderly fresh commands
  obtain ⟨returned, granted, tallied⟩ := tracks.tallied
  have allocations : counters.allocations = _ := tallied.allocations
  have frees : counters.frees = _ := tallied.frees
  refine ⟨?_, fun below => ?_, tracks.once, fun block listed => ?_⟩
  · rw [allocations, frees, granted]
    exact (Nat.mod_add_mod _ _ _).symm
  · have unwrapped : counters.allocations = grants ran.history :=
      allocations.trans (Nat.mod_eq_of_lt below)
    have unwrapped' : counters.frees = returned := by
      refine frees.trans (Nat.mod_eq_of_lt ?_)
      omega
    have length : blocks.length = (live ran.history).length := rfl
    omega
  · have there := tracks.there block listed
    have named : (ran.state.heap block.heap).id = block.heap :=
      tracks.named _ (present_of_blocks (Nat.zero_lt_of_lt there))
    simpa [Machine.block?, Heap.block?, named] using there

/-- Blocks grow, are resized from nothing and to nothing, copied, adopted by a scope and freed by it,
and requests fail in between. Three times a block is touched that is gone or owned. -/
theorem balance_of_orderly_adopted :
    let machine := (({} : Machine).addRecorder (some 5)).2.observe { tracking := .stats }
    let block (number : Nat) : BlockId := { heap := 1, number }
    let commands : List Command :=
      [.malloc 1 4, .realloc 1 (some (block 0)) 8, .realloc 1 none 3,
        .realloc 1 (some (block 2)) 0, .realloc 1 none 0, .free 1 none none,
        .free 1 (some (block 0)) (some 4), .copyText [104, 105], .copyTerminated none, .openScope 1,
        .scopeAlloc 1 16, .scopeAllocZeroed 1 0 4, .keepRecords true,
        .free 1 (some (block 3)) none, .scopeRegister 1 (some (block 1)),
        .scopeRegister 1 (some (block 1)), .calloc 1 2 2, .malloc 1 1]
    let counted (ran : Run Machine Event) := ran.state.observer.counters.allocations -
      ran.state.observer.counters.frees
    Fresh machine ∧
      (grants (orderly machine commands).history < Word.limit ∧
        counted (orderly machine commands) = 4) ∧
      grants (orderly machine (commands ++ [.closeScope 1])).history < Word.limit ∧
        counted (orderly machine (commands ++ [.closeScope 1])) = 2 := by
  intro machine block commands counted
  have fresh : Fresh machine := by
    refine ⟨rfl, rfl, rfl, fun heap present => ?_⟩
    match heap, present with
    | 0, _ => rfl
    | 1, _ => rfl
  have below : grants (orderly machine commands).history < Word.limit := by decide +kernel
  have below' : grants (orderly machine (commands ++ [.closeScope 1])).history < Word.limit := by
    decide +kernel
  refine ⟨fresh, ⟨below, ?_⟩, below', ?_⟩
  · exact ((balance_of_orderly machine fresh commands).2.1 below).2.trans (by decide +kernel)
  · exact ((balance_of_orderly machine fresh _).2.1 below').2.trans (by decide +kernel)

end Underlay.Blocks
