import Underlay.Machine.Holders
import Underlay.Machine.Pools
import Underlay.Machine.Scopes

/-!
# Acts that do not look at the observer

Everything that is noted on the way goes to the observer, and nothing comes back from it: what an
act on a heap, a scope, a pool, a registry or shared objects gives is the same with any other
observer in its place. Where an act is a loop, so is the proof; what the loop has noted so far is
then one more observer that does not matter.
-/

namespace Underlay

namespace Heap

/-- With another observer the act gives the same and only notes it elsewhere. -/
def Blind {α : Type} (act : Heap → Observer → Except Failure (α × Heap × Observer)) : Prop :=
  ∀ h o o', ∃ noted, act h o' = (act h o).map fun (a, h, _) => (a, h, noted)

theorem blind_malloc (size : Nat) : Blind fun h o => h.malloc size o := by
  intro h o o'
  dsimp only [malloc]
  split
  · exact ⟨o', rfl⟩
  · cases h.allocate size with
    | none => exact ⟨o', rfl⟩
    | some granted => exact ⟨_, rfl⟩

theorem blind_calloc (count size : Nat) : Blind fun h o => h.calloc count size o := by
  intro h o o'
  dsimp only [calloc]
  split
  · exact ⟨o', rfl⟩
  · cases Word.fit? (count * size) with
    | none => exact ⟨o', rfl⟩
    | some total =>
        dsimp only
        cases h.allocateZeroed total with
        | none => exact ⟨o', rfl⟩
        | some granted => exact ⟨_, rfl⟩

theorem blind_realloc (old : Option BlockId) (size : Nat) :
    Blind fun h o => h.realloc old size o := by
  intro h o o'
  dsimp only [realloc]
  split
  · cases old with
    | none => exact ⟨o', rfl⟩
    | some id => exact ⟨_, rfl⟩
  · cases h.reallocate old size with
    | none => exact ⟨o', rfl⟩
    | some granted => exact ⟨_, rfl⟩

theorem blind_duplicate (bytes : Array UInt8) : Blind fun h o => h.duplicate bytes o := by
  intro h o o'
  obtain ⟨noted, law⟩ := blind_malloc bytes.size h o o'
  refine ⟨noted, ?_⟩
  dsimp only [duplicate] at law ⊢
  rw [law]
  cases h.malloc bytes.size o <;> rfl

theorem blind_duplicateText (text : Array UInt8) : Blind fun h o => h.duplicateText text o :=
  blind_duplicate (text.push 0)

theorem blind_duplicateTerminated (text : Option (Array UInt8)) :
    Blind fun h o => h.duplicateTerminated text o := by
  cases text with
  | none => exact fun _ _ o' => ⟨o', rfl⟩
  | some bytes => exact blind_duplicateText _

end Heap

namespace Scope

variable (s : Scope) (h : Heap) (o o' : Observer)

theorem alloc_observer (size : Nat) : (s.alloc h size o').1 = (s.alloc h size o).1 := by
  obtain ⟨noted, law⟩ := Heap.blind_malloc size h o o'
  dsimp only [alloc] at law ⊢
  rw [law]
  cases h.malloc size o <;> rfl

theorem allocZeroed_observer (count size : Nat) :
    (s.allocZeroed h count size o').1 = (s.allocZeroed h count size o).1 := by
  obtain ⟨noted, law⟩ := Heap.blind_calloc count size h o o'
  dsimp only [allocZeroed] at law ⊢
  rw [law]
  cases h.calloc count size o <;> rfl

theorem register_observer (block : Option BlockId) :
    (s.register block o').1 = (s.register block o).1 := by
  cases block <;> rfl

theorem releaseAll_observer (registrations : List Registration) :
    (releaseAll registrations h o').1 = (releaseAll registrations h o).1 := by
  induction registrations generalizing h o o' with
  | nil => rfl
  | cons r rest inductionHypothesis => exact inductionHypothesis _ _ _

theorem close_observer : (s.close h o').1 = (s.close h o).1 :=
  releaseAll_observer h o o' s.owned

end Scope

namespace Pool

variable (p : Pool) (system : System) (o o' : Observer)

theorem make_observer (id capacity : Nat) :
    (make system id capacity o').1 = (make system id capacity o).1 := by
  unfold make
  cases refusal? system capacity <;> rfl

theorem grow_observer (needed : Nat) :
    (p.grow system needed o').1 = (p.grow system needed o).1 := by
  unfold grow
  cases enlarge p.capacity needed with
  | none => rfl
  | some capacity =>
      dsimp only
      cases admitBuffer capacity with
      | error failure => rfl
      | ok =>
          dsimp only
          split <;> rfl

theorem alloc_observer (size : Nat) : (p.alloc system size o').1 = (p.alloc system size o).1 := by
  unfold alloc
  cases p.demand? size with
  | none => rfl
  | some needed =>
      dsimp only
      split
      · rw [p.grow_observer system o o']
      · rfl

end Pool

namespace Registry

/-- What a cleanup reports decides neither which cleanups run nor their order. -/
theorem runAll_observer (entries : List Entry) (o o' : Observer) :
    (runAll entries o').1 = (runAll entries o).1 := by
  induction entries generalizing o o' with
  | nil => rfl
  | cons entry rest inductionHypothesis =>
      exact congrArg (entry.cleanup :: ·) (inductionHypothesis _ _)

end Registry

namespace Objects

variable {π : Type}

theorem retain_observer (s : Objects π) (id : ObjectId) (o o' : Observer) :
    (s.retain id o').1 = (s.retain id o).1 := by
  unfold retain
  cases s.get? id <;> rfl

/-- Neither which objects are destroyed nor what happens on the way depends on the observer. -/
theorem giveUp_observer (s : Objects π) (o o' : Observer) (pending : List ObjectId) :
    (s.giveUp o' pending).1 = (s.giveUp o pending).1 ∧
      (s.giveUp o' pending).2.2 = (s.giveUp o pending).2.2 := by
  fun_induction giveUp s o pending generalizing o' with
  | case1 s o => simp [giveUp]
  | case2 s o id rest absent inductionHypothesis =>
      rw [giveUp]
      split
      · exact inductionHypothesis o'
      · simp_all
  | case3 s o id rest object present shared left s' noted happened again inductionHypothesis =>
      rw [giveUp]
      split
      · simp_all
      · rename_i object' present'
        obtain rfl := Option.some.inj (present.symm.trans present')
        rw [if_pos shared]
        have same := inductionHypothesis (o'.emit (event "release" id ("count=" ++ toString left)))
        rw [again] at same
        exact ⟨same.1, congrArg (.released id left :: ·) same.2⟩
  | case4 s o id rest object present unshared s' noted happened again inductionHypothesis =>
      rw [giveUp]
      split
      · simp_all
      · rename_i object' present'
        obtain rfl := Option.some.inj (present.symm.trans present')
        rw [if_neg unshared]
        have same := inductionHypothesis (report object (o'.emit (event "destroy" id)))
        rw [again] at same
        exact ⟨same.1, congrArg (.released id 0 :: ending id object ++ ·) same.2⟩

end Objects

end Underlay
