import Underlay.Proofs.Sharing.Balance
import Underlay.Proofs.Sharing.Parting

/-!
# Objects and their records

How many objects there are, how many holders they count, and how many of these are references that
live objects keep: every call moves these numbers by what it records. A destruction turns the
references that the object kept into holders outside, which are then given up in their turn.
-/

namespace Underlay

/-- How many records of one kind there are. -/
def Lifecycle.tally (component name : String) (events : List Lifecycle.Event) : Nat :=
  events.countP fun event => event.component == component && event.name == name

namespace Lifecycle

theorem tally_append (component name : String) (events more : List Event) :
    tally component name (events ++ more) =
      tally component name events + tally component name more :=
  List.countP_append

theorem tally_eq_zero {component : String} {events : List Event}
    (others : ∀ event ∈ events, event.component ≠ component) (name : String) :
    tally component name events = 0 :=
  List.countP_eq_zero.mpr fun event listed => by simp [others event listed]

end Lifecycle

namespace Objects

open Lifecycle (tally)

variable {π : Type} {s s' : Objects π} {id : ObjectId} {object : Object π}
  {held : List ObjectId}

def holders (s : Objects π) : Nat :=
  total Object.count s.slots

def living (s : Objects π) : Nat :=
  total (fun _ => 1) s.slots

/-- How many references live objects keep. -/
def kept (s : Objects π) : Nat :=
  total (fun object => object.children.length) s.slots

/-- What a call does that leaves other handles outside and these events recorded. -/
structure Shift (s s' : Objects π) (held held' : List ObjectId)
    (events : List Lifecycle.Event) : Prop where
  counted : s'.Counted held'
  holders : s.holders + tally "refcount" "new" events + tally "refcount" "retain" events =
    s'.holders + tally "refcount" "release" events + tally "refcount" "destroy" events
  living : s.living + tally "refcount" "new" events =
    s'.living + tally "refcount" "destroy" events
  /-- The holders are handles outside and references that are kept, as before. -/
  outside : s'.holders + held.length + s.kept = s.holders + held'.length + s'.kept

/-- The order of the handles outside does not matter. -/
theorem Shift.of_perm {held' outside outside' : List ObjectId} {events : List Lifecycle.Event}
    (shift : Shift s s' held held' events) (before : held.Perm outside)
    (behind : held'.Perm outside') : Shift s s' outside outside' events := by
  obtain ⟨counted, holders, living, kept⟩ := shift
  refine ⟨counted.of_perm behind, holders, living, ?_⟩
  rw [← before.length_eq, ← behind.length_eq]
  exact kept

theorem tally_event (kind name : String) (id : ObjectId) (details : String) :
    tally "refcount" kind [event name id details] = if name = kind then 1 else 0 := by
  simp [tally, event, List.countP_cons]

/-! How the numbers move when one object changes. -/

theorem holders_set (present : s.get? id = some object) (new : Option (Object π)) :
    (s.set id new).holders + object.count = s.holders + (new.map Object.count).getD 0 := by
  have step := total_set Object.count (getElem?_of_get? present) new
  cases new <;> simpa [holders, set, total] using step

theorem living_set (present : s.get? id = some object) (new : Option (Object π)) :
    (s.set id new).living + 1 = s.living + new.isSome.toNat := by
  have step := total_set (fun _ => 1) (getElem?_of_get? present) new
  cases new <;> simpa [living, set, total] using step

theorem kept_set (present : s.get? id = some object) (new : Option (Object π)) :
    (s.set id new).kept + object.children.length =
      s.kept + ((new.map Object.children).getD []).length := by
  have step := total_set (fun object => object.children.length) (getElem?_of_get? present) new
  cases new <;> simpa [kept, set, total] using step

theorem shift_create {children others : List ObjectId} (counted : s.Counted held)
    (taken : held.Perm (children ++ others)) (payload : π) (destructor : Option (Destructor π))
    (o : Observer) :
    Shift s (s.create payload destructor children o).2.1 held (s.slots.length :: others)
      [event "new" s.slots.length] := by
  refine ⟨(counted.of_perm taken).create payload destructor o, ?_, ?_, ?_⟩
  · simp [holders, create, total_append, total, tally_event]
  · simp [living, create, total_append, total, tally_event]
  · have length := taken.length_eq
    rw [List.length_append] at length
    simp only [holders, kept, create, total_append, total, List.length_cons, Nat.add_zero]
    omega

theorem shift_retain (counted : s.Counted held) (present : s.get? id = some object)
    (o : Observer) :
    Shift s (s.retain id o).1 held (id :: held)
      [event "retain" id ("count=" ++ toString (object.count + 1))] := by
  have recounted :
      (s.retain id o).1 = s.set id (some { object with count := object.count + 1 }) := by
    simp only [retain, present]
  have holders := holders_set present (some { object with count := object.count + 1 })
  have living := living_set present (some { object with count := object.count + 1 })
  have kept := kept_set present (some { object with count := object.count + 1 })
  simp only [Option.map_some, Option.getD_some, Option.isSome_some, Bool.toNat_true] at *
  rw [recounted]
  refine ⟨counted.recount present (Nat.succ_pos _) ?_ ?_, ?_, ?_, ?_⟩
  · rw [List.count_cons_self]
    omega
  · intro other distinct
    exact List.count_cons_of_ne (Ne.symm distinct)
  · simp only [tally_event, String.reduceEq, if_true, if_false]
    omega
  · simp only [tally_event, String.reduceEq, if_false]
    omega
  · rw [List.length_cons]
    omega

/-- Handles that go into a payload or out of it are no others for that, and nothing is recorded. -/
theorem shift_refill {children others : List ObjectId} (counted : s.Counted held)
    (present : s.get? id = some object)
    (moved : (object.children ++ held).Perm (children ++ others)) :
    Shift s (s.set id (some { object with children })) held others [] := by
  have holders := holders_set present (some { object with children })
  have living := living_set present (some { object with children })
  have kept := kept_set present (some { object with children })
  have length := moved.length_eq
  rw [List.length_append, List.length_append] at length
  simp only [Option.map_some, Option.getD_some, Option.isSome_some, Bool.toNat_true] at *
  have none (name : String) : tally "refcount" name [] = 0 := rfl
  refine ⟨counted.refill present moved, ?_, ?_, ?_⟩
  · simp only [none]
    omega
  · simp only [none]
    omega
  · omega

/-- Letting go of a holder that is the first of several. -/
theorem shift_letGo {others : List ObjectId} (counted : s.Counted (id :: others))
    (present : s.get? id = some object) (shared : 1 < object.count) :
    Shift s (s.set id (some { object with count := object.count - 1 })) (id :: others) others
      [event "release" id ("count=" ++ toString (object.count - 1))] := by
  have holders := holders_set present (some { object with count := object.count - 1 })
  have living := living_set present (some { object with count := object.count - 1 })
  have kept := kept_set present (some { object with count := object.count - 1 })
  simp only [Option.map_some, Option.getD_some, Option.isSome_some, Bool.toNat_true] at *
  refine ⟨counted.recount present (Nat.sub_pos_of_lt shared) ?_ ?_, ?_, ?_, ?_⟩
  · rw [List.count_cons_self]
    omega
  · intro other distinct
    exact (List.count_cons_of_ne (Ne.symm distinct)).symm
  · simp only [tally_event, String.reduceEq, if_true, if_false]
    omega
  · simp only [tally_event, String.reduceEq, if_false]
    omega
  · rw [List.length_cons]
    omega

/-- Letting go of the last holder, which leaves the references that the object kept outside. -/
theorem shift_letGo_last {others : List ObjectId} (counted : s.Counted (id :: others))
    (present : s.get? id = some object) (last : ¬ 1 < object.count) :
    Shift s (s.set id none) (id :: others) (object.children ++ others)
      [event "destroy" id] := by
  have positive := counted.positive id object present
  have holders := holders_set present none
  have living := living_set present none
  have kept := kept_set present none
  simp only [Option.map_none, Option.getD_none, Option.isSome_none, Bool.toNat_false,
    List.length_nil] at *
  refine ⟨counted.destroy present (by omega), ?_, ?_, ?_⟩
  · simp only [tally_event, String.reduceEq, if_true, if_false]
    omega
  · simp only [tally_event, String.reduceEq, if_true, if_false]
    omega
  · rw [List.length_cons, List.length_append]
    omega

end Objects

end Underlay
