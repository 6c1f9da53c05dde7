import Underlay.Boundary.Containers
import Underlay.Proofs.Containers.Encoding

/-!
# Containers behind tables refine typed containers

Generated code hands over pointers, and callbacks that look behind them. A table and a container
present a typed one if the callbacks are there and answer with pointers to what it holds, a null
pointer standing for nothing. An entry point then does what the operation on the typed container
does, call by call. If anything is missing it refuses, and no callback has run. The two cases leave
nothing out: whatever is complete presents at least its own list of pointers.
-/

namespace Underlay.Boundary

/-- An entry point carries an operation over: its answer encodes the result or is reserved for the
failure, which it leaves in the slot, and its calls are the calls of the operation. -/
structure Carries {ρ β δ δ' : Type} (operation : Except Failure ρ × List δ) (encode : ρ → β)
    (reserved : β) (call : δ → δ') (entry : Machine → β × Machine) (calls : List δ') : Prop where
  answer : ∀ machine, (entry machine).1 =
    match operation.1 with
    | .ok result => encode result
    | .error _ => reserved
  state : ∀ machine, (entry machine).2 = machine.note operation.1
  calls : calls = operation.2.map call

/-- An entry point refuses: it answers with the reserved value, leaves the failure for something
missing, and calls nothing. -/
structure Refuses {β δ : Type} (operation : String) (reserved : β) (entry : Machine → β × Machine)
    (calls : List δ) : Prop where
  answer : ∀ machine, entry machine =
    (reserved, machine.note (.error (invalid operation) : Except Failure β))
  calls : calls = []

/-- An operation that cannot fail, as one that could. -/
def total {ρ δ : Type} (made : ρ × List δ) : Except Failure ρ × List δ :=
  (.ok made.1, made.2)

section Answering

variable {ρ σ β δ δ' : Type}

theorem carries_of_eq {operation : Except Failure ρ × List δ} {made : Except Failure β × List δ'}
    {encode : ρ → β} {call : δ → δ'}
    (carried : made = (operation.1.map encode, operation.2.map call)) (reserved : β) :
    Carries operation encode reserved call (answer reserved made.1) made.2 := by
  obtain ⟨result, calls⟩ := operation
  subst carried
  cases result with
  | ok r => exact ⟨fun machine => rfl, fun machine => rfl, rfl⟩
  | error failure => exact ⟨fun machine => rfl, fun machine => rfl, rfl⟩

theorem carries_map_of_eq {operation : Except Failure ρ × List δ}
    {made : Except Failure σ × List δ'} {encode : ρ → σ} {call : δ → δ'}
    (carried : made = (operation.1.map encode, operation.2.map call)) (reserved : β)
    (value : σ → β) :
    Carries operation (fun result => value (encode result)) reserved call
      (answer reserved (made.1.map value)) made.2 := by
  have mapped : (made.1.map value, made.2) =
      (operation.1.map fun result => value (encode result), operation.2.map call) := by
    rw [carried]
    cases operation.1 with
    | ok r => rfl
    | error failure => rfl
  exact carries_of_eq mapped reserved

theorem refuses_of_eq {operation : String} {made : Except Failure β × List δ}
    (refused : made = (.error (invalid operation), [])) (reserved : β) :
    Refuses operation reserved (answer reserved made.1) made.2 := by
  subst refused
  exact ⟨fun machine => rfl, rfl⟩

theorem refuses_map_of_eq {operation : String} {made : Except Failure σ × List δ}
    (refused : made = (.error (invalid operation), [])) (reserved : β) (value : σ → β) :
    Refuses operation reserved (answer reserved (made.1.map value)) made.2 := by
  subst refused
  exact ⟨fun machine => rfl, rfl⟩

end Answering

variable {α γ ε κ κ' υ υ' : Type}

/-- The callbacks of a table are there and answer for the container as the typed sequence does, with
pointers to its elements. -/
structure SequenceTable.Presents (table : SequenceTable γ ε) (container : γ) (encode : α → ε)
    (s : Sequence α) : Prop where
  typeName : (table.typeName.map textOf).getD "sequence" = s.typeName
  size : ∃ size, table.size = some size ∧ size container = s.size
  element : ∃ element, table.element = some element ∧
    ∀ index < s.size, element container index = (s.at? index).map encode

/-- The callbacks that every operation on a map needs are there and answer for the container as the
typed mapping does. The text of a key is what its callback writes, or its address. -/
structure MapTable.Presents (table : MapTable γ κ' υ') (container : γ) (key : κ → κ')
    (m : Mapping κ υ) : Prop where
  typeName : (table.typeName.map textOf).getD "map" = m.typeName
  size : ∃ size, table.size = some size ∧ size container = m.size
  contains : ∃ contains, table.contains = some contains ∧
    ∀ k, (contains container (key k) != 0) = m.contains k
  describe : ∀ k, m.describe k =
    match table.describe with
    | some describe => (describe (key k)).text
    | none => "0x" ++ Lifecycle.hexadecimal 1 (table.address (key k))

/-- The callback for values is there and answers with pointers to the values of contained keys. -/
def MapTable.Gets (table : MapTable γ κ' υ') (container : γ) (key : κ → κ') (value : υ → υ')
    (m : Mapping κ υ) : Prop :=
  ∃ get, table.get = some get ∧
    ∀ k, m.contains k → get container (key k) = (m.get? k).map value

/-- A table, a container or a callback for elements is missing. -/
def SequenceTable.Lacks (table : Option (SequenceTable γ ε)) (container : Option γ) : Prop :=
  match table, container with
  | some table, some _ => table.size = none ∨ table.element = none
  | _, _ => True

/-- A table, a container or a callback for membership is missing. -/
def MapTable.Lacks (table : Option (MapTable γ κ' υ')) (container : Option γ) : Prop :=
  match table, container with
  | some table, some _ => table.size = none ∨ table.contains = none
  | _, _ => True

section Loading

theorem SequenceTable.Presents.load {table : SequenceTable γ ε} {container : γ} {encode : α → ε}
    {s : Sequence α} (presents : table.Presents container encode s) (operation : String) :
    ∃ t, SequenceTable.load (some table) (some container) operation = .ok t ∧
      s.Encodes encode t := by
  obtain ⟨size, sized, counted⟩ := presents.size
  obtain ⟨element, reads, answered⟩ := presents.element
  refine ⟨_, load_of_present sized reads container operation, ?_⟩
  exact { typeName := presents.typeName, size := counted, at? := answered }

theorem MapTable.Presents.load {table : MapTable γ κ' υ'} {container : γ} {key : κ → κ'}
    {m : Mapping κ υ} (presents : table.Presents container key m) (operation : String) :
    ∃ n, MapTable.load (some table) (some container) operation = .ok (table, n) ∧
      m.Encodes key n ∧
      n.get? = fun k => table.get.bind fun get => get container k := by
  obtain ⟨size, sized, counted⟩ := presents.size
  obtain ⟨contains, asks, answered⟩ := presents.contains
  refine ⟨_, load_of_present sized asks container operation, ?_, rfl⟩
  exact { typeName := presents.typeName, contains := answered,
          describe := fun k => (presents.describe k).symm }

/-- A check that fails only for something missing. -/
def Demands {α : Type} (operation : String) (checked : Except Failure α) : Prop :=
  ∀ failure, checked = .error failure → failure = invalid operation

theorem demands_demand {α : Type} (operation : String) (part : Option α) :
    Demands operation (demand operation part) := by
  intro failure refused
  cases part with
  | some a => cases refused
  | none => exact (Except.error.inj refused).symm

theorem Demands.bind {α β : Type} {operation : String} {checked : Except Failure α}
    {next : α → Except Failure β} (demands : Demands operation checked)
    (later : ∀ a, Demands operation (next a)) : Demands operation (checked >>= next) := by
  cases checked with
  | ok a => exact later a
  | error failure =>
      intro failure' refused
      obtain rfl := Except.error.inj refused
      exact demands failure rfl

theorem SequenceTable.demands_load (table : Option (SequenceTable γ ε)) (container : Option γ)
    (operation : String) : Demands operation (load table container operation) := by
  apply (demands_demand operation table).bind
  intro table
  apply (demands_demand operation container).bind
  intro container
  apply (demands_demand operation table.size).bind
  intro size
  apply (demands_demand operation table.element).bind
  intro element failure refused
  cases refused

theorem MapTable.demands_load (table : Option (MapTable γ κ' υ')) (container : Option γ)
    (operation : String) : Demands operation (load table container operation) := by
  apply (demands_demand operation table).bind
  intro table
  apply (demands_demand operation container).bind
  intro container
  apply (demands_demand operation table.size).bind
  intro size
  apply (demands_demand operation table.contains).bind
  intro contains failure refused
  cases refused

theorem ok_of_bind {α β : Type} {checked : Except Failure α} {next : α → Except Failure β} {b : β}
    (made : checked >>= next = .ok b) : ∃ a, checked = .ok a ∧ next a = .ok b := by
  cases checked with
  | ok a => exact ⟨a, rfl, made⟩
  | error failure => cases made

theorem some_of_demand {α : Type} {operation : String} {part : Option α} {a : α}
    (present : demand operation part = .ok a) : part = some a := by
  cases part with
  | some b => exact congrArg some (Except.ok.inj present)
  | none => cases present

theorem SequenceTable.not_lacks_of_load {table : Option (SequenceTable γ ε)} {container : Option γ}
    {operation : String} {t : Sequence ε} (loaded : load table container operation = .ok t) :
    ¬Lacks table container := by
  obtain ⟨table', given, loaded⟩ := ok_of_bind loaded
  obtain ⟨container', held, loaded⟩ := ok_of_bind loaded
  obtain ⟨size, sized, loaded⟩ := ok_of_bind loaded
  obtain ⟨element, reads, -⟩ := ok_of_bind loaded
  rw [some_of_demand given, some_of_demand held]
  simp [Lacks, some_of_demand sized, some_of_demand reads]

theorem MapTable.load_eq_ok {table : Option (MapTable γ κ' υ')} {container : Option γ}
    {operation : String} {t : MapTable γ κ' υ'} {n : Mapping κ' υ'}
    (loaded : load table container operation = .ok (t, n)) :
    table = some t ∧ ¬Lacks table container := by
  obtain ⟨table', given, loaded⟩ := ok_of_bind loaded
  obtain ⟨container', held, loaded⟩ := ok_of_bind loaded
  obtain ⟨size, sized, loaded⟩ := ok_of_bind loaded
  obtain ⟨contains, asks, loaded⟩ := ok_of_bind loaded
  obtain ⟨rfl, -⟩ := Prod.mk.inj (Except.ok.inj loaded)
  rw [some_of_demand given, some_of_demand held]
  exact ⟨rfl, by simp [Lacks, some_of_demand sized, some_of_demand asks]⟩

end Loading

section Carrying

variable {table : SequenceTable γ ε} {container other : γ} {encode : α → ε} {s s' : Sequence α}

theorem carries_element (presents : table.Presents container encode s) (index : Int) :
    Carries (s.element index) (fun e => some (encode e)) none (Sequence.Call.map encode)
      (answerPointer (element (some table) (some container) index).1)
      (element (some table) (some container) index).2 := by
  obtain ⟨t, loaded, encodes⟩ := presents.load "pyrt_safe_at"
  apply carries_map_of_eq
  unfold element
  rw [loaded]
  exact encodes.element index

theorem carries_enumerate (presents : table.Presents container encode s) :
    Carries (total s.enumerate) (fun seen => clip seen.length) (-1) (Sequence.Call.map encode)
      (answerCount (enumerate (some table) (some container) true).1)
      (enumerate (some table) (some container) true).2 := by
  obtain ⟨t, loaded, encodes⟩ := presents.load "pyrt_enumerate"
  have carried : enumerate (some table) (some container) true =
      ((total s.enumerate).1.map (List.map fun entry => (entry.1, encode entry.2)),
        (total s.enumerate).2.map (Sequence.Call.map encode)) := by
    have made : enumerate (some table) (some container) true = total t.enumerate := by
      unfold enumerate
      rw [loaded]
      rfl
    rw [made, encodes.enumerate]
    rfl
  have carries := carries_map_of_eq carried (-1) fun seen => clip seen.length
  simp only [List.length_map] at carries
  exact carries

variable {alike : ε → ε → Int} {same : α → α → Bool}

theorem carries_sequenceContains (presents : table.Presents container encode s)
    (compares : ∀ x y, (alike (encode x) (encode y) != 0) = same x y) (target : α) :
    Carries (total (s.contains same target)) flag 0 (Sequence.Call.map encode)
      (answer 0
        (sequenceContains (some table) (some container) (some (encode target)) (some alike)).1)
      (sequenceContains (some table) (some container) (some (encode target)) (some alike)).2 := by
  obtain ⟨t, loaded, encodes⟩ := presents.load "pyrt_sequence_contains"
  apply carries_of_eq
  have made : sequenceContains (some table) (some container) (some (encode target)) (some alike) =
      ((total (t.contains (fun a b => alike a b != 0) (encode target))).1.map flag,
        (t.contains (fun a b => alike a b != 0) (encode target)).2) := by
    unfold sequenceContains
    rw [loaded]
    rfl
  rw [made, encodes.contains compares]
  rfl

theorem carries_equal (presents : table.Presents container encode s)
    (presents' : table.Presents other encode s')
    (compares : ∀ x y, (alike (encode x) (encode y) != 0) = same x y) :
    Carries (total (s.equal s' same)) flag 0 (Sequence.Call.map encode)
      (answer 0 (equal (some table) (some container) (some other) (some alike)).1)
      (equal (some table) (some container) (some other) (some alike)).2 := by
  obtain ⟨t, loaded, encodes⟩ := presents.load "pyrt_equal"
  obtain ⟨t', loaded', encodes'⟩ := presents'.load "pyrt_equal"
  apply carries_of_eq
  have made : equal (some table) (some container) (some other) (some alike) =
      ((total (t.equal t' fun x y => alike x y != 0)).1.map flag,
        (t.equal t' fun x y => alike x y != 0).2) := by
    unfold equal
    rw [loaded, loaded']
    rfl
  rw [made, encodes.equal compares encodes']
  rfl

variable {table : MapTable γ κ' υ'} {key : κ → κ'} {value : υ → υ'} {m : Mapping κ υ}

theorem carries_lookup (presents : table.Presents container key m)
    (gets : table.Gets container key value m) (k : κ) :
    Carries (m.lookup k) (fun v => some (value v)) none (Mapping.Call.map key value)
      (answerPointer (lookup (some table) (some container) (some (key k))).1)
      (lookup (some table) (some container) (some (key k))).2 := by
  obtain ⟨n, loaded, encodes, reads⟩ := presents.load "pyrt_safe_get"
  obtain ⟨get, present, answered⟩ := gets
  have found (k : κ) (contained : m.contains k) : n.get? (key k) = (m.get? k).map value := by
    rw [reads, present]
    exact answered k contained
  apply carries_map_of_eq
  have made : lookup (some table) (some container) (some (key k)) = n.lookup (key k) := by
    unfold lookup
    rw [loaded]
    simp only [bind, Except.bind, demand, present]
    rfl
  rw [made, encodes.lookup found]

theorem carries_contains (presents : table.Presents container key m) (k : κ) :
    Carries (total (m.contains k, [.contains k])) flag 0 (Mapping.Call.map key value)
      (answer 0 (contains (some table) (some container) (some (key k))).1)
      (contains (some table) (some container) (some (key k))).2 := by
  obtain ⟨n, loaded, encodes, -⟩ := presents.load "pyrt_contains"
  apply carries_of_eq
  have made : contains (some table) (some container) (some (key k)) =
      (.ok (flag (n.contains (key k))), [.contains (key k)]) := by
    unfold contains
    rw [loaded]
    rfl
  rw [made, encodes.contains]
  rfl

end Carrying

section Refusing

theorem refused_bind {β δ : Type} {operation : String} {checked : Except Failure α}
    {next : α → Except Failure (Except Failure β × List δ)} (demands : Demands operation checked)
    (later : ∀ a, checked = .ok a → calling (next a) = (.error (invalid operation), [])) :
    calling (checked >>= next) = (.error (invalid operation), []) := by
  cases checked with
  | ok a => exact later a rfl
  | error failure =>
      rw [demands failure rfl]
      rfl

variable {table : Option (SequenceTable γ ε)} {container other : Option γ}

theorem refuses_element (missing : SequenceTable.Lacks table container) (index : Int) :
    Refuses "pyrt_safe_at" none (answerPointer (element table container index).1)
      (element table container index).2 := by
  apply refuses_map_of_eq
  apply refused_bind (SequenceTable.demands_load table container _)
  intro t loaded
  exact absurd missing (SequenceTable.not_lacks_of_load loaded)

theorem refuses_enumerate {visitor : Bool}
    (missing : SequenceTable.Lacks table container ∨ visitor = false) :
    Refuses "pyrt_enumerate" (-1) (answerCount (enumerate table container visitor).1)
      (enumerate table container visitor).2 := by
  apply refuses_map_of_eq
  apply refused_bind (SequenceTable.demands_load table container _)
  intro t loaded
  rcases missing with lacks | absent
  · exact absurd lacks (SequenceTable.not_lacks_of_load loaded)
  · rw [absent]
    rfl

theorem refuses_sequenceContains {target : Option ε} {alike : Option (ε → ε → Int)}
    (missing : SequenceTable.Lacks table container ∨ target = none ∨ alike = none) :
    Refuses "pyrt_sequence_contains" 0 (answer 0 (sequenceContains table container target alike).1)
      (sequenceContains table container target alike).2 := by
  apply refuses_of_eq
  apply refused_bind (SequenceTable.demands_load table container _)
  intro t loaded
  apply refused_bind (demands_demand _ alike)
  intro alike' compares
  apply refused_bind (demands_demand _ target)
  intro target' present
  rcases missing with lacks | absent | absent
  · exact absurd lacks (SequenceTable.not_lacks_of_load loaded)
  · rw [absent] at present
    cases present
  · rw [absent] at compares
    cases compares

theorem refuses_equal {alike : Option (ε → ε → Int)}
    (missing : SequenceTable.Lacks table container ∨ SequenceTable.Lacks table other ∨
      alike = none) :
    Refuses "pyrt_equal" 0 (answer 0 (equal table container other alike).1)
      (equal table container other alike).2 := by
  apply refuses_of_eq
  apply refused_bind (SequenceTable.demands_load table container _)
  intro t loaded
  apply refused_bind (SequenceTable.demands_load table other _)
  intro t' loaded'
  rcases missing with lacks | lacks | absent
  · exact absurd lacks (SequenceTable.not_lacks_of_load loaded)
  · exact absurd lacks (SequenceTable.not_lacks_of_load loaded')
  · rw [absent]
    rfl

variable {table : Option (MapTable γ κ' υ')} {key : Option κ'}

theorem refuses_lookup
    (missing : MapTable.Lacks table container ∨ table.bind MapTable.get = none ∨ key = none) :
    Refuses "pyrt_safe_get" none (answerPointer (lookup table container key).1)
      (lookup table container key).2 := by
  apply refuses_map_of_eq
  apply refused_bind (MapTable.demands_load table container _)
  rintro ⟨t, n⟩ loaded
  obtain ⟨rfl, complete⟩ := MapTable.load_eq_ok loaded
  apply refused_bind (demands_demand _ t.get)
  intro get present
  apply refused_bind (demands_demand _ key)
  intro key' given
  rcases missing with lacks | absent | absent
  · exact absurd lacks complete
  · change t.get = none at absent
    rw [absent] at present
    cases present
  · rw [absent] at given
    cases given

theorem refuses_contains (missing : MapTable.Lacks table container ∨ key = none) :
    Refuses "pyrt_contains" 0 (answer 0 (contains table container key).1)
      (contains table container key).2 := by
  apply refuses_of_eq
  apply refused_bind (MapTable.demands_load table container _)
  rintro ⟨t, n⟩ loaded
  apply refused_bind (demands_demand _ key)
  intro key' given
  rcases missing with lacks | absent
  · exact absurd lacks (MapTable.load_eq_ok loaded).2
  · rw [absent] at given
    cases given

end Refusing

/-! Whatever is complete presents something. -/

/-- A complete table presents the list of the pointers that it answers with. -/
theorem SequenceTable.presents_of_complete {table : SequenceTable γ ε} {container : γ}
    (complete : ¬Lacks (some table) (some container)) :
    ∃ typeName slots, table.Presents container id (Sequence.ofSlots typeName slots) := by
  obtain ⟨counts, answers⟩ := not_or.mp complete
  obtain ⟨size, sized⟩ := Option.ne_none_iff_exists'.mp counts
  obtain ⟨element, reads⟩ := Option.ne_none_iff_exists'.mp answers
  refine ⟨_, Array.ofFn fun index : Fin (size container) => element container index, rfl, ?_, ?_⟩
  · exact ⟨size, sized, by simp [Sequence.ofSlots]⟩
  · refine ⟨element, reads, ?_⟩
    intro index inside
    simp only [Sequence.ofSlots, Array.size_ofFn] at inside
    simp [Sequence.ofSlots, inside]

/-- A complete table presents the mapping of pointers that its callbacks make up. -/
theorem MapTable.presents_of_complete {table : MapTable γ κ' υ'} {container : γ}
    (complete : ¬Lacks (some table) (some container)) :
    ∃ m : Mapping κ' υ', table.Presents container id m ∧
      (table.get ≠ none → table.Gets container id id m) := by
  obtain ⟨counts, answers⟩ := not_or.mp complete
  obtain ⟨size, sized⟩ := Option.ne_none_iff_exists'.mp counts
  obtain ⟨contains, asks⟩ := Option.ne_none_iff_exists'.mp answers
  refine ⟨table.mapping size contains container, ⟨rfl, ⟨size, sized, rfl⟩, ?_, fun k => rfl⟩, ?_⟩
  · exact ⟨contains, asks, fun k => rfl⟩
  · intro present
    obtain ⟨get, reads⟩ := Option.ne_none_iff_exists'.mp present
    refine ⟨get, reads, ?_⟩
    intro k _
    simp [mapping, reads]

/-- The six entry points refine the operations on typed containers whose elements, keys and values
have pointers by `encode`, `key` and `value`; what is complete presents something. -/
structure Refinement (γ : Type) (encode : α → ε) (key : κ → κ') (value : υ → υ') : Prop where
  presented : ∀ {table : SequenceTable γ ε} {container},
    ¬SequenceTable.Lacks (some table) (some container) →
    ∃ typeName slots, table.Presents container id (Sequence.ofSlots typeName slots)
  mapPresented : ∀ {table : MapTable γ κ' υ'} {container},
    ¬MapTable.Lacks (some table) (some container) →
    ∃ m : Mapping κ' υ', table.Presents container id m ∧
      (table.get ≠ none → table.Gets container id id m)
  element : ∀ {table : SequenceTable γ ε} {container s}, table.Presents container encode s →
    ∀ index, Carries (s.element index) (fun e => some (encode e)) none
      (Sequence.Call.map encode)
      (answerPointer (element (some table) (some container) index).1)
      (element (some table) (some container) index).2
  elementRefused : ∀ {table : Option (SequenceTable γ ε)} {container},
    SequenceTable.Lacks table container →
    ∀ index, Refuses "pyrt_safe_at" none (answerPointer (Boundary.element table container index).1)
      (Boundary.element table container index).2
  sequenceContains : ∀ {table : SequenceTable γ ε} {container s alike same},
    table.Presents container encode s →
    (∀ x y, (alike (encode x) (encode y) != 0) = same x y) →
    ∀ target, Carries (total (s.contains same target)) flag 0 (Sequence.Call.map encode)
      (answer 0
        (sequenceContains (some table) (some container) (some (encode target)) (some alike)).1)
      (sequenceContains (some table) (some container) (some (encode target)) (some alike)).2
  sequenceContainsRefused : ∀ {table : Option (SequenceTable γ ε)} {container target alike},
    SequenceTable.Lacks table container ∨ target = none ∨ alike = none →
    Refuses "pyrt_sequence_contains" 0
      (answer 0 (Boundary.sequenceContains table container target alike).1)
      (Boundary.sequenceContains table container target alike).2
  enumerate : ∀ {table : SequenceTable γ ε} {container s}, table.Presents container encode s →
    Carries (total s.enumerate) (fun seen => clip seen.length) (-1) (Sequence.Call.map encode)
      (answerCount (enumerate (some table) (some container) true).1)
      (enumerate (some table) (some container) true).2
  enumerateRefused : ∀ {table : Option (SequenceTable γ ε)} {container visitor},
    SequenceTable.Lacks table container ∨ visitor = false →
    Refuses "pyrt_enumerate" (-1) (answerCount (Boundary.enumerate table container visitor).1)
      (Boundary.enumerate table container visitor).2
  equal : ∀ {table : SequenceTable γ ε} {container other s s' alike same},
    table.Presents container encode s → table.Presents other encode s' →
    (∀ x y, (alike (encode x) (encode y) != 0) = same x y) →
    Carries (total (s.equal s' same)) flag 0 (Sequence.Call.map encode)
      (answer 0 (equal (some table) (some container) (some other) (some alike)).1)
      (equal (some table) (some container) (some other) (some alike)).2
  equalRefused : ∀ {table : Option (SequenceTable γ ε)} {container other alike},
    SequenceTable.Lacks table container ∨ SequenceTable.Lacks table other ∨ alike = none →
    Refuses "pyrt_equal" 0 (answer 0 (Boundary.equal table container other alike).1)
      (Boundary.equal table container other alike).2
  lookup : ∀ {table : MapTable γ κ' υ'} {container m}, table.Presents container key m →
    table.Gets container key value m →
    ∀ k, Carries (m.lookup k) (fun v => some (value v)) none (Mapping.Call.map key value)
      (answerPointer (lookup (some table) (some container) (some (key k))).1)
      (lookup (some table) (some container) (some (key k))).2
  lookupRefused : ∀ {table : Option (MapTable γ κ' υ')} {container key},
    MapTable.Lacks table container ∨ table.bind MapTable.get = none ∨ key = none →
    Refuses "pyrt_safe_get" none (answerPointer (Boundary.lookup table container key).1)
      (Boundary.lookup table container key).2
  contains : ∀ {table : MapTable γ κ' υ'} {container} {m : Mapping κ υ},
    table.Presents container key m →
    ∀ k, Carries (total (m.contains k, [.contains k])) flag 0 (Mapping.Call.map key value)
      (answer 0 (contains (some table) (some container) (some (key k))).1)
      (contains (some table) (some container) (some (key k))).2
  containsRefused : ∀ {table : Option (MapTable γ κ' υ')} {container key},
    MapTable.Lacks table container ∨ key = none →
    Refuses "pyrt_contains" 0 (answer 0 (Boundary.contains table container key).1)
      (Boundary.contains table container key).2

theorem refinement_of_encoding (γ : Type) (encode : α → ε) (key : κ → κ') (value : υ → υ') :
    Refinement γ encode key value where
  presented := SequenceTable.presents_of_complete
  mapPresented := MapTable.presents_of_complete
  element := carries_element
  elementRefused := refuses_element
  sequenceContains := carries_sequenceContains
  sequenceContainsRefused := refuses_sequenceContains
  enumerate := carries_enumerate
  enumerateRefused := refuses_enumerate
  equal := carries_equal
  equalRefused := refuses_equal
  lookup := carries_lookup
  lookupRefused := refuses_lookup
  contains := carries_contains
  containsRefused := refuses_contains

/-- A dictionary with the key `a` is asked for the key `b`; keys have the letters as pointers. -/
theorem refinement_of_encoding_absent_key :
    let key : Bool → Nat := fun k => if k then 0x61 else 0x62
    let table : MapTable (List (Nat × Nat)) Nat Nat :=
      { typeName := none, size := some List.length,
        contains := some fun entries k => entries.countP fun entry => entry.1 == k,
        get := some fun entries k => (entries.find? fun entry => entry.1 == k).map Prod.snd,
        iterate := none, describe := some fun k => { bytes := [k.toUInt8], claimed := 1 },
        address := id }
    let m : Mapping Bool Nat := Mapping.table "map" [(true, 7)] [] fun k => if k then "a" else "b"
    table.Presents [(0x61, 7)] key m ∧ table.Gets [(0x61, 7)] key id m ∧
      ∀ machine,
        (answerPointer (lookup (some table) (some [(0x61, 7)]) (some 0x62)).1 machine).1 = none ∧
        (answerPointer (lookup (some table) (some [(0x61, 7)]) (some 0x62)).1 machine).2 =
          machine.note (.error (.raise .key "key b not found in map" "safe_get") :
            Except Failure Nat) ∧
        (lookup (some table) (some [(0x61, 7)]) (some 0x62)).2 = [.contains 0x62] := by
  intro key table m
  have presents : table.Presents [(0x61, 7)] key m := by
    refine ⟨rfl, ⟨_, rfl, rfl⟩, ⟨_, rfl, ?_⟩, ?_⟩
    · intro k
      cases k <;> rfl
    · intro k
      cases k <;> decide +kernel
  have gets : table.Gets [(0x61, 7)] key id m := by
    refine ⟨_, rfl, ?_⟩
    intro k contained
    cases k <;> rfl
  have carries := (refinement_of_encoding (List (Nat × Nat)) (id : Nat → Nat) key id).lookup
    presents gets false
  exact ⟨presents, gets, fun machine =>
    ⟨carries.answer machine, carries.state machine, carries.calls⟩⟩

end Underlay.Boundary
