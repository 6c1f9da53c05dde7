import Underlay.Failure

/-!
Mappings through capability tables. A mapping answers membership and lookup of a key and lists
its entries in an order of its own; nothing forces these answers to agree. As for sequences, each
operation returns its result with the calls that it made.
-/

namespace Underlay

structure Mapping (κ υ : Type) where
  typeName : String
  size : Nat
  contains : κ → Bool
  get? : κ → Option υ
  /-- What iteration meets, in its order. -/
  entries : List (κ × υ)
  /-- The text of a key in a message. -/
  describe : κ → String

namespace Mapping

/-- A call made while an operation runs. -/
inductive Call (κ υ : Type) where
  | size
  | contains (key : κ)
  | get (key : κ)
  | iterate
  | equal (left right : υ)
  | visit (key : κ) (value : υ)
deriving DecidableEq, Repr

variable {κ υ : Type}

def truthy (m : Mapping κ υ) : Bool :=
  m.size != 0

/-- The failure for a key without a value. -/
def missing (m : Mapping κ υ) (key : κ) : Failure :=
  .raise .key ("key " ++ m.describe key ++ " not found in " ++ m.typeName) "safe_get"

/-- The value of a key; lookup is asked only for keys that the mapping says it contains. -/
def lookup (m : Mapping κ υ) (key : κ) : Except Failure υ × List (Call κ υ) :=
  if m.contains key then
    match m.get? key with
    | some value => (.ok value, [.contains key, .get key])
    | none => (.error (m.missing key), [.contains key, .get key])
  else
    (.error (m.missing key), [.contains key])

/-- Visit every entry. -/
def items (m : Mapping κ υ) : List (κ × υ) × List (Call κ υ) :=
  (m.entries, .iterate :: m.entries.map fun entry => .visit entry.1 entry.2)

/-- Whether each of the given entries has an equal value in `b`, up to the first that has not. -/
def agree (b : Mapping κ υ) (equal : υ → υ → Bool) : List (κ × υ) → Bool × List (Call κ υ)
  | [] => (true, [])
  | (key, left) :: rest =>
      match b.get? key with
      | none => (false, [.get key])
      | some right =>
          if equal left right then
            let (same, calls) := b.agree equal rest
            (same, .get key :: .equal left right :: calls)
          else
            (false, [.get key, .equal left right])

/-- Equal sizes, and every entry of `a` has an equal value in `b`. -/
def equal (a b : Mapping κ υ) (equal : υ → υ → Bool) : Bool × List (Call κ υ) :=
  if a.size = b.size then
    let (same, calls) := b.agree equal a.entries
    (same, .size :: .size :: .iterate :: calls)
  else
    (false, [.size, .size])

/-- The entries in braces, each a key and a value with a colon between. -/
def render (m : Mapping κ υ) (key : κ → String) (value : υ → String) : String :=
  let shown := m.entries.map fun entry => key entry.1 ++ ": " ++ value entry.2
  "\x7b" ++ ", ".intercalate shown ++ "\x7d"

/-- A table that keeps its entries as they are given: lookup finds the first, and `phantom` keys
count as contained without having a value. -/
def table [BEq κ] (typeName : String) (entries : List (κ × υ)) (phantom : List κ)
    (describe : κ → String) : Mapping κ υ where
  typeName
  size := entries.length
  contains key := entries.any (fun entry => entry.1 == key) || phantom.contains key
  get? key := (entries.find? fun entry => entry.1 == key).map Prod.snd
  entries
  describe

/-! When two mappings are equal. -/

theorem agree_eq_true (m : Mapping κ υ) (equal : υ → υ → Bool)
    (entries : List (κ × υ)) :
    (m.agree equal entries).1 = true ↔
      ∀ key value, (key, value) ∈ entries →
        ∃ found, m.get? key = some found ∧ equal value found = true := by
  induction entries with
  | nil => simp [agree]
  | cons entry rest inductionHypothesis =>
      obtain ⟨key, value⟩ := entry
      unfold agree
      cases found : m.get? key with
      | none =>
          simp only [Bool.false_eq_true, false_iff]
          intro every
          simpa [found] using every key value List.mem_cons_self
      | some other =>
          by_cases same : equal value other = true
          · simp only [same, if_true, inductionHypothesis]
            constructor
            · rintro every key' value' (_ | ⟨_, later⟩)
              · exact ⟨other, found, same⟩
              · exact every key' value' later
            · intro every key' value' later
              exact every key' value' (List.mem_cons_of_mem _ later)
          · simp only [same, Bool.false_eq_true, if_false, false_iff]
            intro every
            obtain ⟨_, again, like⟩ := every key value List.mem_cons_self
            rw [found, Option.some.injEq] at again
            exact same (again ▸ like)

theorem equal_eq_true (m n : Mapping κ υ) (equal : υ → υ → Bool) :
    (m.equal n equal).1 = true ↔
      m.size = n.size ∧ ∀ key value, (key, value) ∈ m.entries →
        ∃ found, n.get? key = some found ∧ equal value found = true := by
  unfold Mapping.equal
  by_cases sizes : m.size = n.size
  · simp only [sizes, if_true, true_and]
    exact n.agree_eq_true equal m.entries
  · simp [sizes]

end Mapping

/-- A collection that only answers membership. -/
structure Membership (κ : Type) where
  typeName : String
  size : Nat
  contains : κ → Bool

end Underlay
