/-!
The operations that a case may name.
-/

namespace Underlay.Conformance

inductive Operation where
  | resolveIndex
  | resolveSlice
  | progression
  | progressionContains
  | element
  | lookup
  | membership
  | search
  | slice
  | enumerate
  | equal
  | scope
  | doubleRegistration
  | pool
  | shared
  | registry
  | render
  | errno
  | copy
deriving DecidableEq, Repr, Inhabited

namespace Operation

/-- Every operation, in the order in which they are listed to a reader. -/
def all : List Operation :=
  [resolveIndex, resolveSlice, progression, progressionContains, element, lookup, membership,
    search, slice, enumerate, equal, scope, doubleRegistration, pool, shared, registry, render,
    errno, copy]

def name : Operation → String
  | resolveIndex => "normalize_index"
  | resolveSlice => "normalize_slice"
  | progression => "range"
  | progressionContains => "range_contains"
  | element => "safe_at"
  | lookup => "safe_get"
  | membership => "contains"
  | search => "sequence_contains"
  | slice => "slice"
  | enumerate => "enumerate"
  | equal => "equal"
  | scope => "scope"
  | doubleRegistration => "scope_double_register"
  | pool => "pool"
  | shared => "refcount"
  | registry => "registry"
  | render => "error_render"
  | errno => "errno"
  | copy => "checked_copy"

def ofName? (name : String) : Option Operation :=
  all.find? fun operation => operation.name == name

theorem mem_all (operation : Operation) : operation ∈ all := by
  cases operation <;> decide

theorem ofName?_name (operation : Operation) : ofName? operation.name = some operation := by
  cases operation <;> decide +kernel

end Operation

end Underlay.Conformance
