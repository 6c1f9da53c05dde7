import Underlay.Machine

/-!
Operations on the shared objects and the registries of a program.
-/

namespace Underlay.Machine

/-- A new object that takes over one holder of each listed object. -/
def share (machine : Machine) (payload : String) (destructor : Option (Destructor String))
    (children : List ObjectId) : ObjectId × Machine :=
  let (id, objects, o) := machine.objects.create payload destructor children machine.observer
  (id, { machine.observe o with objects })

def retain (machine : Machine) (id : ObjectId) : Machine :=
  let (objects, o) := machine.objects.retain id machine.observer
  { machine.observe o with objects }

/-- Give up one holder of an object: whether it was the last, and what happened. -/
def release (machine : Machine) (id : ObjectId) : Bool × List (Happening String) × Machine :=
  let (destroyed, objects, o, happened) := machine.objects.release id machine.observer
  (destroyed, happened, { machine.observe o with objects })

def addRegistry (machine : Machine) : RegistryId × Machine :=
  (machine.registries.size, { machine with registries := machine.registries.push {} })

def registry (machine : Machine) (id : RegistryId) : Registry :=
  machine.registries.getD id {}

def setRegistry (machine : Machine) (id : RegistryId) (registry : Registry) : Machine :=
  { machine with registries := machine.registries.setIfInBounds id registry }

def register (machine : Machine) (id : RegistryId) (entry : Registry.Entry) : Machine :=
  let (registry, o) := (machine.registry id).register entry machine.observer
  (machine.setRegistry id registry).observe o

def cleanUp (machine : Machine) (id : RegistryId) : List Cleanup × Machine :=
  let (ran, registry, o) := (machine.registry id).cleanup machine.observer
  (ran, (machine.setRegistry id registry).observe o)

theorem registry_addRegistry (machine : Machine) (id : RegistryId) :
    machine.addRegistry.2.registry id =
      if id = machine.registries.size then {} else machine.registry id := by
  simp only [registry, addRegistry, Array.getD_eq_getD_getElem?, Array.getElem?_push]
  split <;> rfl

theorem registry_setRegistry_self {machine : Machine} {id : RegistryId}
    (present : id < machine.registries.size) (r : Registry) :
    (machine.setRegistry id r).registry id = r := by
  simp [registry, setRegistry, present]

theorem registry_setRegistry_of_ne (machine : Machine) {id other : RegistryId}
    (distinct : other ≠ id) (r : Registry) :
    (machine.setRegistry id r).registry other = machine.registry other := by
  simp [registry, setRegistry, Ne.symm distinct]

@[simp]
theorem registries_size_setRegistry (machine : Machine) (id : RegistryId) (r : Registry) :
    (machine.setRegistry id r).registries.size = machine.registries.size := by
  simp [setRegistry]

@[simp]
theorem registries_size_register (machine : Machine) (id : RegistryId) (entry : Registry.Entry) :
    (machine.register id entry).registries.size = machine.registries.size :=
  registries_size_setRegistry machine id _

theorem pending_register_self {machine : Machine} {id : RegistryId}
    (present : id < machine.registries.size) (entry : Registry.Entry) :
    ((machine.register id entry).registry id).pending = entry :: (machine.registry id).pending :=
  congrArg Registry.pending (registry_setRegistry_self present _)

theorem registry_register_of_ne (machine : Machine) {id other : RegistryId} (distinct : other ≠ id)
    (entry : Registry.Entry) :
    (machine.register id entry).registry other = machine.registry other :=
  registry_setRegistry_of_ne machine distinct _

theorem ran_cleanUp (machine : Machine) (id : RegistryId) :
    (machine.cleanUp id).1 = (machine.registry id).pending.map Registry.Entry.cleanup :=
  Registry.ran_cleanup (machine.registry id) machine.observer

@[simp]
theorem registries_size_cleanUp (machine : Machine) (id : RegistryId) :
    (machine.cleanUp id).2.registries.size = machine.registries.size :=
  registries_size_setRegistry machine id _

theorem registry_cleanUp_self {machine : Machine} {id : RegistryId}
    (present : id < machine.registries.size) : (machine.cleanUp id).2.registry id = {} :=
  registry_setRegistry_self present _

theorem registry_cleanUp_of_ne (machine : Machine) {id other : RegistryId}
    (distinct : other ≠ id) :
    (machine.cleanUp id).2.registry other = machine.registry other :=
  registry_setRegistry_of_ne machine distinct _

end Underlay.Machine
