import GuardedScript.Function

/-!
# The store

The store holds one registry for each context that was ever opened: its local variables, and for
each key the functions registered under it in the order of their registration.
-/

set_option autoImplicit false

namespace GuardedScript

/-- The variables and functions of one context. -/
@[ext]
structure Registry where
  locals : Table Value := ∅
  functions : Table (List Function) := ∅

instance : Inhabited Registry := ⟨{}⟩

namespace Registry

/-- The functions registered under a key, in the order of their registration. -/
def overloads (registry : Registry) (key : String) : List Function :=
  (registry.functions.get? key).getD []

/-- Binds a variable. -/
def setVariable (registry : Registry) (key : String) (value : Value) : Registry :=
  { registry with locals := registry.locals.insert key value }

/-- Removes the binding of a variable. -/
def removeVariable (registry : Registry) (key : String) : Registry :=
  { registry with locals := registry.locals.erase key }

/-- Adds a function behind those registered under a key. -/
def addFunction (registry : Registry) (key : String) (function : Function) : Registry :=
  { registry with
    functions := registry.functions.insert key (registry.overloads key ++ [function]) }

end Registry

/-- The registries of all contexts, by their places. -/
structure Store where
  registries : Array Registry := #[]

instance : Inhabited Store := ⟨{}⟩

namespace Store

/-- The number of registries, which is the place of the next one. -/
def size (store : Store) : Nat :=
  store.registries.size

/-- The registry at a place; a place that was never given out has an empty one. -/
def registry (store : Store) (id : Nat) : Registry :=
  store.registries.getD id {}

/-- Changes the registry at a place. -/
def update (store : Store) (id : Nat) (change : Registry → Registry) : Store :=
  ⟨store.registries.modify id change⟩

/-- Adds an empty registry. -/
def extend (store : Store) : Store :=
  ⟨store.registries.push {}⟩

/-! ### What the operations do to the registries -/

/-- A change of a registry leaves their number as it is. -/
@[simp]
theorem size_update (store : Store) (id : Nat) (change : Registry → Registry) :
    (store.update id change).size = store.size := by
  simp [size, update]

/-- Adding a registry makes one more. -/
@[simp]
theorem size_extend (store : Store) : store.extend.size = store.size + 1 := by
  simp [size, extend]

/-- A place that was never given out has an empty registry. -/
theorem registry_of_size_le {store : Store} {id : Nat} (h : store.size ≤ id) :
    store.registry id = {} := by
  simp only [size] at h
  simp [registry, h]

/-- A change shows at the place where it was made. -/
theorem registry_update_self {store : Store} {id : Nat} (change : Registry → Registry)
    (h : id < store.size) : (store.update id change).registry id = change (store.registry id) := by
  simp only [size] at h
  simp [registry, update, h, Array.getElem_modify_self]

/-- A change shows at no other place. -/
theorem registry_update_of_ne (store : Store) {id other : Nat} (change : Registry → Registry)
    (h : id ≠ other) : (store.update id change).registry other = store.registry other := by
  simp [registry, update, Array.getElem?_modify, h]

/-- A change leaves a registry as it is or changes it. -/
theorem registry_update (store : Store) (id other : Nat) (change : Registry → Registry) :
    (store.update id change).registry other = store.registry other ∨
      (store.update id change).registry other = change (store.registry other) := by
  by_cases h : id = other
  · subst h
    by_cases hlt : id < store.size
    · exact .inr (registry_update_self change hlt)
    · refine .inl ?_
      simp only [size, Nat.not_lt] at hlt
      simp [registry, update, hlt]
  · exact .inl (registry_update_of_ne store change h)

/-- Adding an empty registry shows at no place. -/
@[simp]
theorem registry_extend (store : Store) (id : Nat) :
    store.extend.registry id = store.registry id := by
  simp only [registry, extend, Array.getD_eq_getD_getElem?, Array.getElem?_push]
  split
  · next h => simp [h]
  · rfl

end Store

end GuardedScript
