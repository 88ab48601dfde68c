/-!
# Tables

A table binds names to entries.  It is kept as a list in strictly increasing order of names, so two
tables with the same bindings are equal (`Table.ext_get?`), whatever the order in which the bindings
were made.
-/

set_option autoImplicit false

namespace GuardedScript

/-- A finite map from names, as a list with strictly increasing names. -/
@[ext]
structure Table (α : Type) where
  entries : List (String × α)
  sorted : entries.Pairwise (fun a b => a.1 < b.1)

namespace Table

variable {α : Type}

/-- The entry of a name in a list of bindings. -/
def find? (name : String) : List (String × α) → Option α
  | [] => none
  | (other, entry) :: rest => if other = name then some entry else find? name rest

/-- A list of bindings in order, with one more binding or with one replaced. -/
def place (name : String) (entry : α) : List (String × α) → List (String × α)
  | [] => [(name, entry)]
  | (other, found) :: rest =>
    if name < other then (name, entry) :: (other, found) :: rest
    else if other = name then (name, entry) :: rest
    else (other, found) :: place name entry rest

/-- The names of a placed binding are the old ones and the new one. -/
theorem mem_place {name : String} {entry : α} {entries : List (String × α)} {p : String × α}
    (h : p ∈ place name entry entries) : p = (name, entry) ∨ p ∈ entries := by
  induction entries with
  | nil => simpa [place] using h
  | cons head rest ih =>
    obtain ⟨other, found⟩ := head
    simp only [place] at h
    split at h
    · simpa using h
    · split at h
      · rcases List.mem_cons.mp h with h | h
        · exact .inl h
        · exact .inr (List.mem_cons_of_mem _ h)
      · rcases List.mem_cons.mp h with h | h
        · exact .inr (by simp [h])
        · rcases ih h with h | h
          · exact .inl h
          · exact .inr (List.mem_cons_of_mem _ h)

/-- Placing a binding keeps the order. -/
theorem pairwise_place (name : String) (entry : α) {entries : List (String × α)}
    (h : entries.Pairwise (fun a b => a.1 < b.1)) :
    (place name entry entries).Pairwise (fun a b => a.1 < b.1) := by
  induction entries with
  | nil => simp [place]
  | cons head rest ih =>
    obtain ⟨other, found⟩ := head
    rw [List.pairwise_cons] at h
    simp only [place]
    split
    · next hlt =>
      refine List.pairwise_cons.mpr ⟨fun p hp => ?_, List.pairwise_cons.mpr h⟩
      rcases List.mem_cons.mp hp with hp | hp
      · simpa [hp] using hlt
      · exact String.lt_trans hlt (h.1 p hp)
    · next hnlt =>
      split
      · next heq => exact List.pairwise_cons.mpr ⟨fun p hp => heq ▸ h.1 p hp, h.2⟩
      · next hne =>
        refine List.pairwise_cons.mpr ⟨fun p hp => ?_, ih h.2⟩
        rcases mem_place hp with hp | hp
        · subst hp
          rcases Decidable.em (other < name) with hlt | hge
          · exact hlt
          · exact absurd (String.le_antisymm (String.not_lt.mp hnlt) (String.not_lt.mp hge)) hne
        · exact h.1 p hp

/-- The table without bindings. -/
def empty : Table α :=
  ⟨[], .nil⟩

instance : EmptyCollection (Table α) := ⟨empty⟩

instance : Inhabited (Table α) := ⟨empty⟩

/-- The entry of a name. -/
def get? (table : Table α) (name : String) : Option α :=
  find? name table.entries

/-- Whether a name is bound. -/
def contains (table : Table α) (name : String) : Bool :=
  (table.get? name).isSome

/-- Binds a name, in place of an earlier binding of it. -/
def insert (table : Table α) (name : String) (entry : α) : Table α :=
  ⟨place name entry table.entries, pairwise_place name entry table.sorted⟩

/-- Removes the binding of a name. -/
def erase (table : Table α) (name : String) : Table α :=
  ⟨table.entries.filter (fun binding => binding.1 ≠ name), table.sorted.filter _⟩

/-- The bound names in increasing order. -/
def keys (table : Table α) : List String :=
  table.entries.map Prod.fst

/-- The number of bound names. -/
def size (table : Table α) : Nat :=
  table.entries.length

/-- The table that a list of bindings makes, later ones in place of earlier ones. -/
def ofList (bindings : List (String × α)) : Table α :=
  bindings.foldl (fun table binding => table.insert binding.1 binding.2) empty

/-! ### Looking up -/

/-- Placing an entry among others shows under its own name alone. -/
theorem find?_place (name other : String) (entry : α) (entries : List (String × α)) :
    find? other (place name entry entries) =
      if name = other then some entry else find? other entries := by
  induction entries with
  | nil => simp [place, find?]
  | cons head rest ih =>
    obtain ⟨first, found⟩ := head
    simp only [place]
    split
    · simp only [find?]
    · split
      · next heq => subst heq; simp only [find?]; split <;> rfl
      · next hne =>
        simp only [find?, ih]
        split
        · next h => rw [if_neg (fun hn => hne (h.trans hn.symm))]
        · rfl

/-- Leaving out a name shows under this name alone. -/
theorem find?_filter (name other : String) (entries : List (String × α)) :
    find? other (entries.filter (fun binding => binding.1 ≠ name)) =
      if name = other then none else find? other entries := by
  induction entries with
  | nil => simp [find?]
  | cons head rest ih =>
    obtain ⟨first, found⟩ := head
    by_cases hn : first = name
    · subst hn
      simp only [ne_eq, not_true_eq_false, decide_false, Bool.false_eq_true, not_false_eq_true,
        List.filter_cons_of_neg, find?] at ih ⊢
      rw [ih]
      split <;> rfl
    · simp only [ne_eq, hn, not_false_eq_true, decide_true, List.filter_cons_of_pos, find?] at ih ⊢
      rw [ih]
      split
      · next h => rw [if_neg (fun hn' => hn (h.trans hn'.symm))]
      · rfl

/-- An empty table has nothing under any name. -/
@[simp]
theorem get?_empty (name : String) : (empty : Table α).get? name = none := rfl

/-- An entry that is inserted shows under its own name alone. -/
theorem get?_insert (table : Table α) (name other : String) (entry : α) :
    (table.insert name entry).get? other = if name = other then some entry else table.get? other :=
  find?_place name other entry table.entries

/-- An entry that is inserted is found under its name. -/
@[simp]
theorem get?_insert_self (table : Table α) (name : String) (entry : α) :
    (table.insert name entry).get? name = some entry := by
  simp [get?_insert]

/-- A name that is erased is the only one that loses its entry. -/
theorem get?_erase (table : Table α) (name other : String) :
    (table.erase name).get? other = if name = other then none else table.get? other :=
  find?_filter name other table.entries

/-- A name that is erased has no entry. -/
@[simp]
theorem get?_erase_self (table : Table α) (name : String) :
    (table.erase name).get? name = none := by
  simp [get?_erase]

/-! ### What holds of all entries -/

/-- Every entry of the table has a property. -/
def All (P : α → Prop) (table : Table α) : Prop :=
  ∀ binding ∈ table.entries, P binding.2

/-- What is found under a name is one of the entries. -/
theorem mem_of_find? {name : String} {entry : α} {entries : List (String × α)}
    (h : find? name entries = some entry) : (name, entry) ∈ entries := by
  induction entries with
  | nil => simp [find?] at h
  | cons head rest ih =>
    obtain ⟨other, found⟩ := head
    simp only [find?] at h
    split at h
    · next heq =>
      obtain rfl : found = entry := by simpa using h
      simp [heq]
    · exact List.mem_cons_of_mem _ (ih h)

variable {P : α → Prop} {table : Table α}

/-- Everything holds of the entries of an empty table. -/
theorem all_empty : (∅ : Table α).All P := by
  intro binding h
  exact absurd h List.not_mem_nil

/-- What holds of all entries holds of the one that is found. -/
theorem All.get? (h : table.All P) {name : String} {entry : α}
    (found : table.get? name = some entry) : P entry :=
  h (name, entry) (mem_of_find? found)

/-- What holds of all entries and of a new one holds of all of them together. -/
theorem All.insert (h : table.All P) (name : String) {entry : α} (hentry : P entry) :
    (table.insert name entry).All P := by
  intro binding hmem
  rcases mem_place hmem with heq | hold
  · rw [heq]
    exact hentry
  · exact h binding hold

/-- What holds of all entries holds of those that are left. -/
theorem All.erase (h : table.All P) (name : String) : (table.erase name).All P := by
  intro binding hmem
  exact h binding (List.mem_filter.mp hmem).1

/-! ### Tables are determined by their bindings -/

/-- A name in front of all entries is not found. -/
theorem find?_eq_none_of_lt {name : String} {entries : List (String × α)}
    (h : ∀ p ∈ entries, name < p.1) : find? name entries = none := by
  induction entries with
  | nil => rfl
  | cons head rest ih =>
    obtain ⟨first, found⟩ := head
    have hlt : name < first := h _ (List.mem_cons_self ..)
    have hne : first ≠ name := fun heq => String.lt_irrefl name (heq ▸ hlt)
    simp only [find?, if_neg hne]
    exact ih (fun p hp => h p (List.mem_cons_of_mem _ hp))

/-- Sorted entries in which the same is found under every name are the same. -/
theorem entries_eq_of_find? {xs ys : List (String × α)}
    (hx : xs.Pairwise (fun a b => a.1 < b.1)) (hy : ys.Pairwise (fun a b => a.1 < b.1))
    (h : ∀ name, find? name xs = find? name ys) : xs = ys := by
  induction xs generalizing ys with
  | nil =>
    cases ys with
    | nil => rfl
    | cons head rest => simpa [find?] using h head.1
  | cons x xs ih =>
    cases ys with
    | nil => simpa [find?] using h x.1
    | cons y ys =>
      obtain ⟨a, v⟩ := x
      obtain ⟨b, w⟩ := y
      rw [List.pairwise_cons] at hx hy
      have hab : a = b := by
        rcases Decidable.em (a < b) with hlt | hnlt
        · have hnone : find? a ((b, w) :: ys) = none :=
            find?_eq_none_of_lt (fun p hp => by
              rcases List.mem_cons.mp hp with hp | hp
              · simpa [hp] using hlt
              · exact String.lt_trans hlt (hy.1 p hp))
          rw [← h a] at hnone
          simp [find?] at hnone
        · rcases Decidable.em (b < a) with hlt | hnlt'
          · have hnone : find? b ((a, v) :: xs) = none :=
              find?_eq_none_of_lt (fun p hp => by
                rcases List.mem_cons.mp hp with hp | hp
                · simpa [hp] using hlt
                · exact String.lt_trans hlt (hx.1 p hp))
            rw [h b] at hnone
            simp [find?] at hnone
          · exact String.le_antisymm (String.not_lt.mp hnlt') (String.not_lt.mp hnlt)
      subst hab
      have hvw : v = w := by simpa [find?] using h a
      subst hvw
      refine congrArg _ (ih hx.2 hy.2 (fun name => ?_))
      rcases Decidable.em (a = name) with heq | hne
      · subst heq
        rw [find?_eq_none_of_lt hx.1, find?_eq_none_of_lt hy.1]
      · simpa [find?, hne] using h name

/-- Two tables with the same bindings are equal. -/
theorem ext_get? {s t : Table α} (h : ∀ name, s.get? name = t.get? name) : s = t :=
  Table.ext (entries_eq_of_find? s.sorted t.sorted h)

end Table

end GuardedScript
