/-! Finite maps from names, in the order in which the names were first inserted. -/

set_option autoImplicit false

namespace ProbeHost

structure Table (α : Type) where
  rows : List (String × α) := []

namespace Table

variable {α : Type}

def find? (table : Table α) (name : String) : Option α :=
  table.rows.lookup name

def contains (table : Table α) (name : String) : Bool :=
  (table.find? name).isSome

/-- Replace the value of a name where it stands, or add a row at the end. -/
def place (name : String) (value : α) : List (String × α) → List (String × α)
  | [] => [(name, value)]
  | (other, old) :: rows =>
    if name = other then (name, value) :: rows else (other, old) :: place name value rows

def insert (table : Table α) (name : String) (value : α) : Table α :=
  ⟨place name value table.rows⟩

def keys (table : Table α) : List String :=
  table.rows.map Prod.fst

def values (table : Table α) : List α :=
  table.rows.map Prod.snd

def size (table : Table α) : Nat :=
  table.rows.length

@[simp] theorem find?_empty (name : String) : (Table.mk (α := α) []).find? name = none := rfl

theorem lookup_cons (other name : String) (value : α) (rows : List (String × α)) :
    List.lookup other ((name, value) :: rows) =
      if other = name then some value else List.lookup other rows := by
  rw [List.lookup_cons]
  by_cases same : other = name
  · simp [same]
  · have : (other == name) = false := by simp [same]
    simp [this, same]

theorem find?_insert (table : Table α) (name other : String) (value : α) :
    (table.insert name value).find? other =
      if other = name then some value else table.find? other := by
  obtain ⟨rows⟩ := table
  simp only [find?, insert]
  induction rows with
  | nil => rw [place, lookup_cons]
  | cons row rows ih =>
    obtain ⟨head, old⟩ := row
    simp only [place]
    split
    · next atHead =>
      subst atHead
      rw [lookup_cons, lookup_cons]
      split <;> rfl
    · next notHead =>
      rw [lookup_cons, lookup_cons, ih]
      split
      · next same =>
        subst same
        rw [if_neg fun h => notHead h.symm]
      · rfl

theorem find?_isSome {table : Table α} {name : String} :
    (table.find? name).isSome = true ↔ name ∈ table.keys := by
  obtain ⟨rows⟩ := table
  simp only [find?, keys]
  induction rows with
  | nil => simp
  | cons row rows ih =>
    obtain ⟨head, value⟩ := row
    rw [lookup_cons, List.map_cons, List.mem_cons, ← ih]
    split
    next same => simp [same]
    next different => simp [different]

theorem keys_insert_of_mem {table : Table α} {name : String} (known : name ∈ table.keys)
    (value : α) : (table.insert name value).keys = table.keys := by
  obtain ⟨rows⟩ := table
  simp only [insert, keys] at known ⊢
  induction rows with
  | nil => cases known
  | cons row rows ih =>
    rw [place]
    split
    next same => simp [same]
    next different =>
      have later := (List.mem_cons.1 known).resolve_left different
      rw [List.map_cons, List.map_cons, ih later]

theorem keys_insert_of_not_mem {table : Table α} {name : String} (fresh : name ∉ table.keys)
    (value : α) : (table.insert name value).keys = table.keys ++ [name] := by
  obtain ⟨rows⟩ := table
  simp only [insert, keys] at fresh ⊢
  induction rows with
  | nil => rfl
  | cons row rows ih =>
    obtain ⟨different, later⟩ := not_or.1 (mt List.mem_cons.2 fresh)
    rw [place, if_neg different, List.map_cons, List.map_cons, ih later, List.cons_append]

theorem nodup_keys_insert {table : Table α} (distinct : table.keys.Nodup) (name : String)
    (value : α) : (table.insert name value).keys.Nodup := by
  by_cases known : name ∈ table.keys
  · rw [keys_insert_of_mem known]
    exact distinct
  · rw [keys_insert_of_not_mem known]
    refine List.nodup_append.2 ⟨distinct, by simp, fun other member last isLast => ?_⟩
    rw [List.mem_singleton.1 isLast]
    exact fun same => known (same ▸ member)

/-- Where names are distinct, each row is what its name finds. -/
theorem find?_eq_some {table : Table α} (distinct : table.keys.Nodup) {name : String} {value : α} :
    table.find? name = some value ↔ (name, value) ∈ table.rows := by
  obtain ⟨rows⟩ := table
  simp only [find?, keys] at distinct ⊢
  induction rows with
  | nil => simp
  | cons row rows ih =>
    obtain ⟨head, old⟩ := row
    obtain ⟨fresh, rest⟩ := List.nodup_cons.1 distinct
    rw [lookup_cons, List.mem_cons, Prod.mk.injEq, ← ih rest]
    split
    next same =>
      subst same
      -- Its name is not among the others, so the first row is the only one.
      have absent : rows.lookup name ≠ some value := by
        intro found
        exact fresh (List.mem_map.2 ⟨_, (ih rest).1 found, rfl⟩)
      simp [absent, eq_comm]
    next different => simp [different]

end Table

end ProbeHost
