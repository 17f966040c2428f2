/-! Sets of names, in byte order of their UTF-8 form. -/

set_option autoImplicit false

namespace ProbeHost

/-- A set of names; for text, the order by code points and the order by bytes are the same. -/
structure Names where
  toList : List String
  ascending : toList.Pairwise (· < ·)

namespace Names

def place (name : String) : List String → List String
  | [] => [name]
  | other :: names =>
    if name < other then name :: other :: names
    else if name = other then other :: names
    else other :: place name names

theorem mem_place {name other : String} {names : List String} :
    other ∈ place name names ↔ other = name ∨ other ∈ names := by
  induction names with
  | nil => simp [place]
  | cons head names ih =>
    simp only [place]
    split
    · simp
    · split
      · next same => subst same; simp
      · simp only [List.mem_cons, ih]
        constructor
        · rintro (h | h | h) <;> simp [h]
        · rintro (h | h | h) <;> simp [h]

theorem pairwise_place {name : String} {names : List String}
    (ascending : names.Pairwise (· < ·)) : (place name names).Pairwise (· < ·) := by
  induction names with
  | nil => simp [place]
  | cons head names ih =>
    obtain ⟨above, rest⟩ := List.pairwise_cons.1 ascending
    simp only [place]
    split
    · next below =>
      refine List.pairwise_cons.2 ⟨?_, ascending⟩
      intro other member
      rcases List.mem_cons.1 member with same | inside
      · rw [same]; exact below
      · exact String.lt_trans below (above other inside)
    · split
      · exact ascending
      · next notBelow notSame =>
        refine List.pairwise_cons.2 ⟨?_, ih rest⟩
        intro other member
        rcases mem_place.1 member with same | inside
        · rw [same]
          exact String.not_le.1 fun atMost =>
            notSame (String.le_antisymm atMost (String.not_lt.1 notBelow))
        · exact above other inside

def empty : Names := ⟨[], .nil⟩

def insert (name : String) (names : Names) : Names :=
  ⟨place name names.toList, pairwise_place names.ascending⟩

def ofList (names : List String) : Names :=
  names.foldr insert empty

def contains (names : Names) (name : String) : Bool :=
  names.toList.contains name

theorem contains_iff {names : Names} {name : String} :
    names.contains name = true ↔ name ∈ names.toList := by
  rw [contains, List.contains_iff_mem]

theorem mem_ofList {name : String} {names : List String} :
    name ∈ (ofList names).toList ↔ name ∈ names := by
  induction names with
  | nil => simp [ofList, empty]
  | cons head names ih =>
    simp only [ofList, List.foldr_cons, insert, mem_place, List.mem_cons] at ih ⊢
    rw [ih]

end Names

end ProbeHost
