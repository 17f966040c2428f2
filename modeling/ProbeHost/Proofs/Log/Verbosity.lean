import Mathlib
import ProbeHost.Log.Verbosity

/-! Verbosities by their names, in any mixture of ASCII letter cases. -/

set_option autoImplicit false

namespace ProbeHost.Log.Verbosity

def Spells (text name : String) : Prop :=
  List.Forall₂ (fun c letter => c = letter ∨ c = letter.toLower) text.toList name.toList

theorem toUpper_eq_iff {c letter : Char} (capital : letter.isUpper = true) :
    c.toUpper = letter ↔ c = letter ∨ c = letter.toLower := by
  have fixed : letter.toUpper = letter :=
    Char.toUpper_eq_of_not_isLower (Char.not_isLower_of_isUpper capital)
  constructor
  · rintro rfl
    by_cases small : c.isLower = true
    · right
      rw [Char.toLower_toUpper_eq_toLower,
        Char.toLower_eq_of_not_isUpper (Char.not_isUpper_of_isLower small)]
    · left
      exact (Char.toUpper_eq_of_not_isLower small).symm
  · rintro (rfl | rfl)
    · exact fixed
    · rw [Char.toUpper_toLower_eq_toUpper, fixed]

theorem map_toUpper_eq_iff {cs name : List Char}
    (capitals : ∀ letter ∈ name, letter.isUpper = true) :
    cs.map Char.toUpper = name ↔
      List.Forall₂ (fun c letter => c = letter ∨ c = letter.toLower) cs name := by
  induction name generalizing cs with
  | nil => simp
  | cons letter name ih =>
    obtain ⟨capital, others⟩ := List.forall_mem_cons.1 capitals
    cases cs with
    | nil => simp
    | cons c cs =>
      rw [List.map_cons, List.cons.injEq, List.forall₂_cons, toUpper_eq_iff capital, ih others]

theorem isUpper_of_mem_name (verbosity : Verbosity) :
    ∀ letter ∈ verbosity.name.toList, letter.isUpper = true := by
  rw [← List.all_eq_true]
  cases verbosity <;> rfl

theorem name_injective : Function.Injective name := by
  intro first second same
  cases first <;> cases second <;> first | rfl | exact absurd same (by decide)

theorem spells_iff {text : String} {verbosity : Verbosity} :
    Spells text verbosity.name ↔ verbosity.name = text.map Char.toUpper := by
  rw [Spells, ← map_toUpper_eq_iff verbosity.isUpper_of_mem_name, ← String.toList_map,
    String.toList_inj, eq_comm]

/-- A name is recognised in any mixture of cases, and nothing else is. -/
theorem parse_eq_ok {text : String} {verbosity : Verbosity} :
    parse text = .ok verbosity ↔ Spells text verbosity.name := by
  have listed : verbosity ∈ all := by
    cases verbosity <;> decide
  rw [spells_iff]
  unfold parse
  cases found : all.find? fun verbosity => verbosity.name = text.map Char.toUpper with
  | none =>
    refine ⟨nofun, fun named => absurd ?_ (List.find?_eq_none.1 found verbosity listed)⟩
    exact decide_eq_true named
  | some other =>
    have named : other.name = text.map Char.toUpper := by
      simpa using List.find?_some found
    rw [← named, name_injective.eq_iff]
    exact ⟨fun same => (Except.ok.inj same).symm, fun same => by rw [same]⟩

theorem spells_name (verbosity : Verbosity) : Spells verbosity.name verbosity.name :=
  List.forall₂_same.2 fun _ _ => .inl rfl

end ProbeHost.Log.Verbosity
