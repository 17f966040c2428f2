import ProbeHost.Proofs.TimeOfDay.Readings

/-! The differences of times of day, for readings of any size.

A reading is sampled as the greatest sample if it is past it, so samples are never negative and two
of them always have a difference. What an operator retains is the latest reading that it was asked
for, whatever else it was asked for; the differences of a stretch therefore add up to that of its
ends.
-/

set_option autoImplicit false

namespace ProbeHost

namespace Operator

variable {κ : Type} [Measurement κ]

def diffAll (operator : Operator κ) : List (Instance κ) → Operator κ × List (Option Int64)
  | [] => (operator, [])
  | i :: rest =>
    let (after, delta) := operator.diff i
    let (final, deltas) := after.diffAll rest
    (final, delta :: deltas)

theorem diffAll_append (operator : Operator κ) (before after : List (Instance κ)) :
    operator.diffAll (before ++ after) =
      (((operator.diffAll before).1.diffAll after).1,
        (operator.diffAll before).2 ++ ((operator.diffAll before).1.diffAll after).2) := by
  induction before generalizing operator with
  | nil => rfl
  | cons i before ih => simp only [List.cons_append, diffAll, ih]

theorem length_diffAll (operator : Operator κ) (fed : List (Instance κ)) :
    (operator.diffAll fed).2.length = fed.length := by
  induction fed generalizing operator with
  | nil => rfl
  | cons i fed ih => simp only [diffAll, List.length_cons, ih]

end Operator

namespace TimeOfDay

/-- The sum of differences, to which no difference adds nothing. -/
def total (deltas : List (Option Int64)) : Int :=
  (deltas.map fun delta => (delta.map Int64.toInt).getD 0).sum

def reading? (i : Instance Declaration) : Option UInt64 :=
  (i.as? declaration).map microseconds

def last? (fed : List (Instance Declaration)) : Option UInt64 :=
  (fed.filterMap reading?).getLast?

def readerAfter (last : Option UInt64) : Operator Declaration :=
  reader (last.map fun now => sample (measurement now))

/-- By how much a reading differs from the one before it; the first one differs from nothing. -/
def change (last : Option UInt64) (now : UInt64) : Int :=
  match last with
  | none => 0
  | some previous => clamped now - clamped previous

/-! ## One difference -/

theorem reading?_reading (now : UInt64) : reading? (reading now) = some now := by
  simp [reading?, reading]
  rfl

theorem reading_or_other (i : Instance Declaration) :
    (∃ now, i = reading now) ∨ (i.kind ≠ declaration ∧ reading? i = none) := by
  obtain ⟨kind, value⟩ := i
  by_cases same : kind = declaration
  · subst same
    exact .inl ⟨microseconds value, rfl⟩
  · refine .inr ⟨same, ?_⟩
    simp [reading?, Instance.as?, same]

/-- Two readings always have a difference, that of what they are clamped to. -/
theorem difference?_sample (now previous : UInt64) :
    (difference? (sample (measurement now)) (sample (measurement previous))).map Int64.toInt =
      some (clamped now - clamped previous) := by
  have fits : Operator.Fits
      ((sample (measurement now)).toInt - (sample (measurement previous)).toInt) := by
    rw [toInt_sample, toInt_sample]
    unfold Operator.Fits clamped
    omega
  obtain ⟨delta, differs, exact⟩ := Operator.difference?_of_fits fits
  rw [differs, Option.map_some, exact, toInt_sample, toInt_sample]

theorem readerAfter_diff (last : Option UInt64) (i : Instance Declaration) :
    ((readerAfter last).diff i).1 = readerAfter ((reading? i).or last) ∧
      ((readerAfter last).diff i).2.map Int64.toInt = (reading? i).map (change last) := by
  obtain ⟨now, rfl⟩ | ⟨other, unread⟩ := reading_or_other i
  · rw [readerAfter, reader_diff, reading?_reading]
    refine ⟨rfl, ?_⟩
    cases last with
    | none => rfl
    | some previous => exact difference?_sample now previous
  · rw [readerAfter, reader_diff_other _ other, unread]
    exact ⟨rfl, rfl⟩

theorem diffAll_reading (last : Option UInt64) (now : UInt64)
    (rest : List (Instance Declaration)) :
    ((readerAfter last).diffAll (reading now :: rest)).2 =
      ((readerAfter last).diff (reading now)).2 ::
        ((readerAfter (some now)).diffAll rest).2 := rfl

/-! ## Many differences -/

theorem last?_cons (i : Instance Declaration) (fed : List (Instance Declaration))
    (last : Option UInt64) :
    (last? (i :: fed)).or last = (last? fed).or ((reading? i).or last) := by
  rw [last?, List.filterMap_cons]
  cases reading? i with
  | none => rfl
  | some now =>
    rw [List.getLast?_cons, ← last?]
    cases last? fed <;> rfl

theorem readerAfter_diffAll (last : Option UInt64) (fed : List (Instance Declaration)) :
    ((readerAfter last).diffAll fed).1 = readerAfter ((last? fed).or last) := by
  induction fed generalizing last with
  | nil => rfl
  | cons i fed ih => simp only [Operator.diffAll, (readerAfter_diff last i).1, ih, last?_cons]

/-- From a reading on, the differences add up to that of the last reading and the first. -/
theorem total_diffAll (previous : UInt64) (stretch : List (Instance Declaration)) :
    total ((readerAfter (some previous)).diffAll stretch).2 =
      clamped ((last? stretch).getD previous) - clamped previous := by
  -- The reading that the stretch starts from moves along with it.
  induction stretch generalizing previous with
  | nil => exact (Int.sub_self _).symm
  | cons i stretch ih =>
    obtain ⟨after, delta⟩ := readerAfter_diff (some previous) i
    have next : (reading? i).or (some previous) = some ((reading? i).getD previous) := by
      cases reading? i <;> rfl
    have changes : ((reading? i).map (change (some previous))).getD 0 =
        clamped ((reading? i).getD previous) - clamped previous := by
      cases reading? i with
      | none => exact (Int.sub_self _).symm
      | some now => rfl
    have last : (last? (i :: stretch)).getD previous =
        (last? stretch).getD ((reading? i).getD previous) := by
      have told := last?_cons i stretch (some previous)
      simpa only [next, Option.or_some, Option.some.injEq] using told
    have moved : total ((readerAfter (some previous)).diffAll (i :: stretch)).2 =
        ((reading? i).map (change (some previous))).getD 0 +
          total ((readerAfter (some ((reading? i).getD previous))).diffAll stretch).2 := by
      rw [← delta, ← next, ← after]
      exact List.sum_cons
    rw [moved, ih, changes, last]
    omega

/-! ## Main result -/

/-- A fresh operator for the time of day, whatever it is fed: a reading is shown as it is, its
difference to the reading before it is exact and fits, and the differences behind it add up to that
of the last reading and this one. The difference of anything else is none, and without it all others
are as they were. -/
theorem differences_exact :
    ∃ operator : Operator Declaration,
      measurementModule.operator? "Measurement_timeofday" = some operator ∧
        (∀ (before : List (Instance Declaration)) (now : UInt64)
          (stretch after : List (Instance Declaration)),
          (operator.diffAll before).1.render (reading now) = "time = " ++ toString now.toNat ∧
            ∃ (earlier : List (Option Int64)) (delta : Int64) (deltas later : List (Option Int64)),
              (operator.diffAll (before ++ reading now :: (stretch ++ after))).2 =
                  earlier ++ some delta :: (deltas ++ later) ∧
                earlier.length = before.length ∧ deltas.length = stretch.length ∧
                delta.toInt = change (last? before) now ∧
                total deltas = clamped ((last? stretch).getD now) - clamped now) ∧
        ∀ (before : List (Instance Declaration)) (i : Instance Declaration)
          (after : List (Instance Declaration)), i.kind ≠ declaration →
          ∃ earlier later : List (Option Int64), earlier.length = before.length ∧
            (operator.diffAll (before ++ i :: after)).2 = earlier ++ none :: later ∧
            (operator.diffAll (before ++ after)).2 = earlier ++ later := by
  have built : measurementModule.operator? "Measurement_timeofday" = some (readerAfter none) :=
    Module.operator?_of_last moduleName offered.last
  have reached (before : List (Instance Declaration)) :
      ((readerAfter none).diffAll before).1 = readerAfter (last? before) := by
    rw [readerAfter_diffAll, Option.or_none]
  have length := (readerAfter none).length_diffAll
  refine ⟨readerAfter none, built, fun before now stretch after => ⟨?_, ?_⟩,
    fun before i after other => ?_⟩
  · rw [reached]
    exact reader_render _ now
  · obtain ⟨-, changes⟩ := readerAfter_diff (last? before) (reading now)
    rw [reading?_reading] at changes
    obtain ⟨delta, differs, exact⟩ := Option.map_eq_some_iff.1 changes
    let onward := (readerAfter (some now)).diffAll stretch
    refine ⟨_, delta, onward.2, (onward.1.diffAll after).2, ?_, length before,
      Operator.length_diffAll _ stretch, exact, total_diffAll now stretch⟩
    rw [Operator.diffAll_append, reached, diffAll_reading, differs, Operator.diffAll_append]
  · refine ⟨_, ((readerAfter (last? before)).diffAll after).2, length before, ?_, ?_⟩
    · have declined : (readerAfter (last? before)).diff i = (readerAfter (last? before), none) :=
        reader_diff_other _ other
      rw [Operator.diffAll_append, reached, Operator.diffAll, declined]
    · rw [Operator.diffAll_append, reached]

def greatest : UInt64 := 18446744073709551615

def past : UInt64 := 9223372036854775808

def extremes : List (Instance Declaration) :=
  [reading greatest, ⟨Catalog.flag, (true, ())⟩, reading 0, reading past]

theorem differences_exact_extremes :
    ∃ operator : Operator Declaration,
      measurementModule.operator? "Measurement_timeofday" = some operator ∧
        (∃ (delta : Int64) (deltas later : List (Option Int64)),
          (operator.diffAll extremes).2 = some delta :: (deltas ++ later) ∧ deltas.length = 3 ∧
            delta.toInt = 0 ∧ total deltas = 0) ∧
        ∃ earlier later : List (Option Int64), earlier.length = 1 ∧
          (operator.diffAll extremes).2 = earlier ++ none :: later := by
  obtain ⟨operator, built, readings, others⟩ := differences_exact
  refine ⟨operator, built, ?_, ?_⟩
  · obtain ⟨-, earlier, delta, deltas, later, differs, before, length, exact, sum⟩ :=
      readings [] greatest (extremes.drop 1) []
    obtain rfl := List.eq_nil_of_length_eq_zero before
    exact ⟨delta, deltas, later, differs, length, exact, sum⟩
  · have other : (⟨Catalog.flag, (true, ())⟩ : Instance Declaration).kind ≠ declaration := by
      decide
    obtain ⟨earlier, later, length, differs, -⟩ :=
      others (extremes.take 1) _ (extremes.drop 2) other
    exact ⟨earlier, later, length, differs⟩

end TimeOfDay

end ProbeHost
