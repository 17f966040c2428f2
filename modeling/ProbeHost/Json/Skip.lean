import ProbeHost.Json.Number
import ProbeHost.Json.String

/-! Values that are passed over.

The members of an object that a reader does not know may hold any JSON value. Only the grammar is
checked, and the lists and objects still open are kept on a stack, so nesting has no limit.
-/

set_option autoImplicit false

namespace ProbeHost.Json

inductive Enclosure where
  | list
  | object
  deriving DecidableEq, Repr

def skipScalar : Bytes → Except Stop Bytes
  | [] => .error (.ended .value)
  | b :: rest =>
    if b = 0x6E then word nullLetters rest
    else if b = 0x74 then word trueLetters rest
    else if b = 0x66 then word falseLetters rest
    else if b = minus ∨ Numeral.isDigit b then skipNumber (b :: rest)
    else if b = quote then skipString rest
    else .error (.upon .expectedValue (b :: rest))

theorem skipScalar_length {input rest : Bytes} (found : skipScalar input = .ok rest) :
    rest.length < input.length := by
  cases input with
  | nil => cases found
  | cons b input =>
    simp only [skipScalar] at found
    repeat' split at found
    · exact Nat.lt_succ_of_le (word_length found)
    · exact Nat.lt_succ_of_le (word_length found)
    · exact Nat.lt_succ_of_le (word_length found)
    · exact skipNumber_length found
    · exact Nat.lt_succ_of_lt (skipString_length found)
    · cases found

def skipKey (input : Bytes) : Except Stop Bytes :=
  match skipBlank input with
  | [] => .error (.ended .object)
  | b :: rest =>
    if b = quote then
      match skipString rest with
      | .error e => .error e
      | .ok rest => readColon rest
    else .error (.upon .keyNotString (b :: rest))

theorem skipKey_length {input rest : Bytes} (found : skipKey input = .ok rest) :
    rest.length < input.length := by
  unfold skipKey at found
  have := skipBlank_length input
  split at found
  · cases found
  · next start =>
    rw [start, List.length_cons] at this
    split at found
    · split at found
      · cases found
      · next key =>
        have := skipString_length key
        have := readColon_length found
        omega
    · cases found

/-- From the start of a value to its end, or to the first value within if it encloses any. -/
def enter (input : Bytes) : Except Stop (Option Enclosure × Bytes) :=
  match skipBlank input with
  | [] => .error (.ended .value)
  | b :: rest =>
    if b = openList then
      match skipBlank rest with
      | [] => .error (.ended .list)
      | c :: after =>
        if c = closeList then .ok (none, after) else .ok (some .list, c :: after)
    else if b = openObject then
      match skipBlank rest with
      | [] => .error (.ended .object)
      | c :: after =>
        if c = closeObject then .ok (none, after)
        -- An object is entered at its first value, so the key before it is read here.
        else (skipKey (c :: after)).map fun value => (some .object, value)
    else (skipScalar (b :: rest)).map fun after => (none, after)

/-- From behind an enclosed value to the next one, if there is one, or else out of the enclosure. -/
def advance : Enclosure → Bytes → Except Stop (Bool × Bytes)
  | .list, input =>
    match skipBlank input with
    | [] => .error (.ended .list)
    | b :: rest =>
      if b = comma then .ok (true, rest)
      else if b = closeList then .ok (false, rest)
      else .error (.upon .expectedListSeparator (b :: rest))
  | .object, input =>
    match skipBlank input with
    | [] => .error (.ended .object)
    | b :: rest =>
      if b = comma then (skipKey rest).map fun value => (true, value)
      else if b = closeObject then .ok (false, rest)
      else .error (.upon .expectedObjectSeparator (b :: rest))

theorem map_eq_ok {α β : Type} {f : α → β} {outcome : Except Stop α} {b : β}
    (found : outcome.map f = .ok b) : ∃ a, outcome = .ok a ∧ f a = b := by
  cases outcome with
  | error e => cases found
  | ok a => cases found; exact ⟨a, rfl, rfl⟩

theorem enter_length {input rest : Bytes} {enclosure : Option Enclosure}
    (found : enter input = .ok (enclosure, rest)) : rest.length < input.length := by
  unfold enter at found
  have blank := skipBlank_length input
  split at found
  · cases found
  · next inner start =>
    rw [start, List.length_cons] at blank
    have innerBlank := skipBlank_length inner
    split at found
    · split at found
      · cases found
      · next opened =>
        rw [opened, List.length_cons] at innerBlank
        split at found <;> cases found
        · omega
        · rw [List.length_cons]; omega
    · split at found
      · split at found
        · cases found
        · next opened =>
          rw [opened, List.length_cons] at innerBlank
          split at found
          · cases found; omega
          · obtain ⟨value, key, rfl, rfl⟩ := map_eq_ok found
            have := skipKey_length key
            rw [List.length_cons] at this
            omega
      · obtain ⟨after, scalar, same⟩ := map_eq_ok found
        cases same
        have := skipScalar_length scalar
        rw [List.length_cons] at this
        omega

theorem advance_length {enclosure : Enclosure} {input rest : Bytes} {more : Bool}
    (found : advance enclosure input = .ok (more, rest)) : rest.length < input.length := by
  have blank := skipBlank_length input
  cases enclosure with
  | list =>
    simp only [advance] at found
    split at found
    · cases found
    · next start =>
      rw [start, List.length_cons] at blank
      repeat' split at found
      all_goals cases found
      all_goals exact blank
  | object =>
    simp only [advance] at found
    split at found
    · cases found
    · next start =>
      rw [start, List.length_cons] at blank
      split at found
      · obtain ⟨value, key, same⟩ := map_eq_ok found
        cases same
        have := skipKey_length key
        omega
      · split at found
        · cases found; exact blank
        · cases found

mutual

/-- The text behind the value at its start and behind all that encloses it. -/
def skipWithin (enclosures : List Enclosure) (input : Bytes) : Except Stop Bytes :=
  match entered : enter input with
  | .error e => .error e
  | .ok (some enclosure, rest) =>
    have := enter_length entered
    skipWithin (enclosure :: enclosures) rest
  | .ok (none, rest) =>
    have := enter_length entered
    skipAfter enclosures rest
termination_by input.length

def skipAfter (enclosures : List Enclosure) (input : Bytes) : Except Stop Bytes :=
  match enclosures with
  | [] => .ok input
  | enclosure :: outer =>
    match advanced : advance enclosure input with
    | .error e => .error e
    | .ok (true, rest) =>
      have := advance_length advanced
      skipWithin (enclosure :: outer) rest
    | .ok (false, rest) =>
      have := advance_length advanced
      skipAfter outer rest
termination_by input.length

end

theorem skipWithin_eq (enclosures : List Enclosure) (input : Bytes) :
    skipWithin enclosures input = match enter input with
      | .error e => .error e
      | .ok (some enclosure, rest) => skipWithin (enclosure :: enclosures) rest
      | .ok (none, rest) => skipAfter enclosures rest := by
  rw [skipWithin]
  split <;> simp_all

@[simp] theorem skipAfter_nil (input : Bytes) : skipAfter [] input = .ok input := by
  rw [skipAfter]

theorem skipAfter_cons (enclosure : Enclosure) (outer : List Enclosure) (input : Bytes) :
    skipAfter (enclosure :: outer) input = match advance enclosure input with
      | .error e => .error e
      | .ok (true, rest) => skipWithin (enclosure :: outer) rest
      | .ok (false, rest) => skipAfter outer rest := by
  rw [skipAfter]
  split <;> simp_all

theorem skip_length :
    (∀ enclosures input, ∀ rest, skipWithin enclosures input = .ok rest →
      rest.length < input.length) ∧
    (∀ enclosures input, ∀ rest, skipAfter enclosures input = .ok rest →
      rest.length ≤ input.length) := by
  apply skipWithin.mutual_induct
  · intro enclosures input e entered rest found
    rw [skipWithin_eq, entered] at found
    cases found
  · intro enclosures input enclosure inner entered shorter ih rest found
    rw [skipWithin_eq, entered] at found
    exact Nat.lt_trans (ih rest found) shorter
  · intro enclosures input inner entered shorter ih rest found
    rw [skipWithin_eq, entered] at found
    exact Nat.lt_of_le_of_lt (ih rest found) shorter
  · intro input rest found
    rw [skipAfter_nil] at found
    cases found
    exact Nat.le_refl _
  · intro input enclosure outer e advanced rest found
    rw [skipAfter_cons, advanced] at found
    cases found
  · intro input enclosure outer inner advanced shorter ih rest found
    rw [skipAfter_cons, advanced] at found
    exact Nat.le_of_lt (Nat.lt_trans (ih rest found) shorter)
  · intro input enclosure outer inner advanced shorter ih rest found
    rw [skipAfter_cons, advanced] at found
    exact Nat.le_trans (ih rest found) (Nat.le_of_lt shorter)

def skipValue (input : Bytes) : Except Stop Bytes :=
  skipWithin [] input

theorem skipValue_length {input rest : Bytes} (found : skipValue input = .ok rest) :
    rest.length < input.length :=
  skip_length.1 [] input rest found

end ProbeHost.Json
