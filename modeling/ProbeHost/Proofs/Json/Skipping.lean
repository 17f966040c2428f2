import ProbeHost.Proofs.Json.Record
import ProbeHost.Proofs.Json.Scanning

/-! A value is passed over exactly where the grammar has one.

The reader keeps a stack of the lists and objects that are still open, where the grammar has a tree.
What is still to come for a stack is what closes each of its enclosures in turn; from that the
values that have been passed over are put together on the way back. In the other direction the
tree is followed: a value is passed over whatever is on the stack, so its parts are.
-/

set_option autoImplicit false

namespace ProbeHost.Json

open Numeral (isDigit)
open Grammar

/-! ## What is passed over is a value -/

def Enclosure.opening : Enclosure → UInt8
  | .list => openList
  | .object => openObject

def Enclosure.closing : Enclosure → UInt8
  | .list => closeList
  | .object => closeObject

/-- What stands in front of a value within an enclosure: white space, or a key and its colon. -/
def Enclosure.Opens : Enclosure → Bytes → Prop
  | .list, text => Blank text
  | .object, text => ∃ inner name gap, Blank inner ∧ Unchecked name ∧ Blank gap ∧
      text = inner ++ quote :: (name ++ (gap ++ [colon]))

def Enclosure.Closes : Enclosure → Bytes → Prop
  | .list, text => ∃ values, Elements false values text ∧ ∀ value ∈ values, Value value
  | .object, text => ∃ members : List (Unit × Bytes),
      Members (fun _ => Unchecked) false members text ∧ ∀ member ∈ members, Value member.2

namespace Enclosure

variable {enclosure : Enclosure} {start blank value tail outer : Bytes}

theorem value_of_opens (opens : enclosure.Opens start) (isBlank : Blank blank)
    (isValue : Value value) (closes : enclosure.Closes tail) :
    Value (enclosure.opening :: (start ++ (blank ++ (value ++ tail)))) := by
  cases enclosure with
  | list =>
    obtain ⟨values, elements, all⟩ := closes
    have whole : Elements true (value :: values)
        (start ++ (lead true ++ (blank ++ (value ++ tail)))) := .next opens isBlank elements
    exact .list whole (List.forall_mem_cons.2 ⟨isValue, all⟩)
  | object =>
    obtain ⟨inner, name, gap, isInner, isName, isGap, rfl⟩ := opens
    obtain ⟨members, isMembers, all⟩ := closes
    have whole : Members (fun _ => Unchecked) true (((), value) :: members)
        ([] ++ (lead true ++
          (inner ++ quote :: (name ++ (gap ++ colon :: (blank ++ (value ++ tail))))))) :=
      .next blank_nil isInner isName isGap isBlank isMembers
    have object := Value.object whole (List.forall_mem_cons.2 ⟨isValue, all⟩)
    simpa [lead, opening] using object

theorem closes_close (enclosure : Enclosure) (isBlank : Blank blank) :
    enclosure.Closes (blank ++ [enclosure.closing]) := by
  cases enclosure with
  | list => exact ⟨[], .close isBlank, nofun⟩
  | object => exact ⟨[], .close isBlank, nofun⟩

theorem closes_next (isOuter : Blank outer) (opens : enclosure.Opens start) (isBlank : Blank blank)
    (isValue : Value value) (closes : enclosure.Closes tail) :
    enclosure.Closes (outer ++ comma :: (start ++ (blank ++ (value ++ tail)))) := by
  cases enclosure with
  | list =>
    obtain ⟨values, elements, all⟩ := closes
    refine ⟨value :: values, ?_, List.forall_mem_cons.2 ⟨isValue, all⟩⟩
    have whole : Elements false (value :: values)
        (outer ++ (lead false ++ ((start ++ blank) ++ (value ++ tail)))) :=
      .next isOuter (Blank.append opens isBlank) elements
    simpa [lead] using whole
  | object =>
    obtain ⟨inner, name, gap, isInner, isName, isGap, rfl⟩ := opens
    obtain ⟨members, isMembers, all⟩ := closes
    refine ⟨((), value) :: members, ?_, List.forall_mem_cons.2 ⟨isValue, all⟩⟩
    have whole : Members (fun _ => Unchecked) false (((), value) :: members)
        (outer ++ (lead false ++
          (inner ++ quote :: (name ++ (gap ++ colon :: (blank ++ (value ++ tail))))))) :=
      .next isOuter isInner isName isGap isBlank isMembers
    simpa [lead] using whole

end Enclosure

theorem readColon_eq_ok {input rest : Bytes} (read : readColon input = .ok rest) :
    ∃ gap, Blank gap ∧ input = gap ++ colon :: rest := by
  unfold readColon at read
  split at read
  next => cases read
  next begun =>
    split at read
    next isColon =>
      cases read
      exact isColon ▸ exists_blank_cons begun
    next => cases read

theorem skipKey_eq_ok {input rest : Bytes} (skipped : skipKey input = .ok rest) :
    ∃ start, Enclosure.object.Opens start ∧ input = start ++ rest := by
  unfold skipKey at skipped
  split at skipped
  next => cases skipped
  next begun =>
    obtain ⟨inner, isInner, rfl⟩ := exists_blank_cons begun
    split at skipped
    next isQuote =>
      split at skipped
      next => cases skipped
      next key =>
        obtain ⟨name, rfl, isName⟩ := skipString_eq_ok key
        obtain ⟨gap, isGap, rfl⟩ := readColon_eq_ok skipped
        refine ⟨_, ⟨inner, name, gap, isInner, isName, isGap, rfl⟩, ?_⟩
        simp only [isQuote, List.append_assoc, List.cons_append, List.nil_append]
    next => cases skipped

theorem word_eq_ok {letters input rest : Bytes} (read : word letters input = .ok rest) :
    input = letters ++ rest := by
  induction letters generalizing input with
  | nil => cases read; rfl
  | cons letter letters ih =>
    cases input with
    | nil => cases read
    | cons b input =>
      simp only [word] at read
      split at read
      next same => rw [same, ih read]; rfl
      next => cases read

theorem skipScalar_eq_ok {input rest : Bytes} (skipped : skipScalar input = .ok rest) :
    ∃ text, input = text ++ rest ∧ Value text := by
  cases input with
  | nil => cases skipped
  | cons b input =>
    simp only [skipScalar] at skipped
    repeat' split at skipped
    next same => exact ⟨_, by rw [same, word_eq_ok skipped]; rfl, .null⟩
    next same => exact ⟨_, by rw [same, word_eq_ok skipped]; rfl, .yes⟩
    next same => exact ⟨_, by rw [same, word_eq_ok skipped]; rfl, .no⟩
    next =>
      obtain ⟨text, split, number⟩ := skipNumber_eq_ok skipped
      exact ⟨text, split, .number number⟩
    next same =>
      obtain ⟨text, rfl, unchecked⟩ := skipString_eq_ok skipped
      exact ⟨quote :: text, by rw [same]; rfl, .string unchecked⟩
    next => cases skipped

/-- What has been read on entering: a whole value, or an enclosure up to its first value. -/
def Entered : Option Enclosure → Bytes → Prop
  | none, text => Value text
  | some enclosure, text => ∃ start, enclosure.Opens start ∧ text = enclosure.opening :: start

theorem enter_eq_ok {input rest : Bytes} {entered : Option Enclosure}
    (enters : enter input = .ok (entered, rest)) :
    ∃ blank text, Blank blank ∧ Entered entered text ∧ input = blank ++ (text ++ rest) := by
  unfold enter at enters
  split at enters
  next => cases enters
  next begun =>
    obtain ⟨blank, isBlank, rfl⟩ := exists_blank_cons begun
    split at enters
    next isList =>
      split at enters
      next => cases enters
      next opened =>
        obtain ⟨inner, isInner, rfl⟩ := exists_blank_cons opened
        split at enters
        next isClose =>
          cases enters
          refine ⟨blank, _, isBlank, .list (.close isInner) (List.forall_mem_nil _), ?_⟩
          simp [isList, isClose]
        next =>
          cases enters
          exact ⟨blank, _, isBlank, ⟨inner, isInner, rfl⟩, by rw [isList]; rfl⟩
    split at enters
    next isObject =>
      split at enters
      next => cases enters
      next opened =>
        obtain ⟨inner, isInner, rfl⟩ := exists_blank_cons opened
        split at enters
        next isClose =>
          cases enters
          refine ⟨blank, _, isBlank, .object (.close isInner) (List.forall_mem_nil _), ?_⟩
          simp [isObject, isClose]
        next =>
          obtain ⟨value, key, same⟩ := map_eq_ok enters
          cases same
          obtain ⟨_, ⟨indent, name, gap, isIndent, isName, isGap, rfl⟩, same⟩ := skipKey_eq_ok key
          have opens : Enclosure.object.Opens
              ((inner ++ indent) ++ quote :: (name ++ (gap ++ [colon]))) :=
            ⟨_, name, gap, isInner.append isIndent, isName, isGap, rfl⟩
          refine ⟨blank, _, isBlank, ⟨_, opens, rfl⟩, ?_⟩
          rw [isObject, same]
          simp [Enclosure.opening]
    next =>
      obtain ⟨after, skipped, same⟩ := map_eq_ok enters
      cases same
      obtain ⟨text, same, isValue⟩ := skipScalar_eq_ok skipped
      exact ⟨blank, text, isBlank, isValue, by rw [same]⟩

theorem advance_eq_ok {enclosure : Enclosure} {input rest : Bytes} {more : Bool}
    (advanced : advance enclosure input = .ok (more, rest)) :
    ∃ outer, Blank outer ∧
      if more then ∃ start, enclosure.Opens start ∧ input = outer ++ comma :: (start ++ rest)
      else input = outer ++ enclosure.closing :: rest := by
  cases enclosure with
  | list =>
    simp only [advance] at advanced
    split at advanced
    next => cases advanced
    next begun =>
      obtain ⟨outer, isOuter, rfl⟩ := exists_blank_cons begun
      refine ⟨outer, isOuter, ?_⟩
      split at advanced
      next isComma =>
        cases advanced
        exact ⟨[], blank_nil, by rw [isComma]; rfl⟩
      split at advanced
      next isClose =>
        cases advanced
        rw [isClose]
        rfl
      next => cases advanced
  | object =>
    simp only [advance] at advanced
    split at advanced
    next => cases advanced
    next begun =>
      obtain ⟨outer, isOuter, rfl⟩ := exists_blank_cons begun
      refine ⟨outer, isOuter, ?_⟩
      split at advanced
      next isComma =>
        obtain ⟨value, key, same⟩ := map_eq_ok advanced
        cases same
        obtain ⟨start, opens, rfl⟩ := skipKey_eq_ok key
        exact ⟨start, opens, by rw [isComma]⟩
      split at advanced
      next isClose =>
        cases advanced
        rw [isClose]
        rfl
      next => cases advanced

def ClosesAll : List Enclosure → Bytes → Prop
  | [], text => text = []
  | enclosure :: outer, text =>
    ∃ first more, enclosure.Closes first ∧ ClosesAll outer more ∧ text = first ++ more

/-- What is passed over is a value and what closes the enclosures around it. -/
theorem skip_sound :
    (∀ enclosures input, ∀ rest, skipWithin enclosures input = .ok rest →
      ∃ blank value tail, Blank blank ∧ Value value ∧ ClosesAll enclosures tail ∧
        input = blank ++ (value ++ (tail ++ rest))) ∧
    (∀ enclosures input, ∀ rest, skipAfter enclosures input = .ok rest →
      ∃ tail, ClosesAll enclosures tail ∧ input = tail ++ rest) := by
  apply skipWithin.mutual_induct
  · intro enclosures input e entered rest skipped
    rw [skipWithin_eq, entered] at skipped
    cases skipped
  · -- An enclosure is entered, so what is left closes it first: up to there it is the value.
    intro enclosures input enclosure inner entered _ ih rest skipped
    rw [skipWithin_eq, entered] at skipped
    obtain ⟨blank, _, isBlank, ⟨start, opens, rfl⟩, rfl⟩ := enter_eq_ok entered
    obtain ⟨space, value, tail, isSpace, isValue, closes, rfl⟩ := ih rest skipped
    obtain ⟨first, more, closesFirst, closesMore, rfl⟩ := closes
    exact ⟨blank, _, more, isBlank, enclosure.value_of_opens opens isSpace isValue closesFirst,
      closesMore, by simp⟩
  · intro enclosures input inner entered _ ih rest skipped
    rw [skipWithin_eq, entered] at skipped
    obtain ⟨blank, value, isBlank, isValue, rfl⟩ := enter_eq_ok entered
    obtain ⟨tail, closes, rfl⟩ := ih rest skipped
    exact ⟨blank, value, tail, isBlank, isValue, closes, rfl⟩
  · intro input rest skipped
    rw [skipAfter_nil] at skipped
    cases skipped
    exact ⟨[], rfl, rfl⟩
  · intro input enclosure outer e advanced rest skipped
    rw [skipAfter_cons, advanced] at skipped
    cases skipped
  · -- Another value follows within the same enclosure.
    intro input enclosure outer inner advanced _ ih rest skipped
    rw [skipAfter_cons, advanced] at skipped
    obtain ⟨space, isSpace, start, opens, rfl⟩ := advance_eq_ok advanced
    obtain ⟨blank, value, tail, isBlank, isValue, closes, rfl⟩ := ih rest skipped
    obtain ⟨first, more, closesFirst, closesMore, rfl⟩ := closes
    exact ⟨_, ⟨_, more, enclosure.closes_next isSpace opens isBlank isValue closesFirst,
      closesMore, rfl⟩, by simp⟩
  · -- The enclosure is closed, and what is left closes the others.
    intro input enclosure outer inner advanced _ ih rest skipped
    rw [skipAfter_cons, advanced] at skipped
    obtain ⟨space, isSpace, same⟩ := advance_eq_ok advanced
    obtain ⟨tail, closes, rfl⟩ := ih rest skipped
    refine ⟨_, ⟨_, tail, enclosure.closes_close isSpace, closes, rfl⟩, ?_⟩
    rw [same]
    simp

theorem skipValue_eq_ok {input rest : Bytes} (skipped : skipValue input = .ok rest) :
    ∃ blank value, Blank blank ∧ Value value ∧ input = blank ++ (value ++ rest) := by
  obtain ⟨blank, value, tail, isBlank, isValue, rfl, same⟩ := skip_sound.1 [] input rest skipped
  exact ⟨blank, value, isBlank, isValue, same⟩

/-! ## Every value can be passed over -/

theorem enter_append_blank {blank : Bytes} (isBlank : Blank blank) (input : Bytes) :
    enter (blank ++ input) = enter input := by
  simp only [enter, isBlank.skipBlank_append]

theorem skipWithin_append_blank {blank : Bytes} (isBlank : Blank blank)
    (enclosures : List Enclosure) (input : Bytes) :
    skipWithin enclosures (blank ++ input) = skipWithin enclosures input := by
  rw [skipWithin_eq, skipWithin_eq, enter_append_blank isBlank]

theorem Grammar.Unsigned.begins {text : Bytes} (unsigned : Unsigned text) :
    ∃ b more, text = b :: more ∧ isDigit b = true := by
  obtain ⟨whole, -, -⟩ := unsigned
  obtain ⟨b, more, rfl, isLead⟩ := whole.begins
  exact ⟨b, _, rfl, isLead⟩

theorem Grammar.Number.begins {text : Bytes} (number : Grammar.Number text) :
    ∃ b more, text = b :: more ∧ startsNumber b = true := by
  cases number with
  | positive unsigned =>
    obtain ⟨b, more, same, isLead⟩ := unsigned.begins
    exact ⟨b, more, same, Codec.startsNumber_of_isDigit isLead⟩
  | negative => exact ⟨minus, _, rfl, rfl⟩

/-- A value starts visibly, and not as a list ends. -/
theorem Grammar.Value.begins {text : Bytes} (isValue : Value text) :
    ∃ b more, text = b :: more ∧ isBlank b = false ∧ b ≠ closeList := by
  cases isValue with
  | number number =>
    obtain ⟨b, more, same, starts⟩ := number.begins
    exact ⟨b, more, same, startsNumber_visible starts⟩
  | null | yes | no | string | list | object =>
    exact ⟨_, _, rfl, by decide, by decide⟩

theorem startsNumber_distinct {b : UInt8} (starts : startsNumber b = true) :
    b ≠ openList ∧ b ≠ openObject ∧ b ≠ 0x6E ∧ b ≠ 0x74 ∧ b ≠ 0x66 := by
  refine ⟨?_, ?_, ?_, ?_, ?_⟩ <;> rintro rfl <;> cases starts

theorem startsNumber_iff {b : UInt8} :
    startsNumber b = true ↔ b = minus ∨ isDigit b = true := by
  simp [startsNumber]

theorem enter_number {text rest : Bytes} (number : Grammar.Number text) (ends : Ends rest) :
    enter (text ++ rest) = .ok (none, rest) := by
  have skipped := skipNumber_append number ends
  obtain ⟨b, more, rfl, starts⟩ := number.begins
  obtain ⟨notList, notObject, notNull, notTrue, notFalse⟩ := startsNumber_distinct starts
  rw [List.cons_append] at skipped ⊢
  rw [enter, skipBlank_cons (startsNumber_visible starts).1]
  simp only [if_neg notList, if_neg notObject, skipScalar, if_neg notNull, if_neg notTrue,
    if_neg notFalse, if_pos (startsNumber_iff.1 starts), skipped]
  rfl

theorem enter_string {text : Bytes} (unchecked : Unchecked text) (rest : Bytes) :
    enter (quote :: (text ++ rest)) = .ok (none, rest) := by
  have scalar : skipScalar (quote :: (text ++ rest)) = .ok rest := skipString_append unchecked rest
  rw [enter, skipBlank_cons (by decide)]
  change (skipScalar (quote :: (text ++ rest))).map _ = _
  rw [scalar]
  rfl

theorem enter_emptyList {blank : Bytes} (isBlank : Blank blank) (rest : Bytes) :
    enter (openList :: (blank ++ closeList :: rest)) = .ok (none, rest) := by
  rw [enter, skipBlank_cons (by decide)]
  simp only [if_true, isBlank.append_cons (show Json.isBlank closeList = false by decide)]

theorem enter_list {b : UInt8} (visible : isBlank b = false) (another : b ≠ closeList)
    {blank : Bytes} (isBlank : Blank blank) (rest : Bytes) :
    enter (openList :: (blank ++ b :: rest)) = .ok (some .list, b :: rest) := by
  rw [enter, skipBlank_cons (by decide)]
  simp only [if_true, isBlank.append_cons visible, if_neg another]

theorem skipKey_append {inner name gap : Bytes} (isInner : Blank inner) (isName : Unchecked name)
    (isGap : Blank gap) (rest : Bytes) :
    skipKey (inner ++ quote :: (name ++ (gap ++ colon :: rest))) = .ok rest := by
  rw [skipKey, isInner.append_cons (by decide)]
  simp only [if_true, skipString_append isName, readColon_append isGap]

theorem enter_emptyObject {blank : Bytes} (isBlank : Blank blank) (rest : Bytes) :
    enter (openObject :: (blank ++ closeObject :: rest)) = .ok (none, rest) := by
  have notList : openObject ≠ openList := by decide
  rw [enter, skipBlank_cons (by decide)]
  simp only [if_neg notList, if_true,
    isBlank.append_cons (show Json.isBlank closeObject = false by decide)]

theorem enter_object {inner name gap : Bytes} (isInner : Blank inner) (isName : Unchecked name)
    (isGap : Blank gap) (rest : Bytes) :
    enter (openObject :: (inner ++ quote :: (name ++ (gap ++ colon :: rest)))) =
      .ok (some .object, rest) := by
  have notList : openObject ≠ openList := by decide
  have notClose : quote ≠ closeObject := by decide
  have key := skipKey_append blank_nil isName isGap rest
  rw [List.nil_append] at key
  rw [enter, skipBlank_cons (by decide)]
  simp only [if_neg notList, if_true, if_neg notClose, key,
    isInner.append_cons (show Json.isBlank quote = false by decide)]
  rfl

theorem Grammar.Elements.ends {values : List Bytes} {text : Bytes}
    (elements : Elements false values text) (rest : Bytes) : Ends (text ++ rest) := by
  cases elements with
  | close isBlank => simpa using isBlank.ends (ends_closeList rest)
  | next isOuter => simpa [lead] using isOuter.ends (ends_comma _)

theorem Grammar.Members.ends {κ : Type} {spells : κ → Bytes → Prop} {members : List (κ × Bytes)}
    {text : Bytes} (isMembers : Members spells false members text) (rest : Bytes) :
    Ends (text ++ rest) := by
  cases isMembers with
  | close isBlank => simpa using isBlank.ends (ends_closeObject rest)
  | next isOuter => simpa [lead] using isOuter.ends (ends_comma _)

def Skippable (text : Bytes) : Prop :=
  ∀ (enclosures : List Enclosure) {rest : Bytes}, Ends rest →
    skipWithin enclosures (text ++ rest) = skipAfter enclosures rest

theorem skippable_of_enter {text : Bytes}
    (entered : ∀ {rest : Bytes}, Ends rest → enter (text ++ rest) = .ok (none, rest)) :
    Skippable text := by
  intro enclosures rest ends
  rw [skipWithin_eq, entered ends]

theorem skipAfter_elements {values : List Bytes} {text : Bytes}
    (elements : Elements false values text) (all : ∀ value ∈ values, Skippable value)
    (enclosures : List Enclosure) (rest : Bytes) :
    skipAfter (.list :: enclosures) (text ++ rest) = skipAfter enclosures rest := by
  induction values generalizing text with
  | nil =>
    obtain ⟨isBlank⟩ := elements
    rw [skipAfter_cons, advance, List.append_assoc, List.singleton_append,
      isBlank.append_cons (by decide)]
    rfl
  | cons value values ih =>
    obtain _ | ⟨isOuter, isInner, more⟩ := elements
    obtain ⟨skippable, others⟩ := List.forall_mem_cons.1 all
    simp only [lead, Bool.false_eq_true, if_false, List.append_assoc, List.cons_append,
      List.nil_append]
    rw [skipAfter_cons, advance, isOuter.append_cons (by decide)]
    simp only [if_true]
    rw [skipWithin_append_blank isInner, skippable _ (more.ends rest), ih more others]

theorem skipAfter_members {members : List (Unit × Bytes)} {text : Bytes}
    (isMembers : Members (fun _ => Unchecked) false members text)
    (all : ∀ member ∈ members, Skippable member.2) (enclosures : List Enclosure) (rest : Bytes) :
    skipAfter (.object :: enclosures) (text ++ rest) = skipAfter enclosures rest := by
  induction members generalizing text with
  | nil =>
    obtain ⟨isBlank⟩ := isMembers
    rw [skipAfter_cons, advance, List.append_assoc, List.singleton_append,
      isBlank.append_cons (by decide)]
    rfl
  | cons member members ih =>
    obtain _ | ⟨isOuter, isInner, isName, isGap, isSpace, more⟩ := isMembers
    obtain ⟨skippable, others⟩ := List.forall_mem_cons.1 all
    simp only [lead, Bool.false_eq_true, if_false, List.append_assoc, List.cons_append,
      List.nil_append]
    rw [skipAfter_cons, advance, isOuter.append_cons (by decide)]
    simp only [if_true, skipKey_append isInner isName isGap]
    change skipWithin _ _ = _
    rw [skipWithin_append_blank isSpace, skippable _ (more.ends rest), ih more others]

theorem Grammar.Value.skippable {text : Bytes} (isValue : Value text) : Skippable text := by
  induction isValue with
  | null => exact skippable_of_enter fun _ => rfl
  | yes => exact skippable_of_enter fun _ => rfl
  | no => exact skippable_of_enter fun _ => rfl
  | number number => exact skippable_of_enter fun ends => enter_number number ends
  | string unchecked => exact skippable_of_enter fun _ => enter_string unchecked _
  | list elements all ih =>
    intro enclosures rest ends
    cases elements with
    | close isBlank =>
      rw [List.cons_append, List.append_assoc, List.singleton_append, skipWithin_eq,
        enter_emptyList isBlank]
    | next isOuter isInner more =>
      obtain ⟨skippable, others⟩ := List.forall_mem_cons.1 ih
      obtain ⟨b, tail, same, visible, another⟩ := (all _ List.mem_cons_self).begins
      have passed := skippable (.list :: enclosures) (more.ends rest)
      rw [same, List.cons_append] at passed
      simp only [lead, if_true, same, List.nil_append, List.append_assoc, List.cons_append]
      rw [← List.append_assoc, skipWithin_eq,
        enter_list visible another (isOuter.append isInner)]
      change skipWithin _ _ = _
      rw [passed, skipAfter_elements more others]
  | object isMembers _ ih =>
    intro enclosures rest ends
    cases isMembers with
    | close isBlank =>
      rw [List.cons_append, List.append_assoc, List.singleton_append, skipWithin_eq,
        enter_emptyObject isBlank]
    | next isOuter isInner isName isGap isSpace more =>
      obtain ⟨skippable, others⟩ := List.forall_mem_cons.1 ih
      simp only [lead, if_true, List.nil_append, List.append_assoc, List.cons_append]
      rw [← List.append_assoc, skipWithin_eq, enter_object (isOuter.append isInner) isName isGap]
      change skipWithin _ _ = _
      rw [skipWithin_append_blank isSpace, skippable _ (more.ends rest),
        skipAfter_members more others]

theorem skipValue_append {blank text rest : Bytes} (isBlank : Blank blank) (isValue : Value text)
    (ends : Ends rest) : skipValue (blank ++ (text ++ rest)) = .ok rest := by
  rw [skipValue, skipWithin_append_blank isBlank, isValue.skippable [] ends, skipAfter_nil]

end ProbeHost.Json
