import ProbeHost.Proofs.Config.Precedence
import ProbeHost.Proofs.Text.Decimal

/-! The rate that the environment sets.

The variable sets a rate if its content is digits behind an optional plus sign, and the number is
neither zero nor too great for 64 bits. Any other content is as good as none, so the rate is never
one that a probe cannot be hosted with.
-/

set_option autoImplicit false

namespace ProbeHost

namespace Environment

def SetsRate (environment : Environment) (n : Nat) : Prop :=
  ∃ text, environment.probeRate? = some (Utf8.encode text) ∧ Numeral.Unsigned text.toList n ∧
    1 ≤ n ∧ n < 2 ^ 64

/-- The rate of the variable, before the default stands in. -/
def rate? (environment : Environment) : Option Nat :=
  (environment.probeRate?.bind Utf8.decode).bind fun text =>
    (Numeral.unsigned? UInt64.size text).bind fun n => if 0 < n then some n else none

variable {environment : Environment}

theorem rate?_eq_some {n : Nat} : environment.rate? = some n ↔ environment.SetsRate n := by
  simp only [rate?, Option.bind_eq_some_iff, Numeral.unsigned?_eq_some,
    Option.ite_none_right_eq_some, Option.some.injEq, Utf8.decode_eq_some]
  constructor
  · rintro ⟨text, ⟨content, isSet, rfl⟩, k, ⟨unsigned, fits⟩, positive, rfl⟩
    exact ⟨text, isSet, unsigned, positive, fits⟩
  · rintro ⟨text, isSet, unsigned, positive, fits⟩
    exact ⟨text, ⟨_, isSet, rfl⟩, n, ⟨unsigned, fits⟩, positive, rfl⟩

theorem rate_eq (environment : Environment) :
    environment.rate = .ofNat (environment.rate?.getD defaultRate) :=
  rfl

theorem rate_of_setsRate {n : Nat} (isSet : environment.SetsRate n) :
    environment.rate.toNat = n := by
  rw [rate_eq, rate?_eq_some.2 isSet, Option.getD_some]
  obtain ⟨-, -, -, -, fits⟩ := isSet
  exact UInt64.toNat_ofNat_of_lt fits

theorem rate_of_not_setsRate (unset : ∀ n, ¬ environment.SetsRate n) :
    environment.rate.toNat = 5 := by
  have none : environment.rate? = none :=
    Option.eq_none_iff_forall_ne_some.2 fun n isSet => unset n (rate?_eq_some.1 isSet)
  rw [rate_eq, none]
  rfl

theorem rate_eq_iff {n : Nat} :
    environment.rate.toNat = n ↔
      environment.SetsRate n ∨ (n = 5 ∧ ∀ m, ¬ environment.SetsRate m) := by
  constructor
  · rintro rfl
    by_cases isSet : ∃ n, environment.SetsRate n
    · obtain ⟨n, isSet⟩ := isSet
      rw [rate_of_setsRate isSet]
      exact .inl isSet
    · have unset : ∀ n, ¬ environment.SetsRate n := fun n sets => isSet ⟨n, sets⟩
      exact .inr ⟨rate_of_not_setsRate unset, unset⟩
  · rintro (isSet | ⟨rfl, unset⟩)
    · exact rate_of_setsRate isSet
    · exact rate_of_not_setsRate unset

theorem one_le_rate (environment : Environment) : 1 ≤ environment.rate.toNat := by
  obtain ⟨-, -, -, positive, -⟩ | ⟨isDefault, -⟩ := rate_eq_iff.1 (Eq.refl environment.rate.toNat)
  · exact positive
  · omega

end Environment

namespace Config

theorem validate_of_rate {environment : Environment} {config : Config}
    (same : config.rate = environment.rate) :
    (config.nodeId = "" ∧ config.validate = .error ⟨"node id must not be empty", []⟩) ∨
      (config.nodeId ≠ "" ∧ config.validate = .ok config) := by
  have positive : 1 ≤ config.rate.toNat := same ▸ environment.one_le_rate
  by_cases named : config.nodeId = ""
  · exact .inl ⟨named, validate_eq_iff.2 (.noNode (one_le_toNat.1 positive) named)⟩
  · exact .inr ⟨named, validate_eq_iff.2 (.hostable ⟨positive, named⟩)⟩

/-- The environment's rate is the number in its variable if that is a positive number of 64 bits in
digits behind an optional plus sign, and otherwise five. So it is never zero, and a configuration
that takes it, as one without a file and without a rate among the overrides does, is valid but for a
missing name of the node. -/
theorem rate_by_grammar (environment : Environment) :
    (∀ n : Nat, environment.rate.toNat = n ↔
      environment.SetsRate n ∨ (n = 5 ∧ ∀ m, ¬ environment.SetsRate m)) ∧
    1 ≤ environment.rate.toNat ∧
    (∀ config : Config, config.rate = environment.rate →
      (config.nodeId = "" ∧ config.validate = .error ⟨"node id must not be empty", []⟩) ∨
        (config.nodeId ≠ "" ∧ config.validate = .ok config)) ∧
    ∀ (files : Files) (overrides : Overrides), overrides.rate = none →
      let combined := (ofEnvironment environment).withOverrides overrides
      combined.rate = environment.rate ∧
        (resolve environment files none overrides).1 = combined.validate := by
  refine ⟨fun n => Environment.rate_eq_iff, environment.one_le_rate,
    fun config => validate_of_rate, fun files overrides unset => ⟨?_, rfl⟩⟩
  simp [withOverrides, ofEnvironment, unset]

def withRate (content : String) : Environment :=
  { probeRate? := some (Utf8.encode content) }

theorem decimal_greatest : Numeral.Decimal "0018446744073709551615".toList (2 ^ 64 - 1) :=
  Numeral.natural?_eq_some.1 rfl

theorem decimal_beyond : Numeral.Decimal "18446744073709551616".toList (2 ^ 64) :=
  Numeral.natural?_eq_some.1 rfl

theorem rate_by_grammar_extremes :
    (withRate "+0018446744073709551615").rate.toNat = 2 ^ 64 - 1 ∧
      (withRate "18446744073709551616").rate.toNat = 5 ∧
      (⟨"n", 3, (withRate "18446744073709551616").rate, none, none⟩ : Config).validate =
        .ok ⟨"n", 3, (withRate "18446744073709551616").rate, none, none⟩ := by
  obtain ⟨greatest, -⟩ := rate_by_grammar (withRate "+0018446744073709551615")
  obtain ⟨beyond, -, valid, -⟩ := rate_by_grammar (withRate "18446744073709551616")
  have noRate (n : Nat) : ¬ (withRate "18446744073709551616").SetsRate n := by
    rintro ⟨text, same, unsigned, -, fits⟩
    have isText : Utf8.encode "18446744073709551616" = Utf8.encode text := Option.some.inj same
    obtain rfl : text = "18446744073709551616" := by
      rw [← Option.some.injEq, ← Utf8.decode_encode, ← isText, Utf8.decode_encode]
    have decimal := (Numeral.unsigned_of_ne_plus (by simp)).1 unsigned
    rw [decimal.unique decimal_beyond] at fits
    exact Nat.lt_irrefl _ fits
  refine ⟨(greatest _).2 (.inl ?_), (beyond 5).2 (.inr ⟨rfl, noRate⟩), ?_⟩
  · exact ⟨_, rfl, .plus decimal_greatest, by decide, by decide⟩
  · obtain ⟨unnamed, -⟩ | ⟨-, isValid⟩ := valid ⟨"n", 3, _, none, none⟩ rfl
    · exact absurd unnamed (by decide)
    · exact isValid

end Config

end ProbeHost
