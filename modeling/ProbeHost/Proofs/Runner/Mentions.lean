import ProbeHost.Proofs.Log.Verbosity
import ProbeHost.Proofs.Text.Decimal
import ProbeHost.Runner.Arguments

/-! What a command line says.

A command line mentions options, each in one of its spellings. What the mentions say is told of
the arguments as a whole: an option that is mentioned once has the value that its text is read as,
one that is not mentioned has what it has by default, and no option is mentioned twice. Neither
the order of the mentions nor their spelling matters.
-/

set_option autoImplicit false

namespace ProbeHost

inductive Setting.Value where
  | text (text : String)
  | number (n : Nat)
  | verbosity (verbosity : Log.Verbosity)

/-- An option on the command line, with the text of its value if it takes one. -/
inductive Mention where
  | setting (setting : Setting) (text : String)
  | json
  deriving DecidableEq, Repr

namespace Setting

inductive Reads : Setting → String → Value → Prop where
  | config {path : String} : path ≠ "" → Reads .config path (.text path)
  | nodeId {name : String} : Reads .nodeId name (.text name)
  | index {text : String} {n : Nat} : Numeral.Signed text.toList n → n < UInt16.size →
      Reads .index text (.number n)
  | rate {text : String} {n : Nat} : Numeral.Unsigned text.toList n → n < UInt64.size →
      Reads .rate text (.number n)
  | count {text : String} {n : Nat} : Numeral.Unsigned text.toList n → n < UInt64.size →
      Reads .count text (.number n)
  | probeConfig {path : String} : path ≠ "" → Reads .probeConfig path (.text path)
  | verbosity {text : String} {verbosity : Log.Verbosity} :
      Log.Verbosity.Spells text verbosity.name → Reads .verbosity text (.verbosity verbosity)

def value? : Setting → Arguments → Option Value
  | config, given => given.config.map .text
  | nodeId, given => given.nodeId.map .text
  | index, given => given.index.map fun n => .number n.toNat
  | rate, given => given.rate.map fun n => .number n.toNat
  | count, given => given.count.map fun n => .number n.toNat
  | probeConfig, given => given.probeConfig.map .text
  | verbosity, given => some (.verbosity given.verbosity)

def texts (setting : Setting) (mentions : List Mention) : List String :=
  mentions.filterMap fun
    | .setting other text => if other = setting then some text else none
    | .json => none

end Setting

def Mention.option : Mention → Option Setting
  | .setting asked _ => some asked
  | .json => none

/-- A number that is too large for a setting, or less than it can be. -/
def Setting.OutOfRange : Setting → String → Prop
  | .index, text => ∃ z : Int, Numeral.Signed text.toList z ∧ ¬ (0 ≤ z ∧ z < UInt16.size)
  | .rate, text => ∃ z : Int, Numeral.Signed text.toList z ∧ ¬ (0 ≤ z ∧ z < UInt64.size)
  | .count, text => ∃ z : Int, Numeral.Signed text.toList z ∧ ¬ (0 ≤ z ∧ z < UInt64.size)
  | _, _ => False

/-- The ways to write an option. A value that begins with a dash has to stand in the same word. -/
inductive Mention.Spelled : Mention → List String → Prop where
  | joined (setting : Setting) (text : String) :
      Spelled (.setting setting text) ["--" ++ setting.name ++ "=" ++ text]
  | apart (setting : Setting) (text : String) : text.toList.head? ≠ some '-' →
      Spelled (.setting setting text) ["--" ++ setting.name, text]
  | short (text : String) : text.toList.head? ≠ some '-' →
      Spelled (.setting .config text) ["-c", text]
  | json : Spelled .json ["--json"]

inductive Writes : List Mention → List String → Prop where
  | nil : Writes [] []
  | cons {mention : Mention} {mentions : List Mention} {words rest : List String} :
      mention.Spelled words → Writes mentions rest → Writes (mention :: mentions) (words ++ rest)

/-- The mentions say that these are the arguments. -/
structure Arguments.Told (given : Arguments) (mentions : List Mention) : Prop where
  settings : ∀ setting : Setting,
    (setting.texts mentions = [] ∧ setting.value? given = setting.value? {}) ∨
      ∃ text value, setting.texts mentions = [text] ∧ setting.Reads text value ∧
        setting.value? given = some value
  json : mentions.count .json = given.json.toNat

structure Overrides.Told (overrides : Overrides) (mentions : List Mention) : Prop where
  nodeId : ∀ name, overrides.nodeId = some name ↔ .setting .nodeId name ∈ mentions
  index : ∀ n : UInt16, overrides.index = some n ↔
    ∃ text, .setting .index text ∈ mentions ∧ Numeral.Signed text.toList n.toNat
  rate : ∀ n : UInt64, overrides.rate = some n ↔
    ∃ text, .setting .rate text ∈ mentions ∧ Numeral.Unsigned text.toList n.toNat
  count : ∀ n : UInt64, overrides.count = some n ↔
    ∃ text, .setting .count text ∈ mentions ∧ Numeral.Unsigned text.toList n.toNat
  configuration : ∀ path, overrides.configuration = some path ↔
    .setting .probeConfig path ∈ mentions

/-! ## Values -/

namespace Setting

/-- Arguments with one setting as it was before. -/
def restore : Setting → Arguments → Arguments → Arguments
  | config, before, given => { given with config := before.config }
  | nodeId, before, given => { given with nodeId := before.nodeId }
  | index, before, given => { given with index := before.index }
  | rate, before, given => { given with rate := before.rate }
  | count, before, given => { given with count := before.count }
  | probeConfig, before, given => { given with probeConfig := before.probeConfig }
  | verbosity, before, given => { given with verbosity := before.verbosity }

theorem value?_restore (setting : Setting) {other : Setting} (different : setting ≠ other)
    (before given : Arguments) : setting.value? (other.restore before given) =
      setting.value? given := by
  cases setting <;> cases other <;> first | rfl | exact absurd rfl different

theorem json_restore (setting : Setting) (before given : Arguments) :
    (setting.restore before given).json = given.json := by
  cases setting <;> rfl

end Setting

namespace Arguments

variable {given other next : Arguments} {setting : Setting} {text : String} {value : Setting.Value}

/-- Arguments are what they have for each setting, and the flag. -/
theorem ext_of_value? (values : ∀ setting : Setting, setting.value? given = setting.value? other)
    (json : given.json = other.json) : given = other := by
  -- A value is put the same way for whole numbers of either size, and tells them apart.
  have text : Function.Injective Setting.Value.text := fun _ _ => Setting.Value.text.inj
  have word : Function.Injective fun n : UInt64 => Setting.Value.number n.toNat :=
    fun _ _ same => UInt64.toNat_inj.1 (Setting.Value.number.inj same)
  have half : Function.Injective fun n : UInt16 => Setting.Value.number n.toNat :=
    fun _ _ same => UInt16.toNat_inj.1 (Setting.Value.number.inj same)
  have config := Option.map_injective text (values .config)
  have nodeId := Option.map_injective text (values .nodeId)
  have index := Option.map_injective half (values .index)
  have rate := Option.map_injective word (values .rate)
  have count := Option.map_injective word (values .count)
  have probeConfig := Option.map_injective text (values .probeConfig)
  have verbosity := Setting.Value.verbosity.inj (Option.some.inj (values .verbosity))
  cases given
  cases other
  simp_all

/-- One setting has a value now, and with that taken back nothing has changed. -/
structure Sets (given : Arguments) (setting : Setting) (value : Setting.Value) (next : Arguments) :
    Prop where
  value : setting.value? next = some value
  restored : setting.restore given next = given

theorem Sets.others (sets : given.Sets setting value next) {elsewhere : Setting}
    (different : elsewhere ≠ setting) : elsewhere.value? next = elsewhere.value? given := by
  rw [← elsewhere.value?_restore different given next, sets.restored]

theorem Sets.json (sets : given.Sets setting value next) : next.json = given.json := by
  rw [← setting.json_restore given next, sets.restored]

theorem reads_of_set? (set : given.set? setting text = some next) :
    ∃ value, setting.Reads text value := by
  cases setting with
  | config =>
    obtain ⟨path, isPath, -⟩ := Option.map_eq_some_iff.1 set
    refine ⟨_, .config fun empty => ?_⟩
    simp [path?, empty] at isPath
  | nodeId => exact ⟨_, .nodeId⟩
  | index =>
    obtain ⟨z, read, -⟩ := Option.map_eq_some_iff.1 set
    obtain ⟨signed, least, small⟩ := Numeral.integer?_eq_some.1 read
    obtain ⟨n, rfl⟩ := Int.eq_ofNat_of_zero_le least
    exact ⟨_, .index signed (Int.ofNat_lt.1 small)⟩
  | rate =>
    obtain ⟨n, read, -⟩ := Option.map_eq_some_iff.1 set
    obtain ⟨unsigned, small⟩ := Numeral.unsigned?_eq_some.1 read
    exact ⟨_, .rate unsigned small⟩
  | count =>
    obtain ⟨n, read, -⟩ := Option.map_eq_some_iff.1 set
    obtain ⟨unsigned, small⟩ := Numeral.unsigned?_eq_some.1 read
    exact ⟨_, .count unsigned small⟩
  | probeConfig =>
    obtain ⟨path, isPath, -⟩ := Option.map_eq_some_iff.1 set
    refine ⟨_, .probeConfig fun empty => ?_⟩
    simp [path?, empty] at isPath
  | verbosity =>
    cases parsed : Log.Verbosity.parse text with
    | error e => simp [set?, parsed] at set
    | ok verbosity => exact ⟨_, .verbosity (Log.Verbosity.parse_eq_ok.1 parsed)⟩

theorem set?_of_reads (reads : setting.Reads text value) (given : Arguments) :
    ∃ next, given.set? setting text = some next ∧ given.Sets setting value next := by
  cases reads with
  | config some =>
    exact ⟨{ given with config := text }, by simp [set?, path?, some], rfl, rfl⟩
  | nodeId => exact ⟨{ given with nodeId := text }, rfl, rfl, rfl⟩
  | @index _ n signed small =>
    have read := Numeral.integer?_eq_some.2 ⟨signed, Int.natCast_nonneg n, Int.ofNat_lt.2 small⟩
    refine ⟨{ given with index := UInt16.ofNat n }, ?_, ?_, rfl⟩
    · simp only [set?, read, Option.map_some, Int.toNat_natCast]
    · exact congrArg (fun n => some (Setting.Value.number n)) (UInt16.toNat_ofNat_of_lt' small)
  | @rate _ n unsigned small =>
    have read := Numeral.unsigned?_eq_some.2 ⟨unsigned, small⟩
    refine ⟨{ given with rate := UInt64.ofNat n }, ?_, ?_, rfl⟩
    · simp only [set?, read, Option.map_some]
    · exact congrArg (fun n => some (Setting.Value.number n)) (UInt64.toNat_ofNat_of_lt' small)
  | @count _ n unsigned small =>
    have read := Numeral.unsigned?_eq_some.2 ⟨unsigned, small⟩
    refine ⟨{ given with count := UInt64.ofNat n }, ?_, ?_, rfl⟩
    · simp only [set?, read, Option.map_some]
    · exact congrArg (fun n => some (Setting.Value.number n)) (UInt64.toNat_ofNat_of_lt' small)
  | probeConfig some =>
    exact ⟨{ given with probeConfig := text }, by simp [set?, path?, some], rfl, rfl⟩
  | @verbosity _ verbosity spells =>
    have parsed := Log.Verbosity.parse_eq_ok.2 spells
    exact ⟨{ given with verbosity }, by simp only [set?, parsed], rfl, rfl⟩

theorem sets_of_set? (set : given.set? setting text = some next) :
    ∃ value, setting.Reads text value ∧ given.Sets setting value next := by
  obtain ⟨value, reads⟩ := reads_of_set? set
  obtain ⟨same, taken, sets⟩ := set?_of_reads reads given
  rw [set] at taken
  obtain rfl := Option.some.inj taken
  exact ⟨value, reads, sets⟩

end Arguments

theorem Setting.Reads.unique {setting : Setting} {text : String} {value other : Value}
    (one : setting.Reads text value) (two : setting.Reads text other) : value = other := by
  obtain ⟨first, set, sets⟩ := Arguments.set?_of_reads one {}
  obtain ⟨second, again, alike⟩ := Arguments.set?_of_reads two {}
  rw [set] at again
  obtain rfl := Option.some.inj again
  exact Option.some.inj (sets.value.symm.trans alike.value)

/-! ## What mentions say -/

namespace Setting

section

variable {text : String}

theorem reads_nodeId {name : String} : Reads .nodeId text (.text name) ↔ text = name := by
  refine ⟨?_, by rintro rfl; exact .nodeId⟩
  rintro ⟨⟩
  rfl

theorem reads_probeConfig {path : String} :
    Reads .probeConfig text (.text path) ↔ text = path ∧ path ≠ "" := by
  refine ⟨?_, by rintro ⟨rfl, some⟩; exact .probeConfig some⟩
  rintro ⟨⟩
  exact ⟨rfl, by assumption⟩

theorem reads_index {n : UInt16} :
    Reads .index text (.number n.toNat) ↔ Numeral.Signed text.toList n.toNat := by
  refine ⟨?_, fun signed => .index signed n.toNat_lt⟩
  rintro ⟨⟩
  assumption

theorem reads_rate {n : UInt64} :
    Reads .rate text (.number n.toNat) ↔ Numeral.Unsigned text.toList n.toNat := by
  refine ⟨?_, fun unsigned => .rate unsigned n.toNat_lt⟩
  rintro ⟨⟩
  assumption

theorem reads_count {n : UInt64} :
    Reads .count text (.number n.toNat) ↔ Numeral.Unsigned text.toList n.toNat := by
  refine ⟨?_, fun unsigned => .count unsigned n.toNat_lt⟩
  rintro ⟨⟩
  assumption

end

variable (setting : Setting) (mentions : List Mention)

theorem texts_append (more : List Mention) :
    setting.texts (mentions ++ more) = setting.texts mentions ++ setting.texts more :=
  List.filterMap_append

theorem texts_setting (text : String) : setting.texts (.setting setting text :: mentions) =
    text :: setting.texts mentions :=
  List.filterMap_cons_some (if_pos rfl)

theorem texts_other {other : Setting} (different : other ≠ setting) (text : String) :
    setting.texts (.setting other text :: mentions) = setting.texts mentions :=
  List.filterMap_cons_none (if_neg different)

theorem texts_json : setting.texts (.json :: mentions) = setting.texts mentions :=
  List.filterMap_cons_none rfl

theorem mem_texts {setting : Setting} {text : String} {mentions : List Mention} :
    text ∈ setting.texts mentions ↔ .setting setting text ∈ mentions := by
  induction mentions with
  | nil => simp [texts]
  | cons mention mentions ih =>
    rw [List.mem_cons]
    cases mention with
    | json => simp [texts_json, ih]
    | setting other written =>
      by_cases same : other = setting
      · subst same
        simp [texts_setting, ih]
      · simp [texts_other _ _ same, ih, Ne.symm same]

theorem OutOfRange.not_reads {setting : Setting} {text : String}
    (outside : setting.OutOfRange text) {value : Value} : ¬ setting.Reads text value := by
  intro reads
  cases reads with
  | config | nodeId | probeConfig | verbosity => exact outside
  | index signed small =>
    obtain ⟨z, read, outside⟩ := outside
    obtain rfl := read.unique signed
    exact outside ⟨Int.natCast_nonneg _, Int.ofNat_lt.2 small⟩
  | rate unsigned small =>
    obtain ⟨z, read, outside⟩ := outside
    obtain rfl := read.unique (.unsigned unsigned)
    exact outside ⟨Int.natCast_nonneg _, Int.ofNat_lt.2 small⟩
  | count unsigned small =>
    obtain ⟨z, read, outside⟩ := outside
    obtain rfl := read.unique (.unsigned unsigned)
    exact outside ⟨Int.natCast_nonneg _, Int.ofNat_lt.2 small⟩

end Setting

namespace Mention

theorem count_option_some (setting : Setting) (mentions : List Mention) :
    (mentions.map option).count (some setting) = (setting.texts mentions).length := by
  induction mentions with
  | nil => rfl
  | cons mention mentions ih =>
    cases mention with
    | json => simpa [option, setting.texts_json] using ih
    | setting other text =>
      by_cases same : other = setting
      · subst same
        simpa [option, other.texts_setting] using ih
      · simpa [option, setting.texts_other _ same, same] using ih

theorem count_option_none (mentions : List Mention) :
    (mentions.map option).count none = mentions.count .json := by
  induction mentions with
  | nil => rfl
  | cons mention mentions ih =>
    cases mention with
    | json => simpa [option] using ih
    | setting other text => simpa [option] using ih

end Mention

namespace Arguments.Told

variable {given other : Arguments} {mentions : List Mention}

theorem unique (one : given.Told mentions) (two : other.Told mentions) : given = other := by
  refine ext_of_value? (fun setting => ?_) ?_
  · rcases one.settings setting with ⟨never, default⟩ | ⟨text, value, once, reads, has⟩
    · rcases two.settings setting with ⟨-, alike⟩ | ⟨text, value, once, -, -⟩
      · rw [default, alike]
      · rw [never] at once
        cases once
    · rcases two.settings setting with ⟨never, -⟩ | ⟨again, same, twice, alike, holds⟩
      · rw [never] at once
        cases once
      · rw [once] at twice
        obtain rfl := List.singleton_inj.1 twice
        rw [has, holds, reads.unique alike]
  · have counted := one.json.symm.trans two.json
    revert counted
    cases given.json <;> cases other.json <;> decide

theorem texts_length_le (told : given.Told mentions) (setting : Setting) :
    (setting.texts mentions).length ≤ 1 := by
  rcases told.settings setting with ⟨never, -⟩ | ⟨text, value, once, -, -⟩
  · simp [never]
  · simp [once]

theorem reads {setting : Setting} {text : String} (told : given.Told mentions)
    (member : .setting setting text ∈ mentions) :
    ∃ value, setting.Reads text value ∧ setting.value? given = some value := by
  have listed := Setting.mem_texts.2 member
  rcases told.settings setting with ⟨never, -⟩ | ⟨written, value, once, reads, has⟩
  · rw [never] at listed
    cases listed
  · rw [once] at listed
    obtain rfl := List.mem_singleton.1 listed
    exact ⟨value, reads, has⟩

/-- Without a default, a setting has a value just if it is mentioned with it. -/
theorem value?_eq_some (told : given.Told mentions) (setting : Setting)
    (unset : setting.value? {} = none) (value : Setting.Value) :
    setting.value? given = some value ↔
      ∃ text, .setting setting text ∈ mentions ∧ setting.Reads text value := by
  constructor
  · intro has
    rcases told.settings setting with ⟨-, default⟩ | ⟨text, read, once, reads, holds⟩
    · rw [default, unset] at has
      cases has
    · rw [holds] at has
      obtain rfl := Option.some.inj has
      exact ⟨text, Setting.mem_texts.1 (once ▸ List.mem_singleton_self text), reads⟩
  · rintro ⟨text, member, reads⟩
    obtain ⟨read, alike, has⟩ := told.reads member
    rw [has, reads.unique alike]

theorem overrides (told : given.Told mentions) : given.overrides.Told mentions where
  nodeId name := by
    simpa [Arguments.overrides, Setting.value?, Setting.reads_nodeId] using
      told.value?_eq_some .nodeId rfl (.text name)
  index n := by
    simpa [Arguments.overrides, Setting.value?, UInt16.toNat_inj, Setting.reads_index] using
      told.value?_eq_some .index rfl (.number n.toNat)
  rate n := by
    simpa [Arguments.overrides, Setting.value?, UInt64.toNat_inj, Setting.reads_rate] using
      told.value?_eq_some .rate rfl (.number n.toNat)
  count n := by
    simpa [Arguments.overrides, Setting.value?, UInt64.toNat_inj, Setting.reads_count] using
      told.value?_eq_some .count rfl (.number n.toNat)
  configuration path := by
    have said := told.value?_eq_some .probeConfig rfl (.text path)
    simp only [Setting.value?, Option.map_eq_some_iff, Setting.Value.text.injEq, exists_eq_right,
      Setting.reads_probeConfig] at said
    refine said.trans ⟨?_, fun member => ⟨path, member, rfl, ?_⟩⟩
    · rintro ⟨text, member, rfl, -⟩
      exact member
    · -- A path that was mentioned without being one would not have been told.
      obtain ⟨value, reads, -⟩ := told.reads member
      cases reads
      assumption

theorem nodup (told : given.Told mentions) : (mentions.map Mention.option).Nodup := by
  refine List.nodup_iff_count_le_one.2 fun option => ?_
  cases option with
  | none =>
    rw [Mention.count_option_none, told.json]
    exact Bool.toNat_le _
  | some setting =>
    rw [Mention.count_option_some]
    exact told.texts_length_le setting

end Arguments.Told

/-! ## Everything can be said -/

theorem Numeral.exists_unsigned (n : Nat) : ∃ text : String, Unsigned text.toList n := by
  obtain ⟨cs, decimal⟩ := exists_decimal n
  exact ⟨String.ofList cs, .plain (by rwa [String.toList_ofList])⟩

theorem exists_writes (mentions : List Mention) : ∃ words, Writes mentions words := by
  induction mentions with
  | nil => exact ⟨[], .nil⟩
  | cons mention mentions ih =>
    obtain ⟨words, writes⟩ := ih
    cases mention with
    | setting setting text => exact ⟨_, .cons (.joined setting text) writes⟩
    | json => exact ⟨_, .cons .json writes⟩

namespace Arguments

variable {given : Arguments}

theorem value?_default (setting : Setting) (unset : setting.value? given = none) :
    setting.value? {} = none := by
  cases setting with
  | verbosity => cases unset
  | config | nodeId | index | rate | count | probeConfig => rfl

/-- Every value of a setting has a text, where paths are not empty. -/
theorem exists_reads (config : given.config ≠ some "") (probeConfig : given.probeConfig ≠ some "")
    {setting : Setting} {value : Setting.Value} (has : setting.value? given = some value) :
    ∃ text, setting.Reads text value := by
  cases setting with
  | config =>
    obtain ⟨path, given, rfl⟩ := Option.map_eq_some_iff.1 has
    exact ⟨path, .config fun empty => config (empty ▸ given)⟩
  | nodeId =>
    obtain ⟨name, -, rfl⟩ := Option.map_eq_some_iff.1 has
    exact ⟨name, .nodeId⟩
  | index =>
    obtain ⟨n, -, rfl⟩ := Option.map_eq_some_iff.1 has
    obtain ⟨text, unsigned⟩ := Numeral.exists_unsigned n.toNat
    exact ⟨text, .index (.unsigned unsigned) n.toNat_lt⟩
  | rate =>
    obtain ⟨n, -, rfl⟩ := Option.map_eq_some_iff.1 has
    obtain ⟨text, unsigned⟩ := Numeral.exists_unsigned n.toNat
    exact ⟨text, .rate unsigned n.toNat_lt⟩
  | count =>
    obtain ⟨n, -, rfl⟩ := Option.map_eq_some_iff.1 has
    obtain ⟨text, unsigned⟩ := Numeral.exists_unsigned n.toNat
    exact ⟨text, .count unsigned n.toNat_lt⟩
  | probeConfig =>
    obtain ⟨path, given, rfl⟩ := Option.map_eq_some_iff.1 has
    exact ⟨path, .probeConfig fun empty => probeConfig (empty ▸ given)⟩
  | verbosity =>
    cases has
    exact ⟨_, .verbosity (Log.Verbosity.spells_name _)⟩

def mentionsOf (text? : Setting → Option String) : List Mention :=
  Setting.all.flatMap fun setting => ((text? setting).map (Mention.setting setting)).toList

theorem texts_mentionsOf (text? : Setting → Option String) (setting : Setting) :
    setting.texts (mentionsOf text?) = (text? setting).toList := by
  have one (other : Setting) :
      setting.texts ((text? other).map (Mention.setting other)).toList =
        if other = setting then (text? setting).toList else [] := by
    by_cases same : other = setting
    · subst same
      cases text? other <;> simp [Setting.texts]
    · cases text? other <;> simp [Setting.texts, same]
  have each : setting.texts (mentionsOf text?) =
      Setting.all.flatMap fun other => if other = setting then (text? setting).toList else [] := by
    rw [mentionsOf, Setting.texts, List.filterMap_flatMap]
    exact List.flatMap_congr fun other _ => one other
  rw [each]
  cases setting <;> simp [Setting.all]

theorem json_notMem_mentionsOf (text? : Setting → Option String) :
    Mention.json ∉ mentionsOf text? := by
  simp [mentionsOf]

/-- Whatever arguments are meant, there is a way to say so. -/
theorem exists_told (config : given.config ≠ some "") (probeConfig : given.probeConfig ≠ some "") :
    ∃ mentions, given.Told mentions := by
  have tells (setting : Setting) : ∃ text? : Option String,
      (text? = none ∧ setting.value? given = setting.value? {}) ∨
        ∃ text value, text? = some text ∧ setting.Reads text value ∧
          setting.value? given = some value := by
    cases has : setting.value? given with
    | none => exact ⟨none, .inl ⟨rfl, (value?_default setting has).symm⟩⟩
    | some value =>
      obtain ⟨text, reads⟩ := exists_reads config probeConfig has
      exact ⟨some text, .inr ⟨text, value, rfl, reads, rfl⟩⟩
  choose text? tells using tells
  have texts (setting : Setting) :
      setting.texts (mentionsOf text? ++ List.replicate given.json.toNat .json) =
        (text? setting).toList := by
    rw [setting.texts_append, texts_mentionsOf, Setting.texts]
    simp
  refine ⟨mentionsOf text? ++ List.replicate given.json.toNat .json, fun setting => ?_, ?_⟩
  · rw [texts]
    rcases tells setting with ⟨silent, default⟩ | ⟨text, value, known, reads, has⟩
    · exact .inl ⟨by rw [silent]; rfl, default⟩
    · exact .inr ⟨text, value, by rw [known]; rfl, reads, has⟩
  · rw [List.count_append, List.count_eq_zero.2 (json_notMem_mentionsOf text?),
      List.count_replicate_self, Nat.zero_add]

end Arguments

end ProbeHost
