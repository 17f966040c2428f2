import ProbeHost.Proofs.Config.Layers
import ProbeHost.Runner.Program

/-! Which setting counts, and which configurations are hosted.

A setting is the override's where there is one, else the file's, and without a file the
environment's. What is validated is the combination and nothing before it, so overrides can repair a
file as well as spoil it. A run that gets as far as hosting the probe does so with a rate of at least
a second and with a name for the node.
-/

set_option autoImplicit false

namespace ProbeHost

/-! ## What the rules are -/

/-- A setting is the override where there is one, and what is below it where there is none. -/
def Settles {α : Type} (override : Option α) (below setting : α) : Prop :=
  (∀ value, override = some value → setting = value) ∧ (override = none → setting = below)

structure Overrides.Over (overrides : Overrides) (base config : Config) : Prop where
  nodeId : Settles overrides.nodeId base.nodeId config.nodeId
  index : Settles overrides.index base.index config.index
  rate : Settles overrides.rate base.rate config.rate
  /-- An override sets a count and cannot take one away. -/
  count : Settles (overrides.count.map some) base.count config.count
  configuration : Settles (overrides.configuration.map some) base.configuration config.configuration

namespace Config

inductive Unusable (environment : Environment) (files : Files) (path : Path) : Failure → Prop where
  | unread {fault : ReadFault} :
      files.read path = .error fault →
      Unusable environment files path ⟨"unable to read " ++ path, [fault.message]⟩
  | notText {content : Bytes} :
      files.read path = .ok content → Utf8.decode content = none →
      Unusable environment files path
        ⟨"unable to read " ++ path, ["stream did not contain valid UTF-8"]⟩
  | undecoded {content : Bytes} {text : String} {e : Json.Error} :
      files.read path = .ok content → Utf8.decode content = some text →
      ofJson environment content = .error e →
      Unusable environment files path ⟨"Invalid configuration file provided: " ++ e.message, []⟩

/-- The settings below the overrides: those of the file, or the environment's without one. -/
inductive Base (environment : Environment) (files : Files) : Option Path → Config → Prop where
  | environment : Base environment files none ⟨environment.nodeId, 0, environment.rate, none, none⟩
  | file {path : Path} {content : Bytes} {text : String} {config : Config} :
      files.read path = .ok content → Utf8.decode content = some text →
      ofJson environment content = .ok config → Base environment files (some path) config

def Hostable (config : Config) : Prop :=
  1 ≤ config.rate.toNat ∧ config.nodeId ≠ ""

/-- What becomes of settings when they are validated; the rate is looked at first. -/
inductive Validated (config : Config) : Except Failure Config → Prop where
  | noRate : config.rate = 0 →
      Validated config (.error ⟨"probe rate must be at least one second", []⟩)
  | noNode : config.rate ≠ 0 → config.nodeId = "" →
      Validated config (.error ⟨"node id must not be empty", []⟩)
  | hostable : config.Hostable → Validated config (.ok config)

inductive Resolves (environment : Environment) (files : Files) (overrides : Overrides) :
    Option Path → Except Failure Config → Prop where
  | unusable {path : Path} {failure : Failure} :
      Unusable environment files path failure →
      Resolves environment files overrides (some path) (.error failure)
  | combined {path : Option Path} {base config : Config} {result : Except Failure Config} :
      Base environment files path base → overrides.Over base config → config.Validated result →
      Resolves environment files overrides path result

/-! ## The code against the rules -/

variable {environment : Environment} {files : Files}

theorem settles_getD {α : Type} {override : Option α} {below setting : α} :
    Settles override below setting ↔ setting = override.getD below := by
  cases override <;> simp [Settles]

theorem settles_orElse {α : Type} {override : Option α} {below setting : Option α} :
    Settles (override.map some) below setting ↔ setting = (override <|> below) := by
  cases override <;> simp [Settles]

theorem over_iff {overrides : Overrides} {base config : Config} :
    overrides.Over base config ↔ config = base.withOverrides overrides := by
  constructor
  · intro settled
    cases config
    rw [withOverrides, Config.mk.injEq]
    exact ⟨settles_getD.1 settled.nodeId, settles_getD.1 settled.index, settles_getD.1 settled.rate,
      settles_orElse.1 settled.count, settles_orElse.1 settled.configuration⟩
  · rintro rfl
    exact ⟨settles_getD.2 rfl, settles_getD.2 rfl, settles_getD.2 rfl, settles_orElse.2 rfl,
      settles_orElse.2 rfl⟩

theorem one_le_toNat {rate : UInt64} : 1 ≤ rate.toNat ↔ rate ≠ 0 := by
  simp [Nat.one_le_iff_ne_zero, ← UInt64.toNat_inj]

theorem validate_eq_iff {config : Config} {result : Except Failure Config} :
    config.validate = result ↔ config.Validated result := by
  constructor
  · rintro rfl
    unfold validate
    split
    next none => exact .noRate none
    next some =>
      split
      next none => exact .noNode some none
      next named => exact .hostable ⟨one_le_toNat.2 some, named⟩
  · rintro (none | ⟨some, none⟩ | ⟨some, named⟩)
    · simp [validate, none]
    · simp [validate, some, none]
    · simp [validate, one_le_toNat.1 some, named]

theorem usable_or_unusable (environment : Environment) (files : Files) (path : Path) :
    (∃ base, Base environment files (some path) base) ∨
      ∃ failure, Unusable environment files path failure := by
  -- The cases are the steps of loading a file: its content, the text of it, the settings in that.
  cases read : files.read path with
  | error fault => exact .inr ⟨_, .unread read⟩
  | ok content =>
    cases isText : Utf8.decode content with
    | none => exact .inr ⟨_, .notText read isText⟩
    | some text =>
      cases decoded : ofJson environment content with
      | error e => exact .inr ⟨_, .undecoded read isText decoded⟩
      | ok base => exact .inl ⟨base, .file read isText decoded⟩

theorem Unusable.parseFile {path : Path} {failure : Failure}
    (unusable : Unusable environment files path failure) :
    Config.parseFile environment files path = .error failure := by
  cases unusable with
  | unread read => simp [Config.parseFile, Files.readText, read]
  | notText read isText => simp [Config.parseFile, Files.readText, read, isText, ReadFault.message]
  | undecoded read isText failed =>
    simp [Config.parseFile, Files.readText, read, isText, failed]

theorem Base.parseFile {path : Path} {base : Config}
    (isBase : Base environment files (some path) base) :
    Config.parseFile environment files path = .ok base := by
  cases isBase with
  | file read isText decoded => simp [Config.parseFile, Files.readText, read, isText, decoded]

theorem Unusable.resolve {path : Path} {failure : Failure}
    (unusable : Unusable environment files path failure) (overrides : Overrides) :
    (Config.resolve environment files (some path) overrides).1 = .error failure := by
  simp only [Config.resolve, unusable.parseFile]

theorem Base.resolve {path : Option Path} {base : Config}
    (isBase : Base environment files path base) (overrides : Overrides) :
    (Config.resolve environment files path overrides).1 =
      (base.withOverrides overrides).validate := by
  cases isBase with
  | environment => rfl
  | file read isText decoded =>
    simp only [Config.resolve, (Base.file read isText decoded).parseFile]

theorem resolve_iff {path : Option Path} {overrides : Overrides}
    {result : Except Failure Config} :
    (resolve environment files path overrides).1 = result ↔
      Resolves environment files overrides path result := by
  have combined {base : Config} (isBase : Base environment files path base) :
      Resolves environment files overrides path (resolve environment files path overrides).1 :=
    .combined isBase (over_iff.2 rfl) (validate_eq_iff.1 (isBase.resolve overrides).symm)
  constructor
  · rintro rfl
    cases path with
    | none => exact combined .environment
    | some path =>
      obtain ⟨base, isBase⟩ | ⟨failure, unusable⟩ := usable_or_unusable environment files path
      · exact combined isBase
      · exact (unusable.resolve overrides).symm ▸ .unusable unusable
  · intro resolves
    cases resolves with
    | unusable unusable => exact unusable.resolve overrides
    | combined isBase settled validated =>
      rw [isBase.resolve, ← over_iff.1 settled]
      exact validate_eq_iff.2 validated

theorem validated_ok_iff {config result : Config} :
    config.Validated (.ok result) ↔ result = config ∧ config.Hostable := by
  constructor
  · rintro ⟨⟩
    next hostable => exact ⟨rfl, hostable⟩
  · rintro ⟨rfl, hostable⟩
    exact .hostable hostable

theorem Base.resolve_eq_ok {path : Option Path} {base : Config}
    (isBase : Base environment files path base) {overrides : Overrides} {config : Config} :
    (Config.resolve environment files path overrides).1 = .ok config ↔
      config = base.withOverrides overrides ∧ (base.withOverrides overrides).Hostable := by
  rw [isBase.resolve, validate_eq_iff, validated_ok_iff]

theorem hostable_of_resolve {path : Option Path} {overrides : Overrides} {config : Config}
    (resolved : (resolve environment files path overrides).1 = .ok config) : config.Hostable := by
  cases resolve_iff.1 resolved with
  | combined _ _ validated =>
    obtain ⟨rfl, hostable⟩ := validated_ok_iff.1 validated
    exact hostable

theorem fromFile_eq_resolve (environment : Environment) (files : Files) (path : Path) :
    (fromFile environment files path).1 = (resolve environment files (some path) {}).1 := by
  simp only [fromFile, resolve]
  cases parseFile environment files path with
  | error e => rfl
  | ok base => rfl

end Config

/-! ## Runs of the program -/

namespace Program

/-- A run gets as far as hosting the probe with a configuration, which its arguments resolve to. -/
structure Hosts (words : List String) (base : Environment) (files : Files) (given : Arguments)
    (config : Config) : Prop where
  parsed : Arguments.parse words = .ok given
  resolved : ∃ completed, environment base (files.read ".env") = .ok completed ∧
    (Config.resolve completed files given.config given.overrides).1 = .ok config

def ended (result : Except Failure Unit) : Ending :=
  match result with
  | .ok () => .completed
  | .error failure => .failed failure

theorem run_hosts {words : List String} {base : Environment} {files : Files} {given : Arguments}
    {config : Config} (hosts : Hosts words base files given config) (clock : Clock) (ticks : Nat) :
    let served := (Host.timeOfDay config clock.readings).serve config given.json clock.timestamps
      ticks
    (run words base files clock ticks).lines = served.1.lines ∧
      (run words base files clock ticks).ending = ended served.2 := by
  obtain ⟨parsed, completed, extended, resolved⟩ := hosts
  simp only [run, extended, parsed, resolved, true_and]
  cases ((Host.timeOfDay config clock.readings).serve config given.json clock.timestamps ticks).2
  · rfl
  · rfl

/-- A run either hosts the probe or ends before it looks at the clock. -/
theorem hosts_or_ends (words : List String) (base : Environment) (files : Files) :
    (∃ given config, Hosts words base files given config) ∨
      ∃ ending journal, ending ≠ .completed ∧ ∀ (clock : Clock) (ticks : Nat),
        run words base files clock ticks = { ending, journal } := by
  -- The environment comes first: with a bad one not even the arguments are looked at.
  cases extended : environment base (files.read ".env") with
  | error assignment =>
    exact .inr ⟨.aborted assignment, [], nofun, fun clock ticks => by simp only [run, extended]⟩
  | ok completed =>
    cases parsed : Arguments.parse words with
    | error refusal =>
      cases refusal with
      | help => exact .inr ⟨.help, [], nofun, fun _ _ => by simp only [run, extended, parsed]⟩
      | usage => exact .inr ⟨.usage, [], nofun, fun _ _ => by simp only [run, extended, parsed]⟩
    | ok given =>
      cases resolved : (Config.resolve completed files given.config given.overrides).1 with
      | ok config => exact .inl ⟨given, config, parsed, completed, extended, resolved⟩
      | error failure =>
        refine .inr ⟨.failed failure, (Config.resolve completed files given.config
          given.overrides).2.allowedBy given.verbosity, nofun, fun _ _ => ?_⟩
        simp only [run, extended, parsed, resolved]

end Program

namespace Config

/-- A path and overrides resolve by the rules and in no other way. In particular a file that gives
no settings is an error under any overrides; a base resolves exactly if the combination can be
hosted, whether or not the base could; a file read alone is a file under no overrides; and two
layers of overrides are one. Every configuration that a run hosts the probe with can be hosted. -/
theorem resolve_combined :
    (∀ (environment : Environment) (files : Files),
      (∀ path overrides result, (resolve environment files path overrides).1 = result ↔
        Resolves environment files overrides path result) ∧
      (∀ path failure, Unusable environment files path failure → ∀ overrides,
        (resolve environment files (some path) overrides).1 = .error failure) ∧
      (∀ path base, Base environment files path base → ∀ overrides config,
        (resolve environment files path overrides).1 = .ok config ↔
          overrides.Over base config ∧ config.Hostable) ∧
      ∀ path, (fromFile environment files path).1 =
        (resolve environment files (some path) {}).1) ∧
    (∀ (base : Config) (earlier later : Overrides),
      (base.withOverrides earlier).withOverrides later =
        base.withOverrides (earlier.followedBy later)) ∧
    ∀ (words : List String) (base : Environment) (files : Files),
      (∀ given config, Program.Hosts words base files given config →
        config.Hostable ∧ ∀ (clock : Clock) (ticks : Nat),
          let served := (Host.timeOfDay config clock.readings).serve config given.json
            clock.timestamps ticks
          (Program.run words base files clock ticks).lines = served.1.lines ∧
            (Program.run words base files clock ticks).ending = Program.ended served.2) ∧
      ((∃ given config, Program.Hosts words base files given config) ∨
        ∃ ending journal, ending ≠ .completed ∧ ∀ (clock : Clock) (ticks : Nat),
          Program.run words base files clock ticks = { ending, journal }) := by
  refine ⟨fun environment files => ⟨fun path overrides result => resolve_iff,
    fun path failure unusable => unusable.resolve, fun path base isBase overrides config => ?_,
    fromFile_eq_resolve environment files⟩, withOverrides_followedBy, fun words base files => ?_⟩
  · rw [isBase.resolve_eq_ok, over_iff]
    constructor
    · rintro ⟨rfl, hostable⟩
      exact ⟨rfl, hostable⟩
    · rintro ⟨rfl, hostable⟩
      exact ⟨rfl, hostable⟩
  · refine ⟨fun given config hosts => ?_, Program.hosts_or_ends words base files⟩
    obtain ⟨completed, -, resolved⟩ := hosts.resolved
    exact ⟨hostable_of_resolve resolved, Program.run_hosts hosts⟩

def bareText : String := "[\"\", 3, 0, null, null]"

def bareFiles : Files :=
  ⟨fun path => if path = "host.json" then .ok (Utf8.encode bareText) else .error .notFound⟩

theorem bare_base : Base {} bareFiles (some "host.json") ⟨"", 3, 0, none, none⟩ := by
  have decoded : ofJson {} (Utf8.encode bareText) = .ok ⟨"", 3, 0, none, none⟩ := by
    decide +kernel
  exact .file rfl (Utf8.decode_encode bareText) decoded

theorem bare_hosts : Program.Hosts ["--config=host.json", "--rate", "2", "--node-id=b"] {} bareFiles
    { config := some "host.json", rate := some 2, nodeId := some "b" } ⟨"b", 3, 2, none, none⟩ := by
  refine ⟨by decide +kernel, {}, rfl, ?_⟩
  rw [bare_base.resolve]
  rfl

theorem resolve_combined_repaired :
    let half : Overrides := { rate := some 2 }
    let whole : Overrides := { rate := some 2, nodeId := some "b" }
    (resolve {} bareFiles (some "gone.json") whole).1 =
        .error ⟨"unable to read " ++ "gone.json", ["No such file or directory (os error 2)"]⟩ ∧
      (resolve {} bareFiles (some "host.json") half).1 = .error ⟨"node id must not be empty", []⟩ ∧
      (resolve {} bareFiles (some "host.json") whole).1 = .ok ⟨"b", 3, 2, none, none⟩ ∧
      Hostable ⟨"b", 3, 2, none, none⟩ := by
  intro half whole
  obtain ⟨rules, -, runs⟩ := resolve_combined
  obtain ⟨decided, unusable, combined, -⟩ := rules {} bareFiles
  have hostable := ((runs _ {} bareFiles).1 _ _ bare_hosts).1
  have absent : bareFiles.read "gone.json" = .error .notFound := rfl
  refine ⟨unusable _ _ (.unread absent) whole, (decided _ half _).2 ?_,
    (combined _ _ bare_base whole _).2 ⟨over_iff.2 rfl, hostable⟩, hostable⟩
  exact .combined bare_base (over_iff.2 rfl) (.noNode (by decide) rfl)

end Config

end ProbeHost
