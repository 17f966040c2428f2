import ProbeHost.Proofs.Runner.Mentions

/-! Command lines are read as they are meant.

The reader examines a value only when the next word is there, so what it has taken so far lags
behind the words. A word is read alike before and after the value in front of it is examined, and
with that the words come down to the mentions that they write, taken one after the other.
-/

set_option autoImplicit false

namespace ProbeHost.Arguments

structure Unknown (name : String) : Prop where
  unmarked : '=' ∉ name.toList
  setting : ∀ setting : Setting, setting.name ≠ name
  json : name ≠ "json"
  help : name ≠ "help"

/-- Words that belong nowhere behind whole options: an option without its value, a word that is no
option, or an option that there is not. -/
inductive Stray : List String → Prop where
  | valueless (setting : Setting) : Stray ["--" ++ setting.name]
  | shortValueless : Stray ["-c"]
  | positional {word : String} : word.toList.head? ≠ some '-' → Stray [word]
  | dash : Stray ["-"]
  | unknown {name : String} : Unknown name → name ≠ "" → Stray ["--" ++ name]
  | unknownJoined {name value : String} : Unknown name → Stray ["--" ++ name ++ "=" ++ value]

namespace Reader

variable {reader next : Reader} {setting : Setting} {text : String}

/-! ## Taking mentions -/

/-- Take a mention, when everything before it has been examined. -/
def take (reader : Reader) : Mention → Except Refusal Reader
  | .setting setting text => reader.settle setting text
  | .json =>
    if reader.given.json then .error .usage
    else .ok { reader with given := { reader.given with json := true } }

def takeAll (reader : Reader) : List Mention → Except Refusal Reader
  | [] => .ok reader
  | mention :: mentions => (reader.take mention).bind fun next => next.takeAll mentions

structure Holds (reader : Reader) (seen : List Mention) : Prop where
  told : reader.given.Told seen
  settled : ∀ setting : Setting, setting ∈ reader.settled ↔ setting.texts seen ≠ []
  pending : reader.pending = none

theorem holds_fresh : Holds {} [] :=
  ⟨⟨fun _ => .inl ⟨rfl, rfl⟩, rfl⟩, fun _ => iff_of_false nofun (absurd rfl), rfl⟩

theorem value?_json (setting : Setting) (given : Arguments) (json : Bool) :
    setting.value? { given with json } = setting.value? given := by
  cases setting <;> rfl

section

variable {seen : List Mention}

/-- A setting that is told of for the first time, with a value, is held with the others. -/
theorem Holds.settle (holds : reader.Holds seen) (first : setting ∉ reader.settled)
    {given : Arguments} (set : reader.given.set? setting text = some given) :
    Holds { given, settled := setting :: reader.settled } (seen ++ [.setting setting text]) := by
  obtain ⟨value, reads, sets⟩ := sets_of_set? set
  have now : setting.texts (seen ++ [.setting setting text]) = [text] := by
    rw [setting.texts_append, not_not.1 (mt (holds.settled setting).2 first),
      setting.texts_setting]
    rfl
  have elsewhere {other : Setting} (different : other ≠ setting) :
      other.texts (seen ++ [.setting setting text]) = other.texts seen := by
    rw [other.texts_append, other.texts_other _ different.symm]
    exact List.append_nil _
  refine ⟨⟨fun other => ?_, ?_⟩, fun other => ?_, rfl⟩
  · by_cases same : other = setting
    · subst same
      exact .inr ⟨text, value, now, reads, sets.value⟩
    · rw [elsewhere same, sets.others same]
      exact holds.told.settings other
  · rw [List.count_append, sets.json]
    exact holds.told.json
  · by_cases same : other = setting
    · subst same
      simp [now]
    · rw [elsewhere same, ← holds.settled other]
      simp [same]

theorem Holds.not_told_again (holds : reader.Holds seen) (again : setting ∈ reader.settled)
    (more : List Mention) (given : Arguments) :
    ¬ given.Told (seen ++ .setting setting text :: more) := by
  intro told
  have before := List.length_pos_iff.2 ((holds.settled setting).1 again)
  have once := told.texts_length_le setting
  rw [setting.texts_append, setting.texts_setting, List.length_append, List.length_cons] at once
  omega

theorem not_told_of_set? {given : Arguments} (unread : given.set? setting text = none)
    {mentions : List Mention} (member : .setting setting text ∈ mentions) (other : Arguments) :
    ¬ other.Told mentions := by
  intro told
  obtain ⟨value, reads, -⟩ := told.reads member
  obtain ⟨next, taken, -⟩ := set?_of_reads reads given
  rw [unread] at taken
  cases taken

theorem take_setting (holds : reader.Holds seen) (setting : Setting) (text : String) :
    (∃ next, reader.take (.setting setting text) = .ok next ∧
        next.Holds (seen ++ [.setting setting text])) ∨
      (reader.take (.setting setting text) = .error .usage ∧
        ∀ more given, ¬ Told given (seen ++ .setting setting text :: more)) := by
  unfold take settle
  -- Refused as repeated, refused as no value, or taken.
  by_cases again : setting ∈ reader.settled
  · exact .inr ⟨by simp [again], holds.not_told_again again⟩
  · simp only [List.contains_eq_mem, again, decide_false, Bool.false_eq_true, if_false]
    cases set : reader.given.set? setting text with
    | none =>
      have mentioned (more : List Mention) :
          .setting setting text ∈ seen ++ .setting setting text :: more :=
        List.mem_append_right seen List.mem_cons_self
      exact .inr ⟨rfl, fun more => not_told_of_set? set (mentioned more)⟩
    | some given => exact .inl ⟨_, rfl, holds.settle again set⟩

theorem take_json (holds : reader.Holds seen) :
    (∃ next, reader.take .json = .ok next ∧ next.Holds (seen ++ [.json])) ∨
      (reader.take .json = .error .usage ∧ ∀ more given, ¬ Told given (seen ++ .json :: more)) := by
  have counted := holds.told.json
  unfold take
  cases flagged : reader.given.json with
  | true =>
    right
    refine ⟨rfl, fun more given told => ?_⟩
    have once := Bool.toNat_le given.json
    rw [← told.json, List.count_append, counted, flagged, List.count_cons_self] at once
    simp at once
  | false =>
    left
    have kept (setting : Setting) : setting.texts (seen ++ [.json]) = setting.texts seen := by
      rw [setting.texts_append, setting.texts_json]
      exact List.append_nil _
    refine ⟨_, rfl, ⟨fun setting => ?_, ?_⟩, fun setting => ?_, holds.pending⟩
    · rw [kept, value?_json]
      exact holds.told.settings setting
    · rw [List.count_append, counted, flagged]
      rfl
    · rw [kept]
      exact holds.settled setting

/-- What a mention comes to behind those that were taken: it is taken too, or it is refused, and
nobody is told anything by mentions that begin like this. -/
theorem take_holds (holds : reader.Holds seen) (mention : Mention) :
    (∃ next, reader.take mention = .ok next ∧ next.Holds (seen ++ [mention])) ∨
      (reader.take mention = .error .usage ∧
        ∀ more given, ¬ Told given (seen ++ mention :: more)) := by
  cases mention with
  | setting setting text => exact take_setting holds setting text
  | json => exact take_json holds

/-- Mentions that are taken one after the other are held together, or nobody is told anything by
them. -/
theorem takeAll_holds (holds : reader.Holds seen) (mentions : List Mention) :
    (∃ final, reader.takeAll mentions = .ok final ∧ final.Holds (seen ++ mentions)) ∨
      (reader.takeAll mentions = .error .usage ∧ ∀ given, ¬ Told given (seen ++ mentions)) := by
  -- The reader holds more with each mention, so what it holds at first is general.
  induction mentions generalizing reader seen with
  | nil => exact .inl ⟨reader, rfl, by rwa [List.append_nil]⟩
  | cons mention mentions ih =>
    unfold takeAll
    rcases take_holds holds mention with ⟨next, taken, held⟩ | ⟨refused, untold⟩
    · rw [taken, List.append_cons]
      exact ih held
    · rw [refused]
      exact .inr ⟨rfl, untold mentions⟩

end

/-! ## Reading words -/

theorem settle_error {refusal : Refusal} (failed : reader.settle setting text = .error refusal) :
    refusal = .usage := by
  unfold settle at failed
  split at failed
  · exact (Except.error.inj failed).symm
  · split at failed
    · exact (Except.error.inj failed).symm
    · cases failed

theorem settle_pending (settled : reader.settle setting text = .ok next) :
    next.pending = none := by
  unfold settle at settled
  split at settled
  · cases settled
  · split at settled
    · cases settled
    · cases settled
      rfl

theorem resolve_of_pending (idle : reader.pending = none) : reader.resolve = .ok reader := by
  rw [resolve, idle]

theorem resolve_pending (resolved : reader.resolve = .ok next) : next.pending = none := by
  unfold resolve at resolved
  split at resolved
  next idle =>
    cases resolved
    exact idle
  next => cases resolved
  next => exact settle_pending resolved

theorem resolve_error {refusal : Refusal} (failed : reader.resolve = .error refusal) :
    refusal = .usage := by
  unfold resolve at failed
  split at failed
  · cases failed
  · exact (Except.error.inj failed).symm
  · exact settle_error failed

def Complete (reader : Reader) : Prop :=
  ∀ setting, reader.pending ≠ some (setting, none)

section

variable (resolved : reader.resolve = .ok next)

include resolved

theorem option_of_resolve (setting : Setting) (value : Option String) :
    reader.option setting value = next.option setting value := by
  rw [option, option, resolved, resolve_of_pending (resolve_pending resolved)]

theorem long_of_resolve (cs : List Char) : reader.long cs = next.long cs := by
  unfold long help jsonFlag
  rw [resolved, resolve_of_pending (resolve_pending resolved)]
  simp only [option_of_resolve resolved]

theorem short_of_resolve (cs : List Char) : reader.short cs = next.short cs := by
  unfold short help
  rw [resolved, resolve_of_pending (resolve_pending resolved)]
  simp only [option_of_resolve resolved]

theorem plain_of_resolve (complete : reader.Complete) (word : String) :
    reader.plain word = next.plain word := by
  have idle := resolve_pending resolved
  unfold plain
  rw [idle]
  split
  next setting awaits => exact absurd awaits (complete setting)
  next => rfl

/-- A word is read alike before and after the value in front of it is examined. -/
theorem read_of_resolve (complete : reader.Complete) (word : String) :
    reader.read word = next.read word := by
  unfold read
  simp only [long_of_resolve resolved, short_of_resolve resolved,
    plain_of_resolve resolved complete]

end

/-- If the value in front of a word is refused, so is all that is left. -/
theorem read_of_refused (complete : reader.Complete) {refusal : Refusal}
    (refused : reader.resolve = .error refusal) (word : String) :
    reader.read word = .error .usage := by
  obtain rfl := resolve_error refused
  have option (setting : Setting) (value : Option String) :
      reader.option setting value = .error .usage := by
    rw [Reader.option, refused]
  have help : reader.help = .error .usage := by
    rw [Reader.help, refused]
  have jsonFlag : reader.jsonFlag = .error .usage := by
    rw [Reader.jsonFlag, refused]
  -- A word that is an option examines the value first; all other words are refused anyway.
  unfold read
  split
  next cs _ =>
    unfold long
    simp only [option, help, jsonFlag]
    repeat' split
    all_goals rfl
  next c cs _ _ =>
    unfold short
    simp only [option, help]
    split <;> rfl
  next =>
    unfold plain
    split
    next setting awaits => exact absurd awaits (complete setting)
    next => rfl

/-- What stands in front of the rest is examined before it. -/
theorem readAll_of_complete (complete : reader.Complete) (rest : List String) :
    reader.readAll rest = reader.resolve.bind fun next => next.readAll rest := by
  cases resolved : reader.resolve with
  | error refusal =>
    obtain rfl := resolve_error resolved
    cases rest with
    | nil => exact resolved
    | cons word rest =>
      rw [readAll, read_of_refused complete resolved, resolved]
      split
      · split <;> rfl
      · rfl
  | ok next =>
    show reader.readAll rest = next.readAll rest
    have again := resolve_of_pending (resolve_pending resolved)
    cases rest with
    | nil => exact resolved.trans again.symm
    | cons word rest => rw [readAll, readAll, read_of_resolve resolved complete, resolved, again]

/-! ## Spellings -/

section

variable {name : List Char} (unmarked : '=' ∉ name)

include unmarked

theorem all_ne_equals : ∀ c ∈ name, decide (c ≠ '=') = true :=
  fun _ member => decide_eq_true fun same => unmarked (same ▸ member)

theorem splitEquals_append (value : List Char) :
    splitEquals (name ++ '=' :: value) = (String.ofList name, some (String.ofList value)) := by
  unfold splitEquals
  rw [List.takeWhile_append_of_pos (all_ne_equals unmarked),
    List.dropWhile_append_of_pos (all_ne_equals unmarked)]
  simp

theorem splitEquals_of_notMem : splitEquals name = (String.ofList name, none) := by
  unfold splitEquals
  rw [List.takeWhile_eq_self_iff.2 (all_ne_equals unmarked),
    List.dropWhile_eq_nil_iff.2 (all_ne_equals unmarked)]

end

theorem equals_notMem_name (setting : Setting) : '=' ∉ setting.name.toList := by
  cases setting <;> decide

theorem ofName?_name (setting : Setting) : Setting.ofName? setting.name = some setting := by
  cases setting <;> rfl

theorem read_long (reader : Reader) (rest : String) :
    reader.read ("--" ++ rest) = reader.long rest.toList := by
  unfold read
  rw [String.toList_append]
  rfl

theorem read_name (reader : Reader) (setting : Setting) :
    reader.read ("--" ++ setting.name) = reader.option setting none := by
  rw [read_long, long, splitEquals_of_notMem (equals_notMem_name setting), String.ofList_toList]
  simp only [ofName?_name]

theorem joined_eq (name text : String) :
    "--" ++ name ++ "=" ++ text = "--" ++ (name ++ "=" ++ text) := by
  simp only [String.append_assoc]

theorem toList_joined (name text : String) :
    (name ++ "=" ++ text).toList = name.toList ++ '=' :: text.toList := by
  simp

theorem read_joined (reader : Reader) (setting : Setting) (text : String) :
    reader.read ("--" ++ setting.name ++ "=" ++ text) = reader.option setting (some text) := by
  rw [joined_eq, read_long, toList_joined, long, splitEquals_append (equals_notMem_name setting),
    String.ofList_toList, String.ofList_toList]
  simp only [ofName?_name]

theorem read_plain (reader : Reader) (undashed : text.toList.head? ≠ some '-') :
    reader.read text = reader.plain text := by
  unfold read
  split
  next cs dashed => simp [dashed] at undashed
  next c cs dashed => simp [dashed] at undashed
  next => rfl

theorem readAll_cons (reader : Reader) {word : String} (more : word ≠ "--") (rest : List String) :
    reader.readAll (word :: rest) = (reader.read word).bind fun next => next.readAll rest := by
  rw [readAll, if_neg more]
  cases reader.read word <;> rfl

theorem dashes_append_ne {rest : String} (some : rest ≠ "") : "--" ++ rest ≠ "--" := by
  intro same
  exact some (by simpa using congrArg String.toList same)

theorem name_ne_dashes (setting : Setting) : "--" ++ setting.name ≠ "--" :=
  dashes_append_ne (by cases setting <;> decide)

theorem joined_ne_dashes (name text : String) : "--" ++ name ++ "=" ++ text ≠ "--" := by
  rw [joined_eq]
  exact dashes_append_ne (by simp)

theorem ne_dashes (undashed : text.toList.head? ≠ some '-') : text ≠ "--" := by
  rintro rfl
  exact undashed rfl

theorem readAll_apart (idle : reader.pending = none) (undashed : text.toList.head? ≠ some '-')
    (rest : List String) :
    (reader.option setting none).bind (fun next => next.readAll (text :: rest)) =
      (reader.settle setting text).bind fun next => next.readAll rest := by
  have waits : reader.option setting none =
      .ok { reader with pending := some (setting, none) } := by
    rw [option, resolve_of_pending idle]
  have complete : Complete { reader with pending := some (setting, some text) } := nofun
  rw [waits]
  show Reader.readAll _ _ = _
  rw [readAll_cons _ (ne_dashes undashed), read_plain _ undashed]
  exact readAll_of_complete complete rest

/-- However a mention is written, the words of it are taken as that mention. -/
theorem readAll_spelled (idle : reader.pending = none) {mention : Mention} {words : List String}
    (spelled : mention.Spelled words) (rest : List String) :
    reader.readAll (words ++ rest) = (reader.take mention).bind fun next => next.readAll rest := by
  cases spelled with
  | joined setting text =>
    have settles : reader.option setting (some text) = reader.settle setting text := by
      rw [option, resolve_of_pending idle]
    rw [List.singleton_append, readAll_cons _ (joined_ne_dashes _ _), read_joined, settles]
    rfl
  | apart setting text undashed =>
    rw [List.cons_append, readAll_cons _ (name_ne_dashes setting), read_name]
    exact readAll_apart idle undashed rest
  | short text undashed =>
    rw [List.cons_append, readAll_cons _ (by decide)]
    exact readAll_apart idle undashed rest
  | json =>
    have flags : reader.jsonFlag = reader.take .json := by
      rw [jsonFlag, resolve_of_pending idle]
      rfl
    rw [List.singleton_append, readAll_cons _ (by decide), ← flags]
    rfl

theorem take_pending (idle : reader.pending = none) {mention : Mention}
    (taken : reader.take mention = .ok next) : next.pending = none := by
  cases mention with
  | setting setting text => exact settle_pending taken
  | json =>
    rw [take] at taken
    split at taken
    · cases taken
    · cases taken
      exact idle

/-- Words are read as the mentions that they write, and then the rest is read. -/
theorem readAll_writes {mentions : List Mention} {words : List String}
    (writes : Writes mentions words) (reader : Reader) (idle : reader.pending = none)
    (rest : List String) :
    reader.readAll (words ++ rest) =
      (reader.takeAll mentions).bind fun final => final.readAll rest := by
  induction writes generalizing reader with
  | nil => rfl
  | cons spelled _ ih =>
    rw [List.append_assoc, readAll_spelled idle spelled, takeAll]
    cases taken : reader.take _ with
    | error refusal => rfl
    | ok next => exact ih next (take_pending idle taken)

/-! ## Words that do not belong -/

theorem long_unknown (reader : Reader) {name : String} (unknown : Unknown name)
    (value : Option String) {rest : List Char} (split : splitEquals rest = (name, value)) :
    reader.long rest = .error .usage := by
  have unnamed : Setting.ofName? name = none :=
    List.find?_eq_none.2 fun setting _ => by simpa using unknown.setting setting
  unfold long
  rw [split]
  simp only [unnamed, unknown.help, unknown.json, if_false]
  split <;> rfl

theorem readAll_stray (idle : reader.pending = none) {tail : List String} (stray : Stray tail) :
    reader.readAll tail = .error .usage := by
  have refused {word : String} (more : word ≠ "--") (read : reader.read word = .error .usage) :
      reader.readAll [word] = .error .usage := by
    rw [readAll_cons _ more, read]
    rfl
  have unfinished (setting : Setting) : (reader.option setting none).bind
      (fun next => next.readAll []) = .error .usage := by
    rw [option, resolve_of_pending idle]
    rfl
  have unbidden (word : String) : reader.plain word = .error .usage := by
    rw [plain, idle]
  -- An option without its value waits for it in vain; every other word is refused when it is read.
  cases stray with
  | valueless setting =>
    rw [readAll_cons _ (name_ne_dashes setting), read_name]
    exact unfinished setting
  | shortValueless =>
    rw [readAll_cons _ (by decide)]
    exact unfinished .config
  | positional undashed =>
    exact refused (ne_dashes undashed) ((read_plain reader undashed).trans (unbidden _))
  | dash => exact refused (by decide) (unbidden _)
  | unknown unknown some =>
    refine refused (dashes_append_ne some) ?_
    rw [read_long]
    refine long_unknown reader unknown none ?_
    rw [splitEquals_of_notMem unknown.unmarked, String.ofList_toList]
  | @unknownJoined name value unknown =>
    refine refused (joined_ne_dashes name value) ?_
    rw [joined_eq, read_long, toList_joined]
    refine long_unknown reader unknown (some value) ?_
    rw [splitEquals_append unknown.unmarked, String.ofList_toList, String.ofList_toList]

end Reader

/-! ## Main result -/

section

variable {mentions : List Mention} {words : List String} (writes : Writes mentions words)

include writes

/-- Words are read as the arguments that their mentions tell of, and refused if there are none. -/
theorem parse_writes :
    (∃ given, parse words = .ok given ∧ given.Told mentions) ∨
      (parse words = .error .usage ∧ ∀ given, ¬ Told given mentions) := by
  have read := Reader.readAll_writes writes {} rfl []
  rw [List.append_nil] at read
  rw [parse, read]
  rcases Reader.takeAll_holds Reader.holds_fresh mentions with
    ⟨final, taken, holds⟩ | ⟨refused, untold⟩
  · left
    refine ⟨final.given, ?_, holds.told⟩
    rw [taken]
    show ((final.readAll []).map _) = _
    rw [Reader.readAll, Reader.resolve_of_pending holds.pending]
    rfl
  · right
    rw [refused]
    exact ⟨rfl, untold⟩

theorem parse_stray {tail : List String} (stray : Stray tail) :
    parse (words ++ tail) = .error .usage := by
  rw [parse, Reader.readAll_writes writes {} rfl]
  rcases Reader.takeAll_holds Reader.holds_fresh mentions with
    ⟨final, taken, holds⟩ | ⟨refused, -⟩
  · rw [taken]
    show ((final.readAll tail).map _) = _
    rw [Reader.readAll_stray holds.pending stray]
    rfl
  · rw [refused]
    rfl

end

/-- Command lines are read as they are meant, whatever the order of their options and however
each is written. All arguments can be said, and the words that say so are read as just those
arguments, so that the overrides are what was given. Mentions that nobody can be told are refused,
as are those that repeat an option or have a number out of range, and whatever has words behind it
that do not belong there. -/
theorem parse_as_told :
    (∀ given : Arguments, given.config ≠ some "" → given.probeConfig ≠ some "" →
      ∃ mentions words, Writes mentions words ∧ given.Told mentions) ∧
    ∀ (mentions : List Mention) (words : List String), Writes mentions words →
      (∀ given : Arguments, parse words = .ok given ↔ given.Told mentions) ∧
      (∀ given : Arguments, given.Told mentions → given.overrides.Told mentions) ∧
      ((∀ given, ¬ Told given mentions) → parse words = .error .usage) ∧
      (¬ (mentions.map Mention.option).Nodup → parse words = .error .usage) ∧
      (∀ setting text, .setting setting text ∈ mentions → setting.OutOfRange text →
        parse words = .error .usage) ∧
      ∀ tail, Stray tail → parse (words ++ tail) = .error .usage := by
  refine ⟨fun given config probeConfig => ?_, fun mentions words writes => ?_⟩
  · obtain ⟨mentions, told⟩ := exists_told config probeConfig
    obtain ⟨words, writes⟩ := exists_writes mentions
    exact ⟨mentions, words, writes, told⟩
  · have refused (untold : ∀ given, ¬ Told given mentions) : parse words = .error .usage := by
      rcases parse_writes writes with ⟨given, -, told⟩ | ⟨refused, -⟩
      · exact absurd told (untold given)
      · exact refused
    refine ⟨fun given => ⟨fun read => ?_, fun told => ?_⟩, fun given told => told.overrides,
      refused, fun repeats => refused fun given told => repeats told.nodup,
      fun setting text member outside => refused fun given told => ?_,
      fun tail stray => parse_stray writes stray⟩
    · rcases parse_writes writes with ⟨meant, parsed, told⟩ | ⟨refused, -⟩
      · rw [parsed] at read
        exact Except.ok.inj read ▸ told
      · rw [refused] at read
        cases read
    · rcases parse_writes writes with ⟨meant, parsed, also⟩ | ⟨-, untold⟩
      · rw [parsed, told.unique also]
      · exact absurd told (untold given)
    · obtain ⟨value, reads, -⟩ := told.reads member
      exact outside.not_reads reads

def awkward : List Mention :=
  [.json, .setting .nodeId "--x=y", .setting .verbosity "dEbUg", .setting .config "a=b",
    .setting .index "+007", .setting .rate "18446744073709551615"]

def awkwardWords : List String :=
  ["--json", "--node-id=--x=y", "--log-level", "dEbUg", "-c", "a=b", "--index", "+007",
    "--rate=18446744073709551615"]

def awkwardArguments : Arguments where
  config := some "a=b"
  nodeId := some "--x=y"
  index := some 7
  rate := some 18446744073709551615
  verbosity := .debug
  json := true

theorem writes_awkward : Writes awkward awkwardWords :=
  .cons .json <| .cons (.joined .nodeId _) <| .cons (.apart .verbosity _ (by decide)) <|
    .cons (.short _ (by decide)) <| .cons (.apart .index _ (by decide)) <|
    .cons (.joined .rate _) .nil

theorem told_awkward : awkwardArguments.Told awkward where
  settings setting := by
    cases setting with
    | config => exact .inr ⟨_, _, rfl, .config (by decide), rfl⟩
    | nodeId => exact .inr ⟨_, _, rfl, .nodeId, rfl⟩
    | index =>
      have seven : Numeral.Decimal ['0', '0', '7'] 7 := Numeral.natural?_eq_some.1 rfl
      exact .inr ⟨_, _, rfl, .index (.unsigned (.plus seven)) (by decide), rfl⟩
    | rate =>
      have most : Numeral.Decimal "18446744073709551615".toList 18446744073709551615 :=
        Numeral.natural?_eq_some.1 rfl
      exact .inr ⟨_, _, rfl, .rate (.plain most) (by decide), rfl⟩
    | count => exact .inl ⟨rfl, rfl⟩
    | probeConfig => exact .inl ⟨rfl, rfl⟩
    | verbosity =>
      have debug : Log.Verbosity.Spells "dEbUg" Log.Verbosity.debug.name := by
        simp [Log.Verbosity.Spells, Log.Verbosity.name]
      exact .inr ⟨_, _, rfl, .verbosity debug, rfl⟩
  json := rfl

theorem parse_as_told_awkward :
    parse awkwardWords = .ok awkwardArguments ∧ awkwardArguments.overrides.Told awkward ∧
      parse (awkwardWords ++ ["--count"]) = .error .usage ∧
      parse (["--index=65536"] ++ awkwardWords) = .error .usage := by
  obtain ⟨read, overrides, -, -, -, stray⟩ := parse_as_told.2 awkward awkwardWords writes_awkward
  obtain ⟨-, -, -, repeated, -, -⟩ := parse_as_told.2 (.setting .index "65536" :: awkward)
    (["--index=65536"] ++ awkwardWords) (.cons (.joined .index "65536") writes_awkward)
  exact ⟨(read _).2 told_awkward, overrides _ told_awkward, stray _ (.valueless .count),
    repeated (by decide)⟩

end ProbeHost.Arguments
