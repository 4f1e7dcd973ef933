import BlobStorage.Proofs.ReaderMeaning
import BlobStorage.Proofs.ResponseFields
import Mathlib.Data.Set.List

/-!
# Which settings are accepted

Settings are accepted if and only if they are a plain record and each of six entries is what it has
to be.  The configuration then holds what was given, with defaults for what was undefined, and
nothing else.  Otherwise the issues name the entries that are not what they have to be, all of them
and no others, in a fixed order.
-/

namespace BlobStorage

/-- The value of a text that may be missing. -/
def Value.ofText? (absent : Value) : Option Text → Value
  | none => absent
  | some text => .string text

/-- A timeout that can be kept: none, or a positive integer. -/
def RequestTimeout.IsWhole : RequestTimeout → Prop
  | .never => True
  | .milliseconds count => count.isInteger = true ∧ count.isPositive = true

/-- The first step of the path that an issue shows. -/
def Issue.start? (item : Value) : Option Text :=
  match item.member? "path" with
  | some (.list (.string first :: _)) => some first
  | _ => none

theorem Issue.start?_toValue (issue : Issue) : start? issue.toValue = issue.path.head? := by
  rw [start?, issue.member?_path]
  cases issue.path <;> rfl

namespace Config

/-! ## The entries of settings -/

/-- The entries that settings are asked for. -/
inductive Setting where
  | accountName
  | blobEndpoint
  | apiVersion
  | requestTimeout
  | headers
  | logging
  deriving DecidableEq

namespace Setting

def name : Setting → Text
  | accountName => "accountName"
  | blobEndpoint => "blobEndpoint"
  | apiVersion => "apiVersion"
  | requestTimeout => "requestTimeoutMs"
  | headers => "headers"
  | logging => "logging"

/-- The order in which issues are listed. -/
def inOrder : List Setting :=
  [accountName, blobEndpoint, apiVersion, requestTimeout, headers, logging]

/-- What the value of an entry has to be.  An entry that is not there is undefined. -/
def Fits : Setting → Value → Prop
  | accountName, value =>
      ∃ name : Text, value = .string name ∧ 3 ≤ name.length ∧ name.length ≤ 24 ∧
        ∀ u ∈ name, Text.isLowerLetter u = true ∨ Text.isDigit u = true
  | blobEndpoint, value =>
      value = .undefined ∨ ∃ text, value = .string text ∧ (Url.ofText? text).isSome = true
  | apiVersion, value => value = .undefined ∨ ∃ version, value = .string version ∧ version ≠ []
  | requestTimeout, value =>
      value = .undefined ∨ value = .boolean false ∨
        ∃ (number : Number) (count : Nat),
          value = .number number ∧ number.toInt? = some (count : Int) ∧ 0 < count
  | headers, value =>
      value = .undefined ∨ ∃ entries, Reader.entries? Record.listed value = some entries ∧
        ∀ entry ∈ entries, entry.2 = .null ∨ ∃ text, entry.2 = .string text
  | logging, value =>
      value = .undefined ∨ ∃ entries, Reader.entries? Record.membersOf value = some entries ∧
        (Value.under "level" entries = .undefined ∨
          ∃ level : LogLevel, Value.under "level" entries = .string level.name) ∧
        (Value.under "pretty" entries = .undefined ∨
          ∃ pretty, Value.under "pretty" entries = .boolean pretty)

end Setting

/-- Header fields are the entries of a plain record, but for the one name that records drop. -/
def HoldsHeaders (value : Value) (headers : List (Text × Option Text)) : Prop :=
  ∃ given : List (Text × Option Text),
    Reader.entries? Record.listed value =
        some (given.map fun field => (field.1, Value.ofText? .null field.2)) ∧
      given.filter (fun field => field.1 ≠ Reader.droppedName) = headers

/-- Settings of a logger are the two entries of a plain record, or their defaults. -/
def HoldsLogging (value : Value) (logging : LoggingConfig) : Prop :=
  ∃ entries, Reader.entries? Record.membersOf value = some entries ∧
    (Value.under "level" entries).orDefault (.string LogLevel.info.name) =
        .string logging.level.name ∧
      (Value.under "pretty" entries).orDefault (.boolean false) = .boolean logging.pretty

/-- A configuration holds what entries give it: each value as it is, or a default for one that is
undefined.  Endpoint and header fields have no default and stay undefined or absent. -/
structure Holds (entries : List (Text × Value)) (config : Config) : Prop where
  accountName : Value.under "accountName" entries = .string config.accountName
  blobEndpoint : Value.entry? "blobEndpoint" entries =
    config.blobEndpoint.map (Value.ofText? .undefined)
  apiVersion : (Value.under "apiVersion" entries).orDefault (.string defaultApiVersion) =
    .string config.apiVersion
  requestTimeout : (Value.under "requestTimeoutMs" entries).orDefault
    (.ofNat defaultRequestTimeout) = config.requestTimeout.toValue
  headers : Reader.OptionalEntry HoldsHeaders (Value.entry? "headers" entries) config.headers
  logging : HoldsLogging ((Value.under "logging" entries).orDefault (.record [])) config.logging

/-- What the values of an accepted configuration are like. -/
structure Sound (config : Config) : Prop where
  accountName : isAccountName config.accountName = true
  blobEndpoint : ∀ text, config.blobEndpoint = some (some text) → (Url.ofText? text).isSome = true
  apiVersion : config.apiVersion ≠ []
  requestTimeout : config.requestTimeout.IsWhole
  headers : ∀ fields, config.headers = some (some fields) →
    ∀ field ∈ fields, field.1 ≠ Reader.droppedName

/-! ## What the readers of settings read -/

theorem reads_accountNameReader :
    accountNameReader.Reads fun value name => value = .string name ∧ isAccountName name = true :=
  Reader.reads_checkedText fun _ => rfl

theorem reads_addressReader :
    addressReader.Reads fun value text =>
      value = .string text ∧ (Url.ofText? text).isSome = true :=
  Reader.reads_checkedText fun _ => rfl

theorem reads_someTextReader :
    someTextReader.Reads fun value text => value = .string text ∧ text ≠ [] := by
  apply (Reader.reads_checkedText fun _ => rfl).congr
  intro value text
  rw [Bool.not_eq_true', List.isEmpty_eq_false_iff]

theorem reads_requestTimeoutReader :
    requestTimeoutReader.Reads fun value timeout => value = timeout.toValue ∧ timeout.IsWhole := by
  apply ((Reader.reads_positiveInteger.map _).either (Reader.reads_onlyFalse.map _)).congr
  intro value timeout
  constructor
  · rintro (⟨count, ⟨rfl, whole⟩, rfl⟩ | ⟨-, _, rfl, rfl⟩)
    · exact ⟨rfl, whole⟩
    · exact ⟨rfl, trivial⟩
  · rintro ⟨rfl, whole⟩
    cases timeout with
    | never =>
        refine .inr ⟨?_, (), rfl, rfl⟩
        rintro other ⟨count, ⟨same, -⟩, -⟩
        cases same
    | milliseconds count => exact .inl ⟨count, ⟨rfl, whole⟩, rfl⟩

theorem reads_headersReader : headersReader.Reads HoldsHeaders := by
  apply Reader.reads_recordOf
  apply Reader.reads_text.nullable.congr
  intro value text
  cases text with
  | none => exact Iff.rfl
  | some text =>
      constructor
      · exact fun own => own.2
      · rintro rfl
        exact ⟨by simp [Value.ofText?], rfl⟩

theorem reads_logLevelReader :
    logLevelReader.Reads fun value level => value = .string level.name := by
  apply ((Reader.reads_oneOf _).map _).congr
  intro value level
  have found (level : LogLevel) : LogLevel.ofName? level.name = some level := by
    cases level <;> decide
  constructor
  · rintro ⟨name, ⟨rfl, among⟩, rfl⟩
    obtain ⟨own, -, rfl⟩ := List.mem_map.mp among
    rw [found]
    rfl
  · rintro rfl
    refine ⟨level.name, ⟨rfl, ?_⟩, ?_⟩
    · apply List.mem_map_of_mem
      cases level <;> decide
    · rw [found]
      rfl

theorem reads_loggingReader : loggingReader.Reads HoldsLogging := by
  apply Reader.reads_object
  intro path entries
  have level := ((reads_logLevelReader.withDefault (.string LogLevel.info.name)).field "level"
    path entries).lift (List.prefix_append path _)
  have pretty := ((Reader.reads_boolean.withDefault (.boolean false)).field "pretty"
    path entries).lift (List.prefix_append path _)
  apply (level.both pretty LoggingConfig.mk).congr
  intro logging
  constructor
  · rintro ⟨level, pretty, ownLevel, ownPretty, rfl⟩
    exact ⟨ownLevel, ownPretty⟩
  · rintro ⟨ownLevel, ownPretty⟩
    exact ⟨logging.level, logging.pretty, ownLevel, ownPretty, rfl⟩

/-- The verdicts on the six entries, each at its own path. -/
structure Entrywise (path : List Text) (entries : List (Text × Value)) : Prop where
  accountName : (Reader.field "accountName" accountNameReader path entries).States
    (path ++ [Setting.accountName.name]) fun name =>
      Value.under "accountName" entries = .string name ∧ isAccountName name = true
  blobEndpoint : (Reader.optionalField "blobEndpoint" addressReader path entries).States
    (path ++ [Setting.blobEndpoint.name])
      (Reader.OptionalEntry (fun value text =>
        value = .string text ∧ (Url.ofText? text).isSome = true)
        (Value.entry? "blobEndpoint" entries))
  apiVersion : (Reader.field "apiVersion"
    (someTextReader.withDefault (.string defaultApiVersion)) path entries).States
    (path ++ [Setting.apiVersion.name]) fun text =>
      (Value.under "apiVersion" entries).orDefault (.string defaultApiVersion) = .string text ∧
        text ≠ []
  requestTimeout : (Reader.field "requestTimeoutMs"
    (requestTimeoutReader.withDefault (.ofNat defaultRequestTimeout)) path entries).States
    (path ++ [Setting.requestTimeout.name]) fun timeout =>
      (Value.under "requestTimeoutMs" entries).orDefault (.ofNat defaultRequestTimeout) =
        timeout.toValue ∧ timeout.IsWhole
  headers : (Reader.optionalField "headers" headersReader path entries).States
    (path ++ [Setting.headers.name])
      (Reader.OptionalEntry HoldsHeaders (Value.entry? "headers" entries))
  logging : (Reader.field "logging" (loggingReader.withDefault (.record [])) path entries).States
    (path ++ [Setting.logging.name])
      (HoldsLogging ((Value.under "logging" entries).orDefault (.record [])))

theorem entrywise (path : List Text) (entries : List (Text × Value)) : Entrywise path entries where
  accountName := reads_accountNameReader.field _ path entries
  blobEndpoint := reads_addressReader.optionalField _ path entries
  apiVersion := (reads_someTextReader.withDefault _).field _ path entries
  requestTimeout := (reads_requestTimeoutReader.withDefault _).field _ path entries
  headers := reads_headersReader.optionalField _ path entries
  logging := (reads_loggingReader.withDefault _).field _ path entries

theorem optionalEntry_endpoint_iff {value? : Option Value} {endpoint : Option (Option Text)} :
    Reader.OptionalEntry (fun value text =>
        value = .string text ∧ (Url.ofText? text).isSome = true) value? endpoint ↔
      value? = endpoint.map (Value.ofText? .undefined) ∧
        ∀ text, endpoint = some (some text) → (Url.ofText? text).isSome = true := by
  rcases value? with - | value
  · rcases endpoint with - | text?
    · simp [Reader.OptionalEntry]
    · simp [Reader.OptionalEntry]
  · rcases endpoint with - | - | text
    · simp [Reader.OptionalEntry]
    · simp [Reader.OptionalEntry, Reader.Optionally, Value.ofText?]
    · constructor
      · rintro ⟨-, rfl, parsed⟩
        refine ⟨rfl, ?_⟩
        intro other same
        cases same
        exact parsed
      · rintro ⟨same, parsed⟩
        cases same
        exact ⟨by simp [Value.ofText?], rfl, parsed text rfl⟩

theorem ne_droppedName_of_optionalEntry {value? : Option Value}
    {headers : Option (Option (List (Text × Option Text)))}
    (holds : Reader.OptionalEntry HoldsHeaders value? headers) :
    ∀ fields, headers = some (some fields) → ∀ field ∈ fields, field.1 ≠ Reader.droppedName := by
  rintro fields rfl field member
  cases value? with
  | none => exact holds.elim
  | some value =>
      obtain ⟨-, given, -, rfl⟩ := holds
      simpa using (List.mem_filter.mp member).2

/-- Settings are read as a configuration if and only if it holds them and its values are sound. -/
theorem reads_reader :
    reader.Reads fun settings config =>
      ∃ entries, Reader.entries? Record.membersOf settings = some entries ∧
        Holds entries config ∧ config.Sound := by
  apply Reader.reads_object
  intro path entries
  have own := entrywise path entries
  have inner (name : Text) : path <+: path ++ [name] := List.prefix_append path [name]
  have account := (own.accountName.lift (inner _)).map Config.mk
  have endpoint := account.both (own.blobEndpoint.lift (inner _)) fun f a => f a
  have version := endpoint.both (own.apiVersion.lift (inner _)) fun f a => f a
  have timeout := version.both (own.requestTimeout.lift (inner _)) fun f a => f a
  have headers := timeout.both (own.headers.lift (inner _)) fun f a => f a
  have logging := headers.both (own.logging.lift (inner _)) fun f a => f a
  apply logging.congr
  intro config
  constructor
  · rintro ⟨_, ownLogging, ⟨_, ownHeaders, ⟨_, ownTimeout, ⟨_, ownVersion, ⟨_, ownEndpoint,
      ⟨ownName, ⟨account, isName⟩, rfl⟩, endpoint, rfl⟩, ⟨version, some⟩, rfl⟩,
      ⟨timeout, whole⟩, rfl⟩, headers, rfl⟩, logging, rfl⟩
    obtain ⟨held, parsed⟩ := optionalEntry_endpoint_iff.mp endpoint
    exact ⟨⟨account, held, version, timeout, headers, logging⟩,
      ⟨isName, parsed, some, whole, ne_droppedName_of_optionalEntry headers⟩⟩
  · rintro ⟨holds, sound⟩
    have endpoint := optionalEntry_endpoint_iff.mpr ⟨holds.blobEndpoint, sound.blobEndpoint⟩
    exact ⟨_, config.logging, ⟨_, config.headers, ⟨_, config.requestTimeout,
      ⟨_, config.apiVersion, ⟨_, config.blobEndpoint,
        ⟨config.accountName, ⟨holds.accountName, sound.accountName⟩, rfl⟩, endpoint, rfl⟩,
        ⟨holds.apiVersion, sound.apiVersion⟩, rfl⟩,
        ⟨holds.requestTimeout, sound.requestTimeout⟩, rfl⟩, holds.headers, rfl⟩,
      holds.logging, rfl⟩

/-! ## The issues about settings -/

theorem exists_optionalEntry_iff {α : Type} {relates : Value → α → Prop} {name : Text}
    {entries : List (Text × Value)} :
    (∃ reading, Reader.OptionalEntry relates (Value.entry? name entries) reading) ↔
      Value.under name entries = .undefined ∨
        ∃ reading, relates (Value.under name entries) reading := by
  unfold Value.under
  cases Value.entry? name entries with
  | none =>
      constructor
      · intro _
        exact .inl rfl
      · intro _
        exact ⟨none, trivial⟩
  | some value =>
      rw [Option.getD_some]
      constructor
      · rintro ⟨- | - | reading, held⟩
        · exact held.elim
        · exact .inl held
        · exact .inr ⟨reading, held.2⟩
      · intro held
        by_cases missing : value = .undefined
        · exact ⟨some none, missing⟩
        · obtain ⟨reading, meant⟩ := held.resolve_left missing
          exact ⟨some (some reading), missing, meant⟩

theorem exists_orDefault_iff {α : Type} (means : Value → α → Prop) {fallback : Value}
    (default : ∃ reading, means fallback reading) (value : Value) :
    (∃ reading, means (value.orDefault fallback) reading) ↔
      value = .undefined ∨ ∃ reading, means value reading := by
  by_cases missing : value = .undefined
  · rw [missing]
    constructor
    · intro _
      exact .inl rfl
    · intro _
      exact default
  · rw [Value.orDefault_of_ne missing, or_iff_right missing]

theorem exists_timeout_iff {value : Value} :
    (∃ timeout : RequestTimeout, value = timeout.toValue ∧ timeout.IsWhole) ↔
      value = .boolean false ∨ ∃ (number : Number) (count : Nat),
        value = .number number ∧ number.toInt? = some (count : Int) ∧ 0 < count := by
  constructor
  · rintro ⟨- | count, rfl, whole⟩
    · exact .inl rfl
    · obtain ⟨natural, read, positive⟩ := Number.exists_pos_of_isInteger whole.1 whole.2
      exact .inr ⟨count, natural, rfl, read, positive⟩
  · rintro (rfl | ⟨number, count, rfl, read, positive⟩)
    · exact ⟨.never, rfl, trivial⟩
    · obtain ⟨value, own, integer⟩ := Option.bind_eq_some_iff.mp read
      have above : (0 : Dyadic) < value := by
        rw [Number.eq_natCast_of_dyadicInt? integer]
        exact Number.natCast_lt_natCast.mpr positive
      have isInteger : number.isInteger = true := by
        rw [Number.isInteger, read]
        rfl
      have isPositive : number.isPositive = true :=
        Number.less_iff.mpr (.inr (.inr ⟨0, value, rfl, own, above⟩))
      exact ⟨.milliseconds number, rfl, isInteger, isPositive⟩

theorem exists_headers_iff {value : Value} :
    (∃ headers, HoldsHeaders value headers) ↔
      ∃ entries, Reader.entries? Record.listed value = some entries ∧
        ∀ entry ∈ entries, entry.2 = .null ∨ ∃ text, entry.2 = .string text := by
  constructor
  · rintro ⟨headers, given, found, -⟩
    refine ⟨_, found, ?_⟩
    intro entry member
    obtain ⟨⟨name, text?⟩, -, rfl⟩ := List.mem_map.mp member
    cases text? with
    | none => exact .inl rfl
    | some text => exact .inr ⟨text, rfl⟩
  · rintro ⟨entries, found, texts⟩
    have spelled : entries ∈ Set.range
        (List.map fun field : Text × Option Text => (field.1, Value.ofText? .null field.2)) := by
      rw [Set.range_list_map]
      rintro ⟨name, value⟩ member
      rcases texts _ member with rfl | ⟨text, rfl⟩
      · exact ⟨(name, none), rfl⟩
      · exact ⟨(name, some text), rfl⟩
    obtain ⟨given, rfl⟩ := spelled
    exact ⟨_, given, found, rfl⟩

theorem exists_logging_iff {value : Value} :
    (∃ logging, HoldsLogging value logging) ↔
      ∃ entries, Reader.entries? Record.membersOf value = some entries ∧
        (Value.under "level" entries = .undefined ∨
          ∃ level : LogLevel, Value.under "level" entries = .string level.name) ∧
        (Value.under "pretty" entries = .undefined ∨
          ∃ pretty, Value.under "pretty" entries = .boolean pretty) := by
  have level := exists_orDefault_iff
    (fun value (level : LogLevel) => value = .string level.name) ⟨.info, rfl⟩
  have pretty := exists_orDefault_iff
    (fun value (pretty : Bool) => value = .boolean pretty) ⟨false, rfl⟩
  constructor
  · rintro ⟨logging, entries, found, ownLevel, ownPretty⟩
    exact ⟨entries, found, (level _).mp ⟨_, ownLevel⟩, (pretty _).mp ⟨_, ownPretty⟩⟩
  · rintro ⟨entries, found, ownLevel, ownPretty⟩
    obtain ⟨heldLevel, ownLevel⟩ := (level _).mpr ownLevel
    obtain ⟨heldPretty, ownPretty⟩ := (pretty _).mpr ownPretty
    exact ⟨⟨heldLevel, heldPretty⟩, entries, found, ownLevel, ownPretty⟩

/-- The issues about an entry. -/
def Setting.issues (entries : List (Text × Value)) : Setting → List Issue
  | accountName => (Reader.field "accountName" accountNameReader [] entries).issues
  | blobEndpoint => (Reader.optionalField "blobEndpoint" addressReader [] entries).issues
  | apiVersion =>
      (Reader.field "apiVersion" (someTextReader.withDefault (.string defaultApiVersion)) []
        entries).issues
  | requestTimeout =>
      (Reader.field "requestTimeoutMs"
        (requestTimeoutReader.withDefault (.ofNat defaultRequestTimeout)) [] entries).issues
  | headers => (Reader.optionalField "headers" headersReader [] entries).issues
  | logging => (Reader.field "logging" (loggingReader.withDefault (.record [])) [] entries).issues

theorem Setting.issues_eq_nil_iff (entries : List (Text × Value)) (setting : Setting) :
    setting.issues entries = [] ↔ setting.Fits (Value.under setting.name entries) := by
  have own := entrywise [] entries
  cases setting with
  | accountName =>
      apply own.accountName.issues_eq_nil_iff.trans
      simp [isAccountName, Fits, name, and_assoc]
  | blobEndpoint => exact own.blobEndpoint.issues_eq_nil_iff.trans exists_optionalEntry_iff
  | apiVersion =>
      apply own.apiVersion.issues_eq_nil_iff.trans
      exact exists_orDefault_iff
        (fun value (version : Text) => value = .string version ∧ version ≠ [])
        ⟨defaultApiVersion, rfl, by decide⟩ _
  | requestTimeout =>
      have whole : (RequestTimeout.milliseconds (.ofInt defaultRequestTimeout)).IsWhole :=
        And.intro (by decide) (by decide)
      apply own.requestTimeout.issues_eq_nil_iff.trans
      apply (exists_orDefault_iff
        (fun value (timeout : RequestTimeout) => value = timeout.toValue ∧ timeout.IsWhole)
        ⟨_, rfl, whole⟩ _).trans
      exact or_congr_right exists_timeout_iff
  | headers =>
      apply own.headers.issues_eq_nil_iff.trans
      apply exists_optionalEntry_iff.trans
      exact or_congr_right exists_headers_iff
  | logging =>
      apply own.logging.issues_eq_nil_iff.trans
      apply (exists_orDefault_iff HoldsLogging
        ⟨⟨.info, false⟩, [], rfl, rfl, rfl⟩ _).trans
      exact or_congr_right exists_logging_iff

theorem Setting.head?_path {entries : List (Text × Value)} {setting : Setting} {issue : Issue}
    (member : issue ∈ setting.issues entries) : issue.path.head? = some setting.name := by
  have own := entrywise [] entries
  have below : [setting.name] <+: issue.path := by
    cases setting with
    | accountName => exact own.accountName.below issue member
    | blobEndpoint => exact own.blobEndpoint.below issue member
    | apiVersion => exact own.apiVersion.below issue member
    | requestTimeout => exact own.requestTimeout.below issue member
    | headers => exact own.headers.below issue member
    | logging => exact own.logging.below issue member
  obtain ⟨rest, path⟩ := below
  rw [← path]
  rfl

theorem issues_reader {settings : Value} {entries : List (Text × Value)}
    (found : Reader.entries? Record.membersOf settings = some entries) :
    (reader [] settings).issues = Setting.inOrder.flatMap (Setting.issues entries) := by
  unfold reader Reader.object
  rw [found]
  simp only [Verdict.issues_both, Verdict.issues_map, Setting.inOrder, Setting.issues,
    List.flatMap_cons, List.flatMap_nil, List.append_nil, List.append_assoc]

theorem map_head?_issues (entries : List (Text × Value)) (settings : List Setting) :
    (settings.flatMap (Setting.issues entries)).map (fun issue => issue.path.head?) =
      settings.flatMap fun setting =>
        List.replicate (setting.issues entries).length (some setting.name) := by
  rw [List.map_flatMap]
  congr 1
  funext setting
  rw [List.eq_replicate_iff]
  constructor
  · rw [List.length_map]
  · intro head member
    obtain ⟨issue, own, rfl⟩ := List.mem_map.mp member
    exact Setting.head?_path own

/-- What the issues about settings name: nothing for settings that are no plain record; otherwise
each entry that is not what it has to be, one after the other, and no other entry. -/
def NamesUnfit (settings : Value) (items : List Value) : Prop :=
  match Reader.entries? Record.membersOf settings with
  | none => items.map (Value.member? "path") = [some (.list [])]
  | some entries =>
      ∃ count : Setting → Nat,
        (∀ setting, count setting = 0 ↔ setting.Fits (Value.under setting.name entries)) ∧
          items.map Issue.start? = Setting.inOrder.flatMap fun setting =>
            List.replicate (count setting) (some setting.name)

theorem namesUnfit_toValues (settings : Value) :
    NamesUnfit settings (Issue.toValues (reader [] settings).issues) := by
  unfold NamesUnfit
  cases found : Reader.entries? Record.membersOf settings with
  | none =>
      have wrong : reader [] settings = Reader.wrongKind "object" [] settings := by
        unfold reader Reader.object
        rw [found]
      rw [wrong]
      rfl
  | some entries =>
      refine ⟨fun setting => (setting.issues entries).length, ?_, ?_⟩
      · intro setting
        rw [List.length_eq_zero_iff]
        exact setting.issues_eq_nil_iff entries
      · rw [← map_head?_issues, ← issues_reader found, Issue.toValues_eq_map, List.map_map]
        exact List.map_congr_left fun issue _ => issue.start?_toValue

theorem failed_of_resolved {settings : Value} (resolves : ∀ reason, read settings ≠ .raised reason)
    (refused : ∀ config, read settings ≠ .ok config) :
    ∃ failure : Failure, read settings = .failed failure ∧ failure.kind = .request .validation ∧
      failure.detail = .issues (.list (Issue.toValues (reader [] settings).issues)) := by
  cases ending : read settings with
  | ok config => exact absurd ending (refused config)
  | raised reason => exact absurd ending (resolves reason)
  | failed failure =>
      refine ⟨failure, rfl, ?_⟩
      rw [read, Validation.read_eq] at ending
      split at ending
      · cases ending
      · exact Validation.detail_of_failWith ending

theorem read_eq_ok_iff {settings : Value} {config : Config} :
    read settings = .ok config ↔
      ∃ entries, Reader.entries? Record.membersOf settings = some entries ∧
        Holds entries config ∧ config.Sound :=
  reads_reader.read_eq_ok_iff

/-- Settings are accepted if and only if there is no issue about them. -/
theorem exists_read_iff {settings : Value} :
    (∃ config, read settings = .ok config) ↔
      ∃ entries, Reader.entries? Record.membersOf settings = some entries ∧
        ∀ setting : Setting, setting.Fits (Value.under setting.name entries) := by
  have silent := (reads_reader [] settings).issues_eq_nil_iff
  constructor
  · rintro ⟨config, accepted⟩
    obtain ⟨entries, found, held⟩ := read_eq_ok_iff.mp accepted
    refine ⟨entries, found, ?_⟩
    have none := silent.mpr ⟨config, entries, found, held⟩
    rw [issues_reader found, List.flatMap_eq_nil_iff] at none
    intro setting
    apply (setting.issues_eq_nil_iff entries).mp
    apply none
    cases setting <;> decide
  · rintro ⟨entries, found, fit⟩
    have none : (reader [] settings).issues = [] := by
      rw [issues_reader found, List.flatMap_eq_nil_iff]
      intro setting _
      exact (setting.issues_eq_nil_iff entries).mpr (fit setting)
    obtain ⟨config, held⟩ := silent.mp none
    exact ⟨config, read_eq_ok_iff.mpr held⟩

/-- Settings that are answered at all are accepted if and only if they are a plain record whose
entries are what they have to be.  The configuration then holds what was given.  Otherwise the
issues name the entries that are not what they have to be. -/
theorem settings_accepted_or_reported {settings : Value}
    (resolves : ∀ reason, read settings ≠ .raised reason) :
    ((∃ config, read settings = .ok config) ↔
      ∃ entries, Reader.entries? Record.membersOf settings = some entries ∧
        ∀ setting : Setting, setting.Fits (Value.under setting.name entries)) ∧
    (∀ config, read settings = .ok config →
      ∃ entries, Reader.entries? Record.membersOf settings = some entries ∧
        Holds entries config) ∧
    ((∀ config, read settings ≠ .ok config) →
      ∃ failure items, read settings = .failed failure ∧ failure.kind = .request .validation ∧
        failure.detail = .issues (.list items) ∧ NamesUnfit settings items) := by
  refine ⟨exists_read_iff, ?_, ?_⟩
  · intro config accepted
    obtain ⟨entries, found, holds, -⟩ := read_eq_ok_iff.mp accepted
    exact ⟨entries, found, holds⟩
  · intro refused
    obtain ⟨failure, failed, kind, detail⟩ := failed_of_resolved resolves refused
    exact ⟨failure, _, failed, kind, detail, namesUnfit_toValues settings⟩

/-- Settings in which three entries are wrong, one of them in two places, and one is not known. -/
def spoiledSettings : Value :=
  .record [("logging", .record [("level", .string "LOUD"), ("pretty", .undefined)]),
    ("accountName", .string "My_Account"), ("comment", .bigint 5), ("apiVersion", .undefined),
    ("headers", .record [("x-tag", .null), ("__proto__", .boolean true), ("etag", .list [])])]

theorem settings_accepted_or_reported_spoiled :
    (∀ reason, read spoiledSettings ≠ .raised reason) ∧
      (∀ config, read spoiledSettings ≠ .ok config) ∧
      ∃ failure items, read spoiledSettings = .failed failure ∧
        failure.kind = .request .validation ∧ failure.detail = .issues (.list items) ∧
        NamesUnfit spoiledSettings items := by
  have plain : ¬BigintTimeout spoiledSettings := by
    rintro ⟨value, found, -⟩
    cases found
  have resolves : ∀ reason, read spoiledSettings ≠ .raised reason := by
    intro reason raised
    rcases read_answers plain with ⟨config, accepted⟩ | ⟨failure, -, failed⟩
    · rw [raised] at accepted
      cases accepted
    · rw [raised] at failed
      cases failed
  have refused : ∀ config, read spoiledSettings ≠ .ok config := by
    intro config accepted
    obtain ⟨entries, found, fit⟩ :=
      (settings_accepted_or_reported resolves).1.mp ⟨config, accepted⟩
    cases found
    obtain ⟨name, same, -, -, letters⟩ := fit .accountName
    cases same
    exact absurd (letters (Text.unit 'M') (by decide)) (by decide)
  exact ⟨resolves, refused, (settings_accepted_or_reported resolves).2.2 refused⟩

end Config

end BlobStorage
