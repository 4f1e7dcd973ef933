import BlobStorage.Proofs.ConfigFields
import BlobStorage.Proofs.ShortestDigits

/-!
# Writing configurations

A configuration can be written as a value, and as environment variables unless it has header fields.
Reading what was written gives the configuration back.
-/

namespace BlobStorage

theorem Reader.entries?_of_plain {entries : List (Text × Value)}
    {ofFailure : Failure → List (Text × Value)} (plain : ∀ entry ∈ entries, entry.2 ≠ .function) :
    entries? ofFailure (.record entries) = some entries := by
  have isObject : kindName (.record entries) = "object" := by
    rw [kindName]
    cases found : Value.entry? "then" entries with
    | none => rfl
    | some value =>
        obtain ⟨entry, among, rfl⟩ := Option.map_eq_some_iff.mp found
        have uncalled := plain entry (List.mem_of_find?_eq_some among)
        cases value : entry.2 with
        | function => exact absurd value uncalled
        | _ => rfl
  rw [entries?, if_pos isObject]

namespace Config

/-! ## As a value -/

/-- An entry that is left out when it has no value. -/
def entryOf (name : Text) (value? : Option Value) : List (Text × Value) :=
  value?.toList.map fun value => (name, value)

def loggingValue (logging : LoggingConfig) : Value :=
  .record [("level", .string logging.level.name), ("pretty", .boolean logging.pretty)]

/-- The entries of a configuration, in the order in which settings are read. -/
def entries (config : Config) : List (Text × Value) :=
  entryOf "accountName" (some (.string config.accountName)) ++
    entryOf "blobEndpoint" (config.blobEndpoint.map (Value.ofText? .undefined)) ++
    entryOf "apiVersion" (some (.string config.apiVersion)) ++
    entryOf "requestTimeoutMs" (some config.requestTimeout.toValue) ++
    entryOf "headers" (config.headers.map fun fields => Client.headersValue (some fields)) ++
    entryOf "logging" (some (loggingValue config.logging))

def toValue (config : Config) : Value := .record config.entries

theorem entries?_toValue (config : Config) :
    Reader.entries? Record.membersOf config.toValue = some config.entries := by
  obtain ⟨account, endpoint, version, timeout, headers, logging⟩ := config
  cases endpoint <;> cases headers <;> rfl

/-- Texts and `null` make a plain record, under whatever names they stand. -/
theorem holdsHeaders_headersValue {fields : List (Text × Option Text)}
    (kept : ∀ field ∈ fields, field.1 ≠ Reader.droppedName) :
    HoldsHeaders (Client.headersValue (some (some fields))) fields := by
  have written : Client.headersValue (some (some fields)) =
      .record (fields.map fun field => (field.1, Value.ofText? .null field.2)) := by
    rw [Client.headersValue]
    congr 1
    apply List.map_congr_left
    rintro ⟨name, text?⟩ _
    cases text? <;> rfl
  have plain : ∀ entry ∈ fields.map fun field => (field.1, Value.ofText? .null field.2),
      entry.2 ≠ .function := by
    intro entry member
    obtain ⟨⟨name, text?⟩, -, rfl⟩ := List.mem_map.mp member
    cases text? <;> simp [Value.ofText?]
  refine ⟨fields, ?_, ?_⟩
  · rw [written, Reader.entries?_of_plain plain]
  · rw [List.filter_eq_self]
    intro field member
    exact decide_eq_true (kept field member)

theorem Sound.holds_entries {config : Config} (sound : config.Sound) :
    Holds config.entries config := by
  obtain ⟨account, endpoint, version, timeout, headers, logging⟩ := config
  constructor
  · rfl
  · cases endpoint <;> cases headers <;> rfl
  · cases endpoint <;> rfl
  · cases endpoint <;> cases timeout <;> rfl
  · rcases headers with - | - | fields
    · cases endpoint <;> exact trivial
    · cases endpoint <;> exact rfl
    · have held := holdsHeaders_headersValue (sound.headers fields rfl)
      cases endpoint <;> exact ⟨by simp [Client.headersValue], held⟩
  · have held : HoldsLogging (loggingValue logging) logging := ⟨_, rfl, rfl, rfl⟩
    cases endpoint <;> cases headers <;> exact held

theorem Sound.read_own {config : Config} (sound : config.Sound) :
    Config.read config.toValue = .ok config :=
  read_eq_ok_iff.mpr ⟨config.entries, config.entries?_toValue, sound.holds_entries, sound⟩

/-- The configuration that settings are read as is read again from its own record. -/
theorem read_toValue {settings : Value} {config : Config} (accepted : read settings = .ok config) :
    read config.toValue = .ok config := by
  obtain ⟨-, -, -, sound⟩ := read_eq_ok_iff.mp accepted
  exact sound.read_own

/-- Settings with a name that records drop, an endpoint that is undefined, and an unknown entry. -/
def sparseSettings : Value :=
  .record [("accountName", .string "dev1"), ("blobEndpoint", .undefined),
    ("headers", .record [("7", .string ""), ("__proto__", .null), ("x-ms-version", .null)]),
    ("logging", .record [("pretty", .boolean true)]), ("comment", .symbol "none")]

def sparseConfig : Config where
  accountName := "dev1"
  blobEndpoint := some none
  apiVersion := "2018-03-28"
  requestTimeout := .milliseconds (.ofInt 60000)
  headers := some (some [("7", some []), ("x-ms-version", none)])
  logging := ⟨.info, true⟩

theorem read_toValue_sparse :
    read sparseSettings = .ok sparseConfig ∧ read sparseConfig.toValue = .ok sparseConfig := by
  have accepted : read sparseSettings = .ok sparseConfig := rfl
  exact ⟨accepted, read_toValue accepted⟩

/-! ## As environment variables -/

/-- A configuration as variables: an endpoint that is missing is empty, everything else is written
as its text. -/
def settingVariables (config : Config) : List (Text × Text) :=
  [("STORAGE_ACCOUNT_NAME", config.accountName),
    ("STORAGE_BLOB_ENDPOINT", config.blobEndpoint.join.getD []),
    ("STORAGE_API_VERSION", config.apiVersion),
    ("STORAGE_REQUEST_TIMEOUT_MS", config.requestTimeout.toValue.describe?.getD []),
    ("LOG_LEVEL", config.logging.level.name),
    ("LOG_PRETTY", (Value.boolean config.logging.pretty).describe?.getD [])]

/-- An environment sets the variables of a configuration; it may set others too. -/
def Sets (environment : Value) (config : Config) : Prop :=
  ∀ entry ∈ config.settingVariables, environment.member? entry.1 = some (.string entry.2)

/-- What variables tell of a configuration without header fields: all of it, but an endpoint that
is missing is there and undefined. -/
def fromVariables (config : Config) : Config :=
  { config with blobEndpoint := some config.blobEndpoint.join, headers := none }

theorem Sound.fromVariables {config : Config} (sound : config.Sound) :
    config.fromVariables.Sound := by
  constructor
  · exact sound.accountName
  · intro text endpoint
    apply sound.blobEndpoint
    exact Option.join_eq_some_iff.mp (Option.some.inj endpoint)
  · exact sound.apiVersion
  · exact sound.requestTimeout
  · intro fields headers
    cases headers

theorem nonEmpty_string {text : Text} (some : text ≠ []) : nonEmpty (.string text) = .string text := by
  rw [nonEmpty, Value.isTruthy, if_pos]
  rw [Bool.not_eq_true', List.isEmpty_eq_false_iff]
  exact some

theorem nonEmpty_endpoint {endpoint : Option Text}
    (parsed : ∀ text, endpoint = some text → (Url.ofText? text).isSome = true) :
    nonEmpty (.string (endpoint.getD [])) = Value.ofText? .undefined endpoint := by
  cases endpoint with
  | none => rfl
  | some text =>
      apply nonEmpty_string
      rintro rfl
      exact Bool.false_ne_true (parsed [] rfl)

/-- A timeout that can be kept is told by its variable. -/
theorem timeoutVariable_string {timeout : RequestTimeout} (whole : timeout.IsWhole) :
    timeoutVariable (.string (timeout.toValue.describe?.getD [])) = .ok timeout.toValue := by
  cases timeout with
  | never => rfl
  | milliseconds count =>
      have positive := whole.2
      have reads : Number.ofText count.toText = count := by
        obtain ⟨milliseconds, read, above⟩ := Number.exists_pos_of_isInteger whole.1 positive
        exact Number.ofText_toText read above
      -- The texts that stand for something else are not those of positive numbers.
      have some : count.toText ≠ [] := by
        intro same
        rw [← reads, same] at positive
        exact absurd positive (by decide)
      have other : ¬(count.toText = "false" ∨ count.toText = "0") := by
        rintro (same | same)
        all_goals
          rw [← reads, same] at positive
          exact absurd positive (by decide)
      rw [RequestTimeout.toValue, Value.describe?_number, Option.getD_some]
      rw [timeoutVariable, if_neg other, reads]
      exact some

theorem switchVariable_string (on : Bool) :
    switchVariable (.string ((Value.boolean on).describe?.getD [])) = .boolean on := by
  cases on with
  | false => rfl
  | true => rfl

/-- The settings that variables are read as are the record of what they tell. -/
theorem environmentSettings_variables {get : Text → Value} {config : Config} (sound : config.Sound)
    (sets : ∀ entry ∈ config.settingVariables, get entry.1 = .string entry.2) :
    environmentSettings get = .ok config.fromVariables.toValue := by
  simp only [settingVariables, List.forall_mem_cons] at sets
  obtain ⟨account, endpoint, version, timeout, level, pretty, -⟩ := sets
  have ownEndpoint : nonEmpty (.string (config.blobEndpoint.join.getD [])) =
      Value.ofText? .undefined config.blobEndpoint.join := by
    apply nonEmpty_endpoint
    intro text own
    exact sound.blobEndpoint text (Option.join_eq_some_iff.mp own)
  have ownTimeout := timeoutVariable_string sound.requestTimeout
  have ownLevel : nonEmpty (.string config.logging.level.name) =
      .string config.logging.level.name := by
    apply nonEmpty_string
    cases config.logging.level <;> decide
  rw [environmentSettings, account, endpoint, version, timeout, level, pretty, ownEndpoint,
    nonEmpty_string sound.apiVersion, ownTimeout, ownLevel, switchVariable_string]
  rfl

/-- Two configurations say the same: what is undefined counts as absent. -/
structure Agrees (first second : Config) : Prop where
  accountName : first.accountName = second.accountName
  blobEndpoint : first.blobEndpoint.join = second.blobEndpoint.join
  apiVersion : first.apiVersion = second.apiVersion
  requestTimeout : first.requestTimeout = second.requestTimeout
  headers : first.headers.join = second.headers.join
  logging : first.logging = second.logging

/-- A configuration without header fields is loaded from the environment that its variables are
set in. -/
theorem ofEnvironment_variables {settings environment : Value} {config : Config}
    (accepted : read settings = .ok config) (headerless : config.headers.join = none)
    (sets : Sets environment config) :
    ∃ loaded, ofEnvironment environment = .ok loaded ∧ loaded.headers = none ∧
      loaded.Agrees config := by
  obtain ⟨-, -, -, sound⟩ := read_eq_ok_iff.mp accepted
  have present : environment.member? "STORAGE_ACCOUNT_NAME" ≠ none := by
    rw [sets ("STORAGE_ACCOUNT_NAME", config.accountName) List.mem_cons_self]
    exact Option.some_ne_none _
  have found : environmentSettings (fun name => (environment.member? name).getD .undefined) =
      .ok config.fromVariables.toValue := by
    apply environmentSettings_variables sound
    intro entry member
    rw [sets entry member, Option.getD_some]
  have loaded : ofEnvironment environment =
      (environmentSettings fun name => (environment.member? name).getD .undefined).bind read := by
    cases environment with
    | null => exact absurd rfl present
    | _ => rfl
  refine ⟨config.fromVariables, ?_, rfl, ?_⟩
  · rw [loaded, found, Outcome.bind, sound.fromVariables.read_own]
  · exact ⟨rfl, rfl, rfl, rfl, headerless.symm, rfl⟩

/-- Settings without an endpoint that ask for a long timeout. -/
def patientSettings : Value :=
  .record [("accountName", .string "dev1"), ("requestTimeoutMs", .ofNat 5000)]

def patientConfig : Config where
  accountName := "dev1"
  blobEndpoint := none
  apiVersion := "2018-03-28"
  requestTimeout := .milliseconds (.ofInt 5000)
  headers := none
  logging := ⟨.info, false⟩

/-- The variables of a patient configuration, among others. -/
def patientEnvironment : Value :=
  .record (("HOME", .string "/") ::
    patientConfig.settingVariables.map fun entry => (entry.1, .string entry.2))

theorem ofEnvironment_variables_patient :
    read patientSettings = .ok patientConfig ∧ patientConfig.headers.join = none ∧
      Sets patientEnvironment patientConfig ∧
      ∃ loaded, ofEnvironment patientEnvironment = .ok loaded ∧ loaded.headers = none ∧
        loaded.Agrees patientConfig := by
  have accepted : read patientSettings = .ok patientConfig := rfl
  have sets : Sets patientEnvironment patientConfig := by
    intro entry member
    simp only [settingVariables, List.mem_cons, List.not_mem_nil, or_false] at member
    rcases member with rfl | rfl | rfl | rfl | rfl | rfl
    all_goals rfl
  exact ⟨accepted, rfl, sets, ofEnvironment_variables accepted rfl sets⟩

end Config

end BlobStorage
