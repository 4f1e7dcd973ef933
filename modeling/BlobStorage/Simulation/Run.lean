import BlobStorage.Simulation.Calls

/-!
# Steps of a simulated run

Each step changes the run and answers.  A step that names something that does not exist, or that is
refused, changes nothing, and the run goes on.
-/

namespace BlobStorage.Simulation

namespace Run

/-- A run in which nothing has happened, with the instant of its clock's zero. -/
def start (origin : Number) : Run := ⟨.start origin, [], [], [], [], []⟩

def signalsView (run : Run) : SignalsView where
  signals := run.signals.map fun (name, clearable?) =>
    (name, clearable?.map fun clearable => {
      reason := run.traffic.world.signals.reason? clearable.signal
      listeners := run.traffic.world.signals.listenerCount clearable.signal
      same :=
        match run.labelOf (some clearable.signal) with
        | .named first => first
        | _ => name })
  timers := run.traffic.world.timers.timeoutCount

/-- A signal under a name, and the answer to the step that made it. -/
def nameSignal (run : Run) (name : Text) (clearable? : Option Clearable) : Run × Answer :=
  let run := { run with signals := Record.put run.signals name clearable? }
  (run, .state run.signalsView)

/-- The place and the client of a name; of several the last one. -/
def client? (run : Run) (name : Text) : Option (Nat × SimulatedClient) :=
  (run.clients.zipIdx.reverse.find? fun entry => entry.1.name == name).map fun entry =>
    (entry.2, entry.1)

def builder? (run : Run) (name : Text) : Option (DeleteBlob.Builder Nat) :=
  (run.builders.find? (·.1 == name)).map (·.2)

def builderView (builder : DeleteBlob.Builder Nat) : BuilderView where
  parameters := builder.parameters
  missing := builder.missingParameter?
  complete := builder.isComplete

/-- A builder under a name, and the answer to the step that made it. -/
def nameBuilder (run : Run) (name : Text) (builder : DeleteBlob.Builder Nat) : Run × Answer :=
  ({ run with builders := Record.put run.builders name builder }, .builder (builderView builder))

def withBuilder (run : Run) (name : Text) (step : DeleteBlob.Builder Nat → Run × Answer) :
    Run × Answer :=
  match run.builder? name with
  | some builder => step builder
  | none => (run, .noSuch "builder" name)

/-- The answer to a step whose outcome says all about it. -/
def answerOf (answer : α → Answer) : Outcome α → Answer
  | .ok value => answer value
  | .failed failure => .failed failure
  | .raised reason => .raised reason

def ownLevel (logging : Value) : Outcome (Option LogLevel) :=
  match logging.member? "level" with
  | some level => LogLevel.choose level
  | none => .raised .typeError

/-- A client from settings, with the level of its own logger. -/
def makeClient : Settings → Outcome (Client × Outcome (Option LogLevel))
  | .checked settings =>
      (Config.read settings).map fun config =>
        (Client.ofConfig config, .ok (some config.logging.level))
  | .environment source =>
      (Config.ofEnvironment source).map fun config =>
        (Client.ofConfig config, .ok (some config.logging.level))
  | .unchecked settings =>
      (Client.ofSettings settings).map fun client =>
        (client, ownLevel ((settings.member? "logging").getD .undefined))

/-- A client with its logger; one that is recorded is made first. -/
def equip (settings : Settings) : Logger → Outcome (Client × Option LogLevel × Bool)
  | .recorded level => do
      let level ← LogLevel.choose level
      let (client, _) ← makeClient settings
      return (client, level, true)
  | .own => do
      let (client, level) ← makeClient settings
      return (client, ← level, false)

def addClient (run : Run) (name : Text) (settings : Settings) (logger : Logger) : Run × Answer :=
  match equip settings logger with
  | .ok (client, level, recorded) =>
      ({ run with
          clients := run.clients ++
            [{ name, endpoint := client.blobEndpoint, client := some client, level, recorded }] },
        .client client.accountName client.blobEndpoint level)
  | .failed failure => (run, .failed failure)
  | .raised reason => (run, .raised reason)

def addScriptedClient (run : Run) (name endpoint : Text) (level : Value) : Run × Answer :=
  match LogLevel.choose level with
  | .ok level =>
      ({ run with
          clients := run.clients ++ [{ name, endpoint, client := none, level, recorded := true }] },
        .scriptedClient endpoint)
  | .failed failure => (run, .failed failure)
  | .raised reason => (run, .raised reason)

/-- The signals of some names; `none` stands for no signal, and the first name that nothing bears is
reported. -/
def sources (run : Run) : List (Option Text) → Except Text (List (Option SignalId))
  | [] => .ok []
  | none :: names => (run.sources names).map (none :: ·)
  | some name :: names =>
      match run.signal? name with
      | some signal? => (run.sources names).map (signal? :: ·)
      | none => .error name

/-- A call step: what happens meanwhile comes before the report. -/
def report (started : Run × CallId × List RequestView) (options : CallOptions) : Run × Answer :=
  let (run, id, requests) := started
  let run := options.meanwhile.foldl meanwhile run
  match run.traffic.stage? id with
  | some stage =>
      (run, .call { stage, requests, journal := run.journals.length - 1, state := run.signalsView })
  | none => (run, .raised .typeError)

/-- A call step begins: its log entries start a new journal. -/
def openJournal (run : Run) : Run := { run with journals := run.journals ++ [[]] }

/-- The signal that a call is given: `none` when a name is borne by nothing. -/
def callSignal? (run : Run) (options : CallOptions) : Except Text (Option SignalId) :=
  match options.signal with
  | none => .ok none
  | some name =>
      match run.signal? name with
      | some signal? => .ok signal?
      | none => .error name

def finalize (run : Run) (builder : DeleteBlob.Builder Nat) (options : CallOptions) :
    Run × Answer :=
  match run.callSignal? options, run.clients[builder.client]? with
  | .error name, _ => (run, .noSuch "signal" name)
  | _, none => (run, .raised .typeError)
  | .ok caller, some owner =>
      let run := run.openJournal
      let started :=
        match owner.client with
        | some client =>
            run.dispatch builder.client options.script (run.traffic.delete client builder caller)
        | none =>
            run.dispatchDelegated builder.client options caller
              (run.traffic.delegate owner.endpoint builder caller)
      report started options

def perform (run : Run) (place : Nat) (client : Client) (uri verb : Text) (mutator : Client.Mutator)
    (body : Value) (caller : Option SignalId) (options : CallOptions) : Run × Answer :=
  let run := run.openJournal
  report
    (run.dispatch place options.script
      (run.traffic.exchange client .exchange uri verb mutator body caller))
    options

def step (run : Run) : Step → Run × Answer
  | .controller name =>
      let (signals, id) := run.traffic.world.signals.create
      (run.withWorld { run.traffic.world with signals }).nameSignal name (some ⟨id, .nothing⟩)
  | .abort name reason =>
      match run.signal? name with
      | some (some signal) =>
          let run := run.abort signal reason
          (run, .state run.signalsView)
      | _ => (run, .noSuch "signal" name)
  | .timeoutSignal name milliseconds =>
      match run.traffic.world.timeoutSignal? milliseconds with
      | some (world, clearable?) => (run.withWorld world).nameSignal name clearable?
      | none => (run, .raised .typeError)
  | .merge name names =>
      match run.sources names with
      | .ok sources =>
          let (world, merged?) := run.traffic.world.merge sources
          (run.withWorld world).nameSignal name merged?
      | .error missing => (run, .noSuch "signal" missing)
  | .clear name =>
      match run.signals.find? (·.1 == name) with
      | some (_, some clearable) =>
          let run := run.withWorld (run.traffic.world.clear clearable)
          (run, .state run.signalsView)
      | _ => (run, .noSuch "signal" name)
  | .advance milliseconds =>
      let run := run.advance milliseconds
      (run, .state run.signalsView)
  | .client name settings logger => run.addClient name settings logger
  | .scriptedClient name endpoint level => run.addScriptedClient name endpoint level
  | .builder name client =>
      match run.client? client with
      | some (place, _) => run.nameBuilder name (.create place)
      | none => (run, .noSuch "client" client)
  | .set source name field value =>
      run.withBuilder source fun builder =>
        match builder.set field value with
        | .ok builder => run.nameBuilder name builder
        | .failed failure => (run, .failed failure)
        | .raised reason => (run, .raised reason)
  | .view name => run.withBuilder name fun builder => (run, .builder (builderView builder))
  | .get name field =>
      run.withBuilder name fun builder => (run, answerOf .value (builder.get field))
  | .clientOf name =>
      run.withBuilder name fun builder =>
        (run, .clientName (((run.clients[builder.client]?).map SimulatedClient.name).getD []))
  | .toRequest name =>
      run.withBuilder name fun builder =>
        let endpoint := ((run.clients[builder.client]?).map SimulatedClient.endpoint).getD []
        (run, answerOf .request (builder.toRequest (.string endpoint)))
  | .finalize name options => run.withBuilder name fun builder => run.finalize builder options
  | .perform name uri verb mutator body options =>
      match run.client? name, run.callSignal? options with
      | some (place, { client := some client, .. }), .ok caller =>
          run.perform place client uri verb mutator body caller options
      | some (_, { client := none, .. }), .ok _ => (run, .raised .typeError)
      | none, _ => (run, .noSuch "client" name)
      | _, .error missing => (run, .noSuch "signal" missing)

def steps (run : Run) : List Step → Run × List Answer
  | [] => (run, [])
  | first :: rest =>
      let (run, answer) := run.step first
      let (run, answers) := run.steps rest
      (run, answer :: answers)

end Run

end BlobStorage.Simulation
