import BlobStorage.Simulation.Basic

/-!
# Calls of a simulated run

A call starts, its transport settles at once or later, and everything that follows from that happens
before the next event.  A transport that waits has a listener on its signal, which tells it once.
Where one event settles several calls, every exchange is concluded before a body is read.
-/

namespace BlobStorage.Simulation

namespace Run

/-- Log entries of a client, as far as its level lets them through and its logger is recorded. -/
def record (run : Run) (client : Nat) (entries : List LogEntry) : Run :=
  match run.clients[client]? with
  | some owner =>
      if owner.recorded then
        { run with
          journals := run.journals.modify (run.journals.length - 1) fun journal =>
            journal ++ LogLevel.written owner.level entries }
      else run
  | none => run

def withWorld (run : Run) (world : World) : Run :=
  { run with traffic := { run.traffic with world } }

/-- How a scripted exchange ended.  An error that it reports counts if a condition sees it. -/
def scriptedEnd (script : Script) (completion : Completion Reply) : DeleteBlob.Performed :=
  match script, completion with
  | .report error, _ => if error.isTruthy then .failed error else .replied none
  | _, .returned reply => .replied (some reply)
  | _, .threw reason => .broke reason

def conclude (run : Run) (id : CallId) (completion : Completion Reply) : Run :=
  match run.carriers[id]?, run.traffic.stage? id with
  | none, _ => run
  | some carrier, some (.delegated _) =>
      { run with traffic := run.traffic.conclude id (scriptedEnd carrier.script completion) }
  | some carrier, _ =>
      let (traffic, entries) := run.traffic.settle id completion
      { run with traffic }.record carrier.client entries

/-- Whether a value is to be waited for itself: a record that has a way of its own to settle, which
is a function and so never does. -/
def isAwaited : Value → Bool
  | .record entries => (Value.entry? "then" entries matches some .function)
  | _ => false

/-- Whether the body of the reply to a call never comes. -/
def bodyStalls (run : Run) (id : CallId) : Bool :=
  match run.traffic.stage? id with
  | some (.reading _ (some (.response ⟨_, _, .returned body⟩))) => isAwaited body
  | _ => false

/-- The body of the reply to a call is read, if there is one and it comes. -/
def readBody (run : Run) (id : CallId) : Run :=
  match run.carriers[id]? with
  | none => run
  | some carrier =>
      if run.bodyStalls id then run
      else
        let (traffic, entries) := run.traffic.readBody id
        { run with traffic }.record carrier.client entries

/-- The transport of a call settles, and the body of its reply is read. -/
def settle (run : Run) (id : CallId) (completion : Completion Reply) : Run :=
  (run.conclude id completion).readBody id

/-- What a script gives when its time has come. -/
def scriptedReply : Script → Completion Reply
  | .respond (.ok response) _ _ => .returned (.response response)
  | .respond (.failed failure) _ _ => .threw (.failure failure)
  | .respond (.raised reason) _ _ => .threw reason
  | .fail reason => .threw reason
  | .settle value => .returned (.value value)
  | .hang _ | .report _ => .returned (.value .undefined)

/-- Why the transport of a call fails when its signal has aborted: for the reason of its own, or for
that of the signal. -/
def toldReason (run : Run) (id : CallId) (script : Script) : Value :=
  match script with
  | .hang (some ownReason) => ownReason
  | _ =>
      let signal := (run.traffic.calls[id]?).bind Call.signal
      (signal.bind run.traffic.world.signals.reason?).getD .undefined

/-- The transport of a call is told that its signal has aborted. -/
def tell (run : Run) (id : CallId) : Run :=
  match run.carriers[id]? with
  | some carrier => run.conclude id (.threw (run.toldReason id carrier.script))
  | none => run

def tellAll (run : Run) (told : List CallId) : Run := told.foldl readBody (told.foldl tell run)

/-- A listener of a transport on its signal, if it has one. -/
def watch (run : Run) (signal : Option SignalId) (id : CallId) : Run :=
  let world := run.traffic.world
  match signal with
  | some signal =>
      run.withWorld { world with signals := world.signals.listen signal (.transport id) }
  | none => run

/-- The transport of a call is handed the request: it settles at once, or it waits for a timer or
for its signal.  A value that is to be waited for itself never settles. -/
def transmit (run : Run) (id : CallId) (script : Script) (signal : Option SignalId) : Run :=
  let world := run.traffic.world
  match script with
  | .respond _ (some delay) ignoresSignal =>
      let (timers, _) := world.timers.arm (world.clock.add delay) (.reply id)
      let run := run.withWorld { world with timers }
      if ignoresSignal then run else run.watch signal id
  | .hang none =>
      match signal.bind world.signals.reason? with
      | some reason => run.settle id (.threw reason)
      | none => run.watch signal id
  | .hang (some _) => run.watch signal id
  | .settle value => if isAwaited value then run else run.settle id (scriptedReply script)
  | other => run.settle id (scriptedReply other)

def labelOf (run : Run) (signal : Option SignalId) : SignalLabel :=
  match signal with
  | none => .absent
  | some signal =>
      let names := fun (entry : Text × Option Clearable) =>
        entry.2.any fun clearable => clearable.signal == signal
      match run.signals.find? names with
      | some entry => .named entry.1
      | none => .internal

/-- The names of the options that a client hands over with a request. -/
def requestOptions (signal : Option SignalId) : List Text :=
  if signal.isSome then ["body", "headers", "method", "signal"] else ["body", "headers", "method"]

def requestView (run : Run) (request : WireRequest) : RequestView where
  uri := request.uri
  verb := request.verb
  headers := request.headers
  body := request.body
  signal := run.labelOf request.signal
  options := requestOptions request.signal

/-- What a scripted exchange sees of the request of a delete. -/
def delegatedView (run : Run) (request : DeleteBlob.Request) (options : CallOptions)
    (caller : Option SignalId) : RequestView where
  uri := request.uri
  verb := request.verb
  headers := request.headers
  body := .null
  signal := run.labelOf caller
  options := if options.signal.isSome then ["signal"] else []

/-- A call of a client has started: its entries are recorded, and the transport is handed the
request, if there is one. -/
def dispatch (run : Run) (place : Nat) (script : Script)
    (started : Traffic × List LogEntry × Option WireRequest) :
    Run × CallId × List RequestView :=
  let (traffic, entries, sent?) := started
  let id := run.traffic.calls.length
  let carried : Run := { run with traffic, carriers := run.carriers ++ [⟨place, script⟩] }
  let run := carried.record place entries
  match sent? with
  | some request => (run.transmit id script request.signal, id, [run.requestView request])
  | none => (run, id, [])

def dispatchDelegated (run : Run) (place : Nat) (options : CallOptions) (caller : Option SignalId)
    (started : Traffic × List LogEntry × Option DeleteBlob.Request) :
    Run × CallId × List RequestView :=
  let (traffic, entries, sent?) := started
  let id := run.traffic.calls.length
  let carried : Run := { run with traffic, carriers := run.carriers ++ [⟨place, options.script⟩] }
  let run := carried.record place entries
  match sent? with
  | some request =>
      (run.transmit id options.script caller, id, [run.delegatedView request options caller])
  | none => (run, id, [])

/-- Timers that are due up to an instant fire one after another, and what follows from each happens
before the next; `count` bounds how many there are. -/
def fireDue (limit : Number) : Nat → Run → Run
  | 0, run => run
  | count + 1, run =>
      match run.traffic.world.fire? limit with
      | none => run
      | some (world, .reply id) =>
          let run := run.withWorld world
          let reply :=
            match run.carriers[id]? with
            | some carrier => scriptedReply carrier.script
            | none => .returned (.value .undefined)
          fireDue limit count (run.settle id reply)
      | some (world, .expire signal milliseconds) =>
          let (world, told) := world.expire signal milliseconds
          fireDue limit count ((run.withWorld world).tellAll told)

def advance (run : Run) (milliseconds : Number) : Run :=
  let limit := run.traffic.world.clock.add milliseconds
  let run := fireDue limit run.traffic.world.timers.armed.length run
  run.withWorld { run.traffic.world with clock := limit }

/-- The signal of a name: `none` when nothing bears it, and nothing inside for one that does not
exist. -/
def signal? (run : Run) (name : Text) : Option (Option SignalId) :=
  (run.signals.find? (·.1 == name)).map fun entry => entry.2.map Clearable.signal

/-- A signal aborts for a reason; without one it is the platform's own. -/
def abort (run : Run) (signal : SignalId) (reason : Value) : Run :=
  let reason :=
    match reason with
    | .undefined => .failure Failure.platformAbort
    | reason => reason
  let (traffic, told) := run.traffic.abort signal reason
  { run with traffic }.tellAll told

def meanwhile (run : Run) : Meanwhile → Run
  | .advance milliseconds => run.advance milliseconds
  | .abort name reason =>
      match run.signal? name with
      | some (some signal) => run.abort signal reason
      | _ => run

end Run

end BlobStorage.Simulation
