import BlobStorage.Traffic

/-!
# Simulated runs

A simulated run has one clock, named signals, clients and builders, and a transport that follows a
script.  This module holds the types: what a script says, the steps of a run, and what each step
answers.
-/

namespace BlobStorage.Simulation

/-- What the transport of one call does: it responds, at once or after some time, it fails, it
settles with any value, it waits until its signal aborts, or, for a client whose exchanges are
scripted as a whole, it reports an error. -/
inductive Script where
  | respond (response : Outcome Response) (delay : Option Number) (ignoresSignal : Bool)
  | fail (reason : Value)
  | settle (value : Value)
  | hang (ownReason : Option Value)
  | report (error : Value)

/-- What happens while a call is in flight. -/
inductive Meanwhile where
  | advance (milliseconds : Number)
  | abort (signal : Text) (reason : Value)

/-- Where the settings of a client come from. -/
inductive Settings where
  | checked (settings : Value)
  | environment (source : Value)
  | unchecked (settings : Value)

/-- The logger of a client: one that is recorded, at the level that a value asks for, or the
client's own. -/
inductive Logger where
  | recorded (level : Value)
  | own

/-- How a call is made. -/
structure CallOptions where
  signal : Option Text
  script : Script
  meanwhile : List Meanwhile

/-- One step of a run. -/
inductive Step where
  | controller (name : Text)
  | abort (signal : Text) (reason : Value)
  | timeoutSignal (name : Text) (milliseconds : Value)
  | merge (name : Text) (sources : List (Option Text))
  | clear (signal : Text)
  | advance (milliseconds : Number)
  | client (name : Text) (settings : Settings) (logger : Logger)
  | scriptedClient (name : Text) (endpoint : Text) (level : Value)
  | builder (name client : Text)
  | set (source name : Text) (field : DeleteBlob.Field) (value : Value)
  | view (builder : Text)
  | get (builder : Text) (field : DeleteBlob.Field)
  | clientOf (builder : Text)
  | toRequest (builder : Text)
  | finalize (builder : Text) (options : CallOptions)
  | perform (client uri verb : Text) (mutator : Client.Mutator) (body : Value)
      (options : CallOptions)

/-- What is seen of a signal: nothing of one that does not exist. -/
structure SignalView where
  reason : Option Value
  listeners : Nat
  same : Text

/-- All named signals and the number of armed timers. -/
structure SignalsView where
  signals : List (Text × Option SignalView)
  timers : Nat

/-- Which signal a transport got: none, a named one, or one that the client made. -/
inductive SignalLabel where
  | absent
  | named (name : Text)
  | internal

/-- A request as the transport saw it, with the names of the options it came with. -/
structure RequestView where
  uri : Text
  verb : Text
  headers : Headers
  body : Value
  signal : SignalLabel
  options : List Text

/-- What a call step reports: how far the call has come, the requests that its transport saw, and
the signals.  `journal` is the place of its log entries among those of all call steps. -/
structure CallReport where
  stage : Stage
  requests : List RequestView
  journal : Nat
  state : SignalsView

/-- What a builder shows. -/
structure BuilderView where
  parameters : List (Text × Value)
  missing : Option DeleteBlob.Field
  complete : Bool

/-- What a step answers. -/
inductive Answer where
  | noSuch (kind name : Text)
  | failed (failure : Failure)
  | raised (reason : Value)
  | state (state : SignalsView)
  | client (accountName : Value) (endpoint : Text) (level : Option LogLevel)
  | scriptedClient (endpoint : Text)
  | builder (view : BuilderView)
  | value (value : Value)
  | clientName (name : Text)
  | request (request : DeleteBlob.Request)
  | call (report : CallReport)

/-- Who carries out the exchange of a call: a client, by its place, and the script of its transport.
-/
structure Carrier where
  client : Nat
  script : Script

/-- A client of a run; one without a `client` has exchanges that are scripted as a whole. -/
structure SimulatedClient where
  name : Text
  endpoint : Text
  client : Option Client
  level : Option LogLevel
  recorded : Bool

/-- A run: the calls and the world they share, the carriers of the calls, everything that was named,
and the log entries since each call step. -/
structure Run where
  traffic : Traffic
  carriers : List Carrier
  signals : List (Text × Option Clearable)
  clients : List SimulatedClient
  builders : List (Text × DeleteBlob.Builder Nat)
  journals : List (List LogEntry)

end BlobStorage.Simulation
