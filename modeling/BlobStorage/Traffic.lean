import BlobStorage.Delete.Exchange

/-!
# Calls in flight

Any number of calls are carried out side by side: single exchanges, and deletes, which go through an
exchange and then read the body of the response.  They share one clock, one table of signals and one
table of timers, and nothing else.  A call starts, its transport settles, and the body of its
response is read; between these events signals abort and timers fire.
-/

namespace BlobStorage

/-- What an exchange is for: for its reply, or for a delete. -/
inductive Purpose where
  | exchange
  | delete (parameters : DeleteBlob.Parameters)

/-- How far a call has come: its transport has not settled, the exchange of its delete was left to
others and has not ended, the body of its reply is being read, or it has ended. -/
inductive Stage where
  | exchanging (purpose : Purpose) (exchange : Exchange)
  | delegated (parameters : DeleteBlob.Parameters)
  | reading (parameters : DeleteBlob.Parameters) (reply : Option Reply)
  | performed (outcome : Outcome (Option Reply))
  | deleted (outcome : Outcome DeleteBlob.Response)

namespace Stage

def isEnded : Stage → Bool
  | performed _ | deleted _ => true
  | exchanging _ _ | delegated _ | reading _ _ => false

/-- The stage of a call that breaks off. -/
def broken (reason : Value) : Purpose → Stage
  | .exchange => performed (.raised reason)
  | .delete _ => deleted (.raised reason)

def afterPerformed (parameters : DeleteBlob.Parameters) (ending : DeleteBlob.Performed) : Stage :=
  match DeleteBlob.afterExchange ending with
  | .settled outcome => deleted outcome
  | .readBody reply => reading parameters reply

def afterConclusion : Purpose → Conclusion → Stage
  | .exchange, .failed failure => performed (.failed failure)
  | .exchange, .replied reply => performed (.ok reply)
  | .delete parameters, conclusion => afterPerformed parameters (DeleteBlob.performedOf conclusion)

end Stage

/-- A call: the signal that its transport was given, and its stage. -/
structure Call where
  signal : Option SignalId
  stage : Stage

/-- The calls of a run, in the order in which they were started, and the world they share. -/
structure Traffic where
  world : World
  calls : List Call

namespace Traffic

def start (origin : Number) : Traffic := ⟨.start origin, []⟩

def add (traffic : Traffic) (call : Call) : Traffic :=
  { traffic with calls := traffic.calls ++ [call] }

def setStage (traffic : Traffic) (id : CallId) (stage : Stage) : Traffic :=
  { traffic with calls := traffic.calls.modify id fun call => { call with stage } }

def stage? (traffic : Traffic) (id : CallId) : Option Stage := (traffic.calls[id]?).map Call.stage

/-- A call starts with an exchange.  There is a request unless it ends before anything is sent. -/
def exchange (traffic : Traffic) (client : Client) (purpose : Purpose) (uri verb : Text)
    (mutator : Client.Mutator) (body : Value) (caller : Option SignalId) :
    Traffic × List LogEntry × Option WireRequest :=
  match Exchange.start client traffic.world uri verb mutator body caller with
  | (world, entries, .refused failure) =>
      ({ traffic with world }.add ⟨none, .afterConclusion purpose (.failed failure)⟩, entries, none)
  | (world, entries, .broken reason) =>
      ({ traffic with world }.add ⟨none, .broken reason purpose⟩, entries, none)
  | (world, entries, .sent exchange request) =>
      ({ traffic with world }.add ⟨request.signal, .exchanging purpose exchange⟩, entries,
        some request)

def delete {κ : Type} (traffic : Traffic) (client : Client) (builder : DeleteBlob.Builder κ)
    (caller : Option SignalId) : Traffic × List LogEntry × Option WireRequest :=
  match DeleteBlob.prepare builder client.blobEndpoint with
  | .failed failure => (traffic.add ⟨none, .deleted (.failed failure)⟩, [], none)
  | .raised reason => (traffic.add ⟨none, .deleted (.raised reason)⟩, [], none)
  | .ok (parameters, request) =>
      let (traffic, entries, sent) :=
        traffic.exchange client (.delete parameters) request.uri request.verb
          (DeleteBlob.mutator parameters) .null caller
      (traffic, DeleteBlob.uriEntry request.uri :: entries, sent)

/-- A delete starts whose exchange is left to others, with the request that they are handed. -/
def delegate {κ : Type} (traffic : Traffic) (endpoint : Text) (builder : DeleteBlob.Builder κ)
    (caller : Option SignalId) : Traffic × List LogEntry × Option DeleteBlob.Request :=
  match DeleteBlob.prepare builder endpoint with
  | .failed failure => (traffic.add ⟨none, .deleted (.failed failure)⟩, [], none)
  | .raised reason => (traffic.add ⟨none, .deleted (.raised reason)⟩, [], none)
  | .ok (parameters, request) =>
      (traffic.add ⟨caller, .delegated parameters⟩, [DeleteBlob.uriEntry request.uri], some request)

/-- The transport of a call has settled and the call goes on; one that waits for none takes no
notice.  Both are one step.  What comes between them in the same turn, like an abort right behind a
rejection, is still seen by the call and so has its place before this step. -/
def settle (traffic : Traffic) (id : CallId) (completion : Completion Reply) :
    Traffic × List LogEntry :=
  match traffic.stage? id with
  | some (.exchanging purpose exchange) =>
      let (world, entries, conclusion) := exchange.conclude traffic.world completion
      ({ traffic with world }.setStage id (.afterConclusion purpose conclusion), entries)
  | _ => (traffic, [])

def conclude (traffic : Traffic) (id : CallId) (ending : DeleteBlob.Performed) : Traffic :=
  match traffic.stage? id with
  | some (.delegated parameters) => traffic.setStage id (.afterPerformed parameters ending)
  | _ => traffic

/-- The body of the reply to a call was read, as far as it could be. -/
def readBody (traffic : Traffic) (id : CallId) : Traffic × List LogEntry :=
  match traffic.stage? id with
  | some (.reading parameters reply) =>
      let (entries, outcome) := DeleteBlob.afterBody parameters reply
      (traffic.setStage id (.deleted outcome), entries)
  | _ => (traffic, [])

/-- A signal aborts; the calls whose transport was told come with it. -/
def abort (traffic : Traffic) (signal : SignalId) (reason : Value) : Traffic × List CallId :=
  let (world, told) := traffic.world.abort signal reason
  ({ traffic with world }, told)

end Traffic

end BlobStorage
