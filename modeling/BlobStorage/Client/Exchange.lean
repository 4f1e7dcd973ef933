import BlobStorage.Client.Basic
import BlobStorage.Headers.Redaction
import BlobStorage.Log.Entry
import BlobStorage.Response.Basic
import BlobStorage.Signal.Timer

/-!
# Exchanges

An exchange is one request handed to a transport, and what comes of it.  It starts with the header
fields; then a timer and listeners bound it; and when the transport has settled, they go again
before anything else happens.  A transport that failed after the signal it was given had aborted
reports that abort.
-/

namespace BlobStorage

/-- What a transport settles with: a response, or anything else. -/
inductive Reply where
  | response (response : Response)
  | value (value : Value)

/-- A request as the transport gets it. -/
structure WireRequest where
  uri : Text
  verb : Text
  headers : Headers
  body : Value
  signal : Option SignalId

/-- An exchange whose transport has not settled: what it is about, the signal that the transport
was given, and what keeps that signal armed. -/
structure Exchange where
  verb : Text
  uri : Text
  signal : Option SignalId
  timeout : Option Clearable
  merged : Option Clearable
  deriving DecidableEq

/-- How an exchange begins: it fails before anything is sent, it breaks off, or a request is
sent. -/
inductive Beginning where
  | refused (failure : Failure)
  | broken (reason : Value)
  | sent (exchange : Exchange) (request : WireRequest)

/-- How an exchange ends: with a failure, or with what the transport replied.  A transport that
failed with something that no condition sees counts as one that replied nothing. -/
inductive Conclusion where
  | failed (failure : Failure)
  | replied (reply : Option Reply)

namespace Exchange

/-- The message about header fields that could not be put together. -/
def refusedMessage (verb : Text) : Text := "error assembling " ++ verb ++ " request headers"

def failedMessage (verb : Text) : Text := "error performing " ++ verb ++ " request"

def sentEntry (verb uri : Text) (headers : Headers) : LogEntry where
  level := .debug
  message := "storage request"
  verb := some verb
  uri := some (Resource.withoutQuery uri)
  headers := some headers.redacted

def failedEntry (verb uri : Text) (cause : Value) : LogEntry where
  level := .error
  message := "storage request failed"
  verb := some verb
  uri := some (Resource.withoutQuery uri)
  error := some cause

/-- A request starts.  Its header fields come first: if they are refused, nothing is armed.  The
signal for the transport aborts with that of the caller and after the client's timeout. -/
def start (client : Client) (world : World) (uri verb : Text) (mutator : Client.Mutator)
    (body : Value) (caller : Option SignalId) : World × List LogEntry × Beginning :=
  match (client.assemble world.instant? mutator).guarded with
  | .error reason =>
      (world, [], .refused (Failure.transport (refusedMessage verb) (some reason)))
  | .ok headers? =>
      match world.timeoutSignal? client.requestTimeout with
      | none => (world, [], .broken .typeError)
      | some (world, timeout) =>
          let (world, merged) := world.merge [caller, timeout.map Clearable.signal]
          let signal := merged.map Clearable.signal
          match headers? with
          | none => (world, [], .broken .typeError)
          | some headers =>
              (world, [sentEntry verb uri headers],
                .sent { verb, uri, signal, timeout, merged } { uri, verb, headers, body, signal })

/-- Whether an abort reason is a failure that says so itself: an abort or a timeout of this library.
-/
def isOwnReason : Value → Bool
  | .failure failure =>
      failure.kind.isA (.request .timeout) || failure.kind.isA (.request .abort)
  | _ => false

/-- The failure that an aborted exchange reports. -/
def abortCause (reason : Value) : Value :=
  if isOwnReason reason then reason
  else .failure (Failure.abort "error request aborted" (some reason))

/-- The cause of a failed exchange: the abort of its signal, if that has aborted, or the transport's
own reason. -/
def causeOf (exchange : Exchange) (world : World) (reason : Value) : Value :=
  match exchange.signal.bind world.signals.reason? with
  | some aborted => abortCause aborted
  | none => reason

def release (exchange : Exchange) (world : World) : World :=
  (world.clear exchange.timeout).clear exchange.merged

def conclude (exchange : Exchange) (world : World) (completion : Completion Reply) :
    World × List LogEntry × Conclusion :=
  let world := exchange.release world
  match completion.guarded with
  | .ok reply => (world, [], .replied reply)
  | .error reason =>
      let cause := exchange.causeOf world reason
      (world, [failedEntry exchange.verb exchange.uri cause],
        .failed (Failure.transport (failedMessage exchange.verb) (some cause)))

end Exchange

end BlobStorage
