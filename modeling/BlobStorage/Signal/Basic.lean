import BlobStorage.Failure.Basic

/-!
# Signals

A signal aborts at most once, with a reason that never changes afterwards.  Listeners on a signal
are told once, in the order in which they were put there.  A merged signal aborts as soon as one of
its sources does; to that end it holds a listener on each source, and one on itself that takes those
away again.  `abort` tells all listeners, also those of the signals that abort in turn.
-/

namespace BlobStorage

/-- The place of a signal in the table of signals. -/
abbrev SignalId := Nat

/-- The place of a call among all calls of a run. -/
abbrev CallId := Nat

/-- Who is told about an abort: a merged signal, the merged signal itself about its sources, or the
transport of a call. -/
inductive Listener where
  | relay (target : SignalId)
  | release
  | transport (call : CallId)
  deriving DecidableEq

/-- A signal with its reason, once it has aborted, and its listeners. -/
structure Signal where
  reason : Option Value
  listeners : List Listener

/-- All signals of a run, in the order in which they were made. -/
abbrev Signals := List Signal

/-- How a derived signal is kept from aborting: there is nothing to do, its listeners are taken from
its sources, or its timer is stopped. -/
inductive Release where
  | nothing
  | detach (target : SignalId)
  | disarm (timer : Nat)
  deriving DecidableEq

/-- A signal that can be kept from aborting. -/
structure Clearable where
  signal : SignalId
  release : Release
  deriving DecidableEq

namespace Signals

def reason? (signals : Signals) (id : SignalId) : Option Value :=
  signals[id]?.bind Signal.reason

def isAborted (signals : Signals) (id : SignalId) : Bool := (signals.reason? id).isSome

def listenerCount (signals : Signals) (id : SignalId) : Nat :=
  match signals[id]? with
  | some signal => signal.listeners.length
  | none => 0

/-- A new signal that has not aborted and has no listeners. -/
def create (signals : Signals) : Signals × SignalId :=
  (signals ++ [⟨none, []⟩], signals.length)

def listen (signals : Signals) (id : SignalId) (listener : Listener) : Signals :=
  signals.modify id fun signal => { signal with listeners := signal.listeners ++ [listener] }

/-- The listeners of a merged signal taken from all its sources. -/
def detach (signals : Signals) (target : SignalId) : Signals :=
  signals.map fun signal =>
    { signal with listeners := signal.listeners.filter (· != .relay target) }

/-- The reason that a merged signal takes over from a source: never an absent one. -/
def relayedReason (reason : Value) : Value :=
  if reason.isPresent then reason
  else .failure (Failure.abort "error signal triggered with unknown reason" none)

/-- An abort that reaches at most so many signals one behind another, with the calls whose transport
was told, in order. -/
def abortWithin : Nat → Signals → SignalId → Value → Signals × List CallId
  | 0, signals, _, _ => (signals, [])
  | depth + 1, signals, id, reason =>
      match signals[id]? with
      | some ⟨none, listeners⟩ =>
          listeners.foldl
            (fun (signals, told) listener =>
              match listener with
              | .relay target =>
                  let (signals, more) := abortWithin depth signals target (relayedReason reason)
                  (signals, told ++ more)
              | .release => (detach signals id, told)
              | .transport call => (signals, told ++ [call]))
            (signals.set id ⟨some reason, []⟩, [])
      | _ => (signals, [])

/-- A signal aborts, unless it has aborted before.  A signal that aborts in turn was made later than
its source, so no chain is longer than the table. -/
def abort (signals : Signals) (id : SignalId) (reason : Value) : Signals × List CallId :=
  abortWithin signals.length signals id reason

/-- A signal that aborts as soon as one of several sources does.  Absent sources do not count; a
single one is its own merged signal.  If a source has aborted already, so has the merged signal, for
the reason of the first such source, and it listens to none. -/
def merge (signals : Signals) (sources : List (Option SignalId)) : Signals × Option Clearable :=
  match sources.filterMap id with
  | [] => (signals, none)
  | [only] => (signals, some ⟨only, .nothing⟩)
  | active =>
      let target := signals.length
      match active.findSome? signals.reason? with
      | some reason =>
          (signals ++ [⟨some (relayedReason reason), []⟩], some ⟨target, .detach target⟩)
      | none =>
          let listening :=
            active.foldl (fun signals source => signals.listen source (.relay target)) signals
          (listening ++ [⟨none, [.release]⟩], some ⟨target, .detach target⟩)

end Signals

end BlobStorage
