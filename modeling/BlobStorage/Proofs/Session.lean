import BlobStorage.Proofs.CallHistory

/-!
# Sessions

A session is a run together with what its callers know of it: the signals that they made, how each
call was started, and the timers that have fired.  Callers name only signals that they made
themselves (`Admits`); those that exchanges make for themselves are out of their reach.
-/

namespace BlobStorage

/-- The timer of a call, when it is due, and the number of milliseconds that it was armed for. -/
structure Deadline where
  timer : Nat
  due : Number
  milliseconds : Text

/-- How a call was started: with the signal of its caller, and with a deadline unless its client
has none. -/
structure Opening where
  caller : Option SignalId
  deadline : Option Deadline

/-- The deadline of an exchange that starts now.  There is none without a timeout. -/
def World.deadline? (world : World) (timeout : Value) : Option Deadline :=
  if timeout.isTruthy then
    timeout.toNumber?.map fun delay =>
      ⟨world.timers.next, world.clock.add delay, timeout.toText?.getD []⟩
  else none

namespace Event

variable {κ : Type}

/-- How the call starts that an event starts.  An exchange that is left to others has no deadline of
the client's. -/
def opening? (world : World) : Event κ → Option Opening
  | .exchange client _ _ _ _ caller | .delete client _ caller =>
      some ⟨caller, world.deadline? client.requestTimeout⟩
  | .delegate _ _ caller => some ⟨caller, none⟩
  | _ => none

/-- The signal that an event names: that of the caller of a call, or one that aborts. -/
def named? : Event κ → Option SignalId
  | .exchange _ _ _ _ _ caller | .delete _ _ caller | .delegate _ _ caller => caller
  | .abort id _ => some id
  | _ => none

/-- The signal that a caller makes. -/
def made? (world : World) : Event κ → Option SignalId
  | .signal => some world.signals.length
  | _ => none

/-- The timer that fires. -/
def fired? (world : World) : Event κ → Option Nat
  | .elapse limit => (world.timers.first? limit).map Timer.id
  | _ => none

end Event

/-- A run with the signals that its callers made, the openings of its calls in their order, and the
timers that have fired. -/
structure Session extends History where
  made : List SignalId
  openings : List Opening
  fired : List Nat

namespace Session

variable {κ : Type}

def start (origin : Number) : Session := ⟨.start origin, [], [], []⟩

abbrev world (session : Session) : World := session.traffic.world

def step (session : Session) (event : Event κ) : Session where
  toHistory := session.toHistory.step event
  made := session.made ++ (event.made? session.world).toList
  openings := session.openings ++ (event.opening? session.world).toList
  fired := session.fired ++ (event.fired? session.world).toList

def run (session : Session) (events : List (Event κ)) : Session := events.foldl step session

/-- The timer that a call was started with. -/
def timerOf? (session : Session) (id : CallId) : Option Nat :=
  (session.openings[id]?.bind Opening.deadline).map Deadline.timer

/-- An event names only signals that callers made. -/
def Admits (session : Session) (event : Event κ) : Prop :=
  ∀ signal ∈ event.named?, signal ∈ session.made

def AdmitsAll (session : Session) : List (Event κ) → Prop
  | [] => True
  | event :: events => session.Admits event ∧ (session.step event).AdmitsAll events

@[simp] theorem run_nil (session : Session) : session.run ([] : List (Event κ)) = session := rfl

@[simp] theorem run_cons (session : Session) (event : Event κ) (events : List (Event κ)) :
    session.run (event :: events) = (session.step event).run events := rfl

theorem run_append (session : Session) (events later : List (Event κ)) :
    session.run (events ++ later) = (session.run events).run later :=
  List.foldl_append ..

theorem toHistory_run (session : Session) (events : List (Event κ)) :
    (session.run events).toHistory = session.toHistory.run events := by
  induction events generalizing session with
  | nil => rfl
  | cons event events induction => exact induction (session.step event)

theorem admitsAll_append {session : Session} {events later : List (Event κ)} :
    session.AdmitsAll (events ++ later) ↔
      session.AdmitsAll events ∧ (session.run events).AdmitsAll later := by
  induction events generalizing session with
  | nil => simp [AdmitsAll]
  | cons event events induction => simp [AdmitsAll, induction, and_assoc]

end Session

end BlobStorage
