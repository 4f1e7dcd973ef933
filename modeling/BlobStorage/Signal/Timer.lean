import BlobStorage.Number.Rounding
import BlobStorage.Signal.Basic
import BlobStorage.Value.Conversion

/-!
# Timers

A timer is armed for an instant of the run's clock and fires once, unless it is stopped before.  The
timers that are due fire in the order of their instants, and those of one instant in the order in
which they were armed.  A timeout signal aborts when its timer fires.
-/

namespace BlobStorage

/-- What a timer does: a timeout signal aborts, or the transport of a call answers. -/
inductive Task where
  | expire (signal : SignalId) (milliseconds : Text)
  | reply (call : CallId)
  deriving DecidableEq

/-- An armed timer. -/
structure Timer where
  id : Nat
  due : Number
  task : Task
  deriving DecidableEq

/-- The armed timers in the order in which they were armed, and the name of the next one. -/
structure Timers where
  armed : List Timer
  next : Nat
  deriving DecidableEq

namespace Timers

def none : Timers := ⟨[], 0⟩

def arm (timers : Timers) (due : Number) (task : Task) : Timers × Nat :=
  (⟨timers.armed ++ [⟨timers.next, due, task⟩], timers.next + 1⟩, timers.next)

/-- A timer is stopped; one that has fired or was stopped before stays so. -/
def disarm (timers : Timers) (id : Nat) : Timers :=
  { timers with armed := timers.armed.filter (·.id != id) }

/-- The timer that fires first of those that are due at an instant. -/
def first? (timers : Timers) (instant : Number) : Option Timer :=
  timers.armed.foldl
    (fun first? timer =>
      if instant.less timer.due || timer.due == .nan then first?
      else
        match first? with
        | some first => if timer.due.less first.due then some timer else some first
        | Option.none => some timer)
    Option.none

def timeoutCount (timers : Timers) : Nat :=
  timers.armed.countP fun timer => timer.task matches .expire _ _

end Timers

/-- The clock of a run, its signals and its timers.  `origin` is the instant of the clock's zero, in
milliseconds from the start of 1970. -/
structure World where
  origin : Number
  clock : Number
  signals : Signals
  timers : Timers

namespace World

def start (origin : Number) : World := ⟨origin, .zero, [], Timers.none⟩

/-- The present instant in whole milliseconds from the start of 1970. -/
def instant? (world : World) : Option Int :=
  (world.origin.add world.clock).value?.map fun value => value.toRat.num.tdiv value.toRat.den

/-- A signal that aborts after a number of milliseconds; none for a number that no condition sees,
and no such thing for a value that is no number. -/
def timeoutSignal? (world : World) (milliseconds : Value) : Option (World × Option Clearable) :=
  if !milliseconds.isTruthy then some (world, none)
  else
    milliseconds.toNumber?.map fun delay =>
      let (signals, signal) := world.signals.create
      let (timers, timer) := world.timers.arm (world.clock.add delay)
        (.expire signal (milliseconds.toText?.getD []))
      ({ world with signals, timers }, some ⟨signal, .disarm timer⟩)

/-- A signal that aborts with the first of several others. -/
def merge (world : World) (sources : List (Option SignalId)) : World × Option Clearable :=
  let (signals, merged) := world.signals.merge sources
  ({ world with signals }, merged)

/-- A derived signal is kept from aborting. -/
def release (world : World) : Release → World
  | .nothing => world
  | .detach target => { world with signals := world.signals.detach target }
  | .disarm timer => { world with timers := world.timers.disarm timer }

/-- A derived signal, if there is one, is kept from aborting. -/
def clear (world : World) (clearable : Option Clearable) : World :=
  match clearable with
  | some clearable => world.release clearable.release
  | none => world

/-- A signal aborts; the calls whose transport was told come with the new world. -/
def abort (world : World) (signal : SignalId) (reason : Value) : World × List CallId :=
  let (signals, told) := world.signals.abort signal reason
  ({ world with signals }, told)

/-- The first timer that is due up to an instant fires, and the clock shows its instant. -/
def fire? (world : World) (limit : Number) : Option (World × Task) :=
  (world.timers.first? limit).map fun timer =>
    ({ world with
        clock := if world.clock.less timer.due then timer.due else world.clock
        timers := world.timers.disarm timer.id }, timer.task)

def expire (world : World) (signal : SignalId) (milliseconds : Text) : World × List CallId :=
  world.abort signal (.failure (Failure.timeout milliseconds))

end World

end BlobStorage
