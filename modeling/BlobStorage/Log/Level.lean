import BlobStorage.Failure.Basic

/-!
# Log levels

A logger has a level and writes the entries of that level and above; a silent one writes none.
`choose` is the level that a logger is made with when it is asked for by any value.
-/

namespace BlobStorage

/-- The level of a logger. -/
inductive LogLevel where
  | fatal
  | error
  | warn
  | info
  | debug
  | trace
  | silent
  deriving DecidableEq

namespace LogLevel

/-- The levels in the order in which messages list them. -/
def all : List LogLevel := [.fatal, .error, .warn, .info, .debug, .trace, .silent]

def name : LogLevel → Text
  | .fatal => "fatal"
  | .error => "error"
  | .warn => "warn"
  | .info => "info"
  | .debug => "debug"
  | .trace => "trace"
  | .silent => "silent"

/-- The weight of a level; a silent logger is above every entry. -/
def severity : LogLevel → Nat
  | .trace => 10
  | .debug => 20
  | .info => 30
  | .warn => 40
  | .error => 50
  | .fatal => 60
  | .silent => 70

/-- The level that bears exactly a name. -/
def ofName? (name : Text) : Option LogLevel := all.find? fun level => level.name == name

/-- The levels that entries can have, from the lightest on. -/
def ofEntries : List LogLevel := [.trace, .debug, .info, .warn, .error, .fatal]

/-- The names that every record answers to without an entry of its own.  In the table of levels they
are found like the name of a level, but no level stands there. -/
def sharedNames : List Text :=
  ["constructor", "__defineGetter__", "__defineSetter__", "hasOwnProperty", "__lookupGetter__",
    "__lookupSetter__", "isPrototypeOf", "propertyIsEnumerable", "toString", "valueOf",
    "__proto__", "toLocaleString"]

/-- A name in lower case, if it then is one of a level that entries can have or one that every
record answers to. -/
def normalizeName (name : Text) : Text :=
  if (ofEntries.map LogLevel.name ++ sharedNames).contains (Text.lower name) then Text.lower name
  else name

def refused : Outcome α := .raised (.failure (Failure.ofPlatform .error))

/-- The level of an exact name; none at all of a name that every record answers to. -/
def ofExactName (name : Text) : Outcome (Option LogLevel) :=
  match ofName? name with
  | some level => .ok (some level)
  | none => if sharedNames.contains name then .ok none else refused

/-- The level that a value asks for: a name, of entries also in any case, or a weight.  A logger may
come to have no level. -/
def choose : Value → Outcome (Option LogLevel)
  | .string text => ofExactName (normalizeName text)
  | .number (.infinite false) => .ok (some .silent)
  | .number n =>
      match ofEntries.find? fun level => n.toInt? == some (level.severity : Int) with
      | some level => .ok (some level)
      | none => refused
  | value => (Failure.textOrRaise value).bind ofExactName

/-- Whether a logger of a level writes entries of another one. -/
def writes (level entry : LogLevel) : Bool := level.severity ≤ entry.severity

/-- The levels of the entries that a logger writes; one without a level writes none. -/
def enabled (level : Option LogLevel) : List LogLevel :=
  ofEntries.filter fun entry => level.any (·.writes entry)

end LogLevel

end BlobStorage
