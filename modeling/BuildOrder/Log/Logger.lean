import BuildOrder.Log.Filter
import BuildOrder.Log.Line
import BuildOrder.Settings.Environment

/-!
# Loggers

A logger takes the events that its filter lets through and writes them to its stream. A process has at most one
receiver of events, which stays: a logger is set up only while there is none.
-/

namespace BuildOrder

structure Logger where
  settings : LoggerSettings
  filter : Filter
  /-- The lines are coloured, unless their format has no colours. -/
  colored : Bool

namespace Logger

/-- The logger that is asked for in an environment. -/
def ofSettings (settings : LoggerSettings) (env : Environment) : Logger where
  settings := settings
  filter := .ofEnvironmentText settings.level (env.get? Filter.variableName)
  colored := settings.color.isOn env.forcesColor

/-- The event that a logger reports about itself. -/
def started (l : Logger) : Event :=
  ⟨.debug, .logger, "Logger initialized", [("level", .name l.settings.level.title),
    ("format", .name l.settings.format.title), ("output", .name l.settings.stream.title), ("ansi", .flag l.colored)]⟩

def render (l : Logger) (time : String) (events : List Event) : String :=
  String.join ((events.filter l.filter.lets).map (·.render l.settings.format l.colored time))

end Logger

/-- The receiver of the events of a process. -/
inductive Receiver where
  | nobody
  | logger (l : Logger)
  /-- Something that is no logger of this program. -/
  | stranger

inductive LoggerError where
  | alreadySetUp
  | receiverPresent
deriving DecidableEq

def LoggerError.message : LoggerError → String
  | .alreadySetUp => "Logger already initialized"
  | .receiverPresent =>
    "Failed to initialize tracing subscriber: a global default trace dispatcher has already been set"

namespace Receiver

def logger? : Receiver → Option Logger
  | .logger l => some l
  | _ => none

def render (r : Receiver) (time : String) (events : List Event) : LogStream × String :=
  match r with
  | .logger l => (l.settings.stream, l.render time events)
  | _ => (.stderr, "")

/-- Set up a logger, which then reports that. -/
def setUp (r : Receiver) (settings : LoggerSettings) (env : Environment) :
    Logged (Except LoggerError Logger) :=
  match r with
  | .logger _ => .pure (.error .alreadySetUp)
  | .stranger => .pure (.error .receiverPresent)
  | .nobody => do
    let l := Logger.ofSettings settings env
    .report l.started
    return .ok l

/-- Let something else receive the events, if nothing does. -/
def occupy : Receiver → Option Receiver
  | .nobody => some .stranger
  | _ => none

end Receiver

end BuildOrder
