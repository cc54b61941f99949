import BuildOrder.Log.Format
import BuildOrder.Text.Blank

/-!
# Settings

The five settings of a run. Layers of settings are put on top of each other by `merge`: a setting of the upper
layer counts if it differs from the default, so the default stands for "not set".
-/

namespace BuildOrder

structure Settings where
  /-- The key of the dependency sequence in a manifest that is a table. -/
  manifestKey : String
  /-- Verbosity, from 0 for errors to 4 for everything. -/
  logLevel : UInt8
  logFormat : LogFormat
  logStream : LogStream
  color : Color
deriving DecidableEq

inductive InvalidSettings where
  | blankKey
  | levelOutOfRange (level : UInt8)
deriving DecidableEq

def InvalidSettings.reason : InvalidSettings → String
  | .blankKey => "manifest key must not be empty"
  | .levelOutOfRange level => s!"log level {level.toNat} is out of range 0-4"

def InvalidSettings.message (e : InvalidSettings) : String := s!"Configuration validation failed: {e.reason}"

namespace Settings

def default : Settings := ⟨"deps", 0, .text, .stderr, .auto⟩

instance : Inhabited Settings := ⟨default⟩

/-- The upper value, unless it is the default. -/
def prefer {α : Type} [DecidableEq α] (default upper lower : α) : α :=
  if upper = default then lower else upper

/-- Put the layer `upper` on top. -/
def merge (lower upper : Settings) : Settings where
  manifestKey := prefer default.manifestKey upper.manifestKey lower.manifestKey
  logLevel := prefer default.logLevel upper.logLevel lower.logLevel
  logFormat := prefer default.logFormat upper.logFormat lower.logFormat
  logStream := prefer default.logStream upper.logStream lower.logStream
  color := prefer default.color upper.color lower.color

/-- The greatest verbosity that is accepted. -/
def greatestLevel : UInt8 := 4

/-- Settings that can be worked with: a key that is not blank, and a verbosity in range. -/
def validate (s : Settings) : Except InvalidSettings Unit :=
  if Text.allBlank s.manifestKey then .error .blankKey
  else if greatestLevel < s.logLevel then .error (.levelOutOfRange s.logLevel)
  else .ok ()

def logger (s : Settings) : LoggerSettings :=
  ⟨.ofVerbosity s.logLevel.toNat, s.logFormat, s.logStream, s.color⟩

end Settings

end BuildOrder
