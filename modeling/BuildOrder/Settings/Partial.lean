import BuildOrder.Settings.Basic

/-!
# Settings given in part

Where settings are read, each of the five may be given or not. Partial settings can stand in for each other, and
the defaults stand in for what is given nowhere.
-/

namespace BuildOrder

/-- The five settings by name. -/
inductive Setting where
  | manifestKey
  | logLevel
  | logFormat
  | logStream
  | color
deriving DecidableEq

namespace Setting

/-- All settings, in the order in which a list of values gives them. -/
def all : List Setting := [.manifestKey, .logLevel, .logFormat, .logStream, .color]

def field : Setting → String
  | .manifestKey => "manifest_key"
  | .logLevel => "log_level"
  | .logFormat => "log_format"
  | .logStream => "log_output"
  | .color => "color"

def option : Setting → String
  | .manifestKey => "manifest-key"
  | .logLevel => "log-level"
  | .logFormat => "log-format"
  | .logStream => "log-output"
  | .color => "color"

/-- The variable that stands in for a setting. -/
def variableName : Setting → String
  | .manifestKey => "MKDEPS_MANIFEST_KEY"
  | .logLevel => "MKDEPS_LOG_LEVEL"
  | .logFormat => "MKDEPS_LOG_FORMAT"
  | .logStream => "MKDEPS_LOG_OUTPUT"
  | .color => "MKDEPS_COLOR"

def ofField? (name : String) : Option Setting := all.find? fun s => s.field == name

def ofOption? (name : String) : Option Setting := all.find? fun s => s.option == name

end Setting

structure PartialSettings where
  manifestKey : Option String
  logLevel : Option UInt8
  logFormat : Option LogFormat
  logStream : Option LogStream
  color : Option Color
deriving DecidableEq

namespace PartialSettings

def empty : PartialSettings := ⟨none, none, none, none, none⟩

def has (p : PartialSettings) : Setting → Bool
  | .manifestKey => p.manifestKey.isSome
  | .logLevel => p.logLevel.isSome
  | .logFormat => p.logFormat.isSome
  | .logStream => p.logStream.isSome
  | .color => p.color.isSome

/-- The settings `p`, where `q` stands in for what is not given. -/
def orElse (p q : PartialSettings) : PartialSettings where
  manifestKey := p.manifestKey <|> q.manifestKey
  logLevel := p.logLevel <|> q.logLevel
  logFormat := p.logFormat <|> q.logFormat
  logStream := p.logStream <|> q.logStream
  color := p.color <|> q.color

/-- The settings, where the defaults stand in for what is not given. -/
def settings (p : PartialSettings) : Settings where
  manifestKey := p.manifestKey.getD Settings.default.manifestKey
  logLevel := p.logLevel.getD Settings.default.logLevel
  logFormat := p.logFormat.getD Settings.default.logFormat
  logStream := p.logStream.getD Settings.default.logStream
  color := p.color.getD Settings.default.color

end PartialSettings

end BuildOrder
