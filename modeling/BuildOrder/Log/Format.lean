import BuildOrder.Log.Event
import BuildOrder.Settings.Color

/-!
# How events are written

The formats and streams of a log, and the settings of a logger.
-/

namespace BuildOrder

/-- The formats of a log: one line of text, one JSON object, or a short paragraph for each event. -/
inductive LogFormat where
  | text
  | json
  | yaml
deriving DecidableEq

instance : Choice LogFormat where
  spellings := [⟨.text, "text", ["txt", "plain"]⟩, ⟨.json, "json", []⟩, ⟨.yaml, "yaml", ["yml"]⟩]
  complaint := "invalid log format"

inductive LogStream where
  | stderr
  | stdout
deriving DecidableEq

instance : Choice LogStream where
  spellings := [⟨.stderr, "stderr", []⟩, ⟨.stdout, "stdout", []⟩]
  complaint := "invalid log output stream"

structure LoggerSettings where
  level : Level
  format : LogFormat
  stream : LogStream
  color : Color
deriving DecidableEq

/-! ### Names in diagnostics -/

def Level.title : Level → String
  | .error => "Error"
  | .warning => "Warning"
  | .info => "Info"
  | .debug => "Debug"
  | .trace => "Trace"

def LogFormat.title : LogFormat → String
  | .text => "Text"
  | .json => "Json"
  | .yaml => "Yaml"

def LogStream.title : LogStream → String
  | .stderr => "Stderr"
  | .stdout => "Stdout"

def Color.title : Color → String
  | .auto => "Auto"
  | .always => "Always"
  | .never => "Never"

def LoggerSettings.summary (s : LoggerSettings) : String :=
  "LoggerConfig \x7b level: " ++ s.level.title ++ ", format: " ++ s.format.title ++ ", output: "
    ++ s.stream.title ++ ", color: " ++ s.color.title ++ " \x7d"

end BuildOrder
