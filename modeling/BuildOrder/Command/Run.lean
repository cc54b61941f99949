import BuildOrder.Command.Arguments
import BuildOrder.EnvFile.Load
import BuildOrder.Manifest.Basic

/-!
# Runs

A run starts by loading the environment files, then reads its arguments, and then makes out its settings; so the
variables of the files stand in for arguments too. What it then has to do is a `Task`. Carrying out a task writes
to a sink.

Arguments and variables are texts. A call with one that is no Unicode text is not described.
-/

namespace BuildOrder

/-- What a run is called with, in texts. -/
structure Invocation where
  arguments : List String
  environment : Environment
  files : Files
  /-- The standard input. -/
  input : ByteStream

/-- What a run has to do, with the settings in force and the environment with its files. -/
structure Task where
  command : Option Command
  settings : Settings
  environment : Environment

/-- Why a run could not start. -/
inductive StartError where
  | envFile (e : EnvFileError)
  | usage (u : Usage)
  | settings (e : SettingsError)
deriving DecidableEq

namespace Invocation

def taskIn (i : Invocation) (env : Environment) : Except StartError Task :=
  match Request.ofArguments i.arguments env with
  | .error u => .error (.usage u)
  | .ok request =>
    match request.settings.resolve env with
    | .error e => .error (.settings e)
    | .ok settings => .ok ⟨request.command, settings, env⟩

def start (i : Invocation) : Logged (Except StartError Task) := do
  match ← i.environment.withFiles i.files with
  | (_, .error e) => return .error (.envFile e)
  | (env, .ok ()) => return i.taskIn env

end Invocation

/-- Where a manifest comes from. -/
inductive Origin where
  | path (path : String)
  | standardInput
deriving DecidableEq

/-- Where an argument says that the manifest is. A dash stands for the standard input. -/
def Origin.ofArgument : Option String → Origin
  | none => .standardInput
  | some name => if Path.components name = [.name Manifest.standardInput] then .standardInput else .path name

/-- Where a run looks for a manifest, if it gets as far as that. -/
def Invocation.origin? (i : Invocation) : Option Origin :=
  match i.start.value with
  | .ok ⟨some (.flatten input _ _), _, _⟩ => some (.ofArgument input)
  | _ => none

inductive RunError where
  | manifest (origin : Origin) (e : ManifestError)
  | write (e : WriteError)

def programName : String := "mkdeps"

def programVersion : String := "0.0.0-dev"

/-- What is said about the version, by the program or by one of its commands. -/
def versionText (scope : Scope) : String :=
  let suffix := match scope with
    | .top => ""
    | .flatten => "-flatten"
    | .version => "-version"
  s!"{programName}{suffix} {programVersion}\n"

def hint : String :=
  s!"{programName} - dependency ordering for build steps\nRun '{programName} --help' for usage information\n"

def writeText (sink : Sink) (text : String) : Sink × Except RunError Unit :=
  match sink.write text with
  | (sink, true) => (sink, .ok ())
  | (sink, false) => (sink, .error (.write .full))

namespace Invocation

def loadManifest (i : Invocation) (origin : Origin) (format? : Option ManifestFormat) (key : String) :
    Logged (Except ManifestError Manifest) :=
  match origin with
  | .path path => Manifest.load i.files path format? key
  | .standardInput => do
    .report ⟨.debug, .commands, "Reading manifest from stdin", []⟩
    Manifest.ofStream i.input (format?.getD .json) key

/-- Write the order of a manifest to a sink. -/
def flatten (i : Invocation) (origin : Origin) (format? : Option ManifestFormat) (emit : Emit) (key : String)
    (sink : Sink) : Logged (Sink × Except RunError Unit) := do
  match ← i.loadManifest origin format? key with
  | .error e => return (sink, .error (.manifest origin e))
  | .ok manifest =>
    let order ← manifest.flattenLogged
    .report ⟨.info, .commands, "Flattened dependency manifest",
      [("leaves", .count manifest.leafCount), ("unique", .count order.length)]⟩
    match writeOrder sink order emit with
    | (sink, .ok ()) => return (sink, .ok ())
    | (sink, .error e) => return (sink, .error (.write e))

def carryOut (i : Invocation) (task : Task) (sink : Sink) : Logged (Sink × Except RunError Unit) :=
  match task.command with
  | none => .pure (writeText sink hint)
  | some .version => .pure (writeText sink (versionText .top))
  | some (.flatten input format? emit) =>
    i.flatten (.ofArgument input) format? emit task.settings.manifestKey sink

end Invocation

end BuildOrder
