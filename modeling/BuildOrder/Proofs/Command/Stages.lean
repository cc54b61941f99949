import BuildOrder.Command.Process
import BuildOrder.Proofs.Settings.Resolution

/-!
# Stages of a run

A run goes through five stages: the environment files, the arguments, the colour variables, the settings, and the
manifest. Each of them fails or not by itself, and `Invocation.failure?` says how, whatever the other stages do; only
what comes out of the arguments is needed to say what the settings and the manifest are. A run leaves behind what the
first failure among them makes of it, and if there is none, what it was asked to write.
-/

namespace BuildOrder

inductive Failure where
  | envFiles (e : EnvFileError)
  | arguments (u : Usage)
  | colors (v : ColorVariable)
  | settings (why : InvalidSettings)
  | manifest (origin : Origin) (e : ManifestError)

/-- What a failure of a run leaves behind, without a log. -/
def Failure.outcome (texts : UsageTexts) (i : Invocation) : Failure → Outcome
  | .envFiles e => .failure e.chain
  | .arguments u => .ofUsage texts i u
  | .colors v => .failure (SettingsError.duplicateVariable v).chain
  | .settings why => .failure (SettingsError.invalid why).chain
  | .manifest origin e => .failure (RunError.manifest origin e).chain

def failureOf {ε α : Type} (f : ε → Failure) : Except ε α → Option Failure
  | .error e => some (f e)
  | .ok _ => none

inductive Stage where
  | envFiles
  | arguments
  | colors
  | settings
  | manifest

def Stage.all : List Stage := [.envFiles, .arguments, .colors, .settings, .manifest]

namespace Invocation

/-- The environment as it stands after the environment files. -/
def loadedEnvironment (i : Invocation) : Environment := (i.environment.withFiles i.files).value.1

def request (i : Invocation) : Except Usage Request := Request.ofArguments i.arguments i.loadedEnvironment

/-- The manifest on the standard input, or at a path that is not just a dash. -/
def manifestOf (i : Invocation) (input : Option String) (format? : Option ManifestFormat) (key : String) :
    Except ManifestError Manifest :=
  match input with
  | none => (Manifest.ofStream i.input (format?.getD .json) key).value
  | some path =>
    if Path.components path = [.name "-"] then (Manifest.ofStream i.input (format?.getD .json) key).value
    else (Manifest.load i.files path format? key).value

/-- The manifest that a request needs, if it needs one. -/
def manifestFailure? (i : Invocation) (request : Request) : Option Failure :=
  match request.command with
  | some (.flatten input format? _) =>
    failureOf (.manifest (.ofArgument input)) (i.manifestOf input format? request.settings.manifestKey)
  | _ => none

def failure? (i : Invocation) : Stage → Option Failure
  | .envFiles => failureOf .envFiles (i.environment.withFiles i.files).value.2
  | .arguments => failureOf .arguments i.request
  | .colors => failureOf .colors (ColorEnvironment.ofEnvironment i.loadedEnvironment)
  | .settings => i.request.toOption.bind fun request => failureOf .settings request.settings.validate
  | .manifest => i.request.toOption.bind i.manifestFailure?

/-- How the first stage that fails does so. -/
def firstFailure? (i : Invocation) : Option Failure := Stage.all.findSome? i.failure?

/-- What is written for a request; nothing if it has no manifest. -/
def written (i : Invocation) (request : Request) : ByteArray :=
  match request.command with
  | none => hint.toUTF8
  | some .version => (versionText .top).toUTF8
  | some (.flatten input format? emit) =>
    match i.manifestOf input format? request.settings.manifestKey with
    | .ok manifest => (writeOrder (.empty none) manifest.flatten emit).1.written
    | .error _ => .empty

variable {i : Invocation} {texts : UsageTexts} {time : String} {task : Task}

/-- What a run leaves behind, its log apart: what its first failure makes of it, or what it was asked to write. -/
def expected (i : Invocation) (texts : UsageTexts) : Outcome :=
  match i.firstFailure? with
  | some f => f.outcome texts i
  | none => ⟨0, (i.request.toOption.map i.written).getD .empty, ""⟩

end Invocation

end BuildOrder
