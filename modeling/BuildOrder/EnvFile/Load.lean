import BuildOrder.EnvFile.Assignment
import BuildOrder.Log.Event

/-!
# Loading environment files

Two files may add variables to the environment, `.env.local` before `.env`. Each is looked for in the working
directory and then in the directories above it. A variable that is set stays as it is, and what was added before
a fault stays too.
-/

namespace BuildOrder

inductive EnvFileFault where
  | line (fault : EnvFile.LineFault)
  | unreadable (fault : ReadFault)
deriving DecidableEq

def EnvFileFault.message : EnvFileFault → String
  | .line fault => fault.message
  | .unreadable fault => fault.message

structure EnvFileError where
  file : String
  fault : EnvFileFault
deriving DecidableEq

def EnvFileError.message (e : EnvFileError) : String :=
  s!"Failed to load environment file '{e.file}': {e.fault.message}"

namespace EnvFile

/-- The environment after some lines, and the first fault. -/
def addLines (env : Environment) : List Line → Environment × Except EnvFileFault Unit
  | [] => (env, .ok ())
  | .text cs :: rest =>
    match assignment env cs with
    | .error fault => (env, .error (.line fault))
    | .ok none => addLines env rest
    | .ok (some (name, value)) => addLines (env.setNew name value) rest
  | .unfinished cs :: _ => (env, .error (.line ⟨String.ofList cs, Text.byteCount cs⟩))
  | .notText :: _ => (env, .error (.unreadable .notText))

/-- The names of environment files, the one that counts first at the front. -/
def names : List String := [".env.local", ".env"]

/-- The environment after the files with some names, and the first fault. -/
def load (files : Files) (env : Environment) : List String → Logged (Environment × Except EnvFileError Unit)
  | [] => return (env, .ok ())
  | name :: rest =>
    match files.nearest? name with
    | none => load files env rest
    | some (_, .error fault) => return (env, .error ⟨name, .unreadable fault⟩)
    | some (path, .ok bytes) =>
      match addLines env (lines bytes) with
      | (env, .error fault) => return (env, .error ⟨name, fault⟩)
      | (env, .ok ()) => do
        .report ⟨.trace, .loader, s!"Loaded environment file: {path}", []⟩
        load files env rest

end EnvFile

/-- The environment with the variables of the environment files, and what went wrong. -/
def Environment.withFiles (env : Environment) (files : Files) : Logged (Environment × Except EnvFileError Unit) :=
  EnvFile.load files env EnvFile.names

end BuildOrder
