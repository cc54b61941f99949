import BuildOrder.Command.Basic
import BuildOrder.Settings.Partial

/-!
# Arguments

Arguments are read from left to right. Those before the name of a command belong to the top scope, those behind
it to the command. The five options that set the settings may stand in either scope; the rest belong to
`flatten`. An option takes the value attached to it or the next argument; after `--` nothing is an option.

A value is checked when the next argument is settled, at the end of its scope at the latest, and the command's
scope ends before the top scope does. At the end of each scope the variables of the environment stand in for
the settings that were not given in it, so a variable with a bad value is refused unless both scopes were given
a value. A setting is what the command's scope was given, else what the top scope was given, else the variable,
else the default.
-/

namespace BuildOrder

/-- What can be given in arguments. -/
inductive Parameter where
  | setting (s : Setting)
  | input
  | inputFormat
  | emit
deriving DecidableEq

structure Given where
  settings : PartialSettings
  input : Option String
  inputFormat : Option ManifestFormat
  emit : Option Emit
deriving DecidableEq

namespace Given

def none : Given := ⟨.empty, .none, .none, .none⟩

def has (g : Given) : Parameter → Bool
  | .setting s => g.settings.has s
  | .input => g.input.isSome
  | .inputFormat => g.inputFormat.isSome
  | .emit => g.emit.isSome

end Given

/-! ### Values -/

/-- A whole number in base ten with an optional sign. -/
def signedDecimal? (cs : List Char) : Option Int :=
  match cs with
  | '-' :: ds => if ds.isEmpty || !ds.all Char.isDigit then none else some (-(decimal ds : Int))
  | '+' :: ds => if ds.isEmpty || !ds.all Char.isDigit then none else some (decimal ds)
  | ds => if ds.isEmpty || !ds.all Char.isDigit then none else some (decimal ds)
where
  decimal (ds : List Char) : Nat := ds.foldl (fun n c => 10 * n + (c.toNat - '0'.toNat)) 0

def logLevel? (text : String) : Option UInt8 :=
  (signedDecimal? text.toList).bind fun i => if 0 ≤ i ∧ i < 256 then some i.toNat.toUInt8 else none

/-- The choice that a text spells; a text that spells none is refused. -/
def choose {α : Type} [Choice α] (text : String) : Except Usage α :=
  match Choice.spelled? α text with
  | some v => .ok v
  | none => .error .invalidValue

/-- Read the value of a setting. -/
def PartialSettings.set (p : PartialSettings) (text : String) : Setting → Except Usage PartialSettings
  | .manifestKey => .ok { p with manifestKey := some text }
  | .logLevel =>
    match logLevel? text with
    | some v => .ok { p with logLevel := some v }
    | none => .error .valueValidation
  | .logFormat => (choose text).map fun v => { p with logFormat := some v }
  | .logStream => (choose text).map fun v => { p with logStream := some v }
  | .color => (choose text).map fun v => { p with color := some v }

namespace Given

def set (g : Given) (text : String) : Parameter → Except Usage Given
  | .setting s => (g.settings.set text s).map fun p => { g with settings := p }
  | .input => if text = "" then .error .invalidValue else .ok { g with input := some text }
  | .inputFormat => (choose text).map fun v => { g with inputFormat := some v }
  | .emit => (choose text).map fun v => { g with emit := some v }

def give (g : Given) (p : Parameter) (text : String) : Except Usage Given :=
  if g.has p then .error .argumentConflict else g.set text p

end Given

/-! ### Options -/

inductive Switch where
  | takes (p : Parameter)
  | help
  | version
deriving DecidableEq

namespace Scope

def long? (scope : Scope) (name : String) : Option Switch :=
  match Setting.ofOption? name with
  | some s => some (.takes (.setting s))
  | none =>
    match name with
    | "help" => some .help
    | "version" => some .version
    | "input-format" => if scope = .flatten then some (.takes .inputFormat) else none
    | "emit" => if scope = .flatten then some (.takes .emit) else none
    | _ => none

def short? (scope : Scope) (name : Char) : Option Switch :=
  match name with
  | 'k' => some (.takes (.setting .manifestKey))
  | 'c' => some (.takes (.setting .color))
  | 'h' => some .help
  | 'V' => some .version
  | 'f' => if scope = .flatten then some (.takes .inputFormat) else none
  | 'e' => if scope = .flatten then some (.takes .emit) else none
  | _ => none

end Scope

/-- The words that lead out of the top scope. -/
inductive Subcommand where
  | flatten
  | version
  | help
deriving DecidableEq

def Subcommand.ofName? : String → Option Subcommand
  | "flatten" => some .flatten
  | "version" => some .version
  | "help" => some .help
  | _ => none

/-! ### Scanning a scope -/

/-- How far a scope has been read. -/
structure Scan where
  given : Given
  /-- A parameter that has not been settled, with its value if it has come. -/
  pending : Option (Parameter × Option String)
  /-- Whether `--` has come. -/
  literal : Bool

namespace Scan

def start : Scan := ⟨.none, none, false⟩

/-- Settle the pending parameter; one without a value is refused. -/
def settle (s : Scan) : Except Usage Scan :=
  match s.pending with
  | none => .ok s
  | some (_, none) => .error .invalidValue
  | some (p, some text) =>
    match s.given.give p text with
    | .ok g => .ok { s with given := g, pending := none }
    | .error u => .error u

/-- Carry out an option, with the value attached to it if there is one. -/
def carryOut (s : Scan) (scope : Scope) (switch : Switch) (attached : Option String) : Except Usage Scan :=
  match s.settle with
  | .error u => .error u
  | .ok s =>
    match switch, attached with
    | .takes p, none => .ok { s with pending := some (p, none) }
    | .takes p, some text =>
      match s.given.give p text with
      | .ok g => .ok { s with given := g }
      | .error u => .error u
    | .help, _ => .error (.help scope)
    | .version, _ => .error (.version scope)

/-- An argument that begins with two dashes, from behind them on. -/
def readLong (s : Scan) (scope : Scope) (body : List Char) : Except Usage Scan :=
  let name := String.ofList (body.takeWhile (· ≠ '='))
  let attached := match body.dropWhile (· ≠ '=') with
    | [] => none
    | _ :: value => some (String.ofList value)
  match scope.long? name, attached with
  | none, _ => .error .unknownArgument
  | some (.takes p), attached => s.carryOut scope (.takes p) attached
  | some _, some _ => .error .tooManyValues
  | some switch, none => s.carryOut scope switch none

/-- An argument that begins with one dash, from behind it on. An option that takes a value takes the rest of
the argument, if any, less an equals sign in front of it. -/
def readShort (s : Scan) (scope : Scope) : List Char → Except Usage Scan
  | [] => .ok s
  | c :: rest =>
    match scope.short? c with
    | none => .error .unknownArgument
    | some (.takes p) =>
      match rest with
      | [] => s.carryOut scope (.takes p) none
      | '=' :: value => s.carryOut scope (.takes p) (some (String.ofList value))
      | value => s.carryOut scope (.takes p) (some (String.ofList value))
    | some switch => s.carryOut scope switch none

/-- An argument that is no option and no value of one. -/
def readPositional (s : Scan) (scope : Scope) (argument : String) : Except Usage Scan :=
  match scope with
  | .flatten =>
    let taken := s.given.input.isSome || s.pending.any (fun p => p.1 = .input)
    if taken then .error .unknownArgument
    else
      match s.settle with
      | .ok s => .ok { s with pending := some (.input, some argument) }
      | .error u => .error u
  | .version => .error .unknownArgument
  | .top =>
    if s.literal && (Subcommand.ofName? argument).isSome then .error .unknownArgument
    else .error .invalidSubcommand

/-- The parameter that waits for a value. -/
def awaiting (s : Scan) : Option Parameter :=
  match s.pending with
  | some (p, none) => some p
  | _ => none

def read (s : Scan) (scope : Scope) (argument : String) : Except Usage Scan :=
  if s.literal then s.readPositional scope argument
  else match argument.toList with
    | ['-', '-'] => .ok { s with literal := true }
    | '-' :: '-' :: body => s.readLong scope body
    | '-' :: c :: rest => s.readShort scope (c :: rest)
    | _ =>
      match s.awaiting with
      | some p => .ok { s with pending := some (p, some argument) }
      | none => s.readPositional scope argument

/-- The word leads out of the top scope, unless it is the value of an option. -/
def leaves (s : Scan) (argument : String) : Option Subcommand :=
  if s.literal || s.awaiting.isSome then none else Subcommand.ofName? argument

def readAll (s : Scan) (scope : Scope) : List String → Except Usage Scan
  | [] => .ok s
  | a :: rest =>
    match s.read scope a with
    | .ok s => s.readAll scope rest
    | .error u => .error u

def readTop (s : Scan) : List String → Except Usage (Scan × Option (Subcommand × List String))
  | [] => .ok (s, none)
  | a :: rest =>
    match s.leaves a with
    | some c => .ok (s, some (c, rest))
    | none =>
      match s.read .top a with
      | .ok s => s.readTop rest
      | .error u => .error u

end Scan

/-! ### The environment -/

/-- What the variables say about the settings that `given` lacks, read one after the other. -/
def PartialSettings.ofVariables (env : Environment) (given : PartialSettings) (p : PartialSettings) :
    List Setting → Except Usage PartialSettings
  | [] => .ok p
  | s :: rest =>
    match given.has s, env.get? s.variableName with
    | false, some text =>
      match p.set text s with
      | .ok p => ofVariables env given p rest
      | .error u => .error u
    | _, _ => ofVariables env given p rest

structure Scope.Outcome where
  given : Given
  environment : PartialSettings

def Scope.Outcome.none : Scope.Outcome := ⟨.none, .empty⟩

/-- End a scope: settle what is pending and ask the environment. -/
def Scan.finish (s : Scan) (env : Environment) : Except Usage Scope.Outcome :=
  match s.settle with
  | .error u => .error u
  | .ok s =>
    match PartialSettings.ofVariables env s.given.settings .empty Setting.all with
    | .ok p => .ok ⟨s.given, p⟩
    | .error u => .error u

/-! ### Requests -/

/-- Where the words after `help` lead. -/
def helpScope : List String → Except Usage Scope
  | [] => .ok .top
  | ["flatten"] => .ok .flatten
  | ["version"] => .ok .version
  | ["help"] => .ok .top
  | _ => .error .invalidSubcommand

namespace Request

/-- The request of a command, from what its scope and the top scope were given. -/
def ofOutcomes (command : Option Scope) (inner outer : Scope.Outcome) : Request where
  settings := (((inner.given.settings.orElse outer.given.settings).orElse inner.environment).orElse
    outer.environment).settings
  command := command.bind fun
    | .top => none
    | .flatten => some (.flatten inner.given.input inner.given.inputFormat (inner.given.emit.getD .lines))
    | .version => some .version

/-- Read the arguments of a command behind its name, and then end both scopes. -/
def ofCommand (scope : Scope) (outer : Scan) (arguments : List String) (env : Environment) :
    Except Usage Request :=
  match Scan.start.readAll scope arguments with
  | .error u => .error u
  | .ok inner =>
    match inner.finish env with
    | .error u => .error u
    | .ok inner =>
      match outer.finish env with
      | .error u => .error u
      | .ok outer => .ok (ofOutcomes (some scope) inner outer)

def ofArguments (arguments : List String) (env : Environment) : Except Usage Request :=
  match Scan.start.readTop arguments with
  | .error u => .error u
  | .ok (outer, none) =>
    match outer.finish env with
    | .error u => .error u
    | .ok outer => .ok (ofOutcomes none .none outer)
  | .ok (_, some (.help, rest)) =>
    match helpScope rest with
    | .ok scope => .error (.help scope)
    | .error u => .error u
  | .ok (outer, some (.flatten, rest)) => ofCommand .flatten outer rest env
  | .ok (outer, some (.version, rest)) => ofCommand .version outer rest env

end Request

end BuildOrder
