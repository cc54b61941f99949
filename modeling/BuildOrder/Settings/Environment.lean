import BuildOrder.Settings.Basic

/-!
# The environment

The variables of a process in the order in which it lists them, each name once. Names and values are texts: a
variable that is no Unicode text has no place here, and nothing is said about a process that has one. Setting a
variable that is set already changes nothing: what stands in the environment wins over what is read later.

Four variables speak about colour, whatever the case of their names: `CI`, `CLICOLOR`, `NO_COLOR` and
`FORCE_COLOR`. Two variables that mean the same one are refused.
-/

namespace BuildOrder

/-- The variables of a process whose names and values are all texts. -/
structure Environment where
  entries : List (String × String)

namespace Environment

def empty : Environment := ⟨[]⟩

def get? (env : Environment) (name : String) : Option String :=
  (env.entries.find? (fun v => v.1 == name)).map Prod.snd

/-- Set a variable unless it is set, be it to the empty text. -/
def setNew (env : Environment) (name value : String) : Environment :=
  match env.get? name with
  | some _ => env
  | none => ⟨env.entries ++ [(name, value)]⟩

end Environment

inductive ColorVariable where
  | noColor
  | forceColor
  | clicolor
  | ci
deriving DecidableEq

namespace ColorVariable

def all : List ColorVariable := [.noColor, .forceColor, .clicolor, .ci]

def name : ColorVariable → String
  | .noColor => "no_color"
  | .forceColor => "force_color"
  | .clicolor => "clicolor"
  | .ci => "ci"

/-- The variable that a name means, whatever its case. No letter outside ASCII has a lower case letter of
these names, so only ASCII letters are changed. -/
def ofName? (name : String) : Option ColorVariable :=
  all.find? fun v => v.name == Text.asciiLower name

end ColorVariable

structure ColorEnvironment where
  noColor : Option String
  forceColor : Option String
  clicolor : Option String
  ci : Option String
deriving DecidableEq

namespace ColorEnvironment

def empty : ColorEnvironment := ⟨none, none, none, none⟩

def get? (c : ColorEnvironment) : ColorVariable → Option String
  | .noColor => c.noColor
  | .forceColor => c.forceColor
  | .clicolor => c.clicolor
  | .ci => c.ci

def set (c : ColorEnvironment) (value : String) : ColorVariable → ColorEnvironment
  | .noColor => { c with noColor := some value }
  | .forceColor => { c with forceColor := some value }
  | .clicolor => { c with clicolor := some value }
  | .ci => { c with ci := some value }

/-- Take in one variable; the error is a variable that was there already. -/
def add (c : ColorEnvironment) (entry : String × String) : Except ColorVariable ColorEnvironment :=
  match ColorVariable.ofName? entry.1 with
  | none => .ok c
  | some v =>
    match c.get? v with
    | some _ => .error v
    | none => .ok (c.set entry.2 v)

def addAll (c : ColorEnvironment) : List (String × String) → Except ColorVariable ColorEnvironment
  | [] => .ok c
  | v :: vs =>
    match c.add v with
    | .ok c => c.addAll vs
    | .error e => .error e

def ofEnvironment (env : Environment) : Except ColorVariable ColorEnvironment :=
  empty.addAll env.entries

def forced? : Option String → Option Color
  | some "0" => some .never
  | some "false" => some .never
  | some "1" => some .always
  | some "2" => some .always
  | some "3" => some .always
  | some "true" => some .always
  | _ => none

/-- The colour that the variables make of `base`: `CI` decides, then a known value of `FORCE_COLOR`, then a
`NO_COLOR` that is not empty or a `CLICOLOR` of 0. -/
def apply (c : ColorEnvironment) (base : Color) : Color :=
  if c.ci.isSome then .never
  else match forced? c.forceColor with
    | some color => color
    | none =>
      if c.noColor.any (fun v => v ≠ "") then .never
      else if c.clicolor = some "0" then .never
      else base

end ColorEnvironment

/-- Whether lines that go into a pipe are coloured if it is left to the environment: `CLICOLOR_FORCE` asks for it
unless it is 0. -/
def Environment.forcesColor (env : Environment) : Bool := (env.get? "CLICOLOR_FORCE").any (fun v => v ≠ "0")

inductive SettingsError where
  | duplicateVariable (v : ColorVariable)
  | invalid (why : InvalidSettings)
deriving DecidableEq

/-- What is said about a colour variable that comes twice. -/
def ColorVariable.duplicateReason (v : ColorVariable) : String := s!"duplicate field `{v.name}`"

def SettingsError.message : SettingsError → String
  | .duplicateVariable v => s!"Failed to parse environment variables: {v.duplicateReason}"
  | .invalid why => why.message

namespace Settings

/-- The settings in force, given those of the arguments: the colour variables lie below the arguments. -/
def resolveWith (arguments : Settings) (color : ColorEnvironment) : Except InvalidSettings Settings :=
  let settings := ({ default with color := color.apply default.color } : Settings).merge arguments
  match settings.validate with
  | .ok () => .ok settings
  | .error why => .error why

def resolve (arguments : Settings) (env : Environment) : Except SettingsError Settings :=
  match ColorEnvironment.ofEnvironment env with
  | .error v => .error (.duplicateVariable v)
  | .ok color =>
    match resolveWith arguments color with
    | .ok s => .ok s
    | .error why => .error (.invalid why)

end Settings

end BuildOrder
