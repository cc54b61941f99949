import BuildOrder.Proofs.EnvFile.Evaluation

/-!
# What environment files add

`assignments` lists what a file assigns, line by line, up to its first bad line. A line is evaluated where it stands:
in the initial environment, where the assignments before it stand in for variables that are not set. Loading a file
then comes to this: the variables that were set stay, and every other variable has the value of its first assignment.
A name that is assigned again changes nothing, so the list may hold a name more than once.
-/

namespace BuildOrder

namespace Environment

variable {env : Environment} {l : List (String × String)} {name value : String}

theorem get?_eq_lookup (env : Environment) (name : String) : env.get? name = env.entries.lookup name := by
  rw [get?]
  induction env.entries with
  | nil => rfl
  | cons e entries ih =>
    rw [List.find?_cons, List.lookup_cons, BEq.comm (a := name)]
    cases e.1 == name <;> simp [ih]

theorem get?_append (env : Environment) (l : List (String × String)) (name : String) :
    get? ⟨env.entries ++ l⟩ name = (env.get? name).or (l.lookup name) := by
  rw [get?_eq_lookup, get?_eq_lookup, List.lookup_append]

/-- A variable that is set new comes behind all others. -/
theorem get?_setNew (env : Environment) (name value : String) :
    (env.setNew name value).get? = get? ⟨env.entries ++ [(name, value)]⟩ := by
  funext other
  rw [get?_append, setNew]
  cases h : env.get? name with
  | none => rw [get?_append]
  | some text =>
    by_cases hother : other = name
    · subst hother
      simp [h]
    · have hne : (other == name) = false := beq_false_of_ne hother
      simp [List.lookup_cons, hne]

end Environment

namespace EnvFile

/-! ### Lines -/

/-- Why a line cannot be taken in. -/
def Line.fault? : Line → Option EnvFileFault
  | .text cs =>
    match assignment .empty cs with
    | .ok _ => none
    | .error fault => some (.line fault)
  | .unfinished cs => some (.line ⟨String.ofList cs, Text.byteCount cs⟩)
  | .notText => some (.unreadable .notText)

/-- What lines assign, up to the first bad one, behind the assignments `before` them. -/
def assignments (env : Environment) (before : List (String × String)) : List Line → List (String × String)
  | .text cs :: rest =>
    match assignment ⟨env.entries ++ before⟩ cs with
    | .ok (some a) => a :: assignments env (before ++ [a]) rest
    | .ok none => assignments env before rest
    | .error _ => []
  | _ => []

/-- The outcome of a reading that may have a fault. -/
def outcome {ε : Type} (fault? : Option ε) : Except ε Unit := fault?.elim (.ok ()) .error

variable {env env' : Environment} {before : List (String × String)} {lines : List Line}

theorem fault?_of_assignment_eq_error {cs : List Char} {fault : LineFault} (h : assignment env cs = .error fault) :
    (Line.text cs).fault? = some (.line fault) := by
  rw [Line.fault?, (asksForValues_assignment cs).error_of_error h .empty]

theorem fault?_of_assignment_eq_ok {cs : List Char} {a : Option (String × String)}
    (h : assignment env cs = .ok a) : (Line.text cs).fault? = none := by
  rw [Line.fault?]
  split
  · rfl
  · next fault hfault =>
    rw [(asksForValues_assignment cs).error_of_error hfault env] at h
    cases h

/-- The first bad line decides, whatever the environment is. -/
theorem addLines_outcome : (addLines env lines).2 = outcome (lines.findSome? Line.fault?) := by
  induction lines generalizing env with
  | nil => rfl
  | cons line lines ih =>
    cases line with
    | text cs =>
      rw [addLines, List.findSome?_cons]
      split
      · next hline =>
        rw [fault?_of_assignment_eq_error hline]
        rfl
      · next hline => rw [fault?_of_assignment_eq_ok hline, ih]
      · next hline => rw [fault?_of_assignment_eq_ok hline, ih]
    | unfinished cs => rfl
    | notText => rfl

theorem get?_addLines (h : env'.get? = Environment.get? ⟨env.entries ++ before⟩) (lines : List Line) :
    (addLines env' lines).1.get? = Environment.get? ⟨env.entries ++ (before ++ assignments env before lines)⟩ := by
  induction lines generalizing env' before with
  | nil => simpa [addLines, assignments] using h
  | cons line lines ih =>
    cases line with
    | text cs =>
      rw [addLines, assignments, (asksForValues_assignment cs).congr h]
      cases assignment ⟨env.entries ++ before⟩ cs with
      | error fault => simpa using h
      | ok a? =>
        cases a? with
        | none => exact ih h
        | some a =>
          have hset : (env'.setNew a.1 a.2).get? = Environment.get? ⟨env.entries ++ (before ++ [a])⟩ := by
            funext name
            rw [Environment.get?_setNew, Environment.get?_append, h, ← Environment.get?_append, List.append_assoc]
          rw [ih hset, List.append_assoc, List.singleton_append]
    | unfinished cs => simpa [addLines, assignments] using h
    | notText => simpa [addLines, assignments] using h

end EnvFile

/-! ### Files -/

namespace Files

/-- The lines of an environment file; one that is missing or cannot be read has none. -/
def linesOf (files : Files) (name : String) : List EnvFile.Line :=
  match files.nearest? name with
  | some (_, .ok bytes) => EnvFile.lines bytes
  | _ => []

/-- Why an environment file cannot be taken in. One that is missing has no fault. -/
def envFault? (files : Files) (name : String) : Option EnvFileFault :=
  match files.nearest? name with
  | .none => .none
  | some (_, .error fault) => some (.unreadable fault)
  | some (_, .ok bytes) => (EnvFile.lines bytes).findSome? EnvFile.Line.fault?

end Files

namespace EnvFile

variable {files : Files} {env env' : Environment} {before : List (String × String)} {names : List String}

theorem value_load_cons (files : Files) (env : Environment) (name : String) (rest : List String) :
    (load files env (name :: rest)).value =
      match files.envFault? name with
      | none => (load files (addLines env (files.linesOf name)).1 rest).value
      | some fault => ((addLines env (files.linesOf name)).1, .error ⟨name, fault⟩) := by
  rw [load, Files.envFault?, Files.linesOf]
  cases files.nearest? name with
  | none => rfl
  | some file =>
    obtain ⟨path, fault | bytes⟩ := file
    · rfl
    · have houtcome : (addLines env (lines bytes)).2 = outcome ((lines bytes).findSome? Line.fault?) :=
        addLines_outcome
      cases hadded : addLines env (lines bytes) with
      | mk env' r =>
        rw [hadded] at houtcome
        obtain rfl : r = _ := houtcome
        cases hfault : (lines bytes).findSome? Line.fault? with
        | none => simp only [hadded, hfault]; rfl
        | some fault => simp only [hadded, hfault]; rfl

/-- What files assign, up to the first bad one. -/
def fileAssignments (files : Files) (env : Environment) (before : List (String × String)) :
    List String → List (String × String)
  | [] => []
  | name :: rest =>
    let own := assignments env before (files.linesOf name)
    own ++ if (files.envFault? name).isSome then [] else fileAssignments files env (before ++ own) rest

/-- The first bad file, with its fault. -/
def firstFault? (files : Files) (names : List String) : Option EnvFileError :=
  names.findSome? fun name => (files.envFault? name).map fun fault => ⟨name, fault⟩

theorem load_outcome : (load files env names).value.2 = outcome (firstFault? files names) := by
  induction names generalizing env with
  | nil => rfl
  | cons name names ih =>
    rw [value_load_cons, firstFault?, List.findSome?_cons]
    cases files.envFault? name with
    | none => exact ih
    | some fault => rfl

theorem get?_load_behind (h : env'.get? = Environment.get? ⟨env.entries ++ before⟩) :
    (load files env' names).value.1.get? =
      Environment.get? ⟨env.entries ++ (before ++ fileAssignments files env before names)⟩ := by
  induction names generalizing env' before with
  | nil =>
    rw [fileAssignments, List.append_nil]
    exact h
  | cons name names ih =>
    have hadded := get?_addLines h (files.linesOf name)
    rw [value_load_cons, fileAssignments]
    cases files.envFault? name with
    | none => simpa using ih hadded
    | some fault => simpa using hadded

theorem get?_load (files : Files) (env : Environment) (names : List String) (name : String) :
    (load files env names).value.1.get? name =
      (env.get? name).or ((fileAssignments files env [] names).lookup name) := by
  have hstart : env.get? = Environment.get? ⟨env.entries ++ []⟩ := by rw [List.append_nil]
  rw [get?_load_behind hstart, Environment.get?_append, List.nil_append]

end EnvFile

namespace Environment

/-- **What the environment files do.** A variable that was set stays as it was, whatever happens. Any other has the
value of its first assignment in the first file, or else of its first assignment in the second, which does not count
if the first file is bad; and it is not set if there is none. The error names the first bad file. -/
theorem withFiles_outcome (env : Environment) (files : Files) :
    let loaded := (env.withFiles files).value
    let first := EnvFile.assignments env [] (files.linesOf ".env.local")
    let second := EnvFile.assignments env first (files.linesOf ".env")
    (∀ name value, env.get? name = some value → loaded.1.get? name = some value) ∧
      match files.envFault? ".env.local", files.envFault? ".env" with
      | some fault, _ =>
        loaded.2 = .error ⟨".env.local", fault⟩ ∧
          ∀ name, loaded.1.get? name = (env.get? name).or (first.lookup name)
      | none, some fault =>
        loaded.2 = .error ⟨".env", fault⟩ ∧
          ∀ name, loaded.1.get? name = (env.get? name).or ((first.lookup name).or (second.lookup name))
      | none, none =>
        loaded.2 = .ok () ∧
          ∀ name, loaded.1.get? name = (env.get? name).or ((first.lookup name).or (second.lookup name)) := by
  intro loaded first second
  have hvalues : ∀ name, loaded.1.get? name = (env.get? name).or
      ((first ++ if (files.envFault? ".env.local").isSome then [] else second).lookup name) := by
    intro name
    refine (EnvFile.get?_load files env EnvFile.names name).trans ?_
    simp [EnvFile.names, EnvFile.fileAssignments, first, second]
  have houtcome : loaded.2 = EnvFile.outcome (EnvFile.firstFault? files EnvFile.names) := EnvFile.load_outcome
  rw [EnvFile.firstFault?, EnvFile.names] at houtcome
  refine ⟨?_, ?_⟩
  · intro name value hset
    rw [hvalues, hset, Option.some_or]
  · split
    · next fault _ hfirst =>
      refine ⟨by simpa [hfirst, EnvFile.outcome] using houtcome, fun name => ?_⟩
      rw [hvalues, hfirst]
      simp
    · next fault hfirst hsecond =>
      refine ⟨by simpa [hfirst, hsecond, EnvFile.outcome] using houtcome, fun name => ?_⟩
      rw [hvalues, hfirst]
      simp [List.lookup_append]
    · next hfirst hsecond =>
      refine ⟨by simpa [hfirst, hsecond, EnvFile.outcome] using houtcome, fun name => ?_⟩
      rw [hvalues, hfirst]
      simp [List.lookup_append]

/-- Names that come again in a file or in both, a variable that is set to nothing, and values made of others. -/
theorem withFiles_outcome_repeated :
    let env : Environment := ⟨[("CI", "")]⟩
    let files : Files := ⟨fun _ => .error .notFound, fun name =>
      if name = ".env.local" then some ("/.env.local", .ok "A=1\nA=2\nCI=no\nB=$A-$CI\n".toUTF8)
      else some ("/.env", .ok "A=3\nexport C='$A' # not replaced\nD=$B".toUTF8)⟩
    let loaded := (env.withFiles files).value
    loaded.2 = .ok () ∧
      ["CI", "A", "B", "C", "D", "E"].map loaded.1.get? =
        [some "", some "1", some "1-", some "$A", some "1-", none] := by
  intro env files loaded
  have hspec := (withFiles_outcome env files).2
  have hfirst : files.envFault? ".env.local" = none := by decide +kernel
  have hsecond : files.envFault? ".env" = none := by decide +kernel
  simp only [hfirst, hsecond] at hspec
  refine ⟨hspec.1, ?_⟩
  rw [funext hspec.2]
  decide +kernel

end Environment

end BuildOrder
