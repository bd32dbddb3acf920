import Farseer.Generator.CppProtocol
import Farseer.Lib.Program
import Farseer.Schema.Parsing

/-! The service that runs the generator: its options, what it reads and what it writes. The files are those of the
system, and reading and writing may throw. -/

namespace Farseer

variable {σ : Type}

/-- `readAsciiFile` and `writeAsciiFile`, on the files `σ` of the system. -/
structure FileSystem (σ : Type) where
  readAsciiFile : String → EStateM Exception σ String
  writeAsciiFile : String → String → EStateM Exception σ Unit

/-- How a header and a source are written, with the templates around what depends on the schema. -/
structure CppTemplates where
  header : CppHeader → String
  source : CppSource → String

/-- What the service returns, and the lines that it prints. -/
structure ServiceResult where
  exitCode : ℕ
  output : Option String
  error : Option String
deriving DecidableEq

structure FilePaths where
  protocolFilePath : String
  cppHeaderFilePath : String
  cppSourceFilePath : String
deriving DecidableEq

inductive ServiceOption
  | protocol | cppHeader | cppSource
deriving DecidableEq

def ServiceOption.argument : ServiceOption → String
  | protocol => "--protocol"
  | cppHeader => "--cpp-header"
  | cppSource => "--cpp-source"

def FilePaths.set (paths : FilePaths) : ServiceOption → String → FilePaths
  | .protocol, path => { paths with protocolFilePath := path }
  | .cppHeader, path => { paths with cppHeaderFilePath := path }
  | .cppSource, path => { paths with cppSourceFilePath := path }

def serviceFailure (exitCode : ℕ) (error : String) : ServiceResult := ⟨exitCode, none, some error⟩

def missingPath : ServiceOption → ServiceResult
  | .protocol => serviceFailure 1 "The protocol file path was not provided."
  | .cppHeader => serviceFailure 2 "The C++ header file path was not provided."
  | .cppSource => serviceFailure 3 "The C++ source file path was not provided."

/-- The comparisons of the loop, in their order. -/
def toOption (argument : String) : Option ServiceOption :=
  if argument = "--protocol" then some .protocol
  else if argument = "--cpp-header" then some .cppHeader
  else if argument = "--cpp-source" then some .cppSource
  else none

def readArguments : List String → FilePaths → Except ServiceResult FilePaths
  | [], paths => .ok paths
  | argument :: arguments, paths =>
    match toOption argument with
    | none => .error (serviceFailure 4 "Invalid arguments were provided.")
    | some option =>
      match arguments with
      | [] => .error (missingPath option)
      | path :: arguments => readArguments arguments (paths.set option path)

def helpText : String :=
  "Generate C++ source from a given input protocol file.

    --protocol
        path to an existing protocol file

    --cpp-header
        file path for the generated C++ header

    --cpp-source
        file path for the generated C++ source
"

section Service

variable [Hashing ProtocolIdentifier] (files : FileSystem σ) (templates : CppTemplates)
  (glyph : String → Except Exception (List Node))

def generateProtocolSourceFiles (arguments : List String) : EStateM Exception σ ServiceResult :=
  if arguments.length = 0 then return ⟨0, some helpText, none⟩
  else if arguments.length < 3 then return serviceFailure 5 "Invalid arguments were provided."
  else
    match readArguments arguments ⟨"", "", ""⟩ with
    | .error result => return result
    | .ok paths => do
      let protocolFile ← files.readAsciiFile paths.protocolFilePath
      let protocol ← Program.lift (parseProtocolDefinition glyph protocolFile)
      let cppHeader := templates.header (generateProtocolCppHeader protocol)
      let cppSource := templates.source (generateProtocolCppSource protocol)
      files.writeAsciiFile paths.cppHeaderFilePath cppHeader
      files.writeAsciiFile paths.cppSourceFilePath cppSource
      return ⟨0, none, none⟩

end Service

def toArguments (options : List (ServiceOption × String)) : List String :=
  options.flatMap fun option => [option.1.argument, option.2]

def lastPath (option : ServiceOption) (options : List (ServiceOption × String)) (path : String) : String :=
  ((options.filter fun given => given.1 = option).map Prod.snd).getLastD path

def lastPaths (options : List (ServiceOption × String)) (paths : FilePaths) : FilePaths where
  protocolFilePath := lastPath .protocol options paths.protocolFilePath
  cppHeaderFilePath := lastPath .cppHeader options paths.cppHeaderFilePath
  cppSourceFilePath := lastPath .cppSource options paths.cppSourceFilePath

theorem toOption_eq_some {argument : String} {option : ServiceOption} :
    toOption argument = some option ↔ argument = option.argument := by
  unfold toOption
  constructor
  · intro h
    split_ifs at h <;> cases h <;> assumption
  · rintro rfl
    cases option <;> rfl

theorem lastPath_cons (option option' : ServiceOption) (path : String) (options : List (ServiceOption × String))
    (before : String) : lastPath option ((option', path) :: options) before =
      lastPath option options (if option' = option then path else before) := by
  rw [lastPath, List.filter_cons]
  split_ifs with heq hne hne
  · rw [List.map_cons, List.getLastD_cons]
    rfl
  · exact absurd (of_decide_eq_true heq) hne
  · exact absurd (decide_eq_true hne) heq
  · rfl

theorem lastPaths_cons (option : ServiceOption) (path : String) (options : List (ServiceOption × String))
    (paths : FilePaths) : lastPaths ((option, path) :: options) paths = lastPaths options (paths.set option path) := by
  cases option <;> simp only [lastPaths, lastPath_cons, FilePaths.set, if_true, reduceCtorEq, if_false]

/-- The loop reads options with their paths, and otherwise fails with one of four codes. -/
theorem readArguments_cases : (arguments : List String) → (paths : FilePaths) →
    (∃ options, arguments = toArguments options ∧ readArguments arguments paths = .ok (lastPaths options paths)) ∨
      (∀ options, arguments ≠ toArguments options) ∧ ∃ result, readArguments arguments paths = .error result ∧
        result.exitCode ∈ [1, 2, 3, 4]
  | [], paths => .inl ⟨[], rfl, rfl⟩
  | [argument], paths => by
    refine .inr ⟨fun options h => ?_, ?_⟩
    · cases options with
      | nil => cases h
      | cons option options => cases (List.cons.inj h).2
    · rw [readArguments]
      cases toOption argument with
      | none => exact ⟨_, rfl, by simp [serviceFailure]⟩
      | some option => exact ⟨_, rfl, by cases option <;> simp [missingPath, serviceFailure]⟩
  | argument :: path :: arguments, paths => by
    rw [readArguments]
    cases hoption : toOption argument with
    | none =>
      refine .inr ⟨fun options h => ?_, _, rfl, by simp [serviceFailure]⟩
      cases options with
      | nil => cases h
      | cons option options =>
        rw [toOption_eq_some.mpr (List.cons.inj h).1] at hoption
        cases hoption
    | some option =>
      obtain rfl := toOption_eq_some.mp hoption
      dsimp only
      rcases readArguments_cases arguments (paths.set option path) with ⟨options, rfl, hok⟩ | ⟨hnone, herror⟩
      · exact .inl ⟨(option, path) :: options, rfl, by rw [hok, lastPaths_cons]⟩
      · refine .inr ⟨fun options h => ?_, herror⟩
        cases options with
        | nil => cases h
        | cons given options => exact hnone options (List.cons.inj (List.cons.inj h).2).2

theorem length_toArguments (options : List (ServiceOption × String)) :
    (toArguments options).length = 2 * options.length := by
  induction options with
  | nil => rfl
  | cons option options ih =>
    change ((toArguments options).length + 1) + 1 = 2 * (options.length + 1)
    rw [ih]
    omega

section Service

variable [Hashing ProtocolIdentifier] (files : FileSystem σ) (templates : CppTemplates)
  (glyph : String → Except Exception (List Node))

/-- Without arguments the service helps. With two options or more, each with a path, it reads the file of the last protocol
option; nothing is written unless this is an accepted schema, and then the header and after it the source that are generated for
it are written to the last paths for them. With any other arguments it fails without touching a file. -/
theorem generateProtocolSourceFiles_cases (arguments : List String) (s : σ) :
    (arguments = [] ∧
      generateProtocolSourceFiles files templates glyph arguments s = .ok ⟨0, some helpText, none⟩ s) ∨
    (arguments ≠ [] ∧ (∀ options, 2 ≤ options.length → arguments ≠ toArguments options) ∧
      ∃ result, generateProtocolSourceFiles files templates glyph arguments s = .ok result s ∧ result.exitCode ≠ 0) ∨
    ∃ options, 2 ≤ options.length ∧ arguments = toArguments options ∧
      let paths := lastPaths options ⟨"", "", ""⟩
      let run := generateProtocolSourceFiles files templates glyph arguments s
      (∃ e t, files.readAsciiFile paths.protocolFilePath s = .error e t ∧ run = .error e t) ∨
      ∃ text t, files.readAsciiFile paths.protocolFilePath s = .ok text t ∧
        ((∃ e, parseProtocolDefinition glyph text = .error e ∧ run = .error e t) ∨
        ∃ protocol, parseProtocolDefinition glyph text = .ok protocol ∧
          let cppHeader := templates.header (generateProtocolCppHeader protocol)
          let cppSource := templates.source (generateProtocolCppSource protocol)
          ((∃ e u, files.writeAsciiFile paths.cppHeaderFilePath cppHeader t = .error e u ∧ run = .error e u) ∨
          ∃ u, files.writeAsciiFile paths.cppHeaderFilePath cppHeader t = .ok () u ∧
            ((∃ e v, files.writeAsciiFile paths.cppSourceFilePath cppSource u = .error e v ∧ run = .error e v) ∨
            ∃ v, files.writeAsciiFile paths.cppSourceFilePath cppSource u = .ok () v ∧ run = .ok ⟨0, none, none⟩ v))) := by
  by_cases hempty : arguments = []
  · subst hempty
    exact .inl ⟨rfl, rfl⟩
  have hlength : arguments.length ≠ 0 := fun h => hempty (List.length_eq_zero_iff.mp h)
  by_cases hshort : arguments.length < 3
  · refine .inr (.inl ⟨hempty, ?_, serviceFailure 5 "Invalid arguments were provided.", ?_, ?_⟩)
    · rintro options hoptions rfl
      rw [length_toArguments] at hshort
      omega
    · rw [generateProtocolSourceFiles, if_neg hlength, if_pos hshort]
      rfl
    · exact Nat.succ_ne_zero 4
  have hrun : generateProtocolSourceFiles files templates glyph arguments = _ := (if_neg hlength).trans (if_neg hshort)
  rcases readArguments_cases arguments ⟨"", "", ""⟩ with ⟨options, rfl, hok⟩ | ⟨hnone, result, herror, hcode⟩
  · refine .inr (.inr ⟨options, ?_, rfl, ?_⟩)
    · rw [length_toArguments] at hshort
      omega
    · dsimp only
      rw [hrun, hok]
      dsimp only
      cases hread : files.readAsciiFile (lastPaths options ⟨"", "", ""⟩).protocolFilePath s with
      | error e t => exact .inl ⟨e, t, rfl, Program.bind_error hread⟩
      | ok text t =>
        refine .inr ⟨text, t, rfl, ?_⟩
        rw [Program.bind_ok hread]
        cases hparse : parseProtocolDefinition glyph text with
        | error e => exact .inl ⟨e, rfl, rfl⟩
        | ok protocol =>
          refine .inr ⟨protocol, rfl, ?_⟩
          have hlift : Program.lift (.ok protocol) t = (.ok protocol t : EStateM.Result Exception σ ProtocolDefinition) := rfl
          rw [Program.bind_ok hlift]
          cases hheader : files.writeAsciiFile (lastPaths options ⟨"", "", ""⟩).cppHeaderFilePath
            (templates.header (generateProtocolCppHeader protocol)) t with
          | error e u => exact .inl ⟨e, u, rfl, Program.bind_error hheader⟩
          | ok _ u =>
            refine .inr ⟨u, rfl, ?_⟩
            rw [Program.bind_ok hheader]
            cases hsource : files.writeAsciiFile (lastPaths options ⟨"", "", ""⟩).cppSourceFilePath
              (templates.source (generateProtocolCppSource protocol)) u with
            | error e v => exact .inl ⟨e, v, rfl, Program.bind_error hsource⟩
            | ok _ v => exact .inr ⟨v, rfl, Program.bind_ok hsource⟩
  · refine .inr (.inl ⟨hempty, fun options _ => hnone options, result, ?_, ?_⟩)
    · rw [hrun, herror]
      rfl
    · rintro hzero
      rw [hzero] at hcode
      simp at hcode

end Service

end Farseer
