import ByteMachine.CommandLine
import ByteMachine.Proofs.Calls
import ByteMachine.Proofs.Precedence
import ByteMachine.Proofs.Session

/-!
# Reports of a run

The command that runs a program on inputs given with it passes a few stages: its options and the
environment give a configuration, the file gives an image, and the image is run. Each stage is
described on its own. With a step limit the run comes to an end, and the command shows what the
program put out, whether it ended well or not. This is said of the command with any options that
are acceptable, and then of arguments from which such options are read.
-/

namespace ByteMachine

/-! ## Runs with a step limit -/

namespace Machine

variable {δ : Type} [Device δ] {machine : Machine δ}

theorem run_of_limit {maxSteps : Option Int} {steps : Int}
    (limited : machine.limit? maxSteps = some steps) :
    ∃ outcome : Outcome δ, ∀ supply, run supply maxSteps machine = outcome.result := by
  cases status : machine.status with
  | halted => exact ⟨.failed .alreadyHalted machine, run_of_halted status⟩
  | running =>
      have ending := exists_ending_of_limit steps machine
      rw [← limited] at ending
      obtain ⟨count, outcome, ends⟩ := exists_endsFirst ending
      refine ⟨outcome, fun supply => run_of_endsFirst status ends ?_⟩
      intro unlimited
      rw [limited] at unlimited
      cases unlimited

/-- A program with a step limit comes to an end, whatever the supply of steps. -/
theorem runProgram_of_limit {config : Config} (limited : config.maxSteps ≠ none) (device : δ)
    (image : List UInt8) :
    ∃ outcome : Outcome δ, ∀ supply,
      runProgram supply image none (start config device) = outcome.result := by
  obtain ⟨steps, limited⟩ := Option.ne_none_iff_exists'.mp limited
  cases loading : load image 0 (start config device) with
  | error fault refused =>
      refine ⟨.failed fault refused, fun supply => ?_⟩
      simp only [runProgram, bind, EStateM.bind, loading]
      rfl
  | ok _ loaded =>
      have idle := idle_load (start config device) image 0
      rw [loading] at idle
      have kept : loaded.config = config := idle.config
      have limit : loaded.limit? none = some (steps : Int) := by
        simp [limit?, kept, limited]
      obtain ⟨outcome, ran⟩ := run_of_limit limit
      refine ⟨outcome, fun supply => ?_⟩
      simp only [runProgram, bind, EStateM.bind, loading]
      exact ran supply

end Machine

namespace CommandLine

open Text

/-! ## Options that are accepted -/

/-- What is known of the options of a run that have been accepted, by whatever reads them. -/
structure RunOptions.Accepted (spotAt : String → Spot) (options : RunOptions) : Prop where
  /-- A memory can have the size. -/
  memorySize : ∀ cells, options.memorySize = some cells → 1 ≤ cells ∧ cells ≤ maxMemorySize
  /-- The step limit is not negative. -/
  maxSteps : ∀ steps, options.maxSteps = some steps → 0 ≤ steps
  /-- The program is in a file. -/
  program : ∃ content, spotAt options.program = .file content

/-! ## The configuration -/

/-- The configuration of a run. What an option says wins over what the environment says. -/
def effectiveConfig (environment : Environment) (options : RunOptions) : Config :=
  let base := (Config.ofEnvironment environment).1
  { variantName := (options.variant.map Variant.code).getD base.variantName
    variant := options.variant.getD base.variant
    named := by
      cases options.variant with
      | none => exact base.named
      | some variant => exact variant.ofName?_code
    memorySize := (options.memorySize.bind MemorySize.ofInt?).or base.memorySize
    strictOpcodes := base.strictOpcodes && !options.isLenient
    maxSteps := (options.maxSteps.map Int.toNat).or base.maxSteps }

/-- The settings of options that were accepted are valid. -/
theorem RunOptions.Accepted.valid {spotAt : String → Spot} {options : RunOptions}
    (accepted : options.Accepted spotAt) : options.settings.Valid where
  variant name chosen := by
    obtain ⟨variant, -, rfl⟩ := Option.map_eq_some_iff.mp chosen
    rw [variant.ofName?_code]
    rfl
  memorySize := accepted.memorySize
  maxSteps := accepted.maxSteps

/-- Options that were accepted are never refused as settings. -/
theorem override_settings {spotAt : String → Spot} {options : RunOptions}
    (accepted : options.Accepted spotAt) (environment : Environment) :
    (Config.ofEnvironment environment).1.override options.settings =
      .ok (effectiveConfig environment options) := by
  have strictness (strict : Bool) :
      (if options.isLenient then some false else none).getD strict =
        (strict && !options.isLenient) := by
    cases options.isLenient <;> simp
  rw [Config.override_of_valid _ accepted.valid]
  obtain ⟨program, isHex, variant, memorySize, maxSteps, inputs, isLenient, showsRegisters⟩ :=
    options
  simp only [Config.overridden, RunOptions.settings, strictness]
  cases variant with
  | none => rfl
  | some variant =>
      simp only [Option.map_some, Option.bind_some,
        Config.namedVariant?_of_named variant.ofName?_code]
      rfl

/-! ## The image -/

/-- The image that hexadecimal text in a file stands for, if it can be read. -/
def hexImage? (content : List UInt8) : Option (List UInt8) :=
  (decodeUtf8 content).toOption.bind fun text => (HexProgram.parseChars text).toOption

/-- The image that is to be run. -/
def programImage? (isHex : Bool) (content : List UInt8) : Option (List UInt8) :=
  if isHex then hexImage? content else some content

theorem programImage?_eq_none_iff {isHex : Bool} {content : List UInt8} :
    programImage? isHex content = none ↔ isHex = true ∧ hexImage? content = none := by
  cases isHex <;> simp [programImage?]

/-- Reading a program comes to its image, or to a bad value. -/
theorem readProgram_cases (isHex : Bool) (content : List UInt8) :
    (∃ image, programImage? isHex content = some image ∧
        readProgram isHex content = .ok image) ∨
      (programImage? isHex content = none ∧
        ∃ text, readProgram isHex content = .error (.badValue text)) := by
  cases isHex with
  | false => exact Or.inl ⟨content, rfl, rfl⟩
  | true =>
      simp only [programImage?, hexImage?, readProgram, ↓reduceIte]
      cases decodeUtf8 content with
      | error failure => exact Or.inr ⟨rfl, _, rfl⟩
      | ok text =>
          simp only [Except.toOption, Option.bind_some]
          cases HexProgram.parseChars text with
          | error problem => exact Or.inr ⟨rfl, _, rfl⟩
          | ok image => exact Or.inl ⟨image, rfl, rfl⟩

/-! ## The report -/

/-- A report tells how a run has ended, what the program has put out and, where this is asked for,
what the registers hold. -/
structure Tells (showsRegisters : Bool) (ran : ByteMachine.Outcome Scripted) (report : Outcome) :
    Prop where
  /-- The exit code is one after a fault. -/
  exitCode_one : report.exitCode = 1 ↔ ∃ fault final, ran = .failed fault final
  /-- The exit code is zero after an event. -/
  exitCode_zero : report.exitCode = 0 ↔ ∃ event final, ran = .stopped event final
  /-- Each output stands on a line of its own, in order. After an event the registers may follow,
  and nothing else does. -/
  output : report.output = unlines (ran.machine.device.outputs.map toString) ++
    if report.exitCode = 0 ∧ showsRegisters = true then registerLine ran.machine ++ "\n" else ""

theorem tells_runOn (isVerbose showsRegisters : Bool) (log : List LogRecord) {supply : Nat}
    {image : List UInt8} {machine : Machine Scripted} {ran : ByteMachine.Outcome Scripted}
    (runs : Machine.runProgram supply image none machine = ran.result) :
    Tells showsRegisters ran (runOn isVerbose showsRegisters supply log
      (fun device : Scripted => unlines (device.outputs.map toString)) machine image) := by
  cases ran with
  | stopped event final =>
      rw [runOn, runs]
      exact ⟨by simp [Outcome.result], by simp [Outcome.result],
        by simp [Outcome.result, Outcome.machine]⟩
  | failed fault final =>
      rw [runOn, runs]
      exact ⟨by simp [Outcome.result, Trouble.report], by simp [Outcome.result, Trouble.report],
        by simp [Outcome.result, Outcome.machine, Trouble.report]⟩

/-- A report that tells of a run has one of these two exit codes. -/
theorem Tells.exitCode_lt {showsRegisters : Bool} {ran : ByteMachine.Outcome Scripted}
    {report : Outcome} (tells : Tells showsRegisters ran report) : report.exitCode < 2 := by
  cases ran with
  | stopped event final =>
      have := tells.exitCode_zero.mpr ⟨event, final, rfl⟩
      omega
  | failed fault final =>
      have := tells.exitCode_one.mpr ⟨fault, final, rfl⟩
      omega

section Command

variable {surroundings : Surroundings} {options : RunOptions} {content : List UInt8}

theorem runCommand_of_refused (isVerbose : Bool) {text : String}
    (accepted : options.Accepted surroundings.spotAt)
    (stands : surroundings.spotAt options.program = .file content)
    (refused : readProgram options.isHex content = .error (.badValue text)) :
    (runCommand surroundings isVerbose options).exitCode = 2 ∧
      (runCommand surroundings isVerbose options).output = "" := by
  simp only [runCommand, override_settings accepted, programContent, stands, refused]
  exact ⟨rfl, rfl⟩

theorem runCommand_of_image (isVerbose : Bool) {image : List UInt8}
    (accepted : options.Accepted surroundings.spotAt)
    (stands : surroundings.spotAt options.program = .file content)
    (read : readProgram options.isHex content = .ok image) (scripted : options.inputs ≠ []) :
    ∃ log, runCommand surroundings isVerbose options =
      runOn isVerbose options.showsRegisters surroundings.supply log
        (fun device : Scripted => unlines (device.outputs.map toString))
        (Machine.start (effectiveConfig surroundings.environment options)
          (Scripted.ofInputs (options.inputs.map .number))) image := by
  simp only [runCommand, override_settings accepted, programContent, stands, read,
    List.isEmpty_iff, if_neg scripted]
  exact ⟨_, rfl⟩

/-- A report on a run of the program in a file is true to it. A file that should be hexadecimal text
and cannot be read as such is refused without any output. Otherwise the run comes to an end, and the
report tells of it. -/
structure Faithful (environment : Environment) (options : RunOptions) (content : List UInt8)
    (report : Outcome) : Prop where
  /-- The exit code is two just when the file is refused. -/
  exitCode_two : report.exitCode = 2 ↔ options.isHex = true ∧ hexImage? content = none
  /-- Nothing is put out then. -/
  output_empty : report.exitCode = 2 → report.output = ""
  /-- The exit code is never three. -/
  exitCode_ne_three : report.exitCode ≠ 3
  /-- The image in the file is run to an end of which the report tells. -/
  tells : ∀ image, programImage? options.isHex content = some image →
    ∃ ran : ByteMachine.Outcome Scripted,
      (∀ supply, Machine.runProgram supply image none
        (Machine.start (effectiveConfig environment options)
          (Scripted.ofInputs (options.inputs.map .number))) = ran.result) ∧
      Tells options.showsRegisters ran report

/-- With accepted options, the command that runs a program on inputs given with it reports the run
as it was. The step limit sees to it that the run comes to an end. -/
theorem runCommand_faithful (isVerbose : Bool) (accepted : options.Accepted surroundings.spotAt)
    (stands : surroundings.spotAt options.program = .file content) (scripted : options.inputs ≠ [])
    (limited : (effectiveConfig surroundings.environment options).maxSteps ≠ none) :
    Faithful surroundings.environment options content
      (runCommand surroundings isVerbose options) := by
  obtain ⟨image, imaged, read⟩ | ⟨unimaged, text, refused⟩ :=
    readProgram_cases options.isHex content
  · obtain ⟨log, same⟩ := runCommand_of_image isVerbose accepted stands read scripted
    obtain ⟨ran, runs⟩ := Machine.runProgram_of_limit limited
      (Scripted.ofInputs (options.inputs.map .number)) image
    have tells := tells_runOn isVerbose options.showsRegisters log (runs surroundings.supply)
    rw [← same] at tells
    have low := tells.exitCode_lt
    refine ⟨?_, by omega, by omega, ?_⟩
    · rw [← programImage?_eq_none_iff]
      simp [imaged, Nat.ne_of_lt low]
    · intro other also
      rw [imaged] at also
      cases also
      exact ⟨ran, runs, tells⟩
  · obtain ⟨code, output⟩ := runCommand_of_refused isVerbose accepted stands refused
    refine ⟨?_, fun _ => output, by simp [code], ?_⟩
    · rw [← programImage?_eq_none_iff]
      simp [code, unimaged]
    · intro image imaged
      rw [unimaged] at imaged
      cases imaged

end Command

/-! ## Options that are read from arguments -/

theorem readLast_ok {β : Type} {parsed : Parsed CommandSwitch} {key : CommandSwitch}
    {name : String} {read? : String → Option β} {value : Option β} {meaning : β}
    (accepted : readLast parsed key name read? = .ok value) (given : value = some meaning) :
    ∃ text, read? text = some meaning := by
  unfold readLast at accepted
  split at accepted
  · cases accepted
    cases given
  · split at accepted
    · rename_i text _ _ _ understood
      cases accepted
      cases given
      exact ⟨text, understood⟩
    · cases accepted

theorem integerIf?_some {test : Int → Bool} {text : String} {number : Int}
    (read : integerIf? test text = some number) : test number = true :=
  (Option.filter_eq_some_iff.mp read).2

theorem filePath_ok {spotAt : String → Spot} {path found : String}
    (accepted : filePath spotAt path = .ok found) : ∃ content, spotAt found = .file content := by
  unfold filePath at accepted
  split at accepted
  · cases accepted
  · split at accepted
    · rename_i content stands
      cases accepted
      exact ⟨content, stands⟩
    · cases accepted
    · cases accepted

theorem programPath_ok {spotAt : String → Spot} {plain : List String} {found : String}
    (accepted : programPath spotAt plain = .ok found) :
    ∃ content, spotAt found = .file content := by
  unfold programPath at accepted
  split at accepted
  · cases accepted
  · exact filePath_ok accepted
  · obtain ⟨_, _, absurdity⟩ := exists_of_bind accepted
    cases absurdity

theorem accepted_of_parseRun {spotAt : String → Spot} {arguments : List String}
    {options : RunOptions} (read : parseRun spotAt arguments = .ok options) :
    options.Accepted spotAt := by
  obtain ⟨parsed, _, read⟩ := exists_of_bind read
  obtain ⟨variant, _, read⟩ := exists_of_bind read
  obtain ⟨memorySize, sized, read⟩ := exists_of_bind read
  obtain ⟨maxSteps, limited, read⟩ := exists_of_bind read
  obtain ⟨inputs, _, read⟩ := exists_of_bind read
  obtain ⟨program, found, read⟩ := exists_of_bind read
  cases read
  refine ⟨?_, ?_, programPath_ok found⟩
  · intro cells given
    obtain ⟨text, understood⟩ := readLast_ok sized given
    simpa using integerIf?_some understood
  · intro steps given
    obtain ⟨text, understood⟩ := readLast_ok limited given
    simpa using integerIf?_some understood

theorem parseRun_of_command {spotAt : String → Spot} {name : String} {arguments : List String}
    {options : RunOptions} (read : parseCommand spotAt name arguments = .ok (.run options)) :
    parseRun spotAt arguments = .ok options := by
  unfold parseCommand at read
  split at read
  · obtain ⟨found, understood, same⟩ := exists_of_map read
    cases same
    exact understood
  · obtain ⟨_, _, absurdity⟩ := exists_of_map read
    cases absurdity
  · obtain ⟨_, _, absurdity⟩ := exists_of_map read
    cases absurdity
  · cases read

theorem parseRun_of_invocation {spotAt : String → Spot} {arguments : List String}
    {isVerbose : Bool} {options : RunOptions}
    (read : parseInvocation spotAt arguments = .ok ⟨isVerbose, .run options⟩) :
    ∃ rest, parseRun spotAt rest = .ok options := by
  obtain ⟨parsed, _, read⟩ := exists_of_bind read
  split at read
  · cases read
  · split at read
    · cases read
    · rename_i name rest _
      split at read
      · rename_i command understood
        cases read
        exact ⟨rest, parseRun_of_command understood⟩
      · obtain ⟨again, _, read⟩ := exists_of_bind read
        split at read
        · cases read
        · cases read
      · cases read

/-- Arguments that ask for a program to be run on inputs given with it lead to a faithful report.
The command refuses only a file that should be hexadecimal text and cannot be read as such.
Otherwise the step limit sees to it that the run comes to an end, and the report tells of it. -/
theorem run_reported_faithfully (surroundings : Surroundings) (arguments : List String)
    (isVerbose : Bool) (options : RunOptions)
    (understood : parseInvocation surroundings.spotAt arguments = .ok ⟨isVerbose, .run options⟩)
    (scripted : options.inputs ≠ [])
    (limited : (effectiveConfig surroundings.environment options).maxSteps ≠ none) :
    ∃ content report, surroundings.spotAt options.program = .file content ∧
      execute surroundings arguments = .ok report ∧
      (report.exitCode = 2 ↔ options.isHex = true ∧ hexImage? content = none) ∧
      (report.exitCode = 2 → report.output = "") ∧
      report.exitCode ≠ 3 ∧
      ∀ image, programImage? options.isHex content = some image →
        ∃ ran : ByteMachine.Outcome Scripted,
          (∀ supply, Machine.runProgram supply image none
            (Machine.start (effectiveConfig surroundings.environment options)
              (Scripted.ofInputs (options.inputs.map .number))) = ran.result) ∧
          Tells options.showsRegisters ran report := by
  obtain ⟨rest, read⟩ := parseRun_of_invocation understood
  have accepted := accepted_of_parseRun read
  obtain ⟨content, stands⟩ := accepted.program
  have faithful := runCommand_faithful isVerbose accepted stands scripted limited
  refine ⟨content, runCommand surroundings isVerbose options, stands, ?_, faithful.exitCode_two,
    faithful.output_empty, faithful.exitCode_ne_three, faithful.tells⟩
  rw [execute, understood]
  rfl

/-- Surroundings with one file. Its program puts out an input and then meets a byte that is no
opcode. -/
def faulty : Surroundings where
  spotAt path := if path = "p" then .file [0x01, 0x02, 0xEE] else .vacant
  environment := [("BYTEVM_VARIANT", "BYTE"), ("BYTEVM_MAX_STEPS", "9")]
  input := ""
  supply := 0

/-- Arguments that ask for the program to be run. -/
def faultyArguments : List String := ["run", "--memory-size", "3", "-i", "5", "--registers", "p"]

/-- The options in these arguments. -/
def faultyOptions : RunOptions := ⟨"p", false, none, some 3, none, [5], false, true⟩

/-- What is put out before a fault is shown, and no registers follow. -/
theorem run_reported_faithfully_before_fault :
    ∃ report, execute faulty faultyArguments = .ok report ∧ report.exitCode = 1 ∧
      report.output = "5\n" := by
  have known : faulty.spotAt faultyOptions.program = .file [0x01, 0x02, 0xEE] := by decide +kernel
  obtain ⟨content, report, stands, executed, -, -, -, told⟩ :=
    run_reported_faithfully faulty faultyArguments false faultyOptions (by decide +kernel)
      (by decide) (by decide +kernel)
  rw [known] at stands
  cases stands
  obtain ⟨ran, runs, tells⟩ := told [0x01, 0x02, 0xEE] rfl
  have answer : answerOf ran.result = .error (.unknownOpcode 0xEE (some 2)) := by
    rw [← runs 0]
    decide +kernel
  have outputs : (stateOf ran.result).device.outputs = [5] := by
    rw [← runs 0]
    decide +kernel
  cases ran with
  | stopped event final => cases answer
  | failed fault final =>
      have code := tells.exitCode_one.mpr ⟨fault, final, rfl⟩
      have shown : (Outcome.failed fault final).machine.device.outputs = [5] := outputs
      refine ⟨report, executed, code, ?_⟩
      rw [tells.output, code, shown, if_neg (by decide)]
      decide

end CommandLine

end ByteMachine
