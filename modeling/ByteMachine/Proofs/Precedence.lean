import ByteMachine.Config.Environment
import ByteMachine.Proofs.Reading

/-!
# Precedence of settings

Each field of a configuration comes from one place: the setting that is made for it, or else the
value of its own environment variable if that is valid, or else the standard configuration. Settings
are refused just when one of them is not valid, and settings that are made after others count before
them.
-/

namespace ByteMachine

/-! ## Settings -/

namespace Settings

/-- Settings that are accepted. -/
structure Valid (settings : Settings) : Prop where
  /-- The name selects a variant. -/
  variant : ∀ name, settings.variant = some name → (Variant.ofName? name).isSome = true
  /-- A memory can have the size. -/
  memorySize : ∀ cells, settings.memorySize = some cells → 1 ≤ cells ∧ cells ≤ maxMemorySize
  /-- The step limit is not negative. -/
  maxSteps : ∀ steps, settings.maxSteps = some steps → 0 ≤ steps

/-- The newer settings, and the older ones where the newer leave something open. -/
def updatedWith (older newer : Settings) : Settings where
  variant := newer.variant.or older.variant
  memorySize := newer.memorySize.or older.memorySize
  strictOpcodes := newer.strictOpcodes.or older.strictOpcodes
  maxSteps := newer.maxSteps.or older.maxSteps

variable {older newer : Settings}

theorem Valid.updatedWith (valid_older : older.Valid) (valid_newer : newer.Valid) :
    (older.updatedWith newer).Valid where
  variant name chosen := by
    rcases Option.or_eq_some_iff.mp chosen with new | ⟨-, old⟩
    · exact valid_newer.variant name new
    · exact valid_older.variant name old
  memorySize cells chosen := by
    rcases Option.or_eq_some_iff.mp chosen with new | ⟨-, old⟩
    · exact valid_newer.memorySize cells new
    · exact valid_older.memorySize cells old
  maxSteps steps chosen := by
    rcases Option.or_eq_some_iff.mp chosen with new | ⟨-, old⟩
    · exact valid_newer.maxSteps steps new
    · exact valid_older.maxSteps steps old

end Settings

/-! ## Overriding -/

theorem MemorySize.ofInt?_of_valid {cells : Int} (valid : 1 ≤ cells ∧ cells ≤ maxMemorySize) :
    ∃ size, ofInt? cells = some size ∧ (size.cells : Int) = cells := by
  refine ⟨_, dif_pos valid, ?_⟩
  exact Int.toNat_of_nonneg (by omega)

namespace Config

/-- A configuration written as settings. -/
def settings (config : Config) : Settings where
  variant := some config.variantName
  memorySize := config.memorySize.map fun size => (size.cells : Int)
  strictOpcodes := some config.strictOpcodes
  maxSteps := config.maxSteps.map fun steps => (steps : Int)

/-- The configuration that valid settings lead to. -/
def overridden (config : Config) (settings : Settings) : Config :=
  let chosen := (settings.variant.bind namedVariant?).getD config.namedVariant
  { variantName := chosen.name
    variant := chosen.variant
    named := chosen.named
    memorySize := (settings.memorySize.bind MemorySize.ofInt?).or config.memorySize
    strictOpcodes := settings.strictOpcodes.getD config.strictOpcodes
    maxSteps := (settings.maxSteps.map Int.toNat).or config.maxSteps }

theorem applyIfSet_ok {α : Type} {choose : Config → α → Except Problem Config}
    {setting : Option α} {config result : Config}
    (accepted : applyIfSet choose setting config = .ok result) {value : α}
    (chosen : setting = some value) : choose config value = .ok result := by
  rw [chosen] at accepted
  exact accepted

section Override

variable {config : Config} {settings : Settings}

theorem isSome_namedVariant? (name : String) :
    (namedVariant? name).isSome = (Variant.ofName? name).isSome := by
  unfold namedVariant?
  split <;> simp [*]

theorem namedVariant?_of_named {name : String} {variant : Variant}
    (named : Variant.ofName? name = some variant) :
    namedVariant? name = some ⟨name, variant, named⟩ := by
  unfold namedVariant?
  split
  · rename_i other also
    cases named.symm.trans also
    rfl
  · rename_i unnamed
    rw [named] at unnamed
    cases unnamed

theorem withVariant_ok {result : Config} {name : String}
    (accepted : config.withVariant name = .ok result) :
    (Variant.ofName? name).isSome = true := by
  unfold withVariant at accepted
  split at accepted
  · rename_i chosen selected
    rw [← isSome_namedVariant?, selected, Option.isSome_some]
  · cases accepted

theorem withMemorySize_ok {result : Config} {cells : Int}
    (accepted : config.withMemorySize cells = .ok result) :
    1 ≤ cells ∧ cells ≤ maxMemorySize := by
  by_contra invalid
  rw [withMemorySize, MemorySize.ofInt?, dif_neg invalid] at accepted
  cases accepted

theorem withMaxSteps_ok {result : Config} {steps : Int}
    (accepted : config.withMaxSteps steps = .ok result) : 0 ≤ steps := by
  by_contra invalid
  rw [withMaxSteps, if_neg invalid] at accepted
  cases accepted

theorem valid_of_override {result : Config} (accepted : config.override settings = .ok result) :
    settings.Valid := by
  obtain ⟨named, chosen, accepted⟩ := exists_of_bind accepted
  obtain ⟨sized, measured, accepted⟩ := exists_of_bind accepted
  obtain ⟨limited, counted, -⟩ := exists_of_bind accepted
  exact
    { variant := fun _ given => withVariant_ok (applyIfSet_ok chosen given)
      memorySize := fun _ given => withMemorySize_ok (applyIfSet_ok measured given)
      maxSteps := fun _ given => withMaxSteps_ok (applyIfSet_ok counted given) }

theorem applyIfSet_withVariant {setting : Option String} (config : Config)
    (valid : ∀ name, setting = some name → (Variant.ofName? name).isSome = true) :
    applyIfSet withVariant setting config =
      .ok { config with
        variantName := ((setting.bind namedVariant?).getD config.namedVariant).name
        variant := ((setting.bind namedVariant?).getD config.namedVariant).variant
        named := ((setting.bind namedVariant?).getD config.namedVariant).named } := by
  cases setting with
  | none => rfl
  | some name =>
      obtain ⟨variant, named⟩ := Option.isSome_iff_exists.mp (valid name rfl)
      simp [applyIfSet, withVariant, namedVariant?_of_named named]

theorem applyIfSet_withMemorySize {setting : Option Int} (config : Config)
    (valid : ∀ cells, setting = some cells → 1 ≤ cells ∧ cells ≤ maxMemorySize) :
    applyIfSet withMemorySize setting config =
      .ok { config with memorySize := (setting.bind MemorySize.ofInt?).or config.memorySize } := by
  cases setting with
  | none => rfl
  | some cells =>
      obtain ⟨size, measured, -⟩ := MemorySize.ofInt?_of_valid (valid cells rfl)
      simp [applyIfSet, withMemorySize, measured]

theorem applyIfSet_withMaxSteps {setting : Option Int} (config : Config)
    (valid : ∀ steps, setting = some steps → 0 ≤ steps) :
    applyIfSet withMaxSteps setting config =
      .ok { config with maxSteps := (setting.map Int.toNat).or config.maxSteps } := by
  cases setting with
  | none => rfl
  | some steps => simp [applyIfSet, withMaxSteps, valid steps rfl]

/-- Valid settings are never refused. -/
theorem override_of_valid (config : Config) (valid : settings.Valid) :
    config.override settings = .ok (config.overridden settings) := by
  simp only [override, applyIfSet_withVariant _ valid.variant, bind, Except.bind,
    applyIfSet_withMemorySize _ valid.memorySize, applyIfSet_withMaxSteps _ valid.maxSteps]
  rfl

theorem override_error_iff :
    (∃ problem, config.override settings = .error problem) ↔ ¬settings.Valid := by
  constructor
  · rintro ⟨problem, refused⟩ valid
    rw [override_of_valid config valid] at refused
    cases refused
  · intro invalid
    cases result : config.override settings with
    | error problem => exact ⟨problem, rfl⟩
    | ok accepted => exact absurd (valid_of_override result) invalid

/-- Each setting that is made stands in the configuration, and what is left open stays. -/
theorem settings_overridden (config : Config) (valid : settings.Valid) :
    (config.overridden settings).settings = config.settings.updatedWith settings := by
  obtain ⟨variant, memorySize, strictOpcodes, maxSteps⟩ := settings
  have sized : ((memorySize.bind MemorySize.ofInt?).or config.memorySize).map
      (fun size => (size.cells : Int)) =
        memorySize.or (config.memorySize.map fun size => (size.cells : Int)) := by
    cases memorySize with
    | none => rfl
    | some cells =>
        obtain ⟨size, measured, same⟩ := MemorySize.ofInt?_of_valid (valid.memorySize cells rfl)
        simp [measured, same]
  have limited : ((maxSteps.map Int.toNat).or config.maxSteps).map (fun steps => (steps : Int)) =
      maxSteps.or (config.maxSteps.map fun steps => (steps : Int)) := by
    cases maxSteps with
    | none => rfl
    | some steps => simp [Int.toNat_of_nonneg (valid.maxSteps steps rfl)]
  have chosen : ((variant.bind namedVariant?).getD config.namedVariant).name =
      variant.getD config.variantName := by
    cases variant with
    | none => rfl
    | some name =>
        obtain ⟨selection, named⟩ := Option.isSome_iff_exists.mp (valid.variant name rfl)
        simp [namedVariant?_of_named named]
  simp only [overridden, Config.settings, Settings.updatedWith, sized, limited, chosen]
  cases variant <;> cases strictOpcodes <;> rfl

/-- A newer value that can be read counts before an older one. -/
theorem bind_or_bind {α β : Type} {read? : α → Option β} {newer : Option α}
    (readable : ∀ value, newer = some value → (read? value).isSome = true) (older : Option α) :
    (newer.bind read?).or (older.bind read?) = (newer.or older).bind read? := by
  cases newer with
  | none => rfl
  | some value => exact Option.or_of_isSome (readable value rfl)

/-- Newer settings that are valid count before older ones. -/
theorem overridden_overridden (config : Config) (older : Settings) {newer : Settings}
    (valid : newer.Valid) :
    (config.overridden older).overridden newer = config.overridden (older.updatedWith newer) := by
  -- A newer value that could not be read would let the older one through here, but not at once.
  have selectable (name : String) (chosen : newer.variant = some name) :
      (namedVariant? name).isSome = true := by
    rw [isSome_namedVariant?]
    exact valid.variant name chosen
  have selected := bind_or_bind selectable older.variant
  have measurable (cells : Int) (chosen : newer.memorySize = some cells) :
      (MemorySize.ofInt? cells).isSome = true := by
    obtain ⟨size, measured, -⟩ := MemorySize.ofInt?_of_valid (valid.memorySize cells chosen)
    rw [measured, Option.isSome_some]
  have sized := bind_or_bind measurable older.memorySize
  simp only [overridden, Settings.updatedWith, ← selected, ← sized, Option.getD_or,
    Option.or_assoc, Option.map_or]
  rfl

end Override

/-! ## The environment -/

/-- A field of a configuration. -/
inductive Field where
  | variant
  | memorySize
  | maxSteps
  | strictOpcodes
deriving DecidableEq

namespace Field

/-- The fields in the order in which their variables are read. -/
def all : List Field := [.variant, .memorySize, .maxSteps, .strictOpcodes]

/-- Name of the variable of a field. -/
def name : Field → String
  | variant => "BYTEVM_VARIANT"
  | memorySize => "BYTEVM_MEMORY_SIZE"
  | maxSteps => "BYTEVM_MAX_STEPS"
  | strictOpcodes => "BYTEVM_STRICT_OPCODES"

/-- A text is valid for a field. -/
def accepts : Field → String → Bool
  | variant, text => (Variant.ofName? text).isSome
  | memorySize, text => (Text.integer? .marked text).any fun cells =>
      1 ≤ cells ∧ cells ≤ (maxMemorySize : Int)
  | maxSteps, text => (Text.integer? .decimal text).any fun steps => 0 ≤ steps
  | strictOpcodes, text => (truthOfText? text).isSome

/-- The text that the variable of a field holds, if it is set and not empty. -/
def text? (field : Field) (environment : Environment) : Option String :=
  (environment.lookup field.name).filter fun text => text ≠ ""

/-- The text that the variable of a field holds, if it is valid. -/
def valid? (field : Field) (environment : Environment) : Option String :=
  (field.text? environment).filter field.accepts

/-- The warning about a text that is not valid. -/
def warning? (field : Field) (environment : Environment) : Option Warning :=
  ((field.text? environment).filter fun text => !field.accepts text).map (Warning.mk field.name)

theorem accepts_of_valid? {field : Field} {environment : Environment} {text : String}
    (found : field.valid? environment = some text) : field.accepts text = true :=
  (Option.filter_eq_some_iff.mp found).2

theorem name_injective {field other : Field} (same : field.name = other.name) : field = other := by
  cases field <;> cases other <;> first | rfl | exact absurd same (by decide)

/-- The variables of other fields are of no account. -/
theorem valid?_cons_of_ne {field other : Field} (different : field ≠ other) (text : String)
    (environment : Environment) :
    field.valid? ((other.name, text) :: environment) = field.valid? environment := by
  have apart : (field.name == other.name) = false := by
    rw [beq_eq_false_iff_ne]
    exact fun same => different (name_injective same)
  rw [valid?, text?, List.lookup_cons, apart]
  rfl

/-- A variable contributes its valid text, or a warning. -/
theorem contribution_eq {α : Type} (field : Field) {meaning? : String → Option α}
    (understood : ∀ text, (meaning? text).isSome = field.accepts text)
    (environment : Environment) :
    contribution environment field.name meaning? =
      ⟨(field.valid? environment).bind meaning?, (field.warning? environment).toList⟩ := by
  unfold contribution valid? warning? text?
  cases environment.lookup field.name with
  | none => rfl
  | some text =>
      by_cases empty : text = ""
      · simp [empty, Option.filter_some]
      · cases meant : meaning? text with
        | none =>
            have refused : field.accepts text = false := by
              rw [← understood, meant]
              rfl
            simp [empty, meant, refused, Option.filter_some]
        | some meaning =>
            have accepted : field.accepts text = true := by
              rw [← understood, meant]
              rfl
            simp [empty, meant, accepted, Option.filter_some]

end Field

/-- What an environment asks for. -/
def asked (environment : Environment) : Settings where
  variant := Field.variant.valid? environment
  memorySize := (Field.memorySize.valid? environment).bind (Text.integer? .marked)
  strictOpcodes := (Field.strictOpcodes.valid? environment).bind truthOfText?
  maxSteps := (Field.maxSteps.valid? environment).bind (Text.integer? .decimal)

theorem valid_asked (environment : Environment) : (asked environment).Valid where
  variant name found := by
    have accepted := Field.accepts_of_valid? found
    rwa [Field.accepts] at accepted
  memorySize cells found := by
    obtain ⟨text, given, read⟩ := Option.bind_eq_some_iff.mp found
    have accepted := Field.accepts_of_valid? given
    simpa [Field.accepts, read] using accepted
  maxSteps steps found := by
    obtain ⟨text, given, read⟩ := Option.bind_eq_some_iff.mp found
    have accepted := Field.accepts_of_valid? given
    simpa [Field.accepts, read] using accepted

section Understood

variable (text : String)

theorem isSome_memorySizeOfText? :
    (memorySizeOfText? text).isSome = Field.memorySize.accepts text := by
  rw [memorySizeOfText?, Field.accepts]
  cases Text.integer? .marked text with
  | none => rfl
  | some cells =>
      by_cases valid : 1 ≤ cells ∧ cells ≤ (maxMemorySize : Int)
      · rw [Option.bind_some, MemorySize.ofInt?, dif_pos valid, Option.any_some,
          decide_eq_true valid, Option.isSome_some]
      · rw [Option.bind_some, MemorySize.ofInt?, dif_neg valid, Option.any_some,
          decide_eq_false valid, Option.isSome_none]

theorem isSome_stepLimitOfText? :
    (stepLimitOfText? text).isSome = Field.maxSteps.accepts text := by
  rw [stepLimitOfText?, Field.accepts]
  cases Text.integer? .decimal text with
  | none => rfl
  | some steps =>
      by_cases valid : 0 ≤ steps
      · simp [valid]
      · simp [valid]

end Understood

section Meaning

variable (environment : Environment)

theorem memorySize_asked :
    (Field.memorySize.valid? environment).bind memorySizeOfText? =
      (standard.overridden (asked environment)).memorySize := by
  simp only [overridden, asked, Option.bind_assoc, standard, ofVariant, Option.or_none]
  rfl

theorem maxSteps_asked :
    (Field.maxSteps.valid? environment).bind stepLimitOfText? =
      (standard.overridden (asked environment)).maxSteps := by
  cases given : Field.maxSteps.valid? environment with
  | none => simp [overridden, asked, given, standard, ofVariant]
  | some text =>
      have accepted := Field.accepts_of_valid? given
      obtain ⟨steps, read, nonneg⟩ := (Option.any_eq_true _ _).mp accepted
      simp [overridden, asked, given, standard, stepLimitOfText?, read, of_decide_eq_true nonneg]

/-- The configuration of an environment is the standard one with what the environment asks for. -/
theorem ofEnvironment_eq :
    ofEnvironment environment =
      (standard.overridden (asked environment),
        Field.all.filterMap fun field => field.warning? environment) := by
  have variant := Field.variant.contribution_eq isSome_namedVariant? environment
  have size := Field.memorySize.contribution_eq isSome_memorySizeOfText? environment
  have steps := Field.maxSteps.contribution_eq isSome_stepLimitOfText? environment
  have strict := Field.strictOpcodes.contribution_eq (fun _ => rfl) environment
  simp only [Field.name] at variant size steps strict
  simp only [ofEnvironment, variant, size, steps, strict, memorySize_asked, maxSteps_asked,
    List.filterMap_eq_flatMap_toList, Field.all, List.flatMap_cons, List.flatMap_nil,
    List.append_nil, List.append_assoc]
  rfl

end Meaning

/-- The fields of a configuration from an environment and settings. Valid settings are never
refused, and each field is the setting, or else what its own variable holds if that is set, not
empty and valid, or else the standard value. There is one warning about each variable that holds a
text that is not valid, and no other. Settings are refused just when one of them is not valid, and
to make settings one after the other is to make them at once, the later ones before the earlier. -/
theorem fields_by_precedence (environment : Environment) (settings : Settings) :
    (settings.Valid →
      ∃ config, (ofEnvironment environment).1.override settings = .ok config ∧
        Variant.ofName? config.variantName = some config.variant ∧
        config.settings =
          { variant := settings.variant.or
              ((Field.variant.valid? environment).or (some "WORD"))
            memorySize := settings.memorySize.or
              ((Field.memorySize.valid? environment).bind (Text.integer? .marked))
            strictOpcodes := settings.strictOpcodes.or
              (((Field.strictOpcodes.valid? environment).bind truthOfText?).or (some true))
            maxSteps := settings.maxSteps.or
              ((Field.maxSteps.valid? environment).bind (Text.integer? .decimal)) }) ∧
    (∀ (field other : Field) (text : String), field ≠ other →
      field.valid? ((other.name, text) :: environment) = field.valid? environment) ∧
    (ofEnvironment environment).2 =
      Field.all.filterMap (fun field => field.warning? environment) ∧
    (∀ config : Config, (∃ problem, config.override settings = .error problem) ↔
      ¬settings.Valid) ∧
    (∀ (config middle final : Config) (later : Settings),
      config.override settings = .ok middle → middle.override later = .ok final →
        config.override (settings.updatedWith later) = .ok final) := by
  refine ⟨?_, ?_, ?_, fun _ => override_error_iff, ?_⟩
  · intro valid
    rw [ofEnvironment_eq]
    refine ⟨_, override_of_valid _ valid, Config.named _, ?_⟩
    rw [settings_overridden _ valid, settings_overridden _ (valid_asked environment)]
    simp [Settings.updatedWith, asked, Config.settings, standard, ofVariant, Variant.code]
  · intro field other text different
    exact Field.valid?_cons_of_ne different text environment
  · rw [ofEnvironment_eq]
  · intro config middle final later first second
    have valid := valid_of_override first
    have valid_later := valid_of_override second
    rw [override_of_valid config valid] at first
    cases first
    rw [override_of_valid _ valid_later, overridden_overridden config settings valid_later]
      at second
    rw [override_of_valid config (valid.updatedWith valid_later)]
    exact second

/-- A limit of no steps counts before the variable for it, and a size of no cells is passed over. -/
theorem fields_by_precedence_at_zero :
    ∃ config, (ofEnvironment [("BYTEVM_VARIANT", " v1"), ("BYTEVM_MEMORY_SIZE", "0"),
        ("BYTEVM_MAX_STEPS", "9")]).1.override ⟨none, none, none, some 0⟩ = .ok config ∧
      config.settings = ⟨some " v1", none, some true, some 0⟩ := by
  have valid : Settings.Valid ⟨none, none, none, some 0⟩ :=
    ⟨nofun, nofun, fun _ given => Option.some.inj given ▸ Int.le_refl 0⟩
  obtain ⟨config, accepted, -, same⟩ := (fields_by_precedence
    [("BYTEVM_VARIANT", " v1"), ("BYTEVM_MEMORY_SIZE", "0"), ("BYTEVM_MAX_STEPS", "9")] _).1 valid
  refine ⟨config, accepted, same.trans ?_⟩
  decide +kernel

end Config

end ByteMachine
