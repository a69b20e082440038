import ByteMachine.Proofs.Hooks
import Mathlib.Data.List.DropRight
import Mathlib.Data.Set.Card

/-!
# Hooks and their history

What a debugger holds follows from what was asked of it, in order. An address carries a breakpoint,
or is watched, if the last demand that bears on it was to add it. A condition is numbered by the
conditions admitted before it, counted since everything was removed, and is listed until its number
is removed.
-/

namespace ByteMachine

/-! ## Increasing lists of numbers -/

section Increasing

variable {number : Int} {numbers : List Int}

theorem mem_insertIncreasing {other : Int} :
    other ∈ insertIncreasing number numbers ↔ other = number ∨ other ∈ numbers := by
  fun_induction insertIncreasing number numbers with
  | case1 => simp
  | case2 first rest before => simp
  | case3 rest => simp
  | case4 first rest _ _ ih =>
      rw [List.mem_cons, ih, List.mem_cons]
      exact or_left_comm

theorem pairwise_insertIncreasing (increasing : numbers.Pairwise (· < ·)) :
    (insertIncreasing number numbers).Pairwise (· < ·) := by
  fun_induction insertIncreasing number numbers with
  | case1 => exact List.pairwise_singleton _ _
  | case2 first rest before =>
      refine List.pairwise_cons.mpr ⟨?_, increasing⟩
      intro other member
      obtain rfl | member := List.mem_cons.mp member
      · exact before
      · exact before.trans (List.rel_of_pairwise_cons increasing member)
  | case3 rest => exact increasing
  | case4 first rest notBefore distinct ih =>
      refine List.pairwise_cons.mpr ⟨?_, ih increasing.of_cons⟩
      intro other member
      obtain rfl | member := mem_insertIncreasing.mp member
      · omega
      · exact List.rel_of_pairwise_cons increasing member

/-- An increasing list is as long as the set of its members is large. -/
theorem length_eq_ncard {members : Set Int} (increasing : numbers.Pairwise (· < ·))
    (mem_iff : ∀ other, other ∈ numbers ↔ other ∈ members) : numbers.length = members.ncard := by
  have distinct : numbers.Nodup := increasing.imp Int.ne_of_lt
  have same : (numbers.toFinset : Set Int) = members := by
    ext other
    rw [List.coe_toFinset]
    exact mem_iff other
  rw [← same, Set.ncard_coe_finset, List.toFinset_card_of_nodup distinct]

end Increasing

namespace Debugger

/-! ## Demands -/

/-- What a debugger can be asked: a change, a condition given by its text, or a check. -/
inductive Demand where
  | change (operation : Operation)
  | addConditionText (operand comparison : String) (constant : Constant) (description : String)
  | checkInstruction (file : RegisterFile) (pc : Int)
  | checkWrite (address value : Int)

/-- The debugger that a result leaves; without one it stays as it was. -/
def leftBy {ε α : Type} (debugger : Debugger) : Except ε (Debugger × α) → Debugger
  | .ok (changed, _) => changed
  | .error _ => debugger

/-- The debugger after a demand. One that is refused, or that has no answer, changes nothing. -/
def attend (debugger : Debugger) : Demand → Debugger
  | .change operation => debugger.perform operation
  | .addConditionText operand comparison constant description =>
    debugger.leftBy (debugger.addConditionText operand comparison constant description)
  | .checkInstruction file pc => debugger.leftBy (debugger.checkInstruction file pc)
  | .checkWrite address value => (debugger.checkWrite address value).1

/-- The debugger after demands that are made one after the other, from the first on. -/
def reach (variant : Option Variant) (demands : List Demand) : Debugger :=
  demands.foldl attend (empty variant)

/-- What adding a condition comes to, be it given as it is or by its text. -/
def addition? (debugger : Debugger) : Demand → Option (Except Condition.Problem (Debugger × Nat))
  | .change (.addCondition condition) => some (debugger.addCondition condition)
  | .addConditionText operand comparison constant description =>
    some (debugger.addConditionText operand comparison constant description)
  | _ => none

/-- What is told to one who adds a condition: its number, or why it is refused. -/
def reply? (debugger : Debugger) (demand : Demand) : Option (Except Condition.Problem Nat) :=
  (debugger.addition? demand).map fun result => result.map Prod.snd

theorem reach_concat (variant : Option Variant) (demands : List Demand) (demand : Demand) :
    reach variant (demands ++ [demand]) = (reach variant demands).attend demand := by
  simp [reach]

/-- A check changes nothing but the event found last and the request to break. -/
theorem checkInstruction_frame {debugger checked : Debugger} {file : RegisterFile} {pc : Int}
    {found : Option Event} (answered : debugger.checkInstruction file pc = .ok (checked, found)) :
    ∃ event requested,
      checked = { debugger with lastEvent := event, breakRequested := requested } := by
  obtain ⟨-, rfl, -⟩ | ⟨-, ⟨-, rfl, -⟩ | ⟨_, rfl, -⟩ | ⟨-, rfl, -⟩⟩ :=
    checkInstruction_cases answered
  all_goals exact ⟨_, _, rfl⟩

/-! ## Sets of addresses -/

/-- What a demand does to a set of addresses. -/
inductive Edit where
  /-- An address is added. -/
  | insert (address : Int)
  /-- An address is removed. -/
  | erase (address : Int)
  /-- Every address is removed. -/
  | clear
  /-- The set stays as it is. -/
  | keep

namespace Edit

/-- Whether an address is in the set after an edit that bears on it. -/
def verdict? (address : Int) : Edit → Option Bool
  | .insert other => if other = address then some true else none
  | .erase other => if other = address then some false else none
  | .clear => some false
  | .keep => none

/-- An edit of the increasing list of the addresses. -/
def apply (addresses : List Int) : Edit → List Int
  | .insert address => insertIncreasing address addresses
  | .erase address => addresses.filter (· != address)
  | .clear => []
  | .keep => addresses

theorem mem_apply {address : Int} {addresses : List Int} (edit : Edit) :
    address ∈ edit.apply addresses ↔
      edit.verdict? address = some true ∨ edit.verdict? address = none ∧ address ∈ addresses := by
  cases edit with
  | insert other =>
      rw [apply, mem_insertIncreasing, verdict?]
      obtain rfl | distinct := eq_or_ne other address
      · simp
      · simp [distinct, distinct.symm]
  | erase other =>
      rw [apply, List.mem_filter, verdict?]
      obtain rfl | distinct := eq_or_ne other address
      · simp
      · simp [distinct, distinct.symm]
  | clear => simp [apply, verdict?]
  | keep => simp [apply, verdict?]

theorem pairwise_apply {addresses : List Int} (increasing : addresses.Pairwise (· < ·))
    (edit : Edit) : (edit.apply addresses).Pairwise (· < ·) := by
  cases edit with
  | insert address => exact pairwise_insertIncreasing increasing
  | erase address => exact increasing.filter _
  | clear => exact List.Pairwise.nil
  | keep => exact increasing

/-- The list after edits that are made one after the other, from the first on. -/
def applyAll (edits : List Edit) : List Int := edits.foldl apply []

theorem applyAll_concat (edits : List Edit) (edit : Edit) :
    applyAll (edits ++ [edit]) = edit.apply (applyAll edits) := by
  simp [applyAll]

/-- The last edit that bears on an address decides. -/
theorem mem_applyAll {address : Int} (edits : List Edit) :
    address ∈ applyAll edits ↔ (edits.filterMap (verdict? address)).getLast? = some true := by
  induction edits using List.reverseRecOn with
  | nil => simp [applyAll]
  | append_singleton edits edit ih =>
      rw [applyAll_concat, mem_apply, ih, List.filterMap_append]
      cases bears : edit.verdict? address with
      | none => simp [bears]
      | some verdict => simp [bears]

theorem pairwise_applyAll (edits : List Edit) : (applyAll edits).Pairwise (· < ·) := by
  induction edits using List.reverseRecOn with
  | nil => exact List.Pairwise.nil
  | append_singleton edits edit ih =>
      rw [applyAll_concat]
      exact edit.pairwise_apply ih

end Edit

/-- What a demand does to the breakpoints. They stand at addresses reduced modulo 256. -/
def Demand.breakpointEdit : Demand → Edit
  | .change (.addBreakpoint address) => .insert (address % 256)
  | .change (.removeBreakpoint address) => .erase (address % 256)
  | .change .clearAll => .clear
  | _ => .keep

/-- What a demand does to the watched addresses, which can be any integers. -/
def Demand.watchEdit : Demand → Edit
  | .change (.addWatchpoint address) => .insert address
  | .change (.removeWatchpoint address) => .erase address
  | .change .clearAll => .clear
  | _ => .keep

/-! ## Conditions -/

/-- The condition that a demand offers to the debugger. -/
def Demand.offer? : Demand → Option Condition
  | .change (.addCondition condition) => some condition
  | .addConditionText operand comparison constant description =>
    (Condition.parse operand comparison constant description).toOption
  | _ => none

/-- The variant, if there is one, has all registers that a condition reads. -/
def isAdmissible (variant : Option Variant) (condition : Condition) : Bool :=
  variant.all fun known => condition.operand.registers.all fun register => known.has register

/-- The condition that a demand adds. -/
def Demand.admits? (variant : Option Variant) (demand : Demand) : Option Condition :=
  demand.offer?.filter (isAdmissible variant)

/-- A demand removes everything. -/
def Demand.clears : Demand → Bool
  | .change .clearAll => true
  | _ => false

/-- The conditions that were added since everything was removed last, in order. -/
def admissions (variant : Option Variant) (demands : List Demand) : List Condition :=
  (demands.rtakeWhile fun demand => !demand.clears).filterMap (Demand.admits? variant)

/-- A condition was added as the one with a number, and nothing that was asked after that has
removed it. -/
def Stands (variant : Option Variant) (demands : List Demand) (number : Nat)
    (condition : Condition) : Prop :=
  ∃ earlier demand later, demands = earlier ++ demand :: later ∧
    demand.admits? variant = some condition ∧ (admissions variant earlier).length = number ∧
    ∀ other ∈ later, other.clears = false ∧ other ≠ .change (.removeCondition number)

section Conditions

variable {variant : Option Variant} {debugger : Debugger} {demand : Demand}
  {condition : Condition}

theorem missingRegisters_eq_nil_iff :
    missingRegisters variant condition = [] ↔ isAdmissible variant condition = true := by
  cases variant with
  | none => simp [missingRegisters, isAdmissible]
  | some known => simp [missingRegisters, isAdmissible]

theorem addCondition_of_admissible
    (admissible : isAdmissible debugger.variant condition = true) :
    debugger.addCondition condition =
      .ok ({ debugger with conditions := debugger.conditions ++ [some condition] },
        debugger.conditions.length) := by
  rw [addCondition, missingRegisters_eq_nil_iff.mpr admissible]

theorem addCondition_of_inadmissible
    (inadmissible : isAdmissible debugger.variant condition = false) :
    ∃ problem, debugger.addCondition condition = .error problem := by
  cases missing : missingRegisters debugger.variant condition with
  | nil =>
      rw [missingRegisters_eq_nil_iff, inadmissible] at missing
      cases missing
  | cons register others =>
      rw [addCondition, missing]
      exact ⟨_, rfl⟩

theorem addition?_of_admits (admitted : demand.admits? debugger.variant = some condition) :
    debugger.addition? demand =
      some (.ok ({ debugger with conditions := debugger.conditions ++ [some condition] },
        debugger.conditions.length)) := by
  obtain ⟨offered, admissible⟩ := Option.filter_eq_some_iff.mp admitted
  unfold Demand.offer? at offered
  split at offered
  · cases offered
    rw [addition?, addCondition_of_admissible admissible]
  · rename_i operand comparison constant description
    cases parsed : Condition.parse operand comparison constant description with
    | error problem =>
        rw [parsed] at offered
        cases offered
    | ok known =>
        rw [parsed] at offered
        cases offered
        rw [addition?, addConditionText, parsed]
        exact congrArg some (addCondition_of_admissible admissible)
  · cases offered

theorem addition?_of_not_admits {result : Except Condition.Problem (Debugger × Nat)}
    (unadmitted : demand.admits? debugger.variant = none)
    (asked : debugger.addition? demand = some result) : ∃ problem, result = .error problem := by
  unfold addition? at asked
  split at asked
  · rename_i offered
    cases asked
    exact addCondition_of_inadmissible (by simpa [Demand.admits?, Demand.offer?] using unadmitted)
  · rename_i operand comparison constant description
    cases asked
    cases parsed : Condition.parse operand comparison constant description with
    | error problem => exact ⟨problem, by rw [addConditionText, parsed]; rfl⟩
    | ok offered =>
        rw [addConditionText, parsed]
        refine addCondition_of_inadmissible ?_
        simpa [Demand.admits?, Demand.offer?, parsed, Except.toOption] using unadmitted
  · cases asked

/-- What a demand does to the list of the conditions. -/
def Demand.onConditions (variant : Option Variant) (conditions : List (Option Condition)) :
    Demand → List (Option Condition)
  | .change .clearAll => []
  | .change (.removeCondition number) =>
    if 0 ≤ number then conditions.set number.toNat none else conditions
  | demand => conditions ++ (demand.admits? variant).toList.map some

theorem attend_of_addition {result : Except Condition.Problem (Debugger × Nat)}
    (asked : debugger.addition? demand = some result) :
    debugger.attend demand = debugger.leftBy result := by
  unfold addition? at asked
  split at asked
  · rename_i condition
    cases asked
    rw [attend, perform]
    cases debugger.addCondition condition <;> rfl
  · cases asked
    rfl
  · cases asked

/-- A demand to add a condition puts it at the end of the list, if it is admitted, and does nothing
else. -/
theorem attend_addition {result : Except Condition.Problem (Debugger × Nat)}
    (asked : debugger.addition? demand = some result) :
    debugger.attend demand = { debugger with
      conditions := debugger.conditions ++ (demand.admits? debugger.variant).toList.map some } := by
  rw [attend_of_addition asked]
  cases admitted : demand.admits? debugger.variant with
  | none =>
      obtain ⟨problem, rfl⟩ := addition?_of_not_admits admitted asked
      simp [leftBy]
  | some condition =>
      rw [addition?_of_admits admitted] at asked
      cases asked
      rfl

/-- What one demand does to the hooks. -/
theorem attend_hooks (debugger : Debugger) (demand : Demand) :
    (debugger.attend demand).variant = debugger.variant ∧
      (debugger.attend demand).breakpoints = demand.breakpointEdit.apply debugger.breakpoints ∧
      (debugger.attend demand).watchpoints = demand.watchEdit.apply debugger.watchpoints ∧
      (debugger.attend demand).conditions =
        demand.onConditions debugger.variant debugger.conditions := by
  -- where a demand offers no condition, the list of conditions is followed by nothing
  have unchanged := (List.append_nil debugger.conditions).symm
  cases demand with
  | change operation =>
      cases operation with
      | addCondition condition =>
          rw [attend_addition rfl]
          exact ⟨rfl, rfl, rfl, rfl⟩
      | removeCondition number =>
          simp only [attend, perform, removeCondition, Demand.onConditions]
          split
          · exact ⟨rfl, rfl, rfl, rfl⟩
          · exact ⟨rfl, rfl, rfl, rfl⟩
      | clearAll => exact ⟨rfl, rfl, rfl, rfl⟩
      | addBreakpoint | removeBreakpoint | addWatchpoint | removeWatchpoint | requestBreak
      | clearRequest => exact ⟨rfl, rfl, rfl, unchanged⟩
  | addConditionText operand comparison constant description =>
      rw [attend_addition rfl]
      exact ⟨rfl, rfl, rfl, rfl⟩
  | checkInstruction file pc =>
      rw [attend]
      cases answered : debugger.checkInstruction file pc with
      | error fault => exact ⟨rfl, rfl, rfl, unchanged⟩
      | ok result =>
          obtain ⟨event, requested, same⟩ := checkInstruction_frame answered
          rw [leftBy, same]
          exact ⟨rfl, rfl, rfl, unchanged⟩
  | checkWrite address value =>
      have hooked := (Hooked.refl debugger).checkWrite address value
      exact ⟨hooked.variant, hooked.breakpoints, hooked.watchpoints,
        hooked.conditions.trans unchanged⟩

/-! ## Histories -/

variable {demands : List Demand} {number : Nat}

theorem variant_reach (variant : Option Variant) (demands : List Demand) :
    (reach variant demands).variant = variant := by
  induction demands using List.reverseRecOn with
  | nil => rfl
  | append_singleton demands demand ih =>
      rw [reach_concat, (attend_hooks _ _).1, ih]

/-- A set of addresses that every demand edits is what all the edits together make of it. -/
theorem edited_reach {addresses : Debugger → List Int} {edit : Demand → Edit}
    (none_at_first : addresses (empty variant) = [])
    (edited : ∀ debugger demand,
      addresses (debugger.attend demand) = (edit demand).apply (addresses debugger)) :
    addresses (reach variant demands) = Edit.applyAll (demands.map edit) := by
  induction demands using List.reverseRecOn with
  | nil => exact none_at_first
  | append_singleton demands demand ih =>
      rw [reach_concat, edited, ih, List.map_append, List.map_singleton, Edit.applyAll_concat]

theorem breakpoints_reach :
    (reach variant demands).breakpoints = Edit.applyAll (demands.map Demand.breakpointEdit) :=
  edited_reach rfl fun debugger demand => (attend_hooks debugger demand).2.1

theorem watchpoints_reach :
    (reach variant demands).watchpoints = Edit.applyAll (demands.map Demand.watchEdit) :=
  edited_reach rfl fun debugger demand => (attend_hooks debugger demand).2.2.1

theorem conditions_reach_concat :
    (reach variant (demands ++ [demand])).conditions =
      demand.onConditions variant (reach variant demands).conditions := by
  rw [reach_concat, (attend_hooks _ _).2.2.2, variant_reach]

theorem admissions_concat :
    admissions variant (demands ++ [demand]) =
      if demand.clears then []
      else admissions variant demands ++ (demand.admits? variant).toList := by
  unfold admissions
  rw [List.rtakeWhile_concat]
  cases demand.clears with
  | true => rfl
  | false =>
      cases admitted : demand.admits? variant with
      | none => simp [admitted]
      | some condition => simp [admitted]

theorem Demand.clears_iff : demand.clears = true ↔ demand = .change .clearAll := by
  unfold clears
  split <;> simp_all

theorem length_onConditions (conditions : List (Option Condition)) :
    (demand.onConditions variant conditions).length =
      if demand.clears then 0 else conditions.length + (demand.admits? variant).toList.length := by
  fun_cases Demand.onConditions variant conditions demand with
  | case1 => rfl
  | case2 number valid => exact List.length_set
  | case3 number invalid => rfl
  | case4 =>
      rename_i notClear _
      rw [if_neg (mt Demand.clears_iff.mp notClear)]
      simp

theorem length_conditions :
    (reach variant demands).conditions.length = (admissions variant demands).length := by
  induction demands using List.reverseRecOn with
  | nil => rfl
  | append_singleton demands demand ih =>
      rw [conditions_reach_concat, length_onConditions, ih, admissions_concat]
      cases demand.clears with
      | true => rfl
      | false => exact List.length_append.symm

theorem getElem?_append_admitted (conditions : List (Option Condition))
    (admitted : Option Condition) :
    (conditions ++ admitted.toList.map some)[number]? = some (some condition) ↔
      (admitted = some condition ∧ conditions.length = number) ∨
        conditions[number]? = some (some condition) := by
  cases admitted with
  | none => simp
  | some added =>
      obtain before | rfl | after := Nat.lt_trichotomy number conditions.length
      · simp [List.getElem?_append_left before, before.ne']
      · simp
      · simp [List.getElem?_append_right after.le, after.ne, Nat.sub_ne_zero_of_lt after, after.le]

/-- After a demand a condition stands at a number if it has just been admitted, or if it stood there
before and was not removed. -/
theorem getElem?_onConditions (conditions : List (Option Condition)) :
    (demand.onConditions variant conditions)[number]? = some (some condition) ↔
      (demand.admits? variant = some condition ∧ conditions.length = number) ∨
        (conditions[number]? = some (some condition) ∧ demand.clears = false ∧
          demand ≠ .change (.removeCondition number)) := by
  fun_cases Demand.onConditions variant conditions demand with
  | case1 => simp [Demand.admits?, Demand.offer?, Demand.clears]
  | case2 removed valid =>
      rw [List.getElem?_set]
      have same_iff : removed = number ↔ removed.toNat = number := by omega
      by_cases same : removed.toNat = number
      · simp [Demand.admits?, Demand.offer?, same, same_iff]
      · simp [Demand.admits?, Demand.offer?, Demand.clears, same, same_iff]
  | case3 removed invalid =>
      have distinct : removed ≠ number := by omega
      simp [Demand.admits?, Demand.offer?, Demand.clears, distinct]
  | case4 =>
      rename_i notClear notRemoval
      have uncleared : demand.clears = false :=
        Bool.eq_false_iff.mpr (mt Demand.clears_iff.mp notClear)
      have unremoved : demand ≠ .change (.removeCondition number) := notRemoval number
      rw [getElem?_append_admitted]
      simp [uncleared, unremoved]

theorem stands_concat :
    Stands variant (demands ++ [demand]) number condition ↔
      (demand.admits? variant = some condition ∧ (admissions variant demands).length = number) ∨
        (Stands variant demands number condition ∧ demand.clears = false ∧
          demand ≠ .change (.removeCondition number)) := by
  constructor
  · rintro ⟨earlier, origin, later, split, admitted, counted, kept⟩
    obtain rfl | ⟨others, last, rfl⟩ := List.eq_nil_or_concat later
    · obtain ⟨rfl, same⟩ := List.append_inj' split rfl
      cases same
      exact Or.inl ⟨admitted, counted⟩
    · rw [List.concat_eq_append, ← List.cons_append, ← List.append_assoc] at split
      obtain ⟨rfl, same⟩ := List.append_inj' split rfl
      cases same
      refine Or.inr ⟨⟨earlier, origin, others, rfl, admitted, counted, ?_⟩, ?_⟩
      · exact fun other member => kept other (by simp [member])
      · exact kept demand (by simp)
  · rintro (⟨admitted, counted⟩ | ⟨⟨earlier, origin, later, rfl, admitted, counted, kept⟩, last⟩)
    · exact ⟨demands, demand, [], rfl, admitted, counted, by simp⟩
    · refine ⟨earlier, origin, later ++ [demand], by simp, admitted, counted, ?_⟩
      intro other member
      obtain member | member := List.mem_append.mp member
      · exact kept other member
      · rw [List.mem_singleton.mp member]
        exact last

/-- The conditions of a debugger are those that stand. -/
theorem getElem?_conditions :
    (reach variant demands).conditions[number]? = some (some condition) ↔
      Stands variant demands number condition := by
  induction demands using List.reverseRecOn with
  | nil => simp [reach, empty, Stands]
  | append_singleton demands demand ih =>
      rw [conditions_reach_concat, getElem?_onConditions, ih, length_conditions, stands_concat]

end Conditions

/-! ## Listing the conditions -/

theorem mem_numbered {first number : Nat} {condition : Condition}
    {conditions : List (Option Condition)} :
    (number, condition) ∈ numbered first conditions ↔
      first ≤ number ∧ conditions[number - first]? = some (some condition) := by
  induction conditions generalizing first with
  | nil => simp [numbered]
  | cons head rest ih =>
      obtain before | rfl | after := Nat.lt_trichotomy number first
      · cases head <;> simp [numbered, ih, before.not_ge, before.ne, before.le.not_gt]
      · cases head <;> simp [numbered, ih, eq_comm]
      · obtain ⟨gap, rfl⟩ := Nat.exists_eq_add_of_lt after
        have sooner : first + gap + 1 - first = gap + 1 := by omega
        have later : first + gap + 1 - (first + 1) = gap := by omega
        cases head <;> simp [numbered, ih, sooner, later, after.le, after.ne']

theorem pairwise_numbered (first : Nat) (conditions : List (Option Condition)) :
    (numbered first conditions).Pairwise fun one other => one.1 < other.1 := by
  induction conditions generalizing first with
  | nil => exact List.Pairwise.nil
  | cons head rest ih =>
      cases head with
      | none => exact ih (first + 1)
      | some condition =>
          refine List.pairwise_cons.mpr ⟨?_, ih (first + 1)⟩
          rintro ⟨number, other⟩ member
          exact (mem_numbered.mp member).1

theorem mem_listConditions {debugger : Debugger} {number : Nat} {condition : Condition} :
    (number, condition) ∈ debugger.listConditions ↔
      debugger.conditions[number]? = some (some condition) := by
  rw [listConditions, mem_numbered, Nat.sub_zero]
  exact and_iff_right (Nat.zero_le number)

/-- A number that is not listed can be removed without effect. -/
theorem removeCondition_of_unlisted {debugger : Debugger} {number : Int}
    (unlisted : ∀ listed ∈ debugger.listConditions, (listed.1 : Int) ≠ number) :
    debugger.removeCondition number = debugger := by
  unfold removeCondition
  split
  · rename_i valid
    have gap : debugger.conditions.set number.toNat none = debugger.conditions := by
      apply List.ext_getElem?
      intro index
      rw [List.getElem?_set]
      split
      · rename_i same
        subst same
        cases held : debugger.conditions[number.toNat]? with
        | none => simpa using held
        | some slot =>
            cases slot with
            | none => simp [(List.getElem?_eq_some_iff.mp held).1]
            | some condition =>
                exact absurd (Int.toNat_of_nonneg valid)
                  (unlisted _ (mem_listConditions.mpr held))
      · rfl
    rw [gap]
  · rfl

/-! ## What the hooks come to -/

section Reached

variable {variant : Option Variant} {demands : List Demand} {demand : Demand} {address : Int}

theorem mem_breakpoints_reach :
    address ∈ (reach variant demands).breakpoints ↔
      (demands.filterMap (·.breakpointEdit.verdict? address)).getLast? = some true := by
  rw [breakpoints_reach, Edit.mem_applyAll, List.filterMap_map]
  rfl

theorem mem_watchpoints_reach :
    address ∈ (reach variant demands).watchpoints ↔
      (demands.filterMap (·.watchEdit.verdict? address)).getLast? = some true := by
  rw [watchpoints_reach, Edit.mem_applyAll, List.filterMap_map]
  rfl

theorem hasBreakpoint_reach :
    (reach variant demands).hasBreakpoint address = true ↔
      (demands.filterMap (·.breakpointEdit.verdict? (address % 256))).getLast? = some true := by
  rw [hasBreakpoint, List.contains_iff_mem, mem_breakpoints_reach]
  rfl

/-- Breakpoints stand at addresses below 256. -/
theorem breakpoints_reduced (member : address ∈ (reach variant demands).breakpoints) :
    0 ≤ address ∧ address < 256 := by
  rw [mem_breakpoints_reach] at member
  obtain ⟨demand, -, verdict⟩ := List.mem_filterMap.mp (List.mem_of_getLast? member)
  unfold Demand.breakpointEdit at verdict
  split at verdict
  · simp only [Edit.verdict?] at verdict
    split at verdict
    · omega
    · cases verdict
  · simp [Edit.verdict?] at verdict
  · simp [Edit.verdict?] at verdict
  · simp [Edit.verdict?] at verdict

theorem mem_breakpoints_iff_hasBreakpoint :
    address ∈ (reach variant demands).breakpoints ↔
      0 ≤ address ∧ address < 256 ∧ (reach variant demands).hasBreakpoint address = true := by
  rw [hasBreakpoint_reach]
  constructor
  · intro member
    obtain ⟨lower, upper⟩ := breakpoints_reduced member
    rw [Int.emod_eq_of_lt lower upper, ← mem_breakpoints_reach]
    exact ⟨lower, upper, member⟩
  · rintro ⟨lower, upper, held⟩
    rwa [Int.emod_eq_of_lt lower upper, ← mem_breakpoints_reach] at held

theorem reply?_of_admits {condition : Condition}
    (admitted : demand.admits? variant = some condition) :
    (reach variant demands).reply? demand = some (.ok (admissions variant demands).length) := by
  rw [← variant_reach variant demands] at admitted
  rw [reply?, addition?_of_admits admitted, ← length_conditions]
  rfl

theorem reply?_of_not_admits {result : Except Condition.Problem Nat}
    (unadmitted : demand.admits? variant = none)
    (replied : (reach variant demands).reply? demand = some result) :
    (∃ problem, result = .error problem) ∧
      (reach variant demands).attend demand = reach variant demands := by
  rw [← variant_reach variant demands] at unadmitted
  obtain ⟨outcome, asked, rfl⟩ := Option.map_eq_some_iff.mp replied
  obtain ⟨problem, rfl⟩ := addition?_of_not_admits unadmitted asked
  exact ⟨⟨problem, rfl⟩, attend_of_addition asked⟩

end Reached

/-- A debugger holds what a history of demands leaves. -/
structure Reflects (variant : Option Variant) (demands : List Demand) (debugger : Debugger) :
    Prop where
  /-- There is a breakpoint where the last demand that bears on the address modulo 256 adds it. -/
  hasBreakpoint_iff : ∀ address, debugger.hasBreakpoint address = true ↔
    (demands.filterMap (·.breakpointEdit.verdict? (address % 256))).getLast? = some true
  /-- An address is watched if the last demand that bears on it adds it. -/
  watched_iff : ∀ address, address ∈ debugger.watchpoints ↔
    (demands.filterMap (·.watchEdit.verdict? address)).getLast? = some true
  /-- The breakpoints are listed in increasing order. -/
  breakpoints_increasing : debugger.breakpoints.Pairwise (· < ·)
  /-- The watched addresses are listed in increasing order. -/
  watchpoints_increasing : debugger.watchpoints.Pairwise (· < ·)
  /-- The list of the breakpoints has the addresses below 256 where there is one. -/
  mem_breakpoints_iff : ∀ address, address ∈ debugger.breakpoints ↔
    0 ≤ address ∧ address < 256 ∧ debugger.hasBreakpoint address = true
  /-- The number of breakpoints is that of the addresses below 256 where there is one. -/
  breakpoints_count : debugger.breakpoints.length =
    {address : Int | 0 ≤ address ∧ address < 256 ∧ debugger.hasBreakpoint address = true}.ncard
  /-- The number of watched addresses is that of the addresses whose last demand adds them. -/
  watchpoints_count : debugger.watchpoints.length = {address : Int |
    (demands.filterMap (·.watchEdit.verdict? address)).getLast? = some true}.ncard
  /-- A condition that is admitted next gets the number of those admitted since everything was
  removed last. -/
  admitted : ∀ demand condition, demand.admits? variant = some condition →
    debugger.reply? demand = some (.ok (admissions variant demands).length)
  /-- A condition that is not admitted is refused, and that changes nothing. -/
  refused : ∀ demand result, demand.admits? variant = none → debugger.reply? demand = some result →
    (∃ problem, result = .error problem) ∧ debugger.attend demand = debugger
  /-- The conditions are listed in the order of their numbers. -/
  conditions_increasing : debugger.listConditions.Pairwise fun one other => one.1 < other.1
  /-- Listed are the conditions that were added and not removed since. -/
  mem_listConditions_iff : ∀ number condition, (number, condition) ∈ debugger.listConditions ↔
    Stands variant demands number condition
  /-- Removing a number that is not listed changes nothing. -/
  unlisted : ∀ number : Int, (∀ listed ∈ debugger.listConditions, (listed.1 : Int) ≠ number) →
    debugger.removeCondition number = debugger

/-- Whatever is asked of a debugger, it reflects the demands so far. -/
theorem reach_reflects_demands (variant : Option Variant) (demands : List Demand) :
    Reflects variant demands (reach variant demands) := by
  have breakpoints : (reach variant demands).breakpoints.Pairwise (· < ·) := by
    rw [breakpoints_reach]
    exact Edit.pairwise_applyAll _
  have watchpoints : (reach variant demands).watchpoints.Pairwise (· < ·) := by
    rw [watchpoints_reach]
    exact Edit.pairwise_applyAll _
  exact {
    hasBreakpoint_iff := fun _ => hasBreakpoint_reach
    watched_iff := fun _ => mem_watchpoints_reach
    breakpoints_increasing := breakpoints
    watchpoints_increasing := watchpoints
    mem_breakpoints_iff := fun _ => mem_breakpoints_iff_hasBreakpoint
    breakpoints_count := length_eq_ncard breakpoints fun _ => mem_breakpoints_iff_hasBreakpoint
    watchpoints_count := length_eq_ncard watchpoints fun _ => mem_watchpoints_reach
    admitted := fun _ _ => reply?_of_admits
    refused := fun _ _ => reply?_of_not_admits
    conditions_increasing := pairwise_numbered 0 _
    mem_listConditions_iff := fun _ _ => mem_listConditions.trans getElem?_conditions
    unlisted := fun _ => removeCondition_of_unlisted }

-- The machine lacks C: the refusal uses up no number, and neither removal after that of 0 matters.
example :
    let condition (register : Register) : Condition := ⟨.register register, .eq, .number 0, ""⟩
    (reach (some .byte) [.change (.addCondition (condition .a)),
      .change (.addCondition (condition .c)), .change (.addCondition (condition .b)),
      .change (.removeCondition 0), .change (.removeCondition (-1)),
      .change (.removeCondition 2)]).listConditions = [(1, condition .b)] := by
  decide

end Debugger

end ByteMachine
