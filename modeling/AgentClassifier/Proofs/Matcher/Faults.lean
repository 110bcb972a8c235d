import AgentClassifier.Parser
import AgentClassifier.Proofs.Matcher.FirstRule

/-!
A table is compiled unless something is wrong with it, and the error is a fault that it has.

* `RuleShape` : what is checked of a rule before its pattern is compiled, with the faults.
* `RuleShape.CategoryFault` : the first rule of a bad shape decides for its category, and only where
  there is none a pattern that does not compile, whichever of them that is.
* `RuleTable.Builds`, `RuleTable.Fault` : tables without faults, and the faults of a table. The
  first category with faults decides.
* `compile_diagnoses` : compiling a table succeeds exactly if it has no faults, and otherwise
  reports one of those that decide, in whatever order the patterns of a category are compiled.
-/

namespace AgentClassifier

open Traversal

/-! ## Diagnoses -/

/-- An outcome is a success exactly if all is sound, and otherwise an error that is a fault. -/
structure Diagnoses {γ : Type} (outcome : Except BuildError γ) (sound : Prop)
    (fault : BuildError → Prop) : Prop where
  ok_iff : (∃ result, outcome = .ok result) ↔ sound
  error : ∀ cause, outcome = .error cause → fault cause

namespace Diagnoses

variable {γ δ : Type} {outcome : Except BuildError γ} {sound soundAfter : Prop}
  {fault faultAfter : BuildError → Prop}

theorem of_disjoint (ok : ∀ result, outcome = .ok result → sound)
    (error : ∀ cause, outcome = .error cause → fault cause)
    (disjoint : ∀ cause, fault cause → ¬ sound) : Diagnoses outcome sound fault := by
  refine ⟨⟨fun done => done.elim ok, fun isSound => ?_⟩, error⟩
  cases done : outcome with
  | ok result => exact ⟨result, rfl⟩
  | error cause => exact absurd isSound (disjoint cause (error cause done))

/-- The second of two steps is looked at only where the first one succeeds. -/
theorem bind {next : γ → Except BuildError δ} (first : Diagnoses outcome sound fault)
    (second : ∀ result, outcome = .ok result → Diagnoses (next result) soundAfter faultAfter) :
    Diagnoses (outcome >>= next) (sound ∧ soundAfter)
      (fun cause => fault cause ∨ sound ∧ faultAfter cause) := by
  cases done : outcome with
  | error cause =>
      have unsound : ¬ sound := fun isSound => by
        obtain ⟨result, other⟩ := first.ok_iff.mpr isSound
        rw [done] at other
        cases other
      constructor
      · constructor
        · rintro ⟨_, impossible⟩
          cases impossible
        · rintro ⟨isSound, _⟩
          exact absurd isSound unsound
      · rintro _ ⟨⟩
        exact .inl (first.error cause done)
  | ok result =>
      have isSound : sound := first.ok_iff.mp ⟨result, done⟩
      have after := second result done
      constructor
      · rw [and_iff_right isSound]
        exact after.ok_iff
      · intro cause failed
        exact .inr ⟨isSound, after.error cause failed⟩

theorem map (first : Diagnoses outcome sound fault) (f : γ → δ) :
    Diagnoses (outcome.map f) sound fault where
  ok_iff := by
    rw [← first.ok_iff]
    simp only [map_eq_ok_iff]
    constructor
    · rintro ⟨_, result, done, _⟩
      exact ⟨result, done⟩
    · rintro ⟨result, done⟩
      exact ⟨_, result, done, rfl⟩
  error cause failed := first.error cause (map_eq_error_iff.mp failed)

end Diagnoses

/-! ## Patterns -/

namespace PatternSet

/-- A visit of all elements leads to the results in order, or to the failure of some element. -/
structure IsFaithful (traverse : Traverse) : Prop where
  ok_iff {α β : Type} {step : α → Except BuildError β} {items : List α} {results : List β} :
    traverse _ _ step items = .ok results ↔
      List.Forall₂ (fun item result => step item = .ok result) items results
  error {α β : Type} {step : α → Except BuildError β} {items : List α} {cause : BuildError} :
    traverse _ _ step items = .error cause → ∃ item ∈ items, step item = .error cause

theorem inOrder_isFaithful : IsFaithful inOrder where
  ok_iff := mapM_eq_ok_iff
  error failed := by
    obtain ⟨before, item, after, rfl, _, failed⟩ := exists_of_mapM_eq_error failed
    exact ⟨item, by simp, failed⟩

end PatternSet

/-- A pattern compiles, ignoring case if it should. -/
def PatternSpec.Compiles {α : Type} (spec : PatternSpec α) : Prop :=
  ∃ pattern, Pattern.compile? spec.source spec.ignoreCase = some pattern

theorem PatternSet.compileSpec_eq_error {α : Type} {spec : PatternSpec α} {cause : BuildError}
    (failed : compileSpec spec = .error cause) :
    ¬ spec.Compiles ∧ cause = .pattern spec.source := by
  unfold compileSpec at failed
  cases compiled : Pattern.compile? spec.source spec.ignoreCase with
  | some pattern =>
      rw [compiled] at failed
      cases failed
  | none =>
      rw [compiled] at failed
      cases failed
      refine ⟨?_, rfl⟩
      rintro ⟨pattern, other⟩
      rw [compiled] at other
      cases other

/-- A set is built if all patterns compile; otherwise some pattern that does not is the error. -/
theorem PatternSet.buildBy_diagnoses {α : Type} {traverse : Traverse}
    (faithful : IsFaithful traverse) (specs : List (PatternSpec α)) :
    Diagnoses (buildBy traverse specs) (∀ spec ∈ specs, spec.Compiles)
      (fun cause => ∃ spec ∈ specs, ¬ spec.Compiles ∧ cause = .pattern spec.source) := by
  apply Diagnoses.of_disjoint
  · intro set built
    unfold buildBy at built
    cases visited : traverse _ _ compileSpec specs with
    | error cause => simp [visited] at built
    | ok compiled =>
        intro spec member
        obtain ⟨item, _, done⟩ := exists_mem_right_of_forall₂ (faithful.ok_iff.mp visited) member
        obtain ⟨pattern, found, _⟩ := compileSpec_eq_ok done
        exact ⟨pattern, found⟩
  · intro cause failed
    unfold buildBy at failed
    cases visited : traverse _ _ compileSpec specs with
    | ok compiled => simp [visited] at failed
    | error other =>
        rw [visited] at failed
        cases failed
        obtain ⟨spec, member, failed⟩ := faithful.error visited
        exact ⟨spec, member, compileSpec_eq_error failed⟩
  · rintro _ ⟨spec, member, broken, _⟩ all
    exact broken (all spec member)

/-! ## Shapes of rules -/

/-- What is checked of a rule before its pattern is compiled. -/
structure RuleShape (ρ γ : Type) extends RuleKind ρ γ where
  category : Category
  /-- The flag of a rule, which may be absent. -/
  flag : ρ → Option String

def UserAgentRule.shape : RuleShape UserAgentRule UserAgent :=
  { UserAgentRule.kind with category := .userAgent, flag := fun _ => none }

def OsRule.shape : RuleShape OsRule Os :=
  { OsRule.kind with category := .os, flag := fun _ => none }

def DeviceRule.shape : RuleShape DeviceRule Device :=
  { DeviceRule.kind with category := .device, flag := DeviceRule.flag }

theorem RuleKind.regex_ne_none {ρ γ : Type} {kind : RuleKind ρ γ} {rule : ρ} {spec : PatternSpec ρ}
    (isSpec : kind.spec? rule = some spec) : kind.regex rule ≠ none := by
  intro missing
  rw [spec?, missing] at isSpec
  cases isSpec

namespace RuleShape

variable {ρ γ : Type} (shape : RuleShape ρ γ)

/-- The flag of a rule is absent or known. -/
def FlagKnown (rule : ρ) : Prop := shape.flag rule = none ∨ shape.flag rule = some "i"

/-- A rule has a pattern, and its flag is known. -/
structure IsWellShaped (rule : ρ) : Prop where
  flag : shape.FlagKnown rule
  regex : shape.regex rule ≠ none

/-- What is wrong with the shape of the rule at an index. An unknown flag comes before a pattern
that is missing. -/
inductive ShapeFault (rule : ρ) (index : Nat) : BuildError → Prop
  | flag {flag : String} : shape.flag rule = some flag → flag ≠ "i" →
      ShapeFault rule index (.unsupportedFlag flag)
  | regex : shape.FlagKnown rule → shape.regex rule = none →
      ShapeFault rule index (.missingRegex shape.category index)

/-- A rule is of a good shape, and its pattern compiles. -/
structure Builds (rule : ρ) : Prop where
  flag : shape.FlagKnown rule
  compiles : ∃ spec, shape.spec? rule = some spec ∧ spec.Compiles

/-- What is wrong with the rules of a category. Shapes come before patterns. -/
inductive CategoryFault (rules : List ρ) : BuildError → Prop
  | shape {before after : List ρ} {rule : ρ} {cause : BuildError} :
      rules = before ++ rule :: after → (∀ earlier ∈ before, shape.IsWellShaped earlier) →
      shape.ShapeFault rule before.length cause → CategoryFault rules cause
  | pattern {rule : ρ} {spec : PatternSpec ρ} :
      (∀ rule ∈ rules, shape.IsWellShaped rule) → rule ∈ rules → shape.spec? rule = some spec →
      ¬ spec.Compiles → CategoryFault rules (.pattern spec.source)

variable {shape} {rule : ρ} {index : Nat} {cause : BuildError}

theorem ShapeFault.not_isWellShaped (fault : shape.ShapeFault rule index cause) :
    ¬ shape.IsWellShaped rule := by
  rintro ⟨known, present⟩
  cases fault with
  | flag flagged unknown =>
      rcases known with absent | isI
      · rw [absent] at flagged
        cases flagged
      · rw [isI] at flagged
        exact unknown (Option.some.inj flagged).symm
  | regex _ missing => exact present missing

theorem Builds.isWellShaped (builds : shape.Builds rule) : shape.IsWellShaped rule := by
  obtain ⟨known, spec, isSpec, _⟩ := builds
  exact ⟨known, RuleKind.regex_ne_none isSpec⟩

theorem CategoryFault.not_builds {rules : List ρ} (fault : shape.CategoryFault rules cause) :
    ¬ ∀ rule ∈ rules, shape.Builds rule := by
  intro builds
  cases fault with
  | shape split _ fault =>
      subst split
      exact fault.not_isWellShaped (builds _ (by simp)).isWellShaped
  | pattern _ member isSpec broken =>
      obtain ⟨spec, same, compiles⟩ := (builds _ member).compiles
      rw [isSpec] at same
      cases same
      exact broken compiles

/-- A check of single rules passes rules of a good shape with their patterns, and reports faults. -/
structure IsCheckedBy (shape : RuleShape ρ γ)
    (check : Nat → ρ → Except BuildError (PatternSpec ρ)) : Prop where
  ok {index : Nat} {rule : ρ} {spec : PatternSpec ρ} : check index rule = .ok spec →
    shape.FlagKnown rule ∧ shape.spec? rule = some spec
  error {index : Nat} {rule : ρ} {cause : BuildError} : check index rule = .error cause →
    shape.ShapeFault rule index cause

end RuleShape

theorem requireRegex_eq_error {category : Category} {index : Nat} {regex : Option String}
    {cause : BuildError} (failed : requireRegex category index regex = .error cause) :
    regex = none ∧ cause = .missingRegex category index := by
  cases regex with
  | none => cases failed; exact ⟨rfl, rfl⟩
  | some _ => cases failed

theorem UserAgentRule.isCheckedBy_spec : UserAgentRule.shape.IsCheckedBy UserAgentRule.spec where
  ok checked := ⟨.inl rfl, UserAgentRule.spec?_of_spec checked⟩
  error failed := by
    obtain ⟨missing, rfl⟩ := requireRegex_eq_error (map_eq_error_iff.mp failed)
    exact .regex (.inl rfl) missing

theorem OsRule.isCheckedBy_spec : OsRule.shape.IsCheckedBy OsRule.spec where
  ok checked := ⟨.inl rfl, OsRule.spec?_of_spec checked⟩
  error failed := by
    obtain ⟨missing, rfl⟩ := requireRegex_eq_error (map_eq_error_iff.mp failed)
    exact .regex (.inl rfl) missing

theorem DeviceRule.flagKnown_of_ignoresCase {rule : DeviceRule} {ignoreCase : Bool}
    (flagged : rule.ignoresCase = .ok ignoreCase) : DeviceRule.shape.FlagKnown rule := by
  unfold DeviceRule.ignoresCase at flagged
  cases flag : rule.flag with
  | none => exact .inl flag
  | some text =>
      rw [flag] at flagged
      by_cases isI : text = "i"
      · exact .inr (by rw [← isI]; exact flag)
      · simp [isI] at flagged

theorem DeviceRule.ignoresCase_eq_error {rule : DeviceRule} {cause : BuildError}
    (failed : rule.ignoresCase = .error cause) :
    ∃ flag, rule.flag = some flag ∧ flag ≠ "i" ∧ cause = .unsupportedFlag flag := by
  unfold DeviceRule.ignoresCase at failed
  cases flag : rule.flag with
  | none => simp [flag] at failed
  | some text =>
      rw [flag] at failed
      by_cases isI : text = "i"
      · simp [isI] at failed
      · simp only [if_neg isI, Except.error.injEq] at failed
        exact ⟨text, rfl, isI, failed.symm⟩

theorem DeviceRule.isCheckedBy_spec : DeviceRule.shape.IsCheckedBy DeviceRule.spec where
  ok checked := by
    obtain ⟨ignoreCase, flagged, _⟩ := bind_eq_ok_iff.mp checked
    exact ⟨flagKnown_of_ignoresCase flagged, spec?_of_spec checked⟩
  error failed := by
    rcases bind_eq_error_iff.mp failed with unknown | ⟨ignoreCase, flagged, failed⟩
    · obtain ⟨flag, flagged, isOther, rfl⟩ := ignoresCase_eq_error unknown
      exact .flag flagged isOther
    · rcases bind_eq_error_iff.mp failed with failed | ⟨regex, _, impossible⟩
      · obtain ⟨missing, rfl⟩ := requireRegex_eq_error failed
        exact .regex (flagKnown_of_ignoresCase flagged) missing
      · cases impossible

/-! ## Categories -/

/-- A check of all rules that fails has the fault of the first rule that does not pass. -/
theorem exists_of_checkAll_eq_error {ρ β : Type} {check : Nat → ρ → Except BuildError β}
    {rules : List ρ} {cause : BuildError} (failed : checkAll check rules = .error cause) :
    ∃ before rule after, rules = before ++ rule :: after ∧
      (∀ earlier ∈ before, ∃ index result, check index earlier = .ok result) ∧
      check before.length rule = .error cause := by
  obtain ⟨before, ⟨rule, index⟩, after, split, passed, failed⟩ := exists_of_mapM_eq_error failed
  -- a rule stands at its own index
  have place : index = before.length := by
    have here : rules.zipIdx[before.length]? = some (rule, index) := by rw [split]; simp
    rw [List.getElem?_zipIdx] at here
    obtain ⟨_, _, same⟩ := Option.map_eq_some_iff.mp here
    cases same
    omega
  refine ⟨before.map Prod.fst, rule, after.map Prod.fst, ?_, ?_, ?_⟩
  · rw [← List.zipIdx_map_fst 0 rules, split, List.map_append, List.map_cons]
  · intro earlier member
    obtain ⟨⟨_, index⟩, place, rfl⟩ := List.mem_map.mp member
    obtain ⟨result, passed⟩ := passed _ place
    exact ⟨index, result, passed⟩
  · rw [List.length_map, ← place]
    exact failed

namespace RuleShape

variable {ρ γ : Type} {shape : RuleShape ρ γ}
  {check : Nat → ρ → Except BuildError (PatternSpec ρ)}

theorem IsCheckedBy.isWellShaped (checked : shape.IsCheckedBy check) {index : Nat} {rule : ρ}
    {spec : PatternSpec ρ} (passed : check index rule = .ok spec) : shape.IsWellShaped rule := by
  obtain ⟨known, isSpec⟩ := checked.ok passed
  exact ⟨known, RuleKind.regex_ne_none isSpec⟩

/-- The rules of a category are compiled if each of them builds; otherwise the first rule of a bad
shape is the error, and where there is none, a pattern that does not compile. -/
theorem IsCheckedBy.compileCategory_diagnoses (checked : shape.IsCheckedBy check)
    {traverse : PatternSet.Traverse} (faithful : PatternSet.IsFaithful traverse) (rules : List ρ) :
    Diagnoses (compileCategory traverse check rules) (∀ rule ∈ rules, shape.Builds rule)
      (shape.CategoryFault rules) := by
  apply Diagnoses.of_disjoint
  · intro set built rule member
    obtain ⟨specs, passed, built⟩ := bind_eq_ok_iff.mp built
    obtain ⟨spec, place, index, passed⟩ :=
      exists_mem_right_of_forall₂ (forall₂_of_checkAll passed) member
    obtain ⟨known, isSpec⟩ := checked.ok passed
    have compile := (PatternSet.buildBy_diagnoses faithful specs).ok_iff.mp ⟨set, built⟩
    exact ⟨known, spec, isSpec, compile spec place⟩
  · intro cause failed
    -- the patterns are compiled only after the shapes of all rules were checked
    rcases bind_eq_error_iff.mp failed with failed | ⟨specs, passed, failed⟩
    · obtain ⟨before, rule, after, split, earlierPassed, failed⟩ :=
        exists_of_checkAll_eq_error failed
      refine .shape split (fun earlier member => ?_) (checked.error failed)
      obtain ⟨_, _, passed⟩ := earlierPassed earlier member
      exact checked.isWellShaped passed
    · obtain ⟨spec, place, broken, rfl⟩ :=
        (PatternSet.buildBy_diagnoses faithful specs).error cause failed
      obtain ⟨rule, member, index, specified⟩ :=
        exists_mem_left_of_forall₂ (forall₂_of_checkAll passed) place
      refine .pattern (fun other member => ?_) member (checked.ok specified).2 broken
      obtain ⟨_, _, _, passed⟩ := exists_mem_right_of_forall₂ (forall₂_of_checkAll passed) member
      exact checked.isWellShaped passed
  · intro cause fault
    exact fault.not_builds

end RuleShape

/-! ## Tables -/

/-- All rules of a table build. -/
structure RuleTable.Builds (table : RuleTable) : Prop where
  userAgents : ∀ rule ∈ table.userAgents, UserAgentRule.shape.Builds rule
  systems : ∀ rule ∈ table.systems, OsRule.shape.Builds rule
  devices : ∀ rule ∈ table.devices, DeviceRule.shape.Builds rule

/-- What is wrong with a table: user agents come before systems, and these before devices. -/
inductive RuleTable.Fault (table : RuleTable) : BuildError → Prop
  | userAgents {cause : BuildError} :
      UserAgentRule.shape.CategoryFault table.userAgents cause → Fault table cause
  | systems {cause : BuildError} :
      (∀ rule ∈ table.userAgents, UserAgentRule.shape.Builds rule) →
      OsRule.shape.CategoryFault table.systems cause → Fault table cause
  | devices {cause : BuildError} :
      (∀ rule ∈ table.userAgents, UserAgentRule.shape.Builds rule) →
      (∀ rule ∈ table.systems, OsRule.shape.Builds rule) →
      DeviceRule.shape.CategoryFault table.devices cause → Fault table cause

theorem RuleTable.compileBy_diagnoses {traverse : PatternSet.Traverse}
    (faithful : PatternSet.IsFaithful traverse) (table : RuleTable) :
    Diagnoses (table.compileBy traverse) table.Builds table.Fault := by
  have userAgents :=
    UserAgentRule.isCheckedBy_spec.compileCategory_diagnoses faithful table.userAgents
  have systems := OsRule.isCheckedBy_spec.compileCategory_diagnoses faithful table.systems
  have devices := DeviceRule.isCheckedBy_spec.compileCategory_diagnoses faithful table.devices
  have all : Diagnoses (table.compileBy traverse) _ _ :=
    userAgents.bind fun userAgents _ => systems.bind fun systems _ =>
      devices.map fun devices => (⟨userAgents, systems, devices⟩ : Matchers)
  refine ⟨all.ok_iff.trans ?_, fun cause failed => ?_⟩
  · constructor
    · rintro ⟨userAgents, systems, devices⟩
      exact ⟨userAgents, systems, devices⟩
    · rintro ⟨userAgents, systems, devices⟩
      exact ⟨userAgents, systems, devices⟩
  · rcases all.error cause failed with fault | ⟨userAgents, fault | ⟨systems, fault⟩⟩
    · exact .userAgents fault
    · exact .systems userAgents fault
    · exact .devices userAgents systems fault

/-! ## Parsers -/

/-- The default classifiers always compile, so only the table decides. -/
theorem Parser.ofTable_eq_map : ∃ platform manufacturer, ∀ table : RuleTable,
    Parser.ofTable table =
      table.compile.map fun matchers => ⟨matchers, platform, manufacturer⟩ := by
  have platforms : (PlatformClassifier.build PlatformHints.default).toOption.isSome = true := by
    decide +kernel
  have manufacturers :
      (ManufacturerClassifier.build ManufacturerHints.default).toOption.isSome = true := by
    decide +kernel
  cases platform : PlatformClassifier.build PlatformHints.default with
  | error cause => simp [platform, Except.toOption] at platforms
  | ok platform' =>
      cases manufacturer : ManufacturerClassifier.build ManufacturerHints.default with
      | error cause => simp [manufacturer, Except.toOption] at manufacturers
      | ok manufacturer' =>
          refine ⟨platform', manufacturer', fun table => ?_⟩
          rw [Parser.ofTable, platform, manufacturer]
          cases table.compile <;> rfl

/-- A table is compiled, for a new parser or for one that is in use, if and only if each of its
rules builds; otherwise the error is a fault of the table. In whatever order the patterns of a
category are compiled, it belongs to the first category with faults, and there to the first rule of
a bad shape, or to a pattern that does not compile where all shapes are good. -/
theorem compile_diagnoses {traverse : PatternSet.Traverse}
    (faithful : PatternSet.IsFaithful traverse) (table : RuleTable) :
    Diagnoses (table.compileBy traverse) table.Builds table.Fault ∧
      Diagnoses (Parser.ofTable table) table.Builds table.Fault ∧
      ∀ parser : Parser, Diagnoses (parser.reload table) table.Builds table.Fault := by
  have inOrder := table.compileBy_diagnoses PatternSet.inOrder_isFaithful
  obtain ⟨platform, manufacturer, ofTable⟩ := Parser.ofTable_eq_map
  refine ⟨table.compileBy_diagnoses faithful, ?_, fun parser => ?_⟩
  · rw [ofTable]
    exact inOrder.map _
  · exact inOrder.map _

/-- Takes the steps from the end, so the last failure is the error. -/
def PatternSet.fromEnd : Traverse := fun _ _ step items =>
  (items.reverse.mapM step).map List.reverse

theorem PatternSet.fromEnd_isFaithful : IsFaithful fromEnd where
  ok_iff {_ _ step items results} := by
    rw [fromEnd, map_eq_ok_iff]
    constructor
    · rintro ⟨reversed, visited, rfl⟩
      rw [← List.forall₂_reverse_iff, List.reverse_reverse]
      exact mapM_eq_ok_iff.mp visited
    · intro related
      exact ⟨results.reverse, mapM_eq_ok_iff.mpr (List.forall₂_reverse_iff.mpr related),
        List.reverse_reverse results⟩
  error failed := by
    obtain ⟨before, item, after, split, _, failed⟩ :=
      exists_of_mapM_eq_error (map_eq_error_iff.mp failed)
    exact ⟨item, List.mem_reverse.mp (by simp [split]), failed⟩

/-- A pattern that does not compile before one that is missing, and a flag that is not known. -/
def misshapen : RuleTable :=
  ⟨[⟨some "(a)", none, none, none⟩],
    [⟨some "(b", none, none, none, none⟩, ⟨none, none, none, none, none⟩],
    [⟨none, some "x", none, none, none⟩]⟩

/-- Two patterns that do not compile, and one that only misses its switch for case. -/
def broken : RuleTable :=
  ⟨[], [], [⟨some "(a", none, none, none, none⟩, ⟨some "[b", some "i", none, none, none⟩,
    ⟨some "c", some "i", none, none, none⟩]⟩

/-- The missing pattern is the error of the first table; of the patterns in the second one it is the
one that was compiled first. -/
theorem faults_from_end :
    misshapen.compileBy PatternSet.fromEnd = .error (.missingRegex .os 1) ∧
      misshapen.Fault (.missingRegex .os 1) ∧
      broken.compileBy PatternSet.fromEnd = .error (.pattern "[b") ∧
      broken.Fault (.pattern "[b") ∧ ¬ broken.Builds := by
  have missing : misshapen.compileBy PatternSet.fromEnd = .error (.missingRegex .os 1) := by
    decide +kernel
  have last : broken.compileBy PatternSet.fromEnd = .error (.pattern "[b") := by
    decide +kernel
  have diagnoses := (compile_diagnoses PatternSet.fromEnd_isFaithful broken).1
  refine ⟨missing, ?_, last, diagnoses.error _ last, fun builds => ?_⟩
  · exact (compile_diagnoses PatternSet.fromEnd_isFaithful misshapen).1.error _ missing
  · obtain ⟨_, compiled⟩ := diagnoses.ok_iff.mpr builds
    rw [last] at compiled
    cases compiled

end AgentClassifier
