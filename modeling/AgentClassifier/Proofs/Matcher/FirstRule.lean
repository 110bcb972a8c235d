import AgentClassifier.Matcher
import AgentClassifier.Proofs.PatternSet.Scan

/-!
The first rule that applies decides the whole answer.

* `RuleKind` : what a category asks of its rules; `UserAgentRule.kind`, `OsRule.kind` and
  `DeviceRule.kind` say which template or group each field comes from.
* `RuleKind.AnsweredBy` : an answer is made by the first rule whose pattern is found and whose
  family resolves, with all fields from that rule alone; where there is none, nothing is known.
* `RuleKind.Undisturbed` : that rule is tried, or the rules after it make the same answer.
* `compile_follows` : the answers of compiled rules are made by the first rule among those that are
  tried, and by the first among all exactly where the search is undisturbed.
* `blanks_in_braces` : a pattern with blanks in braces is not tried on the text it stands for.
-/

namespace AgentClassifier

open Traversal

/-! ## What the categories ask of their rules -/

/-- The value of a field: a template where there is one, the text of a group where there is none. -/
def fieldOrGroup (template : Option String) (captures : Captures) (group : Nat) : Option String :=
  match template with
  | some template => Template.expand template captures
  | none => captures.nonempty? group

/-- What a category asks of its rules. -/
structure RuleKind (ρ γ : Type) where
  regex : ρ → Option String
  ignoresCase : ρ → Bool
  family : ρ → Option String
  /-- The answer that a rule makes of the captures of its match and the resolved family. -/
  fields : ρ → Captures → (family : String) → γ
  /-- The answer where no rule decides. -/
  other : γ

/-- Groups 2 to 5 hold the version. A template for the minor version stands alone for it, and there
is no patch then. -/
def UserAgentRule.kind : RuleKind UserAgentRule UserAgent where
  regex := UserAgentRule.regex
  ignoresCase _ := false
  family := UserAgentRule.family
  fields rule captures family :=
    { family
      major := fieldOrGroup rule.major captures 2
      minor := fieldOrGroup rule.minor captures 3
      patch := if rule.minor.isSome then none else captures.nonempty? 4
      patchMinor := if rule.minor.isSome then none else captures.nonempty? 5 }
  other := ⟨"Other", none, none, none, none⟩

/-- Groups 2 to 5 hold the version, and the last part has no template. -/
def OsRule.kind : RuleKind OsRule Os where
  regex := OsRule.regex
  ignoresCase _ := false
  family := OsRule.family
  fields rule captures family :=
    { family
      major := fieldOrGroup rule.major captures 2
      minor := fieldOrGroup rule.minor captures 3
      patch := fieldOrGroup rule.patch captures 4
      patchMinor := captures.nonempty? 5 }
  other := ⟨"Other", none, none, none, none⟩

/-- The model falls back on the group of the family, the brand on nothing. -/
def DeviceRule.kind : RuleKind DeviceRule Device where
  regex := DeviceRule.regex
  ignoresCase rule := rule.flag == some "i"
  family := DeviceRule.family
  fields rule captures family :=
    { family
      brand := rule.brand.bind fun template => Template.expand template captures
      model := fieldOrGroup rule.model captures 1 }
  other := ⟨"Other", none, none⟩

/-! ## The first rule that applies -/

namespace RuleKind

variable {ρ γ : Type} (kind : RuleKind ρ γ)

/-- The pattern of a rule, if it has one. -/
def spec? (rule : ρ) : Option (PatternSpec ρ) :=
  (kind.regex rule).map fun source => ⟨source, kind.ignoresCase rule, rule⟩

/-- The pattern of a rule is found in a text, and the family resolves. -/
structure Resolves (rule : ρ) (text : String) (captures : Captures) (family : String) : Prop where
  finds : ∃ spec, kind.spec? rule = some spec ∧ spec.Finds text captures
  family : fieldOrGroup (kind.family rule) captures 1 = some family

/-- A rule applies to a text. -/
def Applies (rule : ρ) (text : String) : Prop :=
  ∃ captures family, kind.Resolves rule text captures family

/-- A rule is the first one that applies; `after` are the rules behind it. -/
structure Decides (rules : List ρ) (text : String) (rule : ρ) (after : List ρ)
    (captures : Captures) (family : String) : Prop where
  first : ∃ before, rules = before ++ rule :: after ∧
    ∀ earlier ∈ before, ¬ kind.Applies earlier text
  resolves : kind.Resolves rule text captures family

/-- An answer is made by the first rule that applies. -/
inductive AnsweredBy (rules : List ρ) (text : String) : γ → Prop
  | rule {rule : ρ} {after : List ρ} {captures : Captures} {family : String} :
      kind.Decides rules text rule after captures family →
      AnsweredBy rules text (kind.fields rule captures family)
  | other : (∀ rule ∈ rules, ¬ kind.Applies rule text) → AnsweredBy rules text kind.other

/-- Whether the literals of a rule let it be tried on a text. -/
def isTried (rule : ρ) (text : String) : Bool :=
  (kind.spec? rule).any fun spec => PatternSet.isTried spec.literals text.toList

/-- The rules that are tried on a text. -/
def tried (rules : List ρ) (text : String) : List ρ :=
  rules.filter fun rule => kind.isTried rule text

/-- If the first rule that applies is not tried, then those behind it that are make the same
answer. -/
def Undisturbed (rules : List ρ) (text : String) : Prop :=
  ∀ rule after captures family, kind.Decides rules text rule after captures family →
    kind.isTried rule text = false →
    kind.AnsweredBy (kind.tried after text) text (kind.fields rule captures family)

/-- An answer is made by the first rule that applies among those that are tried. It is made by the
first among all rules exactly where the search is undisturbed, so wherever the literals hold. -/
structure Follows (rules : List ρ) (text : String) (answer : γ) : Prop where
  tried : kind.AnsweredBy (kind.tried rules text) text answer
  all_iff : kind.AnsweredBy rules text answer ↔ kind.Undisturbed rules text
  literals : (∀ rule ∈ rules, ∀ spec, kind.spec? rule = some spec → spec.LiteralsHold text) →
    kind.AnsweredBy rules text answer

/-! ## The answer as a scan -/

/-- The answer that a rule makes of a match. -/
def answer? (rule : ρ) (captures : Captures) : Option γ :=
  (fieldOrGroup (kind.family rule) captures 1).map (kind.fields rule captures)

/-- The answer that a rule makes of a text. -/
def ruleAnswer? (rule : ρ) (text : String) : Option γ :=
  (kind.spec? rule).bind fun spec => spec.answer? kind.answer? text

/-- The first answer that a rule makes of a text. -/
def scan (rules : List ρ) (text : String) : γ :=
  (rules.findSome? fun rule => kind.ruleAnswer? rule text).getD kind.other

variable {kind} {rule : ρ} {rules : List ρ} {text : String} {answer : γ}

theorem ruleAnswer?_eq_some_iff :
    kind.ruleAnswer? rule text = some answer ↔
      ∃ captures family, kind.Resolves rule text captures family ∧
        kind.fields rule captures family = answer := by
  unfold ruleAnswer?
  simp only [Option.bind_eq_some_iff, PatternSpec.answer?_eq_some_iff, answer?,
    Option.map_eq_some_iff]
  constructor
  · rintro ⟨spec, isSpec, captures, finds, family, resolved, rfl⟩
    obtain ⟨source, isSource, rfl⟩ := Option.map_eq_some_iff.mp isSpec
    exact ⟨captures, family, ⟨⟨_, isSpec, finds⟩, resolved⟩, rfl⟩
  · rintro ⟨captures, family, ⟨⟨spec, isSpec, finds⟩, resolved⟩, rfl⟩
    obtain ⟨source, isSource, rfl⟩ := Option.map_eq_some_iff.mp isSpec
    exact ⟨_, isSpec, captures, finds, family, resolved, rfl⟩

theorem ruleAnswer?_eq_none_iff :
    kind.ruleAnswer? rule text = none ↔ ¬ kind.Applies rule text := by
  rw [Option.eq_none_iff_forall_ne_some]
  simp only [ne_eq, ruleAnswer?_eq_some_iff]
  constructor
  · rintro unanswered ⟨captures, family, resolves⟩
    exact unanswered _ ⟨captures, family, resolves, rfl⟩
  · rintro inapplicable answer ⟨captures, family, resolves, _⟩
    exact inapplicable ⟨captures, family, resolves⟩

/-- There is one answer that the first rule makes, and the scan finds it. -/
theorem answeredBy_iff : kind.AnsweredBy rules text answer ↔ kind.scan rules text = answer := by
  constructor
  · rintro (⟨⟨before, split, inapplicable⟩, resolves⟩ | inapplicable)
    · have found : (rules.findSome? fun rule => kind.ruleAnswer? rule text) = some _ :=
        List.findSome?_eq_some_iff.mpr ⟨before, _, _, split,
          ruleAnswer?_eq_some_iff.mpr ⟨_, _, resolves, rfl⟩,
          fun earlier member => ruleAnswer?_eq_none_iff.mpr (inapplicable earlier member)⟩
      rw [scan, found, Option.getD_some]
    · have missing : (rules.findSome? fun rule => kind.ruleAnswer? rule text) = none :=
        List.findSome?_eq_none_iff.mpr
          fun rule member => ruleAnswer?_eq_none_iff.mpr (inapplicable rule member)
      rw [scan, missing, Option.getD_none]
  · rintro rfl
    unfold scan
    cases found : rules.findSome? fun rule => kind.ruleAnswer? rule text with
    | none =>
        rw [Option.getD_none]
        exact .other fun rule member =>
          ruleAnswer?_eq_none_iff.mp (List.findSome?_eq_none_iff.mp found rule member)
    | some answer =>
        obtain ⟨before, rule, after, split, answered, unanswered⟩ :=
          List.findSome?_eq_some_iff.mp found
        obtain ⟨captures, family, resolves, rfl⟩ := ruleAnswer?_eq_some_iff.mp answered
        rw [Option.getD_some]
        exact .rule ⟨⟨before, split,
          fun earlier member => ruleAnswer?_eq_none_iff.mp (unanswered earlier member)⟩, resolves⟩

theorem AnsweredBy.unique {other : γ} (first : kind.AnsweredBy rules text answer)
    (second : kind.AnsweredBy rules text other) : answer = other :=
  (answeredBy_iff.mp first).symm.trans (answeredBy_iff.mp second)

/-- Either some rule is the first that applies, or none applies. -/
theorem decides_or_inapplicable (kind : RuleKind ρ γ) (rules : List ρ) (text : String) :
    (∃ rule after captures family, kind.Decides rules text rule after captures family) ∨
      ∀ rule ∈ rules, ¬ kind.Applies rule text := by
  have answered : ∃ answer, kind.AnsweredBy rules text answer := ⟨_, answeredBy_iff.mpr rfl⟩
  rcases answered with ⟨_, decides | inapplicable⟩
  · exact .inl ⟨_, _, _, _, decides⟩
  · exact .inr inapplicable

/-! ## The rules that are tried -/

/-- Rules that do not apply may stand in front. -/
theorem scan_append {before : List ρ} (inapplicable : ∀ rule ∈ before, ¬ kind.Applies rule text) :
    kind.scan (before ++ rules) text = kind.scan rules text := by
  have missing : (before.findSome? fun rule => kind.ruleAnswer? rule text) = none :=
    List.findSome?_eq_none_iff.mpr
      fun rule member => ruleAnswer?_eq_none_iff.mpr (inapplicable rule member)
  rw [scan, scan, List.findSome?_append, missing, Option.none_or]

/-- Among the rules that are tried, the first that applies still decides if it is one of them;
otherwise those behind it decide. -/
theorem scan_tried {after : List ρ} {captures : Captures} {family : String}
    (decides : kind.Decides rules text rule after captures family) :
    kind.scan (kind.tried rules text) text =
      if kind.isTried rule text then kind.fields rule captures family
      else kind.scan (kind.tried after text) text := by
  obtain ⟨⟨before, rfl, inapplicable⟩, resolves⟩ := decides
  -- the rules in front do not apply, so it does not matter which of them are left out
  have passed : ∀ earlier ∈ kind.tried before text, ¬ kind.Applies earlier text :=
    fun earlier member => inapplicable earlier (List.mem_filter.mp member).1
  rw [tried, List.filter_append, ← tried, scan_append passed, List.filter_cons]
  split
  · exact answeredBy_iff.mp (.rule ⟨⟨[], rfl, by simp⟩, resolves⟩)
  · rfl

theorem scan_tried_of_inapplicable (inapplicable : ∀ rule ∈ rules, ¬ kind.Applies rule text) :
    kind.scan (kind.tried rules text) text = kind.other :=
  answeredBy_iff.mp (.other fun rule member => inapplicable rule (List.mem_filter.mp member).1)

theorem undisturbed_of_literalsHold
    (hold : ∀ rule ∈ rules, ∀ spec, kind.spec? rule = some spec → spec.LiteralsHold text) :
    kind.Undisturbed rules text := by
  rintro rule after captures family ⟨⟨before, rfl, _⟩, ⟨spec, isSpec, finds⟩, _⟩ untried
  have triedAnyway : kind.isTried rule text = true := by
    rw [isTried, isSpec, Option.any_some, PatternSet.isTried_iff]
    by_cases empty : spec.literals = []
    · exact .inl empty
    · exact .inr (hold rule (by simp) spec isSpec empty ⟨captures, finds⟩)
  rw [triedAnyway] at untried
  cases untried

/-- The scan of the rules that are tried follows the first rule. -/
theorem follows_scan_tried :
    kind.Follows rules text (kind.scan (kind.tried rules text) text) := by
  have all_iff : kind.AnsweredBy rules text (kind.scan (kind.tried rules text) text) ↔
      kind.Undisturbed rules text := by
    constructor
    · intro answered rule after captures family decides untried
      rw [← answered.unique (.rule decides), scan_tried decides, if_neg (by simp [untried])]
      exact answeredBy_iff.mpr rfl
    · intro undisturbed
      rcases decides_or_inapplicable kind rules text with
        ⟨rule, after, captures, family, decides⟩ | inapplicable
      · rw [scan_tried decides]
        split
        · exact .rule decides
        · next untried =>
            rw [answeredBy_iff.mp
              (undisturbed rule after captures family decides (by simpa using untried))]
            exact .rule decides
      · rw [scan_tried_of_inapplicable inapplicable]
        exact .other inapplicable
  refine ⟨answeredBy_iff.mpr rfl, all_iff, fun hold => ?_⟩
  exact all_iff.mpr (undisturbed_of_literalsHold hold)

/-! ## Compiled rules -/

/-- The search in the compiled patterns of rules is the scan of the rules that are tried. -/
theorem getD_findMap? {specs : List (PatternSpec ρ)} {set : PatternSet ρ}
    (checked : List.Forall₂ (fun rule spec => kind.spec? rule = some spec) rules specs)
    (built : PatternSet.build specs = .ok set) (text : String) :
    (set.findMap? kind.answer? text).getD kind.other = kind.scan (kind.tried rules text) text := by
  rw [scan, tried, findSome?_filter, PatternSet.findMap?,
    PatternSet.findMapBy?_of_build PatternSet.hits_isExact built]
  congr 1
  refine (findSome?_congr_forall₂ checked ?_).symm
  intro rule spec isSpec
  rw [isTried, ruleAnswer?, isSpec, Option.any_some, Option.bind_some]

end RuleKind

theorem forall₂_of_checkAll {ρ β : Type} {check : Nat → ρ → Except BuildError β} {rules : List ρ}
    {results : List β} (checked : checkAll check rules = .ok results) :
    List.Forall₂ (fun rule result => ∃ index, check index rule = .ok result) rules results := by
  have inPlace := mapM_eq_ok_iff.mp checked
  rw [← List.zipIdx_map_fst 0 rules, List.forall₂_map_left_iff]
  exact inPlace.imp fun _ _ passed => ⟨_, passed⟩

theorem requireRegex_eq_ok {category : Category} {index : Nat} {regex : Option String}
    {source : String} (required : requireRegex category index regex = .ok source) :
    regex = some source := by
  cases regex with
  | none => cases required
  | some _ => cases required; rfl

theorem UserAgentRule.spec?_of_spec {index : Nat} {rule : UserAgentRule}
    {spec : PatternSpec UserAgentRule} (checked : rule.spec index = .ok spec) :
    UserAgentRule.kind.spec? rule = some spec := by
  obtain ⟨source, required, rfl⟩ := map_eq_ok_iff.mp checked
  have present : UserAgentRule.kind.regex rule = some source := requireRegex_eq_ok required
  rw [RuleKind.spec?, present]
  rfl

theorem OsRule.spec?_of_spec {index : Nat} {rule : OsRule} {spec : PatternSpec OsRule}
    (checked : rule.spec index = .ok spec) : OsRule.kind.spec? rule = some spec := by
  obtain ⟨source, required, rfl⟩ := map_eq_ok_iff.mp checked
  have present : OsRule.kind.regex rule = some source := requireRegex_eq_ok required
  rw [RuleKind.spec?, present]
  rfl

theorem DeviceRule.ignoresCase_eq_ok {rule : DeviceRule} {ignoreCase : Bool}
    (flagged : rule.ignoresCase = .ok ignoreCase) : (rule.flag == some "i") = ignoreCase := by
  unfold DeviceRule.ignoresCase at flagged
  cases flag : rule.flag with
  | none =>
      rw [flag] at flagged
      cases flagged
      rfl
  | some flag' =>
      rw [flag] at flagged
      by_cases isI : flag' = "i"
      · subst isI
        cases flagged
        rfl
      · simp [isI] at flagged

theorem DeviceRule.spec?_of_spec {index : Nat} {rule : DeviceRule}
    {spec : PatternSpec DeviceRule} (checked : rule.spec index = .ok spec) :
    DeviceRule.kind.spec? rule = some spec := by
  obtain ⟨ignoreCase, flagged, checked⟩ := bind_eq_ok_iff.mp checked
  obtain ⟨source, required, checked⟩ := bind_eq_ok_iff.mp checked
  cases checked
  have present : DeviceRule.kind.regex rule = some source := requireRegex_eq_ok required
  rw [RuleKind.spec?, present, ← DeviceRule.ignoresCase_eq_ok flagged]
  rfl

/-! ## The answers of a category -/

theorem resolve_group (template : Option String) (captures : Captures) (group : Nat) :
    resolve template captures (some group) = fieldOrGroup template captures group := by
  cases template <;> rfl

theorem resolve_template (template : Option String) (captures : Captures) :
    resolve template captures none =
      template.bind fun template => Template.expand template captures := by
  cases template <;> rfl

theorem UserAgentRule.answer?_eq_kind : UserAgentRule.answer? = UserAgentRule.kind.answer? := by
  funext rule captures
  obtain ⟨regex, family, major, minor⟩ := rule
  simp only [UserAgentRule.answer?, RuleKind.answer?, UserAgentRule.kind, resolve_group]
  cases fieldOrGroup family captures 1 with
  | none => rfl
  | some _ => cases minor <;> rfl

theorem OsRule.answer?_eq_kind : OsRule.answer? = OsRule.kind.answer? := by
  funext rule captures
  simp only [OsRule.answer?, RuleKind.answer?, OsRule.kind, resolve_group]
  cases fieldOrGroup rule.family captures 1 <;> rfl

theorem DeviceRule.answer?_eq_kind : DeviceRule.answer? = DeviceRule.kind.answer? := by
  funext rule captures
  simp only [DeviceRule.answer?, RuleKind.answer?, DeviceRule.kind, resolve_group, resolve_template]
  cases fieldOrGroup rule.family captures 1 <;> rfl

/-- What a compiled category answers follows the first of its rules. -/
theorem follows_of_build {ρ γ : Type} {kind : RuleKind ρ γ}
    {check : Nat → ρ → Except BuildError (PatternSpec ρ)} {rules : List ρ} {set : PatternSet ρ}
    (specified : ∀ index rule spec, check index rule = .ok spec → kind.spec? rule = some spec)
    (built : (checkAll check rules >>= PatternSet.build) = .ok set) (text : String) :
    kind.Follows rules text ((set.findMap? kind.answer? text).getD kind.other) := by
  obtain ⟨specs, checked, built⟩ := bind_eq_ok_iff.mp built
  have related : List.Forall₂ (fun rule spec => kind.spec? rule = some spec) rules specs :=
    (forall₂_of_checkAll checked).imp fun rule spec passed =>
      passed.elim fun index passed => specified index rule spec passed
  rw [RuleKind.getD_findMap? related built]
  exact RuleKind.follows_scan_tried

theorem compile_eq_ok {table : RuleTable} {matchers : Matchers}
    (compiled : table.compile = .ok matchers) :
    (checkAll UserAgentRule.spec table.userAgents >>= PatternSet.build) = .ok matchers.userAgents ∧
      (checkAll OsRule.spec table.systems >>= PatternSet.build) = .ok matchers.systems ∧
      (checkAll DeviceRule.spec table.devices >>= PatternSet.build) = .ok matchers.devices := by
  unfold RuleTable.compile RuleTable.compileBy at compiled
  obtain ⟨userAgents, builtUserAgents, compiled⟩ := bind_eq_ok_iff.mp compiled
  obtain ⟨systems, builtSystems, compiled⟩ := bind_eq_ok_iff.mp compiled
  obtain ⟨devices, builtDevices, compiled⟩ := bind_eq_ok_iff.mp compiled
  cases compiled
  exact ⟨builtUserAgents, builtSystems, builtDevices⟩

/-- In each category the answer for a text is made by the first rule that applies among those whose
literals let them be tried; it is made by the first that applies among all rules exactly where no
rule that decides is passed over, or those behind it make the same answer. -/
theorem compile_follows {table : RuleTable} {matchers : Matchers}
    (compiled : table.compile = .ok matchers) (text : String) :
    UserAgentRule.kind.Follows table.userAgents text (matchers.userAgent text) ∧
      OsRule.kind.Follows table.systems text (matchers.os text) ∧
      DeviceRule.kind.Follows table.devices text (matchers.device text) := by
  obtain ⟨userAgents, systems, devices⟩ := compile_eq_ok compiled
  refine ⟨?_, ?_, ?_⟩
  · rw [Matchers.userAgent, UserAgentRule.answer?_eq_kind]
    exact follows_of_build (fun _ _ _ => UserAgentRule.spec?_of_spec) userAgents text
  · rw [Matchers.os, OsRule.answer?_eq_kind]
    exact follows_of_build (fun _ _ _ => OsRule.spec?_of_spec) systems text
  · rw [Matchers.device, DeviceRule.answer?_eq_kind]
    exact follows_of_build (fun _ _ _ => DeviceRule.spec?_of_spec) devices text

/-- The first pattern stands for braces in the text, and its literals for a repetition. -/
def bracedRules : RuleTable :=
  ⟨[⟨some "abc{ 2 }", some "X", none, none⟩, ⟨some "abc", some "Y", none, none⟩], [], []⟩

/-- The first rule applies, and the second one answers. -/
theorem blanks_in_braces :
    ∃ matchers, bracedRules.compile = .ok matchers ∧
      UserAgentRule.kind.AnsweredBy bracedRules.userAgents "abc{ 2 }"
        ⟨"X", none, none, none, none⟩ ∧
      matchers.userAgent "abc{ 2 }" = ⟨"Y", none, none, none, none⟩ ∧
      ¬ UserAgentRule.kind.Undisturbed bracedRules.userAgents "abc{ 2 }" := by
  cases compiled : bracedRules.compile with
  | error cause =>
      have compiles : bracedRules.compile.toOption.isSome = true := by decide +kernel
      simp [compiled, Except.toOption] at compiles
  | ok matchers =>
      have follows := (compile_follows compiled "abc{ 2 }").1
      have first : UserAgentRule.kind.AnsweredBy bracedRules.userAgents "abc{ 2 }"
          ⟨"X", none, none, none, none⟩ := by
        rw [RuleKind.answeredBy_iff]
        decide +kernel
      have second : matchers.userAgent "abc{ 2 }" = ⟨"Y", none, none, none, none⟩ := by
        rw [← RuleKind.answeredBy_iff.mp follows.tried]
        decide +kernel
      refine ⟨matchers, rfl, first, second, fun undisturbed => ?_⟩
      have same := first.unique (follows.all_iff.mpr undisturbed)
      rw [second] at same
      exact absurd same (by decide)

end AgentClassifier
