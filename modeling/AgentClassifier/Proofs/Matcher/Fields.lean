import AgentClassifier.Proofs.Matcher.FirstRule
import AgentClassifier.Proofs.Template

/-!
What the fields of an answer are like, given the rule that made it.

* `Field` : a field with the template and the group that its value may come from;
  `UserAgentRule.fieldsOf`, `OsRule.fieldsOf` and `DeviceRule.fieldsOf` list them for an answer.
* `Field.IsResolved.isSound` : what a template or a group resolves to is never empty, shows where it
  comes from a template, and is a part of the text where it comes from a group.
* `RuleKind.AccountedBy` : all fields of an answer are sound for the rule that decides.
* `accounted_of_compile` : the answers of compiled rules are such answers.
-/

namespace AgentClassifier

/-! ## Fields -/

/-- A field of an answer, with the template that a rule sets for it and the group that stands in
where the rule sets none. -/
structure Field where
  template : Option String
  group : Option Nat
  value : Option String

namespace Field

/-- The value is what the template or the group resolves to. -/
def IsResolved (field : Field) (captures : Captures) : Prop :=
  field.value = resolve field.template captures field.group

/-- What is known about the value of a field of an answer for a text. -/
structure IsSound (field : Field) (text : String) : Prop where
  nonempty : field.value ≠ some ""
  /-- A value comes from a template or from a group. -/
  sourced : field.value.isSome → field.template.isSome ∨ field.group.isSome
  shows : ∀ template value, field.template = some template → field.value = some value →
    Blank.Shows value.toList
  trimmed : ∀ template value, field.template = some template → '$' ∈ template.toList →
    field.value = some value → Blank.IsTrimmed value.toList
  /-- A value that does not come from a template is a part of the text. -/
  taken : ∀ value, field.template = none → field.value = some value →
    value.toList <:+: text.toList

variable {captures : Captures} {text : String}

theorem isSound_of_template {template : String} {group : Option Nat} {value : Option String}
    (expanded : value = Template.expand template captures) :
    IsSound ⟨some template, group, value⟩ text where
  nonempty empty := by
    have shows := Template.shows_of_expand (expanded.symm.trans empty)
    exact shows.ne_nil String.toList_empty
  sourced _ := .inl rfl
  shows _ _ same present := by
    cases same
    exact Template.shows_of_expand (expanded.symm.trans present)
  trimmed _ _ same refers present := by
    cases same
    exact Template.isTrimmed_of_expand (expanded.symm.trans present) refers
  taken _ impossible := by cases impossible

theorem isSound_of_group {group : Option Nat} {value : Option String}
    (ofText : captures.text.toList = text.toList)
    (recorded : value = group.bind captures.nonempty?) : IsSound ⟨none, group, value⟩ text where
  nonempty empty := by
    obtain ⟨_, _, here⟩ := Option.bind_eq_some_iff.mp (recorded.symm.trans empty)
    exact (Captures.nonempty?_eq_some_iff.mp here).2 rfl
  sourced present := by
    cases group with
    | none =>
        rw [recorded] at present
        cases present
    | some _ => exact .inr rfl
  shows _ _ impossible := by cases impossible
  trimmed _ _ impossible := by cases impossible
  taken value _ present := by
    obtain ⟨_, _, here⟩ := Option.bind_eq_some_iff.mp (recorded.symm.trans present)
    rw [← ofText]
    exact Captures.infix_of_group? (Captures.nonempty?_eq_some_iff.mp here).1

theorem IsResolved.isSound {field : Field} (resolved : field.IsResolved captures)
    (ofText : captures.text.toList = text.toList) : field.IsSound text := by
  obtain ⟨template, group, value⟩ := field
  cases template with
  | some template => exact isSound_of_template resolved
  | none => exact isSound_of_group ofText resolved

end Field

/-! ## The fields of the categories -/

/-- The values of all fields. -/
def UserAgent.values (agent : UserAgent) : List (Option String) :=
  [some agent.family, agent.major, agent.minor, agent.patch, agent.patchMinor]

/-- The values of all fields. -/
def Os.values (os : Os) : List (Option String) :=
  [some os.family, os.major, os.minor, os.patch, os.patchMinor]

/-- The values of all fields. -/
def Device.values (device : Device) : List (Option String) :=
  [some device.family, device.brand, device.model]

/-- Where the fields of a user agent come from. With a template for the minor version, no group
stands in for the patch. -/
def UserAgentRule.fieldsOf (rule : UserAgentRule) (agent : UserAgent) : List Field :=
  [⟨rule.family, some 1, some agent.family⟩, ⟨rule.major, some 2, agent.major⟩,
    ⟨rule.minor, some 3, agent.minor⟩,
    ⟨none, if rule.minor.isSome then none else some 4, agent.patch⟩,
    ⟨none, if rule.minor.isSome then none else some 5, agent.patchMinor⟩]

/-- Where the fields of an operating system come from. -/
def OsRule.fieldsOf (rule : OsRule) (os : Os) : List Field :=
  [⟨rule.family, some 1, some os.family⟩, ⟨rule.major, some 2, os.major⟩,
    ⟨rule.minor, some 3, os.minor⟩, ⟨rule.patch, some 4, os.patch⟩, ⟨none, some 5, os.patchMinor⟩]

/-- Where the fields of a device come from. No group stands in for the brand, so there is one only
where the rule sets a template for it. -/
def DeviceRule.fieldsOf (rule : DeviceRule) (device : Device) : List Field :=
  [⟨rule.family, some 1, some device.family⟩, ⟨rule.brand, none, device.brand⟩,
    ⟨rule.model, some 1, device.model⟩]

section Resolved

variable {captures : Captures} {family : String}

theorem UserAgentRule.fieldsOf_resolved {rule : UserAgentRule}
    (resolved : fieldOrGroup rule.family captures 1 = some family) :
    ∀ field ∈ rule.fieldsOf (UserAgentRule.kind.fields rule captures family),
      field.IsResolved captures := by
  rw [← resolve_group] at resolved
  simp only [fieldsOf, kind, Field.IsResolved, List.forall_mem_cons, resolve_group, resolved]
  refine ⟨trivial, trivial, trivial, ?_, ?_, List.forall_mem_nil _⟩
  · split <;> rfl
  · split <;> rfl

theorem OsRule.fieldsOf_resolved {rule : OsRule}
    (resolved : fieldOrGroup rule.family captures 1 = some family) :
    ∀ field ∈ rule.fieldsOf (OsRule.kind.fields rule captures family),
      field.IsResolved captures := by
  simp only [fieldsOf, kind, Field.IsResolved, List.forall_mem_cons, resolve_group, resolved]
  exact ⟨trivial, trivial, trivial, trivial, rfl, List.forall_mem_nil _⟩

theorem DeviceRule.fieldsOf_resolved {rule : DeviceRule}
    (resolved : fieldOrGroup rule.family captures 1 = some family) :
    ∀ field ∈ rule.fieldsOf (DeviceRule.kind.fields rule captures family),
      field.IsResolved captures := by
  simp only [fieldsOf, kind, Field.IsResolved, List.forall_mem_cons, resolve_group,
    resolve_template, resolved]
  exact ⟨trivial, trivial, trivial, List.forall_mem_nil _⟩

end Resolved

/-! ## Answers that are accounted for -/

namespace RuleKind

variable {ρ γ : Type}

/-- An answer is made by the first rule that applies among those that are tried, and each of its
fields is sound for what this rule sets. Where there is no such rule, nothing is known. -/
inductive AccountedBy (kind : RuleKind ρ γ) (fieldsOf : ρ → γ → List Field) (rules : List ρ)
    (text : String) : γ → Prop
  | rule {rule : ρ} {after : List ρ} {captures : Captures} {family : String} :
      kind.Decides (kind.tried rules text) text rule after captures family →
      (∀ field ∈ fieldsOf rule (kind.fields rule captures family), field.IsSound text) →
      AccountedBy kind fieldsOf rules text (kind.fields rule captures family)
  | other : (∀ rule ∈ kind.tried rules text, ¬ kind.Applies rule text) →
      AccountedBy kind fieldsOf rules text kind.other

variable {kind : RuleKind ρ γ} {fieldsOf : ρ → γ → List Field} {rules : List ρ} {text : String}
  {answer : γ}

theorem AnsweredBy.accountedBy (answered : kind.AnsweredBy (kind.tried rules text) text answer)
    (resolved : ∀ rule captures family, fieldOrGroup (kind.family rule) captures 1 = some family →
      ∀ field ∈ fieldsOf rule (kind.fields rule captures family), field.IsResolved captures) :
    kind.AccountedBy fieldsOf rules text answer := by
  rcases answered with decides | inapplicable
  · -- the captures are those of a search in this text, so its groups are parts of it
    obtain ⟨spec, _, pattern, _, found⟩ := decides.resolves.finds
    refine .rule decides fun field member => ?_
    exact (resolved _ _ _ decides.resolves.family field member).isSound
      (Pattern.text_of_search found)
  · exact .other inapplicable

/-- If the fields are all there is in an answer, then nothing in it is empty text. -/
theorem AccountedBy.nonempty (accounted : kind.AccountedBy fieldsOf rules text answer)
    {values : γ → List (Option String)}
    (covered : ∀ rule answer, (fieldsOf rule answer).map Field.value = values answer)
    (other : some "" ∉ values kind.other) : some "" ∉ values answer := by
  cases accounted with
  | @rule rule _ captures family _ sound =>
      intro empty
      rw [← covered rule] at empty
      obtain ⟨field, member, isEmpty⟩ := List.mem_map.mp empty
      exact (sound field member).nonempty isEmpty
  | other _ => exact other

end RuleKind

theorem UserAgent.nonempty_of_accountedBy {rules : List UserAgentRule} {text : String}
    {agent : UserAgent}
    (accounted : UserAgentRule.kind.AccountedBy UserAgentRule.fieldsOf rules text agent) :
    some "" ∉ agent.values :=
  accounted.nonempty (fun _ _ => rfl) (by decide)

theorem Os.nonempty_of_accountedBy {rules : List OsRule} {text : String} {os : Os}
    (accounted : OsRule.kind.AccountedBy OsRule.fieldsOf rules text os) : some "" ∉ os.values :=
  accounted.nonempty (fun _ _ => rfl) (by decide)

theorem Device.nonempty_of_accountedBy {rules : List DeviceRule} {text : String} {device : Device}
    (accounted : DeviceRule.kind.AccountedBy DeviceRule.fieldsOf rules text device) :
    some "" ∉ device.values :=
  accounted.nonempty (fun _ _ => rfl) (by decide)

/-- The rules of a table account for what they answer once they are compiled. -/
theorem accounted_of_compile {table : RuleTable} {matchers : Matchers}
    (compiled : table.compile = .ok matchers) (text : String) :
    UserAgentRule.kind.AccountedBy UserAgentRule.fieldsOf table.userAgents text
        (matchers.userAgent text) ∧
      OsRule.kind.AccountedBy OsRule.fieldsOf table.systems text (matchers.os text) ∧
      DeviceRule.kind.AccountedBy DeviceRule.fieldsOf table.devices text
        (matchers.device text) := by
  obtain ⟨userAgents, systems, devices⟩ := compile_eq_ok compiled
  refine ⟨?_, ?_, ?_⟩
  · have follows := follows_of_build (fun _ _ _ => UserAgentRule.spec?_of_spec) userAgents text
    rw [Matchers.userAgent, UserAgentRule.answer?_eq_kind]
    exact follows.tried.accountedBy fun _ _ _ => UserAgentRule.fieldsOf_resolved
  · have follows := follows_of_build (fun _ _ _ => OsRule.spec?_of_spec) systems text
    rw [Matchers.os, OsRule.answer?_eq_kind]
    exact follows.tried.accountedBy fun _ _ _ => OsRule.fieldsOf_resolved
  · have follows := follows_of_build (fun _ _ _ => DeviceRule.spec?_of_spec) devices text
    rw [Matchers.device, DeviceRule.answer?_eq_kind]
    exact follows.tried.accountedBy fun _ _ _ => DeviceRule.fieldsOf_resolved

end AgentClassifier
