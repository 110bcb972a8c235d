import AgentClassifier.Client
import AgentClassifier.PatternSet
import AgentClassifier.Rules
import AgentClassifier.Template

/-!
Compiled rules of the three categories.

* `RuleTable.compile` : compiles a table. In each category first every rule is checked for its
  shape, then the patterns are compiled; user agents come before systems, and these before devices.
* `Matchers.userAgent`, `Matchers.os`, `Matchers.device` : the answers for a text. A rule whose
  pattern matches but whose family is not resolved is passed over.
-/

namespace AgentClassifier

/-- The compiled rules of the three categories. -/
structure Matchers where
  userAgents : PatternSet UserAgentRule
  systems : PatternSet OsRule
  devices : PatternSet DeviceRule

/-! ## Checking the shape of rules -/

/-- Checks the rules in order with their indices; the first fault is the error. -/
def checkAll {α β : Type} (check : Nat → α → Except BuildError β) (rules : List α) :
    Except BuildError (List β) :=
  rules.zipIdx.mapM fun (rule, index) => check index rule

/-- The pattern of a rule, which has to be there. -/
def requireRegex (category : Category) (index : Nat) (regex : Option String) :
    Except BuildError String :=
  match regex with
  | some regex => .ok regex
  | none => .error (.missingRegex category index)

def UserAgentRule.spec (index : Nat) (rule : UserAgentRule) :
    Except BuildError (PatternSpec UserAgentRule) :=
  (requireRegex .userAgent index rule.regex).map fun regex => ⟨regex, false, rule⟩

def OsRule.spec (index : Nat) (rule : OsRule) : Except BuildError (PatternSpec OsRule) :=
  (requireRegex .os index rule.regex).map fun regex => ⟨regex, false, rule⟩

/-- Whether a device rule ignores case. -/
def DeviceRule.ignoresCase (rule : DeviceRule) : Except BuildError Bool :=
  match rule.flag with
  | none => .ok false
  | some flag => if flag = "i" then .ok true else .error (.unsupportedFlag flag)

/-- The flag of a device rule is checked before its pattern. -/
def DeviceRule.spec (index : Nat) (rule : DeviceRule) :
    Except BuildError (PatternSpec DeviceRule) := do
  let ignoreCase ← rule.ignoresCase
  let regex ← requireRegex .device index rule.regex
  return ⟨regex, ignoreCase, rule⟩

/-- Checks the rules of a category, then compiles their patterns. -/
def compileCategory {ρ : Type} (traverse : PatternSet.Traverse)
    (check : Nat → ρ → Except BuildError (PatternSpec ρ)) (rules : List ρ) :
    Except BuildError (PatternSet ρ) :=
  checkAll check rules >>= PatternSet.buildBy traverse

/-- Compiles the rules of a table, in whatever way the patterns of a category are visited. -/
def RuleTable.compileBy (traverse : PatternSet.Traverse) (table : RuleTable) :
    Except BuildError Matchers := do
  let userAgents ← compileCategory traverse UserAgentRule.spec table.userAgents
  let systems ← compileCategory traverse OsRule.spec table.systems
  let devices ← compileCategory traverse DeviceRule.spec table.devices
  return ⟨userAgents, systems, devices⟩

/-- Compiles the rules of a table. -/
def RuleTable.compile (table : RuleTable) : Except BuildError Matchers :=
  table.compileBy PatternSet.inOrder

/-! ## Answers -/

/-- The user agent that a rule makes of a match. A template for the minor version also decides
that there is no patch. -/
def UserAgentRule.answer? (rule : UserAgentRule) (captures : Captures) : Option UserAgent := do
  let family ← resolve rule.family captures (some 1)
  let major := resolve rule.major captures (some 2)
  match rule.minor with
  | some _ => some ⟨family, major, resolve rule.minor captures none, none, none⟩
  | none =>
      some ⟨family, major, captures.nonempty? 3, captures.nonempty? 4, captures.nonempty? 5⟩

/-- The operating system that a rule makes of a match. -/
def OsRule.answer? (rule : OsRule) (captures : Captures) : Option Os := do
  let family ← resolve rule.family captures (some 1)
  some ⟨family, resolve rule.major captures (some 2), resolve rule.minor captures (some 3),
    resolve rule.patch captures (some 4), captures.nonempty? 5⟩

/-- The device that a rule makes of a match. The brand comes from a template only. -/
def DeviceRule.answer? (rule : DeviceRule) (captures : Captures) : Option Device := do
  let family ← resolve rule.family captures (some 1)
  some ⟨family, resolve rule.brand captures none, resolve rule.model captures (some 1)⟩

namespace Matchers

def userAgent (matchers : Matchers) (text : String) : UserAgent :=
  (matchers.userAgents.findMap? UserAgentRule.answer? text).getD UserAgent.other

def os (matchers : Matchers) (text : String) : Os :=
  (matchers.systems.findMap? OsRule.answer? text).getD Os.other

def device (matchers : Matchers) (text : String) : Device :=
  (matchers.devices.findMap? DeviceRule.answer? text).getD Device.other

end Matchers

end AgentClassifier
