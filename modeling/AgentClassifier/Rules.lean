/-!
Rules as they are written down: a pattern with templates for the fields of the answer.

* `UserAgentRule`, `OsRule`, `DeviceRule` : the rules of the three categories.
* `RuleTable` : the rules in order; in each category the first one that applies decides.
-/

namespace AgentClassifier

/-- A rule that recognises user agents. -/
structure UserAgentRule where
  regex : Option String
  family : Option String
  major : Option String
  minor : Option String
deriving DecidableEq, Repr, Inhabited

/-- A rule that recognises operating systems. -/
structure OsRule where
  regex : Option String
  family : Option String
  major : Option String
  minor : Option String
  patch : Option String
deriving DecidableEq, Repr, Inhabited

/-- A rule that recognises devices. -/
structure DeviceRule where
  regex : Option String
  /-- `i` makes the pattern ignore case; nothing else is allowed. -/
  flag : Option String
  family : Option String
  brand : Option String
  model : Option String
deriving DecidableEq, Repr, Inhabited

/-- The rules of the three categories, in order. -/
structure RuleTable where
  userAgents : List UserAgentRule
  systems : List OsRule
  devices : List DeviceRule
deriving DecidableEq, Repr, Inhabited

end AgentClassifier
