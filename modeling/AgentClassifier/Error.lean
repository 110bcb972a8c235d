import AgentClassifier.Text.Quoted

/-!
What can be wrong with rules, patterns and settings.

* `Category` : the categories of rules.
* `BuildError` : the causes.
* `BuildError.message` : their texts.
-/

namespace AgentClassifier

/-- A category of rules. -/
inductive Category
  | userAgent
  | os
  | device
deriving DecidableEq, Repr

/-- The name of a category in messages. -/
def Category.display : Category → String
  | userAgent => "user agent"
  | os => "os"
  | device => "device"

/-- What is wrong with the settings of a cache. -/
inductive SettingsFault
  | capacity
  | idleTime
deriving DecidableEq, Repr

/-- Why something could not be built. -/
inductive BuildError
  /-- A rule has no pattern. -/
  | missingRegex (category : Category) (index : Nat)
  /-- A device rule has a flag that is not known. -/
  | unsupportedFlag (flag : String)
  /-- A pattern does not compile. -/
  | pattern (source : String)
  /-- The settings of a cache are refused. -/
  | invalidSettings (fault : SettingsFault)
  /-- A number of entries is more than a cache can be laid out for. -/
  | capacityOverflow
  /-- An idle time is longer than a cache can count. -/
  | idleTimeTooLong
  /-- A document is malformed or has another shape than it should. -/
  | document
  /-- A file does not exist. -/
  | fileNotFound
  /-- A file is not in UTF-8. -/
  | fileNotText
deriving DecidableEq, Repr

/-- The text of the fault. -/
def SettingsFault.message : SettingsFault → String
  | capacity => "max_entries must be greater than 0 and fit in memory"
  | idleTime => "time_to_idle must be greater than 0"

/-- The text of the error. -/
def BuildError.message : BuildError → String
  | missingRegex category index =>
      category.display ++ " pattern #" ++ toString index ++ " is missing \x60regex\x60"
  | unsupportedFlag flag => "unsupported regex_flag " ++ Quoted.quote flag
  | pattern source => "invalid pattern " ++ Quoted.quote source
  | invalidSettings fault => "invalid cache configuration: " ++ fault.message
  | capacityOverflow => "Hash table capacity overflow"
  | idleTimeTooLong => "time_to_idle is longer than 1000 years"
  | document => "malformed document"
  | fileNotFound => "No such file or directory (os error 2)"
  | fileNotText => "stream did not contain valid UTF-8"

end AgentClassifier
