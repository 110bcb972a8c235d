import AgentClassifier.Classifier
import AgentClassifier.Matcher

/-!
The parser of user-agent strings: compiled rules with the two classifiers.

* `Parser.ofTable` : compiles a table; the classifiers are the default ones.
* `Parser.parse` and the questions for single parts.
* `Parser.reload` : exchanges the rules of all categories at once, or none of them.
-/

namespace AgentClassifier

/-- Compiled rules and classifiers. -/
structure Parser where
  matchers : Matchers
  platform : PlatformClassifier
  manufacturer : ManufacturerClassifier

namespace Parser

/-- A parser for the rules of a table with the default classifiers. -/
def ofTable (table : RuleTable) : Except BuildError Parser := do
  let matchers ← table.compile
  let platform ← PlatformClassifier.build PlatformHints.default
  let manufacturer ← ManufacturerClassifier.build ManufacturerHints.default
  return ⟨matchers, platform, manufacturer⟩

/-- The parser with another classifier for platforms. -/
def withPlatform (parser : Parser) (platform : PlatformClassifier) : Parser :=
  { parser with platform }

/-- The parser with another classifier for manufacturers. -/
def withManufacturer (parser : Parser) (manufacturer : ManufacturerClassifier) : Parser :=
  { parser with manufacturer }

/-- The parser with the rules of another table; the classifiers stay. -/
def reload (parser : Parser) (table : RuleTable) : Except BuildError Parser :=
  table.compile.map fun matchers => { parser with matchers }

def parseUserAgent (parser : Parser) (text : String) : UserAgent :=
  parser.matchers.userAgent text

def parseOs (parser : Parser) (text : String) : Os := parser.matchers.os text

def parseDevice (parser : Parser) (text : String) : Device := parser.matchers.device text

def parsePlatform (parser : Parser) (text : String) : Platform := parser.platform.classify text

def parseManufacturer (parser : Parser) (text : String) : Manufacturer :=
  parser.manufacturer.classify text

/-- Everything that the text tells. -/
def parse (parser : Parser) (text : String) : Client where
  userAgent := parser.parseUserAgent text
  os := parser.parseOs text
  device := parser.parseDevice text
  platform := parser.parsePlatform text
  manufacturer := parser.parseManufacturer text

/-- Everything that a text tells, if there is a text. -/
def parse? (parser : Parser) (text : Option String) : Option Client :=
  text.map parser.parse

end Parser

end AgentClassifier
