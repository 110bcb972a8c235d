import AgentClassifier.Client
import AgentClassifier.Error
import AgentClassifier.Labelled
import AgentClassifier.Pattern

/-!
Classification by hints that occur anywhere in the text.

* `PlatformHints`, `PlatformClassifier` : a mobile hint decides before any tablet hint does.
* `ManufacturerHints`, `ManufacturerClassifier` : the first name with a hint that occurs.

A search that was given up counts as no occurrence of that hint.
-/

namespace AgentClassifier

/-- Compiles a hint. -/
def compileHint (source : String) : Except BuildError Pattern :=
  match Pattern.compile? source false with
  | some pattern => .ok pattern
  | none => .error (.pattern source)

/-! ## Platforms -/

/-- Labelled hints for mobile devices and tablets. -/
structure PlatformHints where
  mobile : Labelled String
  tablet : Labelled String
deriving Repr

namespace PlatformHints

/-- The hints used by default. -/
def default : PlatformHints where
  mobile := [
    ("iPhone", "iPhone"),
    ("iPod", "iPod"),
    ("Android Phone", "Android.*Mobile"),
    ("Windows Phone", "Windows Phone|IEMobile"),
    ("BlackBerry", "BlackBerry|BB10"),
    ("Opera Mini", "Opera Mini"),
    ("Kindle Phone", "Silk.*Mobile")]
  tablet := [
    ("iPad", "iPad"),
    ("Kindle", "Kindle|Silk"),
    ("Android Tablet", "Android"),
    ("Generic Tablet", "Tablet")]

end PlatformHints

/-- Compiled hints for platforms. -/
structure PlatformClassifier where
  mobile : Labelled Pattern
  tablet : Labelled Pattern

/-- Compiles labelled hints in order. -/
def compileLabelled (hints : Labelled String) : Except BuildError (Labelled Pattern) :=
  hints.mapM fun (label, source) => (compileHint source).map fun pattern => (label, pattern)

/-- The label of the first hint that occurs. -/
def firstHit? (hints : Labelled Pattern) (text : String) : Option String :=
  (hints.find? fun hint => hint.2.occursIn text).map fun hint => hint.1

namespace PlatformClassifier

/-- Compiles the mobile hints, then the tablet hints. -/
def build (hints : PlatformHints) : Except BuildError PlatformClassifier := do
  let mobile ← compileLabelled hints.mobile
  let tablet ← compileLabelled hints.tablet
  return ⟨mobile, tablet⟩

/-- Mobile if a mobile hint occurs, else tablet if a tablet hint does, else desktop. -/
def classify (classifier : PlatformClassifier) (text : String) : Platform :=
  if (firstHit? classifier.mobile text).isSome then .mobile
  else if (firstHit? classifier.tablet text).isSome then .tablet
  else .desktop

end PlatformClassifier

/-! ## Manufacturers -/

/-- The hints of each manufacturer. -/
abbrev ManufacturerHints := Labelled (List String)

namespace ManufacturerHints

/-- The hints used by default. -/
def default : ManufacturerHints := [
  ("Apple", ["iOS", "OS X", "Macintosh"]),
  ("Google", ["Android"]),
  ("Microsoft", ["Windows"]),
  ("Linux", ["Linux"])]

end ManufacturerHints

/-- Compiled hints for manufacturers. -/
structure ManufacturerClassifier where
  manufacturers : Labelled (List Pattern)

namespace ManufacturerClassifier

/-- Compiles the hints by name, then by their order under the name. -/
def build (hints : ManufacturerHints) : Except BuildError ManufacturerClassifier := do
  let manufacturers ← hints.mapM fun (name, sources) =>
    (sources.mapM compileHint).map fun patterns => (name, patterns)
  return ⟨manufacturers⟩

/-- The first manufacturer with a hint that occurs. -/
def classify (classifier : ManufacturerClassifier) (text : String) : Manufacturer :=
  match classifier.manufacturers.find? fun entry =>
      entry.2.any fun pattern => pattern.occursIn text with
  | some entry => ⟨entry.1⟩
  | none => Manufacturer.other

end ManufacturerClassifier

end AgentClassifier
