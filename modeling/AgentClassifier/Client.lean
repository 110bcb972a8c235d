/-!
What is known about a client, and how it is shown.

* `UserAgent`, `Os`, `Device` : the browser, the operating system and the hardware.
* `Platform`, `Manufacturer` : classifications of the whole client.
* `Client` : all of them together. Clients are equal when user agent, operating system and device
  are; the classifications follow from the same text and do not count.
-/

namespace AgentClassifier

/-- The family of everything that no rule knows. -/
def otherFamily : String := "Other"

/-! ## User agents -/

/-- A browser or another program that sends requests. -/
structure UserAgent where
  family : String
  major : Option String
  minor : Option String
  patch : Option String
  patchMinor : Option String
deriving DecidableEq, Repr, Inhabited

namespace UserAgent

/-- The user agent that no rule knows. -/
def other : UserAgent := ⟨otherFamily, none, none, none, none⟩

/-- The version numbers joined by points, up to the patch and up to the first one missing. -/
def version (agent : UserAgent) : Option String :=
  match agent.major, agent.minor, agent.patch with
  | none, _, _ => none
  | some major, none, _ => some major
  | some major, some minor, none => some (major ++ "." ++ minor)
  | some major, some minor, some patch => some (major ++ "." ++ minor ++ "." ++ patch)

/-- The family, and the version after a blank if there is one. -/
def display (agent : UserAgent) : String :=
  match agent.version with
  | some version => agent.family ++ " " ++ version
  | none => agent.family

end UserAgent

/-! ## Operating systems -/

/-- An operating system. -/
structure Os where
  family : String
  major : Option String
  minor : Option String
  patch : Option String
  patchMinor : Option String
deriving DecidableEq, Repr, Inhabited

namespace Os

/-- The operating system that no rule knows. -/
def other : Os := ⟨otherFamily, none, none, none, none⟩

/-- The family with the major and minor version, up to the first one missing. -/
def displayName (os : Os) : String :=
  match os.major, os.minor with
  | none, _ => os.family
  | some major, none => os.family ++ " " ++ major
  | some major, some minor => os.family ++ " " ++ major ++ "." ++ minor

def display (os : Os) : String := os.displayName

end Os

/-! ## Devices -/

/-- The hardware that a client runs on. -/
structure Device where
  family : String
  brand : Option String
  model : Option String
deriving DecidableEq, Repr, Inhabited

namespace Device

/-- The device that no rule knows. -/
def other : Device := ⟨otherFamily, none, none⟩

/-- The family, with brand and model in parentheses if both are known. -/
def display (device : Device) : String :=
  match device.brand, device.model with
  | some brand, some model => device.family ++ " (" ++ brand ++ " " ++ model ++ ")"
  | _, _ => device.family

end Device

/-! ## Classifications -/

/-- The kind of device a client runs on. -/
inductive Platform
  | desktop
  | mobile
  | tablet
deriving DecidableEq, Repr, Inhabited

namespace Platform

def display : Platform → String
  | desktop => "Desktop"
  | mobile => "Mobile"
  | tablet => "Tablet"

end Platform

/-- The vendor of the operating system that a client runs on. -/
structure Manufacturer where
  name : String
deriving DecidableEq, Repr, Inhabited

namespace Manufacturer

/-- The manufacturer that no pattern knows. -/
def other : Manufacturer := ⟨otherFamily⟩

def isOther (manufacturer : Manufacturer) : Bool := manufacturer.name == otherFamily

def display (manufacturer : Manufacturer) : String := manufacturer.name

end Manufacturer

/-! ## Clients -/

/-- Everything that a user-agent string tells. -/
structure Client where
  userAgent : UserAgent
  os : Os
  device : Device
  platform : Platform
  manufacturer : Manufacturer
deriving DecidableEq, Repr, Inhabited

namespace Client

/-- The part of a client that counts when clients are compared. -/
def identity (client : Client) : UserAgent × Os × Device :=
  (client.userAgent, client.os, client.device)

/-- Whether two clients are the same up to their classifications. -/
def sameAs (first second : Client) : Bool := first.identity == second.identity

def display (client : Client) : String :=
  client.userAgent.display ++ " on " ++ client.os.display ++ " / " ++ client.device.display ++
    " [" ++ client.platform.display ++ ", " ++ client.manufacturer.display ++ "]"

end Client

end AgentClassifier
