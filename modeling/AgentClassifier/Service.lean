import AgentClassifier.Cache.Layer
import AgentClassifier.Parser

/-!
A parser behind layers of caches.

* `Service` : the parser, its layers with the outermost first, and the number of questions that
  reached the parser.
* `Service.ask` : a layer answers what it holds, and asks further inside otherwise.
* `Service.reload` : exchanges the rules of the parser; what the layers hold stays.
* `Service.invalidateAt`, `Service.invalidate` : empties a layer, or the outermost one.
* `Layering` : the arrangements of layers in use.
-/

namespace AgentClassifier

variable {σ : Type → Type}

/-- The answer of a parser to a question. -/
def Parser.answer (parser : Parser) : (question : Question) → String → Answer question
  | .client, text => parser.parse text
  | .userAgent, text => parser.parseUserAgent text
  | .os, text => parser.parseOs text
  | .device, text => parser.parseDevice text

/-- A parser behind layers of caches, the outermost first. -/
structure Service (σ : Type → Type := Recent) where
  parser : Parser
  /-- How many questions reached the parser. -/
  calls : Nat
  layers : List (Layer σ)

/-- What a question leads to. -/
structure Asked (σ : Type → Type) (question : Question) where
  answer : Answer question
  layers : List (Layer σ)
  /-- How often the parser was asked. -/
  calls : Nat

/-- Asks the outermost layer, and what is inside if the layer has no answer. -/
def askThrough [Store σ] (parser : Parser) (question : Question) (text : String) :
    List (Layer σ) → Asked σ question
  | [] => ⟨parser.answer question text, [], 1⟩
  | layer :: inner =>
      match Store.use (layer.store question) text with
      | (some answer, store) => ⟨answer, layer.withStore question store :: inner, 0⟩
      | (none, store) =>
          let asked := askThrough parser question text inner
          let store := Store.put store text asked.answer
          ⟨asked.answer, layer.withStore question store :: asked.layers, asked.calls⟩

namespace Service

variable [Store σ]

/-- Asks a question about a text. -/
def ask (service : Service σ) (question : Question) (text : String) :
    Answer question × Service σ :=
  let asked := askThrough service.parser question text service.layers
  (asked.answer,
    { service with calls := service.calls + asked.calls, layers := asked.layers })

/-- Asks for the client of a text, if there is a text. -/
def ask? (service : Service σ) (text : Option String) : Option Client × Service σ :=
  match text with
  | some text =>
      let (client, service) := service.ask .client text
      (some client, service)
  | none => (none, service)

/-- Asks about several texts, one after the other. -/
def askAll (service : Service σ) (question : Question) :
    List String → List (Answer question) × Service σ
  | [] => ([], service)
  | text :: rest =>
      let (answer, service) := service.ask question text
      let (answers, service) := service.askAll question rest
      (answer :: answers, service)

/-- Exchanges the rules of the parser; after a failure the old ones stay. -/
def reload (service : Service σ) (table : RuleTable) : Except BuildError (Service σ) :=
  (service.parser.reload table).map fun parser => { service with parser }

/-- Empties the layer at a depth; the outermost has depth zero. -/
def invalidateAt (service : Service σ) (depth : Nat) : Service σ :=
  { service with layers := service.layers.modify depth Layer.clear }

/-- Empties the outermost layer. -/
def invalidate (service : Service σ) : Service σ := service.invalidateAt 0

end Service

/-- The arrangements of layers in use. -/
inductive Layering
  /-- The parser alone. -/
  | plain
  /-- A layer that bounds its size. -/
  | recent
  /-- A layer that also drops what is not used. -/
  | idle
  /-- A layer that bounds its size around one that also drops what is not used. -/
  | stacked
deriving DecidableEq, Repr

/-- A parser behind new layers, built from the inside. -/
def Layering.build [Store σ] (layering : Layering) (settings : Settings) (parser : Parser) :
    Except BuildError (Service σ) :=
  match layering with
  | plain => .ok ⟨parser, 0, []⟩
  | recent => (Layer.ofRecent settings).map fun layer => ⟨parser, 0, [layer]⟩
  | idle => (Layer.ofIdle settings).map fun layer => ⟨parser, 0, [layer]⟩
  | stacked => do
      let inner ← Layer.ofIdle settings
      let outer ← Layer.ofRecent settings
      return ⟨parser, 0, [outer, inner]⟩

end AgentClassifier
