import AgentClassifier.Cache.Store
import AgentClassifier.Client

/-!
A layer of caches: one store for each question that a parser answers.

* `Question`, `Answer` : the questions and the types of their answers.
* `Layer` : the four stores.
* `Layer.ofRecent`, `Layer.ofIdle` : a layer that only bounds its size, and one that also drops
  what was not used for some time.
-/

namespace AgentClassifier

/-- What can be asked about a text. -/
inductive Question
  | client
  | userAgent
  | os
  | device
deriving DecidableEq, Repr

/-- The type of the answers to a question. -/
def Answer : Question → Type
  | .client => Client
  | .userAgent => UserAgent
  | .os => Os
  | .device => Device

/-- One store for each question. -/
structure Layer (σ : Type → Type := Recent) where
  clients : σ Client
  userAgents : σ UserAgent
  systems : σ Os
  devices : σ Device

namespace Layer

variable {σ : Type → Type}

/-- Four stores of one kind. -/
def ofStores (stores : (α : Type) → σ α) : Layer σ := ⟨stores _, stores _, stores _, stores _⟩

/-- The store for a question. -/
def store (layer : Layer σ) : (question : Question) → σ (Answer question)
  | .client => layer.clients
  | .userAgent => layer.userAgents
  | .os => layer.systems
  | .device => layer.devices

/-- The layer with another store for a question. -/
def withStore (layer : Layer σ) : (question : Question) → σ (Answer question) → Layer σ
  | .client, store => { layer with clients := store }
  | .userAgent, store => { layer with userAgents := store }
  | .os, store => { layer with systems := store }
  | .device, store => { layer with devices := store }

variable [Store σ]

/-- The layer with all entries dropped. -/
def clear (layer : Layer σ) : Layer σ :=
  ⟨Store.clear layer.clients, Store.clear layer.userAgents, Store.clear layer.systems,
    Store.clear layer.devices⟩

/-- The number of entries for each question. -/
def counts (layer : Layer σ) : List Nat :=
  [Store.size layer.clients, Store.size layer.userAgents, Store.size layer.systems,
    Store.size layer.devices]

/-- The number of clients in a layer. -/
def size (layer : Layer σ) : Nat := Store.size layer.clients

/-- Whether a layer holds no client. -/
def isEmpty (layer : Layer σ) : Bool := layer.size == 0

/-- A layer that bounds its size only; the idle time does not matter. Its stores are laid out for
all their entries at once. -/
def ofRecent (settings : Settings) : Except BuildError (Layer σ) :=
  match settings.capacity with
  | .error error => .error error
  | .ok capacity =>
      if Store.maxCapacity σ < capacity then .error .capacityOverflow
      else .ok (ofStores fun _ => Store.bounded capacity)

/-- The longest idle time that a layer can count: a thousand years of 365 days. -/
def maxIdleTime : Duration := Duration.ofSecs (1000 * 365 * 24 * 60 * 60)

/-- A layer that also drops what was not used for the idle time. -/
def ofIdle (settings : Settings) : Except BuildError (Layer σ) :=
  match settings.validate with
  | .error error => .error error
  | .ok _ =>
      if maxIdleTime.nanos < settings.idleTime.nanos then .error .idleTimeTooLong
      else .ok (ofStores fun _ => Store.idle settings)

end Layer

end AgentClassifier
