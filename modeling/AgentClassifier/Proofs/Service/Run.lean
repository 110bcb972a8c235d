import AgentClassifier.Proofs.Traversal
import AgentClassifier.Service

/-!
Runs of a service.

* `Layer.IsNew` : a layer as it is made. The layers of a service have settings of their own.
* `Layering.of_build` : what a service is when it is new.
* `Event` : what can be done with a service.
* `Service.run` : the service after some events.
* `Layer.store_withStore_self`, `Layer.store_withStore_of_ne` : each question has a store of its
  own, so what holds of all stores is kept by exchanging one (`Layer.forall_store_withStore`).
-/

namespace AgentClassifier

open Traversal

variable {σ : Type → Type}

/-! ## The stores of a layer -/

theorem Settings.eq_of_capacity {settings : Settings} {entries : Nat}
    (counted : settings.capacity = .ok entries) :
    entries = settings.maxEntries ∧ 0 < settings.maxEntries := by
  unfold capacity at counted
  split at counted
  · cases counted
  · next valid =>
      cases counted
      exact ⟨rfl, by omega⟩

namespace Layer

@[simp]
theorem store_ofStores (stores : (α : Type) → σ α) (question : Question) :
    (ofStores stores).store question = stores (Answer question) := by
  cases question <;> rfl

@[simp]
theorem store_withStore_self (layer : Layer σ) (question : Question)
    (store : σ (Answer question)) : (layer.withStore question store).store question = store := by
  cases question <;> rfl

theorem store_withStore_of_ne (layer : Layer σ) {question other : Question}
    (different : other ≠ question) (store : σ (Answer question)) :
    (layer.withStore question store).store other = layer.store other := by
  cases question <;> cases other <;> first | rfl | exact absurd rfl different

/-- What holds of all stores still does when one of them is exchanged for a store that it holds
of. -/
theorem forall_store_withStore (holds : (question : Question) → σ (Answer question) → Prop)
    {layer : Layer σ} {question : Question} {store : σ (Answer question)}
    (new : holds question store)
    (others : ∀ other, other ≠ question → holds other (layer.store other)) :
    ∀ other, holds other ((layer.withStore question store).store other) := by
  intro other
  by_cases same : other = question
  · subst same
    rw [store_withStore_self]
    exact new
  · rw [store_withStore_of_ne layer same]
    exact others other same

@[simp]
theorem store_clear [Store σ] (layer : Layer σ) (question : Question) :
    layer.clear.store question = Store.clear (layer.store question) := by
  cases question <;> rfl

theorem eq_of_ofRecent [Store σ] {settings : Settings} {layer : Layer σ}
    (made : ofRecent settings = .ok layer) :
    0 < settings.maxEntries ∧ layer = ofStores fun _ => Store.bounded settings.maxEntries := by
  unfold ofRecent at made
  split at made
  · cases made
  · next counted =>
      obtain ⟨rfl, positive⟩ := Settings.eq_of_capacity counted
      split at made
      · cases made
      · cases made
        exact ⟨positive, rfl⟩

theorem eq_of_ofIdle [Store σ] {settings : Settings} {layer : Layer σ}
    (made : ofIdle settings = .ok layer) : layer = ofStores fun _ => Store.idle settings := by
  unfold ofIdle at made
  split at made
  · cases made
  · split at made
    · cases made
    · cases made
      rfl

/-- A layer as it is made, whatever its settings are. -/
inductive IsNew [Store σ] (layer : Layer σ) : Prop
  | recent (settings : Settings) (made : ofRecent settings = .ok layer)
  | idle (settings : Settings) (made : ofIdle settings = .ok layer)

/-- What holds of all new stores holds of the stores of a new layer. -/
theorem IsNew.store [Store σ] {layer : Layer σ} (new : layer.IsNew)
    (holds : {α : Type} → σ α → Prop)
    (bounded : ∀ {α : Type} (capacity : Nat), holds (Store.bounded capacity : σ α))
    (idle : ∀ {α : Type} (settings : Settings), holds (Store.idle settings : σ α))
    (question : Question) : holds (layer.store question) := by
  cases new with
  | recent settings made =>
      rw [(eq_of_ofRecent made).2, store_ofStores]
      exact bounded settings.maxEntries
  | idle settings made =>
      rw [eq_of_ofIdle made, store_ofStores]
      exact idle settings

end Layer

section

variable [Store σ] {parser : Parser} {question : Question} {text : String} {layer : Layer σ}

theorem askThrough_of_found {answer : Answer question}
    (found : (Store.use (layer.store question) text).1 = some answer) (inner : List (Layer σ)) :
    askThrough parser question text (layer :: inner) =
      ⟨answer, layer.withStore question (Store.use (layer.store question) text).2 :: inner, 0⟩ := by
  rw [askThrough, ← Prod.eta (Store.use (layer.store question) text), found]

theorem askThrough_of_missing (missing : (Store.use (layer.store question) text).1 = none)
    (inner : List (Layer σ)) :
    askThrough parser question text (layer :: inner) =
      ⟨(askThrough parser question text inner).answer,
        layer.withStore question (Store.put (Store.use (layer.store question) text).2 text
          (askThrough parser question text inner).answer) ::
            (askThrough parser question text inner).layers,
        (askThrough parser question text inner).calls⟩ := by
  rw [askThrough, ← Prod.eta (Store.use (layer.store question) text), missing]

end

/-- What a service is when it is new. -/
theorem Layering.of_build [Store σ] {layering : Layering} {settings : Settings} {parser : Parser}
    {service : Service σ} (built : layering.build settings parser = .ok service) :
    service.parser = parser ∧ ∀ layer ∈ service.layers, layer.IsNew := by
  cases layering with
  | plain =>
      cases built
      exact ⟨rfl, fun layer member => absurd member List.not_mem_nil⟩
  | recent =>
      obtain ⟨outer, made, rfl⟩ := map_eq_ok_iff.mp built
      exact ⟨rfl, List.forall_mem_singleton.mpr (.recent settings made)⟩
  | idle =>
      obtain ⟨outer, made, rfl⟩ := map_eq_ok_iff.mp built
      exact ⟨rfl, List.forall_mem_singleton.mpr (.idle settings made)⟩
  | stacked =>
      obtain ⟨inner, madeInner, built⟩ := bind_eq_ok_iff.mp built
      obtain ⟨outer, madeOuter, built⟩ := bind_eq_ok_iff.mp built
      cases built
      exact ⟨rfl, List.forall_mem_cons.mpr ⟨.recent settings madeOuter,
        List.forall_mem_singleton.mpr (.idle settings madeInner)⟩⟩

theorem Layering.length_layers_of_build_single [Store σ] {layering : Layering}
    (single : layering = .recent ∨ layering = .idle) {settings : Settings} {parser : Parser}
    {service : Service σ} (built : layering.build settings parser = .ok service) :
    service.layers.length = 1 := by
  rcases single with rfl | rfl
  · obtain ⟨outer, _, rfl⟩ := map_eq_ok_iff.mp built
    rfl
  · obtain ⟨outer, _, rfl⟩ := map_eq_ok_iff.mp built
    rfl

/-! ## Events -/

/-- What can be done with a service. -/
inductive Event
  | ask (question : Question) (text : String)
  /-- Asks for the client of a text that may be missing. -/
  | askOptional (text : Option String)
  /-- Exchanges the rules, or fails. -/
  | reload (table : RuleTable)
  /-- Empties the layer at a depth. -/
  | invalidate (depth : Nat)

/-- What an event asks about a text, if it asks something. -/
def Event.question? : Event → Option (Question × String)
  | .ask question text => some (question, text)
  | .askOptional text => text.map fun text => (.client, text)
  | .reload _ | .invalidate _ => none

theorem Event.of_question? {event : Event} {question : Question} {text : String}
    (asks : event.question? = some (question, text)) :
    event = .ask question text ∨ question = .client ∧ event = .askOptional (some text) := by
  cases event with
  | ask question text =>
      cases asks
      exact .inl rfl
  | askOptional text =>
      cases text with
      | none => cases asks
      | some text =>
          cases asks
          exact .inr ⟨rfl, rfl⟩
  | reload table => cases asks
  | invalidate depth => cases asks

theorem Event.of_silent {event : Event} (silent : event.question? = none) :
    event = .askOptional none ∨ (∃ table, event = .reload table) ∨
      ∃ depth, event = .invalidate depth := by
  cases event with
  | ask question text => cases silent
  | askOptional text =>
      cases text with
      | none => exact .inl rfl
      | some text => cases silent
  | reload table => exact .inr (.inl ⟨table, rfl⟩)
  | invalidate depth => exact .inr (.inr ⟨depth, rfl⟩)

namespace Service

variable [Store σ]

/-- The service after an event. -/
def step (service : Service σ) : Event → Service σ
  | .ask question text => (service.ask question text).2
  | .askOptional text => (service.ask? text).2
  | .reload table =>
      match service.reload table with
      | .ok reloaded => reloaded
      | .error _ => service
  | .invalidate depth => service.invalidateAt depth

variable (service : Service σ) {question : Question} {text : String}

theorem ask_answer : (service.ask question text).1 =
    (askThrough service.parser question text service.layers).answer := rfl

theorem ask_calls : (service.ask question text).2.calls =
    service.calls + (askThrough service.parser question text service.layers).calls := rfl

theorem ask_layers : (service.ask question text).2.layers =
    (askThrough service.parser question text service.layers).layers := rfl

theorem step_of_question? {event : Event} (asks : event.question? = some (question, text)) :
    service.step event = (service.ask question text).2 := by
  rcases Event.of_question? asks with rfl | ⟨rfl, rfl⟩
  · rfl
  · rfl

theorem reload_layers (table : RuleTable) :
    (service.step (.reload table)).layers = service.layers := by
  dsimp only [step, reload]
  cases service.parser.reload table <;> rfl

theorem reload_calls (table : RuleTable) :
    (service.step (.reload table)).calls = service.calls := by
  dsimp only [step, reload]
  cases service.parser.reload table <;> rfl

theorem calls_step_of_silent {event : Event} (silent : event.question? = none) :
    (service.step event).calls = service.calls := by
  rcases Event.of_silent silent with rfl | ⟨table, rfl⟩ | ⟨depth, rfl⟩
  · rfl
  · exact reload_calls service table
  · rfl

theorem mem_layers_invalidateAt {service : Service σ} {depth : Nat} {layer : Layer σ}
    (member : layer ∈ (service.invalidateAt depth).layers) :
    layer ∈ service.layers ∨ ∃ before ∈ service.layers, layer = before.clear := by
  obtain ⟨place, here⟩ := List.mem_iff_getElem?.mp member
  rw [invalidateAt, List.getElem?_modify] at here
  obtain ⟨before, there, emptied⟩ := Option.map_eq_some_iff.mp here
  have known : before ∈ service.layers := List.mem_of_getElem? there
  by_cases same : depth = place
  · rw [if_pos same] at emptied
    exact .inr ⟨before, known, emptied.symm⟩
  · rw [if_neg same] at emptied
    rw [← emptied]
    exact .inl known

/-- The service after some events. -/
def run (service : Service σ) (events : List Event) : Service σ := events.foldl step service

theorem run_cons (event : Event) (rest : List Event) :
    service.run (event :: rest) = (service.step event).run rest := rfl

end Service

end AgentClassifier
