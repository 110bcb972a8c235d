import AgentClassifier.Proofs.Cache.Recency
import AgentClassifier.Proofs.Service.Run

/-!
An outermost layer of bounded size holds, for each question, the texts that were asked about last.

* `Service.passesOn`, `Service.passedOn` : when the outermost layer asks inside, and how often.
* `Requests` : what was asked since the layer was emptied, and how often something else than a hit,
  both said without the layer.
* `Service.HoldsLatest` : the invariant. The keys in each store are the latest different texts.
* `Service.HoldsLatest.step` : every event preserves it.
* `run_holds_latest` : what the layer holds after any run, and what was passed on.
-/

namespace AgentClassifier

variable {σ : Type → Type}

/-! ## What the outermost layer passes on -/

namespace Service

variable [Store σ]

/-- The outermost layer has no answer, so what is inside is asked. -/
def passesOn (service : Service σ) (question : Question) (text : String) : Bool :=
  match service.layers with
  | [] => true
  | layer :: _ => (Store.use (layer.store question) text).1.isNone

/-- How often the outermost layer asks inside during some events. -/
def passedOn (service : Service σ) : List Event → Nat
  | [] => 0
  | event :: rest =>
      match event.question? with
      | some (question, text) =>
          (service.passesOn question text).toNat + (service.step event).passedOn rest
      | none => (service.step event).passedOn rest

theorem passesOn_of_layers {service : Service σ} {layer : Layer σ} {inner : List (Layer σ)}
    (isLayers : service.layers = layer :: inner) (question : Question) (text : String) :
    service.passesOn question text = (Store.use (layer.store question) text).1.isNone := by
  rw [passesOn, isLayers]

/-- Inside of a single layer there is only the parser. -/
theorem calls_ask_of_single {service : Service σ} (single : service.layers.length = 1)
    (question : Question) (text : String) :
    (service.ask question text).2.calls =
      service.calls + (service.passesOn question text).toNat := by
  obtain ⟨layer, isLayer⟩ := List.length_eq_one_iff.mp single
  rw [ask_calls, passesOn_of_layers isLayer, isLayer]
  cases found : (Store.use (layer.store question) text).1 with
  | some answer =>
      rw [askThrough_of_found found]
      rfl
  | none =>
      rw [askThrough_of_missing found]
      rfl

theorem length_askThrough (parser : Parser) (question : Question) (text : String)
    (layers : List (Layer σ)) :
    (askThrough parser question text layers).layers.length = layers.length := by
  induction layers with
  | nil => rfl
  | cons layer inner ih =>
      cases found : (Store.use (layer.store question) text).1 with
      | some answer =>
          rw [askThrough_of_found found]
          rfl
      | none =>
          rw [askThrough_of_missing found]
          exact congrArg (· + 1) ih

theorem length_layers_step (service : Service σ) (event : Event) :
    (service.step event).layers.length = service.layers.length := by
  cases event with
  | ask question text => exact length_askThrough _ _ _ _
  | askOptional text =>
      cases text with
      | none => rfl
      | some text => exact length_askThrough _ _ _ _
  | reload table => rw [reload_layers]
  | invalidate depth => exact List.length_modify _ _ _

theorem length_layers_run (service : Service σ) (events : List Event) :
    (service.run events).layers.length = service.layers.length := by
  induction events generalizing service with
  | nil => rfl
  | cons event rest ih => rw [run_cons, ih, length_layers_step]

theorem calls_run_of_single {service : Service σ} (single : service.layers.length = 1)
    (events : List Event) :
    (service.run events).calls = service.calls + service.passedOn events := by
  induction events generalizing service with
  | nil => rfl
  | cons event rest ih =>
      have later := ih ((length_layers_step service event).trans single)
      rw [run_cons, later, passedOn]
      cases asks : event.question? with
      | some about =>
          obtain ⟨question, text⟩ := about
          rw [step_of_question? _ asks, calls_ask_of_single single, Nat.add_assoc]
      | none => rw [calls_step_of_silent _ asks]

end Service

/-! ## Requests -/

/-- What was asked of an outermost layer of bounded size. -/
structure Requests where
  /-- The texts that were asked about since the layer was emptied, the latest first. -/
  texts : Question → List String
  /-- The number of questions that were no hits. -/
  misses : Nat

namespace Requests

/-- Nothing was asked. -/
def nothing : Requests := ⟨fun _ => [], 0⟩

/-- The requests after a question. -/
def ask (requests : Requests) (capacity : Nat) (question : Question) (text : String) :
    Requests where
  texts := Function.update requests.texts question (text :: requests.texts question)
  misses :=
    if IsHit capacity (requests.texts question) text then requests.misses else requests.misses + 1

/-- The requests after an event. -/
def step (capacity : Nat) (requests : Requests) : Event → Requests
  | .ask question text => requests.ask capacity question text
  | .askOptional (some text) => requests.ask capacity .client text
  | .invalidate 0 => { requests with texts := fun _ => [] }
  | .askOptional none | .reload _ | .invalidate (_ + 1) => requests

/-- The requests of a run. -/
def ofRun (capacity : Nat) (events : List Event) : Requests := events.foldl (step capacity) nothing

variable {requests : Requests} {capacity : Nat} {question other : Question} {text : String}

theorem texts_ask_self :
    (requests.ask capacity question text).texts question = text :: requests.texts question :=
  Function.update_self _ _ _

theorem texts_ask_of_ne (different : other ≠ question) :
    (requests.ask capacity question text).texts other = requests.texts other :=
  Function.update_of_ne different _ _

theorem step_of_question? {event : Event} (asks : event.question? = some (question, text)) :
    requests.step capacity event = requests.ask capacity question text := by
  rcases Event.of_question? asks with rfl | ⟨rfl, rfl⟩
  · rfl
  · rfl

theorem misses_step_of_silent {event : Event} (silent : event.question? = none) :
    (requests.step capacity event).misses = requests.misses := by
  rcases Event.of_silent silent with rfl | ⟨table, rfl⟩ | ⟨depth, rfl⟩
  · rfl
  · rfl
  · cases depth with
    | zero => rfl
    | succ depth => rfl

end Requests

/-! ## What the outermost layer holds -/

variable {seen : (α : Type) → σ α → Recent α → Prop} {capacity : Nat} {requests : Requests}

/-- In the store for each question the keys are the latest different texts. -/
def Layer.HoldsLatest (layer : Layer σ) (seen : (α : Type) → σ α → Recent α → Prop)
    (capacity : Nat) (texts : Question → List String) : Prop :=
  ∀ question, Store.HasLatest seen (layer.store question) capacity (texts question)

theorem Layer.HoldsLatest.withStore {layer : Layer σ}
    (holds : layer.HoldsLatest seen capacity requests.texts) {question : Question} {text : String}
    {store : σ (Answer question)}
    (has : Store.HasLatest seen store capacity (text :: requests.texts question)) :
    (layer.withStore question store).HoldsLatest seen capacity
      (requests.ask capacity question text).texts := by
  refine forall_store_withStore (fun asked store =>
    Store.HasLatest seen store capacity ((requests.ask capacity question text).texts asked)) ?_ ?_
  · rw [Requests.texts_ask_self]
    exact has
  · intro other different
    rw [Requests.texts_ask_of_ne different]
    exact holds other

namespace Service

variable [Store σ] {service : Service σ}

/-- The outermost layer holds the latest texts. -/
def HoldsLatest (service : Service σ) (seen : (α : Type) → σ α → Recent α → Prop)
    (capacity : Nat) (requests : Requests) : Prop :=
  ∃ layer inner, service.layers = layer :: inner ∧
    layer.HoldsLatest seen capacity requests.texts

namespace HoldsLatest

variable (keeps : Store.KeepsRecent seen)

include keeps

theorem passesOn_iff (holds : service.HoldsLatest seen capacity requests) (question : Question)
    (text : String) :
    service.passesOn question text = true ↔ ¬ IsHit capacity (requests.texts question) text := by
  obtain ⟨layer, inner, isLayers, stores⟩ := holds
  rw [passesOn_of_layers isLayers, Option.isNone_iff_eq_none]
  exact keeps.found_eq_none_iff (stores question)

theorem misses_ask (holds : service.HoldsLatest seen capacity requests) (question : Question)
    (text : String) :
    (requests.ask capacity question text).misses =
      requests.misses + (service.passesOn question text).toNat := by
  have passes := holds.passesOn_iff keeps question text
  unfold Requests.ask
  by_cases hit : IsHit capacity (requests.texts question) text
  · rw [if_pos hit, Bool.eq_false_iff.mpr fun passed => passes.mp passed hit]
    rfl
  · rw [if_neg hit, passes.mpr hit]
    rfl

/-- Whether the text is found or not, it becomes the latest one. -/
theorem ask (room : 0 < capacity) (holds : service.HoldsLatest seen capacity requests)
    (question : Question) (text : String) :
    (service.ask question text).2.HoldsLatest seen capacity
      (requests.ask capacity question text) := by
  obtain ⟨layer, inner, isLayers, stores⟩ := holds
  have has := stores question
  rw [HoldsLatest, ask_layers, isLayers]
  cases found : (Store.use (layer.store question) text).1 with
  | some answer =>
      rw [askThrough_of_found found]
      exact ⟨_, _, rfl, stores.withStore (keeps.hasLatest_use room has found)⟩
  | none =>
      rw [askThrough_of_missing found]
      exact ⟨_, _, rfl, stores.withStore (keeps.hasLatest_put room has found _)⟩

theorem step (room : 0 < capacity) (holds : service.HoldsLatest seen capacity requests)
    (event : Event) :
    (service.step event).HoldsLatest seen capacity (requests.step capacity event) := by
  cases event with
  | ask question text => exact holds.ask keeps room question text
  | askOptional text =>
      cases text with
      | none => exact holds
      | some text => exact holds.ask keeps room .client text
  | reload table =>
      rw [HoldsLatest, reload_layers]
      exact holds
  | invalidate depth =>
      obtain ⟨layer, inner, isLayers, stores⟩ := holds
      rw [HoldsLatest, Service.step, invalidateAt, isLayers]
      cases depth with
      | zero =>
          refine ⟨layer.clear, inner, rfl, fun question => ?_⟩
          rw [Layer.store_clear]
          exact keeps.hasLatest_clear (stores question)
      -- deeper layers are not looked at
      | succ depth => exact ⟨layer, _, List.modify_succ_cons .., stores⟩

theorem run (room : 0 < capacity) (holds : service.HoldsLatest seen capacity requests)
    (events : List Event) :
    (service.run events).HoldsLatest seen capacity
      (events.foldl (Requests.step capacity) requests) := by
  induction events generalizing service requests with
  | nil => exact holds
  | cons event rest ih => exact ih (holds.step keeps room event)

theorem misses_run (room : 0 < capacity) (holds : service.HoldsLatest seen capacity requests)
    (events : List Event) :
    (events.foldl (Requests.step capacity) requests).misses =
      requests.misses + service.passedOn events := by
  induction events generalizing service requests with
  | nil => rfl
  | cons event rest ih =>
      rw [List.foldl_cons, ih (holds.step keeps room event), passedOn]
      cases asks : event.question? with
      | some about =>
          obtain ⟨question, text⟩ := about
          rw [Requests.step_of_question? asks, holds.misses_ask keeps, Nat.add_assoc]
      | none => rw [Requests.misses_step_of_silent asks]

/-- A new layer of bounded size holds nothing, whatever is inside. -/
theorem of_ofRecent {settings : Settings} {outer : Layer σ}
    (made : Layer.ofRecent settings = .ok outer) (parser : Parser) (inner : List (Layer σ)) :
    (⟨parser, 0, outer :: inner⟩ : Service σ).HoldsLatest seen settings.maxEntries .nothing := by
  obtain ⟨_, rfl⟩ := Layer.eq_of_ofRecent made
  refine ⟨_, inner, rfl, fun question => ?_⟩
  rw [Layer.store_ofStores]
  exact keeps.hasLatest_bounded settings.maxEntries

end HoldsLatest

/-- What a layer of bounded size passes on are the misses, whatever is inside. -/
theorem passedOn_eq_misses (keeps : Store.KeepsRecent seen) {settings : Settings}
    {outer : Layer σ} (made : Layer.ofRecent settings = .ok outer) (parser : Parser)
    (inner : List (Layer σ)) (events : List Event) :
    (⟨parser, 0, outer :: inner⟩ : Service σ).passedOn events =
      (Requests.ofRun settings.maxEntries events).misses := by
  have new := HoldsLatest.of_ofRecent keeps made parser inner
  have misses := new.misses_run keeps (Layer.eq_of_ofRecent made).1 events
  rw [Requests.nothing, Nat.zero_add] at misses
  exact misses.symm

end Service

/-- After any run, an outermost layer of bounded size asks inside about a text if and only if the
question is no hit: the text was not asked about since the layer was emptied, or at least as many
others as there is room for were asked about after it. For each question the layer holds the latest
different texts. All this does not depend on what is inside. If only the parser is, then the parser
is called just for what is no hit. -/
theorem run_holds_latest [Store σ] (keeps : Store.KeepsRecent seen) {settings : Settings}
    {outer : Layer σ} (made : Layer.ofRecent settings = .ok outer) (parser : Parser)
    (inner : List (Layer σ)) (past : List Event) :
    let start : Service σ := ⟨parser, 0, outer :: inner⟩
    let requests := Requests.ofRun settings.maxEntries past
    (∀ question text, (start.run past).passesOn question text = true ↔
      ¬ IsHit settings.maxEntries (requests.texts question) text) ∧
    start.passedOn past = requests.misses ∧
    (∃ layer inside, (start.run past).layers = layer :: inside ∧ ∀ question,
      (∃ recent, seen _ (layer.store question) recent ∧
        recent.keys = latestKeys settings.maxEntries (requests.texts question)) ∧
      Store.size (layer.store question) =
        min settings.maxEntries (requests.texts question).toFinset.card) ∧
    (inner = [] →
      (start.run past).calls = requests.misses ∧
      ∀ question text, ((start.run past).ask question text).2.calls =
        (start.run past).calls +
          if IsHit settings.maxEntries (requests.texts question) text then 0 else 1) := by
  intro start requests
  have holds : (start.run past).HoldsLatest seen settings.maxEntries requests :=
    (Service.HoldsLatest.of_ofRecent keeps made parser inner).run keeps
      (Layer.eq_of_ofRecent made).1 past
  have passes := holds.passesOn_iff keeps
  have passed : start.passedOn past = requests.misses :=
    Service.passedOn_eq_misses keeps made parser inner past
  refine ⟨passes, passed, ?_, fun onlyParser => ?_⟩
  · obtain ⟨layer, inside, isLayers, stores⟩ := holds
    refine ⟨layer, inside, isLayers, fun question => ⟨?_, keeps.size_eq (stores question)⟩⟩
    obtain ⟨recent, same, has⟩ := stores question
    exact ⟨recent, same, has.keys⟩
  · have single : start.layers.length = 1 := by
      change (outer :: inner).length = 1
      rw [onlyParser, List.length_singleton]
    refine ⟨?_, fun question text => ?_⟩
    · rw [Service.calls_run_of_single single, passed, Nat.zero_add]
    · rw [Service.calls_ask_of_single ((Service.length_layers_run start past).trans single)]
      congr 1
      by_cases hit : IsHit settings.maxEntries (requests.texts question) text
      · rw [if_pos hit, Bool.eq_false_iff.mpr fun passed => (passes question text).mp passed hit]
        rfl
      · rw [if_neg hit, (passes question text).mpr hit]
        rfl

/-- A parser without rules. -/
def ruleless : Parser :=
  ⟨⟨PatternSet.assemble [], PatternSet.assemble [], PatternSet.assemble []⟩, ⟨[], []⟩, ⟨[]⟩⟩

/-- A text is asked about again before a third one needs room. -/
def repeating : List Event := [.ask .os "a", .ask .os "b", .ask .os "a", .ask .os "c"]

/-- The text that was not asked about again made room. -/
theorem unrepeated_makes_room :
    ∃ start : Service, Layering.recent.build ⟨2, Duration.ofSecs 1⟩ ruleless = .ok start ∧
      (start.run repeating).calls = 3 ∧
      ((start.run repeating).ask .os "a").2.calls = 3 ∧
      ((start.run repeating).ask .os "b").2.calls = 4 := by
  let outer : Layer := Layer.ofStores fun _ => Recent.empty 2
  have made : Layer.ofRecent ⟨2, Duration.ofSecs 1⟩ = .ok outer := rfl
  have built : Layering.recent.build ⟨2, Duration.ofSecs 1⟩ ruleless =
      .ok (⟨ruleless, 0, [outer]⟩ : Service) := rfl
  obtain ⟨calls, asked⟩ :=
    (run_holds_latest Recent.keepsRecent made ruleless [] repeating).2.2.2 rfl
  have three := calls.trans (show _ = 3 by decide)
  refine ⟨_, built, three, ?_, ?_⟩
  · rw [asked, three]
    decide
  · rw [asked, three]
    decide

end AgentClassifier
