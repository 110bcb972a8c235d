import AgentClassifier.Proofs.Service.Freshness

/-!
What is asked about one thing makes no difference to what is cached of another.

* `Operation.concerns` : the operations that matter for a question: those that ask it, reloads that
  succeed, and emptying a layer.
* `Service.account` : what is seen of a question in a run: its answers, how often it reached the
  parser, and how many entries each layer has for it.
* `Service.SameFor` : two services have the same rules and the same stores for a question. An
  operation that matters for it preserves this, and one that does not matter changes nothing of it.
* `account_filter` : what is seen of a question is what is seen in the run without all operations
  that do not matter for it.
-/

namespace AgentClassifier

variable {σ : Type → Type}

/-! ## Operations -/

/-- What can be done with a service: events, and queries that go past the entries of its layers. -/
inductive Operation
  | act (event : Event)
  /-- Asks the parser for the platform. -/
  | platform (text : String)
  /-- Asks the parser for the manufacturer. -/
  | manufacturer (text : String)
  /-- Asks for the numbers of entries. -/
  | counts

/-- Whether an event matters for a question. -/
def Event.concerns (question : Question) : Event → Bool
  | .ask asked _ => asked == question
  | .askOptional text => text.isSome && question == .client
  | .reload table => table.compile.toOption.isSome
  | .invalidate _ => true

/-- Whether an operation matters for a question. -/
def Operation.concerns (question : Question) : Operation → Bool
  | .act event => event.concerns question
  | .platform _ | .manufacturer _ | .counts => false

/-- The text that an event asks a question about. -/
def Event.textFor (question : Question) (event : Event) : Option String :=
  event.question?.bind fun (asked, text) => if asked = question then some text else none

/-- The text that an operation asks a question about. -/
def Operation.textFor (question : Question) : Operation → Option String
  | .act event => event.textFor question
  | .platform _ | .manufacturer _ | .counts => none

theorem Event.keepsRules_of_concerns {event : Event} {question : Question}
    (apart : event.concerns question = false) : event.KeepsRules := by
  by_contra renews
  obtain ⟨table, matchers, rfl, compiled⟩ := Event.exists_of_renews renews
  rw [concerns, compiled] at apart
  cases apart

theorem Event.textFor_of_question? {event : Event} {question asked : Question} {text : String}
    (asks : event.question? = some (asked, text)) :
    event.textFor question = if asked = question then some text else none := by
  rw [textFor, asks, Option.bind_some]

/-- An event that asks something matters just for the question that it asks. -/
theorem Event.concerns_of_question? {event : Event} {question asked : Question} {text : String}
    (asks : event.question? = some (asked, text)) :
    event.concerns question = (asked == question) := by
  rcases Event.of_question? asks with rfl | ⟨rfl, rfl⟩
  · rfl
  · cases question <;> rfl

theorem Event.textFor_of_concerns {event : Event} {question : Question}
    (apart : event.concerns question = false) : event.textFor question = none := by
  cases asks : event.question? with
  | some about =>
      obtain ⟨asked, text⟩ := about
      rw [Event.concerns_of_question? asks, beq_eq_false_iff_ne] at apart
      rw [Event.textFor_of_question? asks, if_neg apart]
  | none => rw [textFor, asks, Option.bind_none]

/-! ## Stores for one question -/

/-- The stores for a question, the outermost first. -/
def storesFor (layers : List (Layer σ)) (question : Question) : List (σ (Answer question)) :=
  layers.map fun layer => layer.store question

section

variable [Store σ] {parser : Parser} {question other : Question} {text : String}

/-- A question leaves the stores for other questions as they are. -/
theorem storesFor_askThrough (different : other ≠ question) (layers : List (Layer σ)) :
    storesFor (askThrough parser question text layers).layers other = storesFor layers other := by
  induction layers with
  | nil => rfl
  | cons layer inner ih =>
      cases found : (Store.use (layer.store question) text).1 with
      | some answer =>
          rw [askThrough_of_found found]
          simp only [storesFor, List.map_cons, Layer.store_withStore_of_ne layer different]
      | none =>
          rw [askThrough_of_missing found]
          simp only [storesFor, List.map_cons, Layer.store_withStore_of_ne layer different] at ih ⊢
          rw [ih]

/-- A question is answered from its own stores. -/
theorem askThrough_congr {layers others : List (Layer σ)}
    (same : storesFor layers question = storesFor others question) :
    (askThrough parser question text layers).answer =
        (askThrough parser question text others).answer ∧
      (askThrough parser question text layers).calls =
        (askThrough parser question text others).calls ∧
      storesFor (askThrough parser question text layers).layers question =
        storesFor (askThrough parser question text others).layers question := by
  induction layers generalizing others with
  | nil =>
      cases others with
      | nil => exact ⟨rfl, rfl, rfl⟩
      | cons other rest => cases same
  | cons layer inner ih =>
      cases others with
      | nil => cases same
      | cons other rest =>
          obtain ⟨here, inside⟩ := List.cons.inj same
          dsimp only at here
          cases found : (Store.use (layer.store question) text).1 with
          | some answer =>
              have foundToo := found
              rw [here] at foundToo
              rw [askThrough_of_found found, askThrough_of_found foundToo]
              refine ⟨rfl, rfl, ?_⟩
              simp only [storesFor, List.map_cons, Layer.store_withStore_self, here]
              exact congrArg _ inside
          | none =>
              have missingToo := found
              rw [here] at missingToo
              obtain ⟨answer, calls, stores⟩ := ih inside
              rw [askThrough_of_missing found, askThrough_of_missing missingToo]
              refine ⟨answer, calls, ?_⟩
              simp only [storesFor, List.map_cons, Layer.store_withStore_self, here, answer]
              exact congrArg _ stores

theorem storesFor_modify_clear (layers : List (Layer σ)) (depth : Nat) :
    storesFor (layers.modify depth Layer.clear) question =
      (storesFor layers question).modify depth Store.clear := by
  induction layers generalizing depth with
  | nil => cases depth <;> rfl
  | cons layer inner ih =>
      cases depth with
      | zero =>
          simp only [storesFor, List.modify_zero_cons, List.map_cons, Layer.store_clear]
      | succ depth =>
          simp only [storesFor, List.modify_succ_cons, List.map_cons] at ih ⊢
          rw [ih]

end

namespace Service

variable [Store σ]

/-- The service after an operation. Queries change nothing. -/
def perform (service : Service σ) : Operation → Service σ
  | .act event => service.step event
  | .platform _ | .manufacturer _ | .counts => service

/-- What is seen of a question during an operation. -/
structure Sight (question : Question) where
  /-- The answer, if the operation asks the question. -/
  answer : Option (Answer question)
  /-- How often the parser was reached. -/
  calls : Nat
  /-- The number of entries for the question in each layer, after the operation. -/
  counts : List Nat

/-- What is seen of a question during an operation. -/
def sight (service : Service σ) (question : Question) (operation : Operation) :
    Sight question where
  answer := (operation.textFor question).map fun text => (service.ask question text).1
  calls := (service.perform operation).calls - service.calls
  counts := (storesFor (service.perform operation).layers question).map Store.size

/-- What is seen of a question during those operations of a run that matter for it. -/
def account (service : Service σ) (question : Question) : List Operation → List (Sight question)
  | [] => []
  | operation :: rest =>
      let later := (service.perform operation).account question rest
      if operation.concerns question then service.sight question operation :: later else later

/-- The same rules, and the same stores for a question. -/
structure SameFor (question : Question) (first second : Service σ) : Prop where
  parser : first.parser = second.parser
  stores : storesFor first.layers question = storesFor second.layers question

omit [Store σ] in
theorem sameFor_self (question : Question) (service : Service σ) :
    SameFor question service service := ⟨rfl, rfl⟩

omit [Store σ] in
theorem SameFor.trans {question : Question} {first second third : Service σ}
    (left : SameFor question first second) (right : SameFor question second third) :
    SameFor question first third :=
  ⟨left.parser.trans right.parser, left.stores.trans right.stores⟩

omit [Store σ] in
theorem SameFor.symm {question : Question} {first second : Service σ}
    (same : SameFor question first second) : SameFor question second first :=
  ⟨same.parser.symm, same.stores.symm⟩

variable {question : Question} {service first second : Service σ}

/-! ## Operations that do not matter -/

/-- The stores for a question stay as they are while it is not asked and nothing is emptied. -/
theorem storesFor_step_of_silent {event : Event} (silent : event.textFor question = none)
    (kept : ∀ depth, event ≠ .invalidate depth) :
    storesFor (service.step event).layers question = storesFor service.layers question := by
  cases asks : event.question? with
  | some about =>
      obtain ⟨asked, text⟩ := about
      have different : question ≠ asked := by
        rintro rfl
        rw [Event.textFor_of_question? asks, if_pos rfl] at silent
        cases silent
      rw [step_of_question? service asks]
      exact storesFor_askThrough different _
  | none =>
      rcases Event.of_silent asks with rfl | ⟨table, rfl⟩ | ⟨depth, rfl⟩
      · rfl
      · rw [reload_layers]
      · exact absurd rfl (kept depth)

theorem sameFor_step {event : Event} (apart : event.concerns question = false) :
    SameFor question (service.step event) service := by
  refine ⟨parser_step (Event.keepsRules_of_concerns apart),
    storesFor_step_of_silent (Event.textFor_of_concerns apart) ?_⟩
  rintro depth rfl
  cases apart

/-- An operation that does not matter for a question leaves the rules and its stores alone. -/
theorem sameFor_perform {operation : Operation} (apart : operation.concerns question = false) :
    SameFor question (service.perform operation) service := by
  cases operation with
  | act event => exact sameFor_step apart
  | platform text => exact sameFor_self question service
  | manufacturer text => exact sameFor_self question service
  | counts => exact sameFor_self question service

/-! ## Operations that matter -/

theorem step_of_textFor {event : Event} {text : String}
    (asks : event.textFor question = some text) :
    service.step event = (service.ask question text).2 := by
  obtain ⟨⟨asked, about⟩, isAsked, here⟩ := Option.bind_eq_some_iff.mp asks
  obtain ⟨rfl, same⟩ := Option.ite_none_right_eq_some.mp here
  cases same
  exact step_of_question? service isAsked

theorem perform_of_textFor {operation : Operation} {text : String}
    (asks : operation.textFor question = some text) :
    service.perform operation = (service.ask question text).2 := by
  cases operation with
  | act event => exact step_of_textFor asks
  | platform text => cases asks
  | manufacturer text => cases asks
  | counts => cases asks

/-- What matters for a question without asking it does not reach the parser. -/
theorem calls_perform_of_silent {operation : Operation}
    (silent : operation.textFor question = none) (matters : operation.concerns question = true) :
    (service.perform operation).calls = service.calls := by
  cases operation with
  | act event =>
      cases asks : event.question? with
      | some about =>
          obtain ⟨asked, text⟩ := about
          rw [Operation.concerns, Event.concerns_of_question? asks, beq_iff_eq] at matters
          rw [Operation.textFor, Event.textFor_of_question? asks, if_pos matters] at silent
          cases silent
      | none => exact calls_step_of_silent service asks
  | platform text => rfl
  | manufacturer text => rfl
  | counts => rfl

namespace SameFor

variable (same : SameFor question first second)

include same

theorem ask (text : String) :
    (first.ask question text).1 = (second.ask question text).1 ∧
      (first.ask question text).2.calls - first.calls =
        (second.ask question text).2.calls - second.calls ∧
      SameFor question (first.ask question text).2 (second.ask question text).2 := by
  obtain ⟨answer, calls, stores⟩ :=
    @askThrough_congr σ _ first.parser question text _ _ same.stores
  simp only [ask_answer, ask_calls, Nat.add_sub_cancel_left]
  rw [← same.parser]
  refine ⟨answer, calls, same.parser, ?_⟩
  rw [ask_layers, ask_layers, ← same.parser]
  exact stores

theorem step (event : Event) : SameFor question (first.step event) (second.step event) := by
  by_cases apart : event.concerns question = false
  · exact (sameFor_step apart).trans (same.trans (sameFor_step apart).symm)
  · refine ⟨parser_step_congr same.parser event, ?_⟩
    cases asks : event.question? with
    | some about =>
        obtain ⟨asked, text⟩ := about
        obtain rfl : asked = question := by
          rwa [Event.concerns_of_question? asks, Bool.not_eq_false, beq_iff_eq] at apart
        rw [step_of_question? _ asks, step_of_question? _ asks]
        exact (same.ask text).2.2.stores
    | none =>
        rcases Event.of_silent asks with rfl | ⟨table, rfl⟩ | ⟨depth, rfl⟩
        · exact same.stores
        · rw [reload_layers, reload_layers, same.stores]
        · dsimp only [Service.step, invalidateAt]
          rw [storesFor_modify_clear, storesFor_modify_clear, same.stores]

theorem perform (operation : Operation) :
    SameFor question (first.perform operation) (second.perform operation) := by
  cases operation with
  | act event => exact same.step event
  | platform text => exact same
  | manufacturer text => exact same
  | counts => exact same

/-- What is seen of the question is the same. -/
theorem sight_eq {operation : Operation} (matters : operation.concerns question = true) :
    first.sight question operation = second.sight question operation := by
  cases asks : operation.textFor question with
  | some text =>
      obtain ⟨answer, calls, after⟩ := same.ask text
      simp only [sight, asks, perform_of_textFor asks, Option.map_some, answer, calls, after.stores]
  | none =>
      have silent : ∀ service : Service σ, (service.perform operation).calls = service.calls :=
        fun service => calls_perform_of_silent asks matters
      simp only [sight, asks, (same.perform operation).stores, silent, Nat.sub_self, Option.map_none]

theorem account_eq (operations : List Operation) :
    first.account question operations = second.account question operations := by
  induction operations generalizing first second with
  | nil => rfl
  | cons operation rest ih =>
      have later := ih (same.perform operation)
      unfold account
      by_cases matters : operation.concerns question = true
      · simp only [if_pos matters, same.sight_eq matters, later]
      · simp only [if_neg matters, later]

end SameFor

end Service

/-- What is seen of a question in a run, its answers, the calls that it leads to and the numbers of
entries after each step, is what is seen in the run without all operations that do not matter for
it: questions of other kinds, about whatever texts, a missing text, reloads that fail, and queries.
None of these changes a store for the question in any layer. -/
theorem account_filter [Store σ] (service : Service σ) (question : Question)
    (operations : List Operation) :
    service.account question operations =
        service.account question (operations.filter fun operation => operation.concerns question) ∧
      ∀ operation, operation.concerns question = false →
        storesFor (service.perform operation).layers question =
          storesFor service.layers question := by
  refine ⟨?_, fun operation apart => (Service.sameFor_perform apart).stores⟩
  induction operations generalizing service with
  | nil => rfl
  | cons operation rest ih =>
      have later := ih (service.perform operation)
      rw [List.filter_cons]
      by_cases matters : operation.concerns question = true
      · rw [if_pos matters, Service.account, Service.account, if_pos matters, if_pos matters, later]
      · have apart : operation.concerns question = false := Bool.eq_false_iff.mpr matters
        rw [if_neg matters, Service.account, if_neg matters, later]
        exact (Service.sameFor_perform apart).account_eq _

end AgentClassifier
