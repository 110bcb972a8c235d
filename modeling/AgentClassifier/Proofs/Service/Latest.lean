import AgentClassifier.Proofs.Cache.Latest
import AgentClassifier.Proofs.Service.Run

/-!
Cached answers are the latest answers of the parser.

* `Service.latest` : what the parser answered when the questions last reached it. Layers have no
  part in it, except that they decide which questions reach the parser.
* `Layer.FindsLatest` : the invariant. In every layer each question leads to nothing or to the
  latest answer, so an outer layer never holds an older answer than an inner one.
* `askThrough_isLatest` : one question preserves it, whichever layer answers.
* `run_answers_latest` : the answers after any run, whatever the layers and their settings are.
-/

namespace AgentClassifier

variable {σ : Type → Type}

/-! ## The latest answers of the parser -/

/-- The latest answers that are known. -/
abbrev Latest : Type := (question : Question) → String → Option (Answer question)

namespace Latest

/-- Nothing has reached the parser. -/
def nothing : Latest := fun _ _ => none

/-- The parser has answered a question about a text. -/
def record (latest : Latest) (question : Question) (text : String) (answer : Answer question) :
    Latest :=
  Function.update latest question (Function.update (latest question) text (some answer))

variable {latest : Latest} {question other : Question} {text : String} {answer : Answer question}

theorem record_self :
    latest.record question text answer question =
      Function.update (latest question) text (some answer) :=
  Function.update_self _ _ _

theorem record_of_ne (different : other ≠ question) :
    latest.record question text answer other = latest other :=
  Function.update_of_ne different _ _

theorem record_eq_self (known : latest question text = some answer) :
    latest.record question text answer = latest := by
  rw [record, ← known, Function.update_eq_self, Function.update_eq_self]

/-- All answers have a property. -/
def All (latest : Latest) (holds : (question : Question) → String → Answer question → Prop) :
    Prop :=
  ∀ question text answer, latest question text = some answer → holds question text answer

theorem all_nothing (holds : (question : Question) → String → Answer question → Prop) :
    nothing.All holds := by
  intro _ _ _ unknown
  cases unknown

theorem All.record {holds : (question : Question) → String → Answer question → Prop}
    (all : latest.All holds) (new : holds question text answer) :
    (latest.record question text answer).All holds := by
  intro asked about found known
  by_cases same : asked = question
  · subst same
    rw [record_self, Function.update_apply] at known
    by_cases sameText : about = text
    · rw [if_pos sameText] at known
      rw [sameText, ← Option.some.inj known]
      exact new
    · rw [if_neg sameText] at known
      exact all asked about found known
  · rw [record_of_ne same] at known
    exact all asked about found known

/-- All answers are those of a parser. -/
def AreOf (latest : Latest) (parser : Parser) : Prop :=
  ∀ question text answer, latest question text = some answer →
    answer = parser.answer question text

theorem areOf_nothing (parser : Parser) : nothing.AreOf parser :=
  all_nothing fun question text answer => answer = parser.answer question text

end Latest

/-- No new rules come with the event. -/
def Event.KeepsRules : Event → Prop
  | .reload table => ∀ matchers, table.compile ≠ .ok matchers
  | .ask _ _ | .askOptional _ | .invalidate _ => True

/-- An event that does bring new rules is a reload that succeeds. -/
theorem Event.exists_of_renews {event : Event} (renews : ¬ event.KeepsRules) :
    ∃ table matchers, event = .reload table ∧ table.compile = .ok matchers := by
  cases event with
  | reload table =>
      cases compiled : table.compile with
      | ok matchers => exact ⟨table, matchers, rfl, compiled⟩
      | error cause =>
          refine absurd (fun matchers same => ?_) renews
          rw [compiled] at same
          cases same
  | ask question text => exact absurd trivial renews
  | askOptional text => exact absurd trivial renews
  | invalidate depth => exact absurd trivial renews

namespace Service

variable [Store σ]

/-- The latest answers after an event. The parser was asked where it was called once more. -/
def note (service : Service σ) (latest : Latest) (event : Event) : Latest :=
  match event.question? with
  | some (question, text) =>
      if (service.step event).calls = service.calls then latest
      else latest.record question text (service.parser.answer question text)
  | none => latest

/-- The latest answers after some events. -/
def latest (service : Service σ) (known : Latest) : List Event → Latest
  | [] => known
  | event :: rest => (service.step event).latest (service.note known event) rest

theorem latest_append (service : Service σ) (known : Latest) (first second : List Event) :
    service.latest known (first ++ second) =
      (service.run first).latest (service.latest known first) second := by
  induction first generalizing service known with
  | nil => rfl
  | cons event rest ih => exact ih (service.step event) (service.note known event)

end Service

theorem Latest.All.note [Store σ] {service : Service σ} {known : Latest}
    {holds : (question : Question) → String → Answer question → Prop} (all : known.All holds)
    (new : ∀ question text, holds question text (service.parser.answer question text))
    (event : Event) : (service.note known event).All holds := by
  unfold Service.note
  split
  · split
    · exact all
    · exact all.record (new _ _)
  · exact all

theorem Latest.AreOf.note [Store σ] {service : Service σ} {known : Latest}
    (areOf : known.AreOf service.parser) (event : Event) :
    (service.note known event).AreOf service.parser :=
  Latest.All.note areOf (fun _ _ => rfl) event

/-! ## One question -/

variable [Store σ]

/-- Every question leads to nothing or to the latest answer, whatever happens to the stores. -/
def Layer.FindsLatest (layer : Layer σ) (latest : Latest) : Prop :=
  ∀ question, Store.FindsLatest (layer.store question) (latest question)

namespace Layer.FindsLatest

variable {layer : Layer σ} {latest : Latest}

theorem clear (finds : layer.FindsLatest latest) : layer.clear.FindsLatest latest := by
  intro question
  rw [store_clear]
  exact (finds question).step .clear

theorem withStore {known : Latest} (finds : layer.FindsLatest latest) {question : Question}
    {store : σ (Answer question)} (others : ∀ other, other ≠ question → known other = latest other)
    (found : Store.FindsLatest store (known question)) :
    (layer.withStore question store).FindsLatest known := by
  refine forall_store_withStore (fun asked store => Store.FindsLatest store (known asked)) found ?_
  intro other different
  rw [others other different]
  exact finds other

theorem use (finds : layer.FindsLatest latest) (question : Question) (text : String) :
    (layer.withStore question (Store.use (layer.store question) text).2).FindsLatest latest :=
  finds.withStore (fun _ _ => rfl) ((finds question).step (.use text))

/-- A layer that was asked and found nothing stores the answer from inside. -/
theorem put (finds : layer.FindsLatest latest) (question : Question) (text : String)
    (answer : Answer question) :
    (layer.withStore question
      (Store.put (Store.use (layer.store question) text).2 text answer)).FindsLatest
        (latest.record question text answer) := by
  have stored := ((finds question).step (.use text)).step (.put text answer)
  rw [Store.stored, Store.stored, ← Latest.record_self] at stored
  exact finds.withStore (fun _ different => Latest.record_of_ne different) stored

end Layer.FindsLatest

/-- The answer is the latest one of the parser, and the layers know it. -/
structure Asked.IsLatest {question : Question} (asked : Asked σ question) (parser : Parser)
    (text : String) (latest : Latest) : Prop where
  cached : asked.calls = 0 → latest question text = some asked.answer
  reached : asked.calls ≠ 0 → parser.answer question text = asked.answer
  layers : ∀ layer ∈ asked.layers, layer.FindsLatest (latest.record question text asked.answer)

/-- If the layers find only latest answers, then a question leads to a latest answer, also where
all of them have lost it. -/
theorem askThrough_isLatest (parser : Parser) (question : Question) (text : String)
    {layers : List (Layer σ)} {latest : Latest}
    (finds : ∀ layer ∈ layers, layer.FindsLatest latest) :
    (askThrough parser question text layers).IsLatest parser text latest := by
  induction layers with
  | nil =>
      refine ⟨fun uncalled => absurd uncalled Nat.one_ne_zero, fun _ => rfl, fun layer member => ?_⟩
      exact absurd member List.not_mem_nil
  | cons layer inner ih =>
      obtain ⟨findsHere, findsInside⟩ := List.forall_mem_cons.mp finds
      cases found : (Store.use (layer.store question) text).1 with
      | some answer =>
          -- the answer is known, so recording it once more changes nothing for any layer
          have known : latest question text = some answer := (findsHere question).latest_eq found
          have same : latest.record question text answer = latest := Latest.record_eq_self known
          rw [askThrough_of_found found]
          refine ⟨fun _ => known, fun called => absurd rfl called, ?_⟩
          rw [same]
          exact List.forall_mem_cons.mpr ⟨findsHere.use question text, findsInside⟩
      | none =>
          -- this layer stores what was answered inside, whoever answered there
          have inside := ih findsInside
          rw [askThrough_of_missing found]
          refine ⟨inside.cached, inside.reached, List.forall_mem_cons.mpr ⟨?_, inside.layers⟩⟩
          exact findsHere.put question text (askThrough parser question text inner).answer

/-! ## Runs -/

namespace Service

/-- The invariant of all layers. -/
def FindsLatest (service : Service σ) (latest : Latest) : Prop :=
  ∀ layer ∈ service.layers, layer.FindsLatest latest

variable {service : Service σ} {latest : Latest} {event : Event} {question : Question}
  {text : String}

/-- What holds of the latest answers and of the answers of the parser holds of every answer. -/
theorem FindsLatest.ask_of_all (finds : service.FindsLatest latest)
    {holds : (question : Question) → String → Answer question → Prop} (all : latest.All holds)
    (new : ∀ question text, holds question text (service.parser.answer question text))
    (question : Question) (text : String) : holds question text (service.ask question text).1 := by
  have isLatest := askThrough_isLatest service.parser question text finds
  rw [ask_answer]
  by_cases uncalled : (askThrough service.parser question text service.layers).calls = 0
  · exact all question text _ (isLatest.cached uncalled)
  · rw [← isLatest.reached uncalled]
    exact new question text

/-- Whether the parser was reached or not, what is noted is the answer that was given. -/
theorem FindsLatest.note_eq (finds : service.FindsLatest latest)
    (asks : event.question? = some (question, text)) :
    service.note latest event = latest.record question text (service.ask question text).1 := by
  have isLatest := askThrough_isLatest service.parser question text finds
  simp only [note, asks, step_of_question? _ asks, ask_calls]
  by_cases uncalled : (askThrough service.parser question text service.layers).calls = 0
  · rw [if_pos (by rw [uncalled, Nat.add_zero]), ask_answer,
      Latest.record_eq_self (isLatest.cached uncalled)]
  · rw [if_neg (by omega), ask_answer, isLatest.reached uncalled]

theorem FindsLatest.step (finds : service.FindsLatest latest) (event : Event) :
    (service.step event).FindsLatest (service.note latest event) := by
  cases asks : event.question? with
  | some about =>
      obtain ⟨question, text⟩ := about
      rw [finds.note_eq asks, step_of_question? _ asks]
      exact (askThrough_isLatest service.parser question text finds).layers
  | none =>
      have unnoted : service.note latest event = latest := by rw [note, asks]
      rw [unnoted]
      rcases Event.of_silent asks with rfl | ⟨table, rfl⟩ | ⟨depth, rfl⟩
      · exact finds
      · rw [FindsLatest, reload_layers]
        exact finds
      · intro layer member
        rcases mem_layers_invalidateAt member with unchanged | ⟨before, known, emptied⟩
        · exact finds layer unchanged
        · rw [emptied]
          exact (finds before known).clear

theorem FindsLatest.run (finds : service.FindsLatest latest) (events : List Event) :
    (service.run events).FindsLatest (service.latest latest events) := by
  induction events generalizing service latest with
  | nil => exact finds
  | cons event rest ih => exact ih (finds.step event)

/-! ## Runs without new rules -/

theorem parser_step (keeps : event.KeepsRules) : (service.step event).parser = service.parser := by
  cases event with
  | ask question text => rfl
  | askOptional text => cases text <;> rfl
  | reload table =>
      cases compiled : table.compile with
      | error cause => simp only [step, reload, Parser.reload, compiled, Except.map]
      | ok matchers => exact absurd compiled (keeps matchers)
  | invalidate depth => rfl

/-- Without new rules, the latest answers are those of the parser. -/
theorem latest_areOf (areOf : latest.AreOf service.parser) {events : List Event}
    (keeps : ∀ event ∈ events, event.KeepsRules) :
    (service.latest latest events).AreOf service.parser := by
  induction events generalizing service latest with
  | nil => exact areOf
  | cons event rest ih =>
      obtain ⟨keepsFirst, keepsRest⟩ := List.forall_mem_cons.mp keeps
      have same : (service.step event).parser = service.parser := parser_step keepsFirst
      have noted : (service.note latest event).AreOf service.parser := areOf.note event
      rw [← same] at noted ⊢
      exact ih noted keepsRest

/-! ## New services -/

theorem FindsLatest.of_new (coherent : Store.Coherent σ)
    (new : ∀ layer ∈ service.layers, layer.IsNew) : service.FindsLatest .nothing :=
  fun layer member =>
    (new layer member).store (Store.FindsLatest · fun _ => none) coherent.bounded coherent.idle

/-- The latest answer includes the one that is being given. -/
theorem FindsLatest.latest_ask (finds : service.FindsLatest latest) (event : Event)
    (asks : event.question? = some (question, text)) (past : List Event) :
    service.latest latest (past ++ [event]) question text =
      some ((service.run past).ask question text).1 := by
  rw [latest_append]
  change (service.run past).note (service.latest latest past) event question text = _
  rw [(finds.run past).note_eq asks, Latest.record_self, Function.update_self]

end Service

/-- Every answer of a service is the one that the parser gave when the question about the text last
reached it, the present time included. As long as the rules stay, it is the answer of the parser
alone. There may be any number of layers, each with settings of its own, and they may lose what they
hold at any time. -/
theorem run_answers_latest (coherent : Store.Coherent σ) {start : Service σ}
    (new : ∀ layer ∈ start.layers, layer.IsNew) (past : List Event) :
    (∀ question text,
      start.latest .nothing (past ++ [.ask question text]) question text =
        some ((start.run past).ask question text).1) ∧
    (∀ text, ((start.run past).ask? text).1 =
      text.bind (start.latest .nothing (past ++ [.askOptional text]) .client)) ∧
    ((∀ event ∈ past, event.KeepsRules) →
      (∀ question text,
        ((start.run past).ask question text).1 = start.parser.answer question text) ∧
      ∀ text, ((start.run past).ask? text).1 = start.parser.parse? text) := by
  have finds := Service.FindsLatest.of_new coherent new
  have asked := fun question text => finds.latest_ask (.ask question text) rfl past
  refine ⟨asked, ?_, ?_⟩
  · intro text
    cases text with
    | none => rfl
    | some text => exact (finds.latest_ask (.askOptional (some text)) rfl past).symm
  · intro keeps
    have same : ∀ question text,
        ((start.run past).ask question text).1 = start.parser.answer question text := by
      intro question text
      have keepsAll : ∀ event ∈ past ++ [.ask question text], event.KeepsRules := by
        intro event member
        rcases List.mem_append.mp member with known | last
        · exact keeps event known
        · rw [List.mem_singleton.mp last]
          trivial
      have areOf := Service.latest_areOf (Latest.areOf_nothing start.parser) keepsAll
      exact areOf question text _ (asked question text)
    refine ⟨same, fun text => ?_⟩
    cases text with
    | none => rfl
    | some text => exact congrArg some (same .client text)

/-- A rule that names a family. -/
def naming (family : String) : RuleTable := ⟨[⟨some "abc", some family, none, none⟩], [], []⟩

/-- A question, new rules, and an outermost layer that is emptied. -/
def reloading : List Event :=
  [.ask .userAgent "abc", .reload (naming "new"), .invalidate 0]

/-- The inner layer still has the old answer, which was the latest to reach the parser. -/
theorem outdated_after_reload :
    ∃ (parser : Parser) (start : Service),
      Layering.stacked.build ⟨1, Duration.ofSecs 1⟩ parser = .ok start ∧
      UserAgent.family ((start.run reloading).ask .userAgent "abc").1 = "old" ∧
      UserAgent.family ((start.run reloading).parser.parseUserAgent "abc") = "new" ∧
      start.latest .nothing (reloading ++ [.ask .userAgent "abc"]) .userAgent "abc" =
        some ((start.run reloading).ask .userAgent "abc").1 := by
  let stack (matchers : Matchers) : Except BuildError Service :=
    Layering.stacked.build ⟨1, Duration.ofSecs 1⟩ ⟨matchers, ⟨[], []⟩, ⟨[]⟩⟩
  have evaluated : ((naming "old").compile >>= stack).toOption.any (fun start =>
      UserAgent.family ((start.run reloading).ask .userAgent "abc").1 == "old" &&
        UserAgent.family ((start.run reloading).parser.parseUserAgent "abc") == "new") = true := by
    decide +kernel
  cases made : (naming "old").compile >>= stack with
  | error cause => simp [made, Except.toOption] at evaluated
  | ok start =>
      simp only [made, Except.toOption, Option.any_some, Bool.and_eq_true, beq_iff_eq] at evaluated
      obtain ⟨matchers, _, built⟩ := Traversal.bind_eq_ok_iff.mp made
      exact ⟨_, start, built, evaluated.1, evaluated.2,
        (run_answers_latest Recent.coherent (Layering.of_build built).2 reloading).1 .userAgent
          "abc"⟩

end AgentClassifier
