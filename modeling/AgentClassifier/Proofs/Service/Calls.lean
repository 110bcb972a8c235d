import AgentClassifier.Proofs.Service.Recency

/-!
How many questions reach the parser behind different layers.

* `Requests.Below` : the same texts were asked about, with no more misses. Every event preserves it
  where there is at least as much room.
* `Service.calls_run_le_passedOn` : what reaches the parser was passed on by the outermost layer.
* `Service.questions` : how many questions are asked; the parser alone is called for each of them.
* `run_calls_le` : more room, another layer inside, or a layer at all never lead to more calls.
-/

namespace AgentClassifier

variable {σ : Type → Type}

/-! ## Hits with more room -/

/-- A hit stays one where there is more room. -/
theorem IsHit.mono {fewer more : Nat} (le : fewer ≤ more) {requests : List String} {key : String}
    (hit : IsHit fewer requests key) : IsHit more requests key :=
  ⟨hit.1, Nat.lt_of_lt_of_le hit.2 le⟩

namespace Requests

/-- The same texts were asked about, and no more of the questions were misses. -/
structure Below (large small : Requests) : Prop where
  texts : large.texts = small.texts
  misses : large.misses ≤ small.misses

theorem below_self (requests : Requests) : requests.Below requests := ⟨rfl, le_rfl⟩

variable {large small : Requests} {fewer more : Nat}

theorem Below.ask (below : large.Below small) (le : fewer ≤ more) (question : Question)
    (text : String) : (large.ask more question text).Below (small.ask fewer question text) := by
  constructor
  · simp only [Requests.ask, below.texts]
  · have misses := below.misses
    unfold Requests.ask
    rw [below.texts]
    by_cases hit : IsHit fewer (small.texts question) text
    · rw [if_pos hit, if_pos (hit.mono le)]
      exact misses
    · rw [if_neg hit]
      dsimp only
      split <;> omega

theorem Below.step (below : large.Below small) (le : fewer ≤ more) (event : Event) :
    (large.step more event).Below (small.step fewer event) := by
  cases event with
  | ask question text => exact below.ask le question text
  | askOptional text =>
      cases text with
      | none => exact below
      | some text => exact below.ask le .client text
  | reload table => exact below
  | invalidate depth =>
      cases depth with
      | zero => exact ⟨rfl, below.misses⟩
      | succ depth => exact below

theorem Below.foldl (below : large.Below small) (le : fewer ≤ more) (events : List Event) :
    (events.foldl (Requests.step more) large).Below
      (events.foldl (Requests.step fewer) small) := by
  induction events generalizing large small with
  | nil => exact below
  | cons event rest ih => exact ih (below.step le event)

end Requests

/-! ## What reaches the parser -/

namespace Service

variable [Store σ]

/-- A question reaches the parser once at most. -/
theorem calls_askThrough_le (parser : Parser) (question : Question) (text : String)
    (layers : List (Layer σ)) : (askThrough parser question text layers).calls ≤ 1 := by
  induction layers with
  | nil => exact le_rfl
  | cons layer inner ih =>
      cases found : (Store.use (layer.store question) text).1 with
      | some answer =>
          rw [askThrough_of_found found]
          exact Nat.zero_le 1
      | none =>
          rw [askThrough_of_missing found]
          exact ih

/-- Whatever is inside, only what the outermost layer passes on can reach the parser. -/
theorem calls_ask_le (service : Service σ) (question : Question) (text : String) :
    (service.ask question text).2.calls ≤
      service.calls + (service.passesOn question text).toNat := by
  rw [ask_calls]
  cases isLayers : service.layers with
  | nil =>
      rw [passesOn, isLayers]
      exact Nat.add_le_add_left (calls_askThrough_le _ _ _ _) _
  | cons layer inner =>
      rw [passesOn_of_layers isLayers]
      cases found : (Store.use (layer.store question) text).1 with
      | some answer =>
          rw [askThrough_of_found found]
          exact Nat.le_add_right _ _
      | none => exact Nat.add_le_add_left (calls_askThrough_le _ _ _ _) _

theorem calls_run_le_passedOn (service : Service σ) (events : List Event) :
    (service.run events).calls ≤ service.calls + service.passedOn events := by
  induction events generalizing service with
  | nil => exact le_rfl
  | cons event rest ih =>
      have later := ih (service.step event)
      rw [run_cons, passedOn]
      cases asks : event.question? with
      | some about =>
          obtain ⟨question, text⟩ := about
          have now := service.calls_ask_le question text
          rw [← step_of_question? _ asks] at now
          dsimp only
          omega
      | none =>
          rw [calls_step_of_silent _ asks] at later
          exact later

/-- How many questions are asked. -/
def questions (events : List Event) : Nat := events.countP fun event => event.question?.isSome

theorem passedOn_le_questions (service : Service σ) (events : List Event) :
    service.passedOn events ≤ questions events := by
  induction events generalizing service with
  | nil => exact le_rfl
  | cons event rest ih =>
      have later := ih (service.step event)
      rw [passedOn, questions, List.countP_cons]
      rw [questions] at later
      cases asks : event.question? with
      | some about =>
          obtain ⟨question, text⟩ := about
          have once := (service.passesOn question text).toNat_le
          dsimp only
          rw [Option.isSome_some, if_pos rfl]
          omega
      | none => exact later

/-- Without layers every question reaches the parser. -/
theorem calls_run_of_bare {service : Service σ} (bare : service.layers = [])
    (events : List Event) : (service.run events).calls = service.calls + questions events := by
  induction events generalizing service with
  | nil => rfl
  | cons event rest ih =>
      have stillBare : (service.step event).layers = [] := by
        rw [← List.length_eq_zero_iff, length_layers_step, bare, List.length_nil]
      rw [run_cons, ih stillBare, questions, questions, List.countP_cons]
      cases asks : event.question? with
      | some about =>
          obtain ⟨question, text⟩ := about
          rw [step_of_question? _ asks, ask_calls, bare, askThrough, Option.isSome_some, if_pos rfl]
          dsimp only
          omega
      | none =>
          rw [calls_step_of_silent _ asks]
          rfl

end Service

/-- In the same run, a question that a layer of bounded size answers is answered by one with more
room too, so no more questions reach the parser. After any run, no more questions have reached the
parser through a layer of bounded size with others inside than through that layer alone, whatever
the inner ones lose, and no more through that layer than without one. -/
theorem run_calls_le [Store σ] {seen : (α : Type) → σ α → Recent α → Prop}
    (keeps : Store.KeepsRecent seen) {fewer more : Settings}
    (room : fewer.maxEntries ≤ more.maxEntries) {small large : Layer σ}
    (madeSmall : Layer.ofRecent fewer = .ok small) (madeLarge : Layer.ofRecent more = .ok large)
    (parser : Parser) (inner : List (Layer σ)) (past : List Event) :
    let after := fun layers => (⟨parser, 0, layers⟩ : Service σ).run past
    (∀ question text, (after [small]).passesOn question text = false →
      (after [large]).passesOn question text = false) ∧
    (after [large]).calls ≤ (after [small]).calls ∧
    (after (small :: inner)).calls ≤ (after [small]).calls ∧
    (after [small]).calls ≤ (after []).calls := by
  intro after
  have below : (Requests.ofRun more.maxEntries past).Below (Requests.ofRun fewer.maxEntries past) :=
    (Requests.below_self .nothing).foldl room past
  have callsOf : ∀ {settings : Settings} {outer : Layer σ}, Layer.ofRecent settings = .ok outer →
      (after [outer]).calls = (Requests.ofRun settings.maxEntries past).misses := by
    intro settings outer made
    rw [Service.calls_run_of_single rfl, Service.passedOn_eq_misses keeps made, Nat.zero_add]
  refine ⟨fun question text hit => ?_, ?_, ?_, ?_⟩
  · have smallHolds := (Service.HoldsLatest.of_ofRecent keeps madeSmall parser []).run keeps
      (Layer.eq_of_ofRecent madeSmall).1 past
    have largeHolds := (Service.HoldsLatest.of_ofRecent keeps madeLarge parser []).run keeps
      (Layer.eq_of_ofRecent madeLarge).1 past
    have smallPasses := smallHolds.passesOn_iff keeps question text
    have largePasses := largeHolds.passesOn_iff keeps question text
    rw [← Bool.not_eq_true, smallPasses, not_not] at hit
    rw [← Bool.not_eq_true, largePasses, not_not]
    have wider := hit.mono room
    rwa [← Requests.ofRun, ← below.texts] at wider
  · rw [callsOf madeSmall, callsOf madeLarge]
    exact below.misses
  · have passed := Service.calls_run_le_passedOn (⟨parser, 0, small :: inner⟩ : Service σ) past
    rw [Service.passedOn_eq_misses keeps madeSmall, Nat.zero_add] at passed
    rwa [callsOf madeSmall]
  · have asked := Service.passedOn_le_questions (⟨parser, 0, [small]⟩ : Service σ) past
    rwa [Service.calls_run_of_single rfl, Service.calls_run_of_bare rfl, Nat.zero_add, Nat.zero_add]

/-- Two texts take turns, after one of them was asked about twice. -/
def alternating : List Event :=
  [.ask .os "a", .ask .os "a", .ask .os "b", .ask .os "a", .ask .os "b"]

/-- With room for one text, one of five questions is a hit; with room for two, or with a layer of
that size inside, three of them do not reach the parser. -/
theorem alternating_calls :
    let after := fun layers => (⟨ruleless, 0, layers⟩ : Service).run alternating
    let holding := fun capacity => (Layer.ofStores fun _ => Recent.empty capacity : Layer)
    (after []).calls = 5 ∧ (after [holding 1]).calls = 4 ∧ (after [holding 2]).calls = 2 ∧
      (after [holding 1, holding 2]).calls = 2 ∧
      (after [holding 1]).passesOn .os "b" = false ∧
      (after [holding 2]).passesOn .os "b" = false ∧
      (after [holding 2]).calls ≤ (after [holding 1]).calls ∧
      (after [holding 1, holding 2]).calls ≤ (after [holding 1]).calls ∧
      (after [holding 1]).calls ≤ (after []).calls := by
  intro after holding
  have madeSmall : Layer.ofRecent ⟨1, Duration.ofSecs 1⟩ = .ok (holding 1) := rfl
  have madeLarge : Layer.ofRecent ⟨2, Duration.ofSecs 1⟩ = .ok (holding 2) := rfl
  obtain ⟨stays, larger, inside, around⟩ :=
    run_calls_le Recent.keepsRecent (by decide) madeSmall madeLarge ruleless [holding 2] alternating
  have hit : (after [holding 1]).passesOn .os "b" = false := by decide
  exact ⟨by decide, by decide, by decide, by decide, hit, stays .os "b" hit, larger, inside, around⟩

end AgentClassifier
