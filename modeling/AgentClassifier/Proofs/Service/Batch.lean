import AgentClassifier.Proofs.Cache.Room
import AgentClassifier.Proofs.Service.Calls
import AgentClassifier.Proofs.Service.Separation

/-!
Batches of texts behind a single layer in which nothing expires and for which there is room.

* `Service.reached` : the texts of a batch for which the parser is called.
* `Service.Holds` : the invariant. For a question the layer holds the given entries.
* `Service.Holds.ask` : a question is answered from the layer or else by the parser, and its text
  is held afterwards.
* `Service.Serves` : what serving a batch leads to, in terms of the entries held before;
  `Service.Holds.serves` shows it by induction on the batch.
* `batch_called_once` : in whatever order a batch is served, every text gets its answer, and the
  parser is called once for each text that was not held.
-/

namespace AgentClassifier

variable {σ : Type → Type} [Store σ]

namespace Service

/-- The texts of a batch for which the parser is called, one after the other. -/
def reached (service : Service σ) (question : Question) : List String → List String
  | [] => []
  | text :: rest =>
      let after := (service.ask question text).2
      if after.calls = service.calls then after.reached question rest
      else text :: after.reached question rest

/-- A single layer that is seen to hold the given entries for a question. -/
def Holds (service : Service σ) (seen : (α : Type) → σ α → Recent α → Prop) (question : Question)
    (held : Recent (Answer question)) : Prop :=
  ∃ layer, service.layers = [layer] ∧ seen _ (layer.store question) held

/-- The answer for a text: the one that is held, or else that of the parser. -/
def answerWith (parser : Parser) {question : Question} (held : Recent (Answer question))
    (text : String) : Answer question :=
  (held.find? text).getD (parser.answer question text)

variable {seen : (α : Type) → σ α → Recent α → Prop} {service : Service σ} {question : Question}
  {held : Recent (Answer question)} {text : String} {texts : List String}

/-! ## One question -/

/-- Once an answer is given, it is held, so it stays the same. -/
theorem answerWith_serve (parser : Parser) (room : held.HasRoom text) :
    answerWith parser (held.serve text (answerWith parser held text)) =
      answerWith parser held := by
  funext other
  unfold answerWith
  rw [Recent.find?_serve room]
  by_cases same : text = other
  · subst same
    rw [if_pos rfl]
    cases held.find? text <;> rfl
  · rw [if_neg same]

theorem Holds.ask (keeps : Store.KeepsFitting seen) (holds : service.Holds seen question held)
    (room : held.HasRoom text) :
    (service.ask question text).1 = answerWith service.parser held text ∧
      (service.ask question text).2.calls =
        service.calls + (if text ∈ held.keys then 0 else 1) ∧
      (service.ask question text).2.Holds seen question
        (held.serve text (answerWith service.parser held text)) := by
  obtain ⟨layer, isLayer, isSeen⟩ := holds
  have found := keeps.found text isSeen
  rw [ask_answer, ask_calls, Holds, ask_layers, isLayer, answerWith, ← found]
  cases outcome : (Store.use (layer.store question) text).1 with
  | some answer =>
      have member : text ∈ held.keys := Recent.mem_keys_iff.mpr ⟨answer, found ▸ outcome⟩
      rw [askThrough_of_found outcome, if_pos member]
      refine ⟨rfl, rfl, _, rfl, ?_⟩
      rw [Layer.store_withStore_self]
      exact keeps.serve_of_found isSeen outcome _
  | none =>
      have fresh : text ∉ held.keys := by
        rw [← Recent.find?_eq_none_iff, ← found]
        exact outcome
      rw [askThrough_of_missing outcome, if_neg fresh]
      refine ⟨rfl, rfl, _, rfl, ?_⟩
      rw [Layer.store_withStore_self]
      exact keeps.serve_of_missing isSeen outcome room _

/-! ## Batches -/

/-- What serving texts one after the other leads to, if the given entries are held before. -/
structure Serves (service : Service σ) (seen : (α : Type) → σ α → Recent α → Prop)
    (question : Question) (held : Recent (Answer question)) (texts : List String) : Prop where
  answers : (service.askAll question texts).1 = texts.map (answerWith service.parser held)
  calls : (service.askAll question texts).2.calls =
    service.calls + (service.reached question texts).length
  distinct : (service.reached question texts).Nodup
  mem_reached : ∀ text, text ∈ service.reached question texts ↔ text ∈ texts ∧ text ∉ held.keys
  holds : ∃ after, (service.askAll question texts).2.Holds seen question after ∧
    after.capacity = held.capacity ∧
    after.keys.toFinset = held.keys.toFinset ∪ texts.toFinset ∧
    ∀ text ∈ after.keys, after.find? text = some (answerWith service.parser held text)

/-- Just for a text that is not held the parser is called. -/
theorem Holds.reached_cons (keeps : Store.KeepsFitting seen)
    (holds : service.Holds seen question held) (room : held.HasRoom text) (rest : List String) :
    service.reached question (text :: rest) =
      (if text ∈ held.keys then [] else [text]) ++
        (service.ask question text).2.reached question rest := by
  have calls := (holds.ask keeps room).2.1
  rw [reached]
  by_cases member : text ∈ held.keys
  · rw [if_pos member, Nat.add_zero] at calls
    rw [if_pos calls, if_pos member, List.nil_append]
  · rw [if_neg member] at calls
    rw [if_neg (by omega), if_neg member, List.singleton_append]

/-- The rest of a batch is served with the text held that comes first. -/
theorem Serves.cons (keeps : Store.KeepsFitting seen) (holds : service.Holds seen question held)
    (room : held.HasRoom text)
    (later : (service.ask question text).2.Serves seen question
      (held.serve text (answerWith service.parser held text)) texts) :
    service.Serves seen question held (text :: texts) := by
  obtain ⟨answer, calls, _⟩ := holds.ask keeps room
  have first := holds.reached_cons keeps room texts
  -- an answer that is given is held, so the rest of the batch gets the same answers
  have same : answerWith (service.ask question text).2.parser
      (held.serve text (answerWith service.parser held text)) = answerWith service.parser held :=
    answerWith_serve service.parser room
  have keysAfter : (held.serve text (answerWith service.parser held text)).keys.toFinset =
      insert text held.keys.toFinset :=
    Recent.toFinset_keys_serve room
  have mem_later : ∀ other, other ∈ (service.ask question text).2.reached question texts ↔
      other ∈ texts ∧ ¬ (other = text ∨ other ∈ held.keys) := by
    intro other
    rw [later.mem_reached, ← List.mem_toFinset (l := Recent.keys _), keysAfter, Finset.mem_insert,
      List.mem_toFinset]
  constructor
  case answers =>
    have tail := later.answers
    rw [same] at tail
    rw [List.map_cons, ← tail, ← answer]
    rfl
  case calls =>
    rw [first, List.length_append, ← Nat.add_assoc]
    refine later.calls.trans (congrArg (· + _) (calls.trans ?_))
    by_cases member : text ∈ held.keys
    · rw [if_pos member, if_pos member, List.length_nil]
    · rw [if_neg member, if_neg member, List.length_singleton]
  case distinct =>
    rw [first]
    by_cases member : text ∈ held.keys
    · rw [if_pos member]
      exact later.distinct
    · rw [if_neg member, List.singleton_append, List.nodup_cons, mem_later]
      exact ⟨fun again => again.2 (.inl rfl), later.distinct⟩
  case mem_reached =>
    intro other
    rw [first, List.mem_append, mem_later, List.mem_cons]
    by_cases member : text ∈ held.keys
    · by_cases here : other = text
      · simp [here, member]
      · simp [here, member]
    · by_cases here : other = text
      · simp [here, member]
      · simp [here, member]
  case holds =>
    obtain ⟨after, holdsLast, capacity, keys, found⟩ := later.holds
    refine ⟨after, holdsLast, capacity.trans (Recent.capacity_serve _ _ _), ?_, ?_⟩
    · rw [keys, keysAfter, List.toFinset_cons, Finset.insert_union, Finset.union_insert]
    · rw [same] at found
      exact found

theorem Holds.serves (keeps : Store.KeepsFitting seen) (holds : service.Holds seen question held)
    (room : (held.keys.toFinset ∪ texts.toFinset).card ≤ held.capacity) :
    service.Serves seen question held texts := by
  induction texts generalizing service held with
  | nil =>
      refine ⟨rfl, rfl, List.nodup_nil, fun text => by simp [reached], held, holds, rfl, by simp,
        fun text member => ?_⟩
      obtain ⟨answer, found⟩ := Recent.mem_keys_iff.mp member
      rw [answerWith, found, Option.getD_some]
  | cons text rest ih =>
      have roomHere : held.HasRoom text := by
        obtain ⟨layer, _, isSeen⟩ := holds
        exact Recent.hasRoom_of_card (keeps.distinct isSeen) Finset.subset_union_left (by simp) room
      refine Serves.cons keeps holds roomHere (ih (holds.ask keeps roomHere).2.2 ?_)
      rw [Recent.toFinset_keys_serve roomHere, Recent.capacity_serve]
      simpa using room

/-- The numbers of calls and of entries grow by the number of texts that were not held. -/
theorem Serves.length_reached (serves : service.Serves seen question held texts) :
    (service.reached question texts).length = (texts.toFinset \ held.keys.toFinset).card := by
  rw [← List.toFinset_card_of_nodup serves.distinct]
  congr 1
  ext text
  rw [List.mem_toFinset, serves.mem_reached, Finset.mem_sdiff, List.mem_toFinset, List.mem_toFinset]

theorem Serves.size (keeps : Store.KeepsFitting seen) (holds : service.Holds seen question held)
    (serves : service.Serves seen question held texts) :
    (storesFor (service.askAll question texts).2.layers question).map Store.size =
      (storesFor service.layers question).map fun store =>
        Store.size store + (texts.toFinset \ held.keys.toFinset).card := by
  obtain ⟨layer, isLayer, isSeen⟩ := holds
  obtain ⟨after, ⟨last, isLast, isSeenLast⟩, _, keys, _⟩ := serves.holds
  have grown : after.size = held.size + (texts.toFinset \ held.keys.toFinset).card := by
    rw [Recent.size_eq_card (keeps.distinct isSeen), Recent.size_eq_card (keeps.distinct isSeenLast),
      keys, ← Finset.union_sdiff_self_eq_union, Finset.card_union_of_disjoint Finset.disjoint_sdiff]
  rw [isLayer, isLast]
  simp only [storesFor, List.map_cons, List.map_nil, keeps.size isSeen, keeps.size isSeenLast, grown]

theorem storesFor_askAll {other : Question} (different : other ≠ question) (texts : List String) :
    storesFor (service.askAll question texts).2.layers other = storesFor service.layers other := by
  induction texts generalizing service with
  | nil => rfl
  | cons text rest ih => exact ih.trans (storesFor_askThrough different _)

/-! ## After a batch -/

omit [Store σ] in
theorem Holds.of_storesFor {other : Service σ} (holds : service.Holds seen question held)
    (same : storesFor other.layers question = storesFor service.layers question) :
    other.Holds seen question held := by
  obtain ⟨layer, isLayer, isSeen⟩ := holds
  rw [isLayer] at same
  obtain ⟨last, isLast, sameStore⟩ := List.map_eq_singleton_iff.mp same
  refine ⟨last, isLast, ?_⟩
  rw [sameStore]
  exact isSeen

/-- What is held is still held after a run that empties nothing and for which there is room. -/
theorem Holds.run (keeps : Store.KeepsFitting seen) (holds : service.Holds seen question held)
    {events : List Event} (kept : ∀ depth, .invalidate depth ∉ events)
    (room : (held.keys.toFinset ∪ (events.filterMap (Event.textFor question)).toFinset).card ≤
      held.capacity) :
    ∃ after, (service.run events).Holds seen question after ∧
      ∀ text answer, held.find? text = some answer → after.find? text = some answer := by
  induction events generalizing service held with
  | nil => exact ⟨held, holds, fun _ _ found => found⟩
  | cons event rest ih =>
      have keptLater : ∀ depth, .invalidate depth ∉ rest := fun depth member =>
        kept depth (List.mem_cons_of_mem _ member)
      cases asks : event.textFor question with
      | none =>
          rw [List.filterMap_cons_none asks] at room
          have same : storesFor (service.step event).layers question =
              storesFor service.layers question :=
            storesFor_step_of_silent asks fun depth empties =>
              kept depth (empties ▸ List.mem_cons_self)
          exact ih (holds.of_storesFor same) keptLater room
      | some text =>
          rw [List.filterMap_cons_some asks, List.toFinset_cons] at room
          have roomHere : held.HasRoom text := by
            obtain ⟨layer, _, isSeen⟩ := holds
            exact Recent.hasRoom_of_card (keeps.distinct isSeen) Finset.subset_union_left (by simp)
              room
          have holdsAfter := (holds.ask keeps roomHere).2.2
          rw [← step_of_textFor asks] at holdsAfter
          obtain ⟨after, holdsLast, stays⟩ := ih holdsAfter keptLater (by
            rw [Recent.toFinset_keys_serve roomHere, Recent.capacity_serve, Finset.insert_union,
              ← Finset.union_insert]
            exact room)
          refine ⟨after, holdsLast, fun other answer found => stays other answer ?_⟩
          rw [Recent.find?_serve roomHere]
          by_cases same : text = other
          · rw [if_pos same, same, found, Option.getD_some]
          · rw [if_neg same, found]

/-- What was served is answered without the parser after a run that empties nothing and for which
there is room. -/
theorem Serves.ask_later (keeps : Store.KeepsFitting seen)
    (serves : service.Serves seen question held texts) {events : List Event}
    (kept : ∀ depth, .invalidate depth ∉ events)
    (room : (held.keys.toFinset ∪ texts.toFinset ∪
      (events.filterMap (Event.textFor question)).toFinset).card ≤ held.capacity)
    (member : text ∈ texts) :
    let last := (service.askAll question texts).2.run events
    (last.ask question text).1 = answerWith service.parser held text ∧
      (last.ask question text).2.calls = last.calls := by
  intro last
  obtain ⟨after, holdsAfter, capacity, keys, found⟩ := serves.holds
  rw [← keys, ← capacity] at room
  obtain ⟨final, holdsLast, stays⟩ := holdsAfter.run keeps kept room
  have known : text ∈ after.keys := by
    rw [← List.mem_toFinset, keys]
    exact Finset.mem_union_right _ (List.mem_toFinset.mpr member)
  have foundLast := stays text _ (found text known)
  have isKey : text ∈ final.keys := Recent.mem_keys_iff.mpr ⟨_, foundLast⟩
  have roomLast : final.HasRoom text := by
    intro missing
    rw [missing] at foundLast
    cases foundLast
  obtain ⟨given, calls, _⟩ := holdsLast.ask keeps roomLast
  rw [if_pos isKey, Nat.add_zero] at calls
  refine ⟨?_, calls⟩
  rw [given, answerWith, foundLast, Option.getD_some]

end Service

/-- In whatever order a batch is served by a layer that has room for it and in which nothing
expires, every text gets the answer that was held for it, or else that of the parser. The parser is
called once for each text that was not held, and not for the others. The number of entries for the
question grows by as many, and no other number changes. Afterwards each text is answered without the
parser, until the layer is emptied or there is no more room. -/
theorem batch_called_once {seen : (α : Type) → σ α → Recent α → Prop}
    (keeps : Store.KeepsFitting seen) {settings : Settings} {parser : Parser} {start : Service σ}
    (built : Layering.idle.build settings parser = .ok start) (past : List Event)
    {question : Question} {held : Recent (Answer question)}
    (isHeld : ∀ layer ∈ (start.run past).layers, seen _ (layer.store question) held)
    (bound : held.capacity = settings.maxEntries) {batch : List String}
    (room : (held.keys ++ batch).toFinset.card ≤ settings.maxEntries) :
    let service := start.run past
    let answer := Service.answerWith service.parser held
    let fresh := (batch.toFinset \ held.keys.toFinset).card
    ∀ order, order.Perm batch →
      let served := service.askAll question order
      served.1 = order.map answer ∧
      (service.reached question order).Nodup ∧
      (∀ text, text ∈ service.reached question order ↔ text ∈ batch ∧ text ∉ held.keys) ∧
      served.2.calls = service.calls + fresh ∧
      (∀ other, (storesFor served.2.layers other).map Store.size =
        (storesFor service.layers other).map fun store =>
          Store.size store + if other = question then fresh else 0) ∧
      ∀ later : List Event, (∀ depth, .invalidate depth ∉ later) →
        (held.keys ++ batch ++ later.filterMap (Event.textFor question)).toFinset.card ≤
          settings.maxEntries →
        ∀ text ∈ batch, ((served.2.run later).ask question text).1 = answer text ∧
          ((served.2.run later).ask question text).2.calls = (served.2.run later).calls := by
  intro service answer fresh order permuted served
  have single : service.layers.length = 1 :=
    (Service.length_layers_run start past).trans
      (Layering.length_layers_of_build_single (.inr rfl) built)
  obtain ⟨layer, isLayer⟩ := List.length_eq_one_iff.mp single
  have holds : service.Holds seen question held :=
    ⟨layer, isLayer, isHeld layer (isLayer ▸ List.mem_singleton_self layer)⟩
  have sameTexts : order.toFinset = batch.toFinset := List.toFinset_eq_of_perm _ _ permuted
  have serves : service.Serves seen question held order := by
    refine holds.serves keeps ?_
    rw [sameTexts, bound, ← List.toFinset_append]
    exact room
  refine ⟨serves.answers, serves.distinct, fun text => ?_, ?_, fun other => ?_, ?_⟩
  · rw [serves.mem_reached, permuted.mem_iff]
  · rw [serves.calls, serves.length_reached, sameTexts]
  · by_cases same : other = question
    · subst same
      rw [serves.size keeps holds, sameTexts]
      simp only [if_true]
      rfl
    · rw [Service.storesFor_askAll same]
      simp only [if_neg same, Nat.add_zero]
  · intro later kept roomLater text member
    refine serves.ask_later keeps kept ?_ (permuted.mem_iff.mpr member)
    rw [sameTexts, bound, ← List.toFinset_append, ← List.toFinset_append]
    exact roomLater

/-- A question, and then new rules. -/
def renewing : List Event := [.ask .userAgent "abc", .reload (naming "new")]

/-- The old answer is still held, so in every order just the other text reaches the parser, and
then it is held too. -/
theorem batch_after_renewing :
    ∃ start : Service, Layering.idle.build ⟨2, Duration.ofSecs 1⟩ ruleless = .ok start ∧
      (start.run renewing).calls = 1 ∧
      ((start.run renewing).askAll .userAgent ["new abc", "abc", "new abc"]).1.map
        UserAgent.family = ["new", "Other", "new"] ∧
      ∀ order : List String, order.Perm ["new abc", "abc", "new abc"] →
        let served := ((start.run renewing).askAll .userAgent order).2
        (∀ text, text ∈ (start.run renewing).reached .userAgent order ↔ text = "new abc") ∧
        served.calls = 2 ∧
        ((served.run [.ask .os "abc"]).ask .userAgent "new abc").2.calls =
          (served.run [.ask .os "abc"]).calls := by
  let start : Service := ⟨ruleless, 0, [Layer.ofStores fun _ => Recent.empty 2]⟩
  have built : Layering.idle.build ⟨2, Duration.ofSecs 1⟩ ruleless = .ok start := rfl
  obtain ⟨layer, isLayer⟩ :=
    List.length_eq_one_iff.mp (Service.length_layers_run start renewing)
  have evaluated : (start.run renewing).layers.map (fun layer =>
      (layer.userAgents.keys, layer.userAgents.capacity)) = [(["abc"], 2)] := by
    decide +kernel
  rw [isLayer, List.map_singleton, List.singleton_inj, Prod.mk.injEq] at evaluated
  obtain ⟨keys, capacity⟩ := evaluated
  have once : (start.run renewing).calls = 1 := by decide +kernel
  have isHeld : ∀ other ∈ (start.run renewing).layers,
      other.store .userAgent = layer.store .userAgent ∧ (layer.store .userAgent).keys.Nodup := by
    intro other member
    rw [isLayer] at member
    rw [List.mem_singleton.mp member]
    refine ⟨rfl, ?_⟩
    change layer.userAgents.keys.Nodup
    rw [keys]
    decide
  have fits : ((layer.store .userAgent).keys ++ ["new abc", "abc", "new abc"]).toFinset.card ≤ 2 := by
    change (layer.userAgents.keys ++ _).toFinset.card ≤ 2
    rw [keys]
    decide
  refine ⟨start, built, once, by decide +kernel, fun order permuted => ?_⟩
  obtain ⟨_, _, reached, calls, _, stays⟩ :=
    batch_called_once Recent.keepsFitting built renewing isHeld capacity fits order permuted
  refine ⟨fun text => ?_, ?_, ?_⟩
  · rw [reached]
    change _ ∧ text ∉ layer.userAgents.keys ↔ _
    rw [keys]
    by_cases same : text = "new abc"
    · simp [same]
    · simp [same]
  · have fresh : (["new abc", "abc", "new abc"].toFinset \
        (layer.store .userAgent).keys.toFinset).card = 1 := by
      change (_ \ layer.userAgents.keys.toFinset).card = 1
      rw [keys]
      decide
    rw [calls, once, fresh]
  · have unasked : [Event.ask .os "abc"].filterMap (Event.textFor .userAgent) = [] := rfl
    refine (stays [.ask .os "abc"] (by simp) ?_ "new abc" (by simp)).2
    rw [unasked, List.append_nil]
    exact fits

end AgentClassifier
