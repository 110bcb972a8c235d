import AgentClassifier.Proofs.Service.Latest
import AgentClassifier.Proofs.Service.Recency

/-!
A layer that is emptied after new rules came in gives the answers of the parser alone.

* `UpToDate` : the outermost layer was emptied after each reload that succeeded.
* `Padded` : a run with more events that neither ask anything nor bring new rules.
* `Service.Forgets` : the layers are as good as new once they are emptied; every event preserves it.
* `Service.IsFresh` : the invariant. If the layer is up to date, then it finds only answers of the
  parser as it is now.
* `run_answers_uncached` : where the layer is up to date, the answers are those of the parser alone,
  and padding makes no difference.
-/

namespace AgentClassifier

variable {σ : Type → Type}

/-! ## Runs that empty the layer after new rules -/

/-- Each reload that brought new rules was followed by emptying the outermost layer. -/
def UpToDate (past : List Event) : Prop :=
  ∀ before table between, past = before ++ .reload table :: between →
    ¬ (Event.reload table).KeepsRules → .invalidate 0 ∈ between

theorem upToDate_concat_iff {past : List Event} {event : Event} :
    UpToDate (past ++ [event]) ↔ event = .invalidate 0 ∨ event.KeepsRules ∧ UpToDate past := by
  constructor
  · intro upToDate
    by_cases empties : event = .invalidate 0
    · exact .inl empties
    · refine .inr ⟨?_, ?_⟩
      · by_contra renews
        obtain ⟨table, _, rfl, _⟩ := Event.exists_of_renews renews
        cases upToDate past table [] rfl renews
      · intro before table between split renews
        have later := upToDate before table (between ++ [event]) (by rw [split]; simp) renews
        rcases List.mem_append.mp later with emptied | last
        · exact emptied
        · exact absurd (List.mem_singleton.mp last).symm empties
  · intro last before table between split renews
    -- either the reload is the last event itself, or the last event comes after it
    rcases List.eq_nil_or_concat between with rfl | ⟨earlier, other, rfl⟩
    · obtain ⟨_, same⟩ := List.append_inj' split rfl
      cases same
      rcases last with impossible | ⟨keeps, _⟩
      · cases impossible
      · exact absurd keeps renews
    · rw [List.concat_eq_append, ← List.cons_append, ← List.append_assoc] at split
      obtain ⟨start, same⟩ := List.append_inj' split rfl
      cases same
      rw [List.concat_eq_append]
      rcases last with rfl | ⟨_, upToDate⟩
      · simp
      · exact List.mem_append_left _ (upToDate before table earlier start renews)

/-- The second run is the first one with more events that neither ask anything nor bring new
rules. -/
inductive Padded : List Event → List Event → Prop
  | nil : Padded [] []
  | same {past padded : List Event} (event : Event) : Padded past padded →
      Padded (event :: past) (event :: padded)
  | extra {past padded : List Event} {event : Event} : event.question? = none →
      event.KeepsRules → Padded past padded → Padded past (event :: padded)

namespace Padded

variable {past padded : List Event}

theorem mem (pads : Padded past padded) {event : Event} (member : event ∈ past) :
    event ∈ padded := by
  induction pads with
  | nil => exact member
  | same other _ ih =>
      rcases List.mem_cons.mp member with rfl | later
      · exact List.mem_cons_self
      · exact List.mem_cons_of_mem _ (ih later)
  | extra _ _ _ ih => exact List.mem_cons_of_mem _ (ih member)

/-- A reload that succeeds has its place in the first run as well. -/
theorem exists_split (pads : Padded past padded) {before after : List Event} {event : Event}
    (split : padded = before ++ event :: after) (renews : ¬ event.KeepsRules) :
    ∃ earlier later, past = earlier ++ event :: later ∧ Padded later after := by
  induction pads generalizing before with
  | nil => simp at split
  | @same past padded first pads ih =>
      cases before with
      | nil =>
          cases split
          exact ⟨[], past, rfl, pads⟩
      | cons head before =>
          obtain ⟨rfl, rest⟩ := List.cons.inj split
          obtain ⟨earlier, later, rfl, back⟩ := ih rest
          exact ⟨first :: earlier, later, rfl, back⟩
  | extra _ keeps _ ih =>
      cases before with
      | nil =>
          cases split
          exact absurd keeps renews
      | cons head before =>
          obtain ⟨rfl, rest⟩ := List.cons.inj split
          exact ih rest

theorem upToDate (pads : Padded past padded) (upToDate : UpToDate past) : UpToDate padded := by
  intro before table between split renews
  obtain ⟨earlier, later, same, back⟩ := pads.exists_split split renews
  exact back.mem (upToDate earlier table later same renews)

end Padded

/-! ## Layers that forget -/

variable [Store σ]

/-- Once the layer is emptied, each store is as good as new. -/
def Layer.Forgets (layer : Layer σ) : Prop := ∀ question, Store.Forgets (layer.store question)

theorem Layer.Forgets.withStore {layer : Layer σ} (forgets : layer.Forgets) {question : Question}
    {store : σ (Answer question)} (forgetsToo : Store.Forgets store) :
    (layer.withStore question store).Forgets :=
  forall_store_withStore (fun _ store => Store.Forgets store) forgetsToo fun other _ =>
    forgets other

theorem Layer.Forgets.clear {layer : Layer σ} (forgets : layer.Forgets) : layer.clear.Forgets := by
  intro question
  rw [store_clear]
  exact (forgets question).step .clear

theorem askThrough_forgets (parser : Parser) (question : Question) (text : String)
    {layers : List (Layer σ)} (forget : ∀ layer ∈ layers, layer.Forgets) :
    ∀ layer ∈ (askThrough parser question text layers).layers, layer.Forgets := by
  induction layers with
  | nil => exact forget
  | cons layer inner ih =>
      obtain ⟨here, inside⟩ := List.forall_mem_cons.mp forget
      have used := (here question).step (.use text)
      cases found : (Store.use (layer.store question) text).1 with
      | some answer =>
          rw [askThrough_of_found found]
          exact List.forall_mem_cons.mpr ⟨here.withStore used, inside⟩
      | none =>
          rw [askThrough_of_missing found]
          exact List.forall_mem_cons.mpr ⟨here.withStore (used.step (.put text _)), ih inside⟩

namespace Service

variable {service : Service σ} {known : Latest}

/-- Once they are emptied, all layers are as good as new. -/
def Forgets (service : Service σ) : Prop := ∀ layer ∈ service.layers, layer.Forgets

theorem Forgets.step (forgets : service.Forgets) (event : Event) :
    (service.step event).Forgets := by
  cases asks : event.question? with
  | some about =>
      obtain ⟨question, text⟩ := about
      rw [step_of_question? _ asks]
      exact askThrough_forgets service.parser question text forgets
  | none =>
      rcases Event.of_silent asks with rfl | ⟨table, rfl⟩ | ⟨depth, rfl⟩
      · exact forgets
      · rw [Forgets, reload_layers]
        exact forgets
      · intro layer member
        rcases mem_layers_invalidateAt member with unchanged | ⟨before, known, rfl⟩
        · exact forgets layer unchanged
        · exact (forgets before known).clear

/-- A single layer that was emptied finds nothing. -/
theorem Forgets.findsLatest_invalidate (forgets : service.Forgets)
    (single : service.layers.length = 1) : service.invalidate.FindsLatest .nothing := by
  obtain ⟨layer, isLayer⟩ := List.length_eq_one_iff.mp single
  intro emptied member question
  rw [invalidate, invalidateAt, isLayer] at member
  rw [List.mem_singleton.mp member, Layer.store_clear]
  exact (forgets layer (by simp [isLayer]) question).clear

/-! ## Answers of the parser as it is -/

theorem FindsLatest.ask_eq (finds : service.FindsLatest known) (areOf : known.AreOf service.parser)
    (question : Question) (text : String) :
    (service.ask question text).1 = service.parser.answer question text :=
  finds.ask_of_all areOf (fun _ _ => rfl) question text

/-- A single layer forgets what it holds when it is emptied, and as long as it is up to date, it
finds only answers of the parser as it is. -/
structure IsFresh (service : Service σ) (past : List Event) : Prop where
  single : service.layers.length = 1
  forgets : service.Forgets
  finds : ∃ known, service.FindsLatest known ∧ (UpToDate past → known.AreOf service.parser)

namespace IsFresh

variable {past : List Event}

theorem step (fresh : service.IsFresh past) (event : Event) :
    (service.step event).IsFresh (past ++ [event]) := by
  refine ⟨(length_layers_step service event).trans fresh.single, fresh.forgets.step event, ?_⟩
  obtain ⟨known, finds, areOf⟩ := fresh.finds
  by_cases empties : event = .invalidate 0
  · -- the layer is as good as new, so it cannot find an answer of older rules
    subst empties
    exact ⟨.nothing, fresh.forgets.findsLatest_invalidate fresh.single,
      fun _ => Latest.areOf_nothing _⟩
  · refine ⟨service.note known event, finds.step event, fun upToDate => ?_⟩
    rcases upToDate_concat_iff.mp upToDate with impossible | ⟨keeps, upToDate⟩
    · exact absurd impossible empties
    · rw [parser_step keeps]
      exact (areOf upToDate).note event

theorem run (fresh : service.IsFresh past) (events : List Event) :
    (service.run events).IsFresh (past ++ events) := by
  induction events generalizing service past with
  | nil => rwa [List.append_nil]
  | cons event rest ih =>
      rw [List.append_cons]
      exact ih (fresh.step event)

theorem of_build (coherent : Store.Coherent σ) (forgetful : Store.Forgetful σ)
    {layering : Layering} (single : layering = .recent ∨ layering = .idle) {settings : Settings}
    {parser : Parser} (built : layering.build settings parser = .ok service) :
    service.IsFresh [] := by
  have new := (Layering.of_build built).2
  refine ⟨Layering.length_layers_of_build_single single built, fun layer member => ?_,
    .nothing, .of_new coherent new, fun _ => Latest.areOf_nothing _⟩
  exact (new layer member).store Store.Forgets forgetful.bounded forgetful.idle

theorem ask_eq (fresh : service.IsFresh past) (upToDate : UpToDate past) (question : Question)
    (text : String) : (service.ask question text).1 = service.parser.answer question text := by
  obtain ⟨known, finds, areOf⟩ := fresh.finds
  exact finds.ask_eq (areOf upToDate) question text

end IsFresh

/-! ## The parser alone -/

theorem parser_step_congr {first second : Service σ} (same : first.parser = second.parser)
    (event : Event) : (first.step event).parser = (second.step event).parser := by
  cases event with
  | ask question text => exact same
  | askOptional text => cases text <;> exact same
  | reload table =>
      dsimp only [step, reload]
      rw [same]
      cases second.parser.reload table with
      | ok parser => rfl
      | error cause => exact same
  | invalidate depth => exact same

/-- Padding and layers make no difference to the parser. -/
theorem parser_run_of_padded {past padded : List Event} (pads : Padded past padded)
    {first second : Service σ} (same : first.parser = second.parser) :
    (first.run padded).parser = (second.run past).parser := by
  induction pads generalizing first second with
  | nil => exact same
  | same event _ ih => exact ih (parser_step_congr same event)
  | extra _ keeps _ ih => exact ih ((parser_step keeps).trans same)

theorem ask_of_bare (bare : service.layers = []) (question : Question) (text : String) :
    (service.ask question text).1 = service.parser.answer question text := by
  rw [ask_answer, bare]
  rfl

end Service

/-- A single layer that is emptied after each reload that succeeds answers every question like the
parser alone in the same run. Questions that came before the layer was emptied, reloads that fail
and emptying it more often make no difference. -/
theorem run_answers_uncached (coherent : Store.Coherent σ) (forgetful : Store.Forgetful σ)
    {layering : Layering} (single : layering = .recent ∨ layering = .idle) {settings : Settings}
    {parser : Parser} {start uncached : Service σ}
    (built : layering.build settings parser = .ok start)
    (alone : Layering.plain.build settings parser = .ok uncached) {past padded : List Event}
    (pads : Padded past padded) (upToDate : UpToDate past) :
    (∀ question text, ((start.run padded).ask question text).1 =
      ((uncached.run past).ask question text).1) ∧
    ∀ text, ((start.run padded).ask? text).1 = ((uncached.run past).ask? text).1 := by
  cases alone
  have fresh : (start.run padded).IsFresh padded :=
    (Service.IsFresh.of_build coherent forgetful single built).run padded
  have sameParser : (start.run padded).parser =
      ((⟨parser, 0, []⟩ : Service σ).run past).parser :=
    Service.parser_run_of_padded pads (Layering.of_build built).1
  have same : ∀ question text, ((start.run padded).ask question text).1 =
      (((⟨parser, 0, []⟩ : Service σ).run past).ask question text).1 := by
    intro question text
    have bare := Service.length_layers_run (⟨parser, 0, []⟩ : Service σ) past
    rw [fresh.ask_eq (pads.upToDate upToDate),
      Service.ask_of_bare (List.length_eq_zero_iff.mp bare), sameParser]
  refine ⟨same, fun text => ?_⟩
  cases text with
  | none => rfl
  | some text => exact congrArg some (same .client text)

/-- A question, new rules, and then the layer is emptied. -/
def emptying : List Event := [.ask .userAgent "abc", .reload (naming "new"), .invalidate 0]

/-- Rules whose pattern does not compile. -/
def unreadable : RuleTable := ⟨[⟨some "(abc", none, none, none⟩], [], []⟩

/-- The same with rules that are refused, and a layer that is emptied more often. -/
def emptyingOften : List Event :=
  [.invalidate 0, .ask .userAgent "abc", .reload (naming "new"), .reload unreadable, .invalidate 0,
    .reload unreadable]

/-- The layer held the old answer, and gives the new one. -/
theorem new_after_emptying :
    ∃ (parser : Parser) (start uncached : Service),
      Layering.idle.build ⟨1, Duration.ofSecs 1⟩ parser = .ok start ∧
      Layering.plain.build ⟨1, Duration.ofSecs 1⟩ parser = .ok uncached ∧
      UserAgent.family (start.ask .userAgent "abc").1 = "old" ∧
      UserAgent.family ((uncached.run emptying).ask .userAgent "abc").1 = "new" ∧
      ((start.run emptyingOften).ask .userAgent "abc").1 =
        ((uncached.run emptying).ask .userAgent "abc").1 := by
  have refused : (Event.reload unreadable).KeepsRules := by
    intro matchers compiled
    have fails : unreadable.compile = .error (.pattern "(abc") := by decide +kernel
    rw [fails] at compiled
    cases compiled
  have pads : Padded emptying emptyingOften :=
    .extra rfl trivial (.same _ (.same _ (.extra rfl refused (.same _ (.extra rfl refused .nil)))))
  have upToDate : UpToDate emptying :=
    (@upToDate_concat_iff [.ask .userAgent "abc", .reload (naming "new")] _).mpr (.inl rfl)
  let bare (matchers : Matchers) : Service := ⟨⟨matchers, ⟨[], []⟩, ⟨[]⟩⟩, 0, []⟩
  let cached (matchers : Matchers) : Service :=
    { bare matchers with layers := [Layer.ofStores fun _ => Recent.empty 1] }
  have evaluated : (naming "old").compile.toOption.any (fun matchers =>
      UserAgent.family ((cached matchers).ask .userAgent "abc").1 == "old" &&
        UserAgent.family (((bare matchers).run emptying).ask .userAgent "abc").1 == "new") =
          true := by
    decide +kernel
  cases compiled : (naming "old").compile with
  | error cause => simp [compiled, Except.toOption] at evaluated
  | ok matchers =>
      simp only [compiled, Except.toOption, Option.any_some, Bool.and_eq_true, beq_iff_eq]
        at evaluated
      have built : Layering.idle.build ⟨1, Duration.ofSecs 1⟩ (bare matchers).parser =
        .ok (cached matchers) := rfl
      refine ⟨_, cached matchers, bare matchers, built, rfl, evaluated.1, evaluated.2, ?_⟩
      exact (run_answers_uncached Recent.coherent Recent.forgetful (.inr rfl) built rfl pads
        upToDate).1 .userAgent "abc"

end AgentClassifier
