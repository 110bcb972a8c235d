import AgentClassifier.Proofs.Matcher.Fields
import AgentClassifier.Proofs.Parser.Reload
import AgentClassifier.Proofs.Service.Latest

/-!
No answer of a service has a field of empty text, and each field is what a rule made of it.

* `RuleTable.Accounts` : the rules of a table account for an answer to a question.
* `WasInForce` : a table is the one at the start, or a reload brought it in.
* `Answer.IsSound` : an answer has no empty text, and a table that was in force accounts for it.
* `Service.IsSound` : the invariant. The latest answers are sound, and the parser has the rules of
  such a table.
* `run_answers_sound` : the answers after any run of any arrangement of layers.
-/

namespace AgentClassifier

variable {σ : Type → Type} {table : RuleTable} {past : List Event} {question : Question}
  {text : String} {answer : Answer question}

/-! ## Answers -/

/-- The values of all fields; those of a client are the values of its parts. -/
def Answer.values : (question : Question) → Answer question → List (Option String)
  | .client, client =>
      UserAgent.values client.userAgent ++ Os.values client.os ++ Device.values client.device
  | .userAgent, agent => UserAgent.values agent
  | .os, os => Os.values os
  | .device, device => Device.values device

/-- The rules of a table account for an answer to a question about a text. The parts of a client
come from one table. -/
def RuleTable.Accounts (table : RuleTable) (text : String) :
    (question : Question) → Answer question → Prop
  | .client, client =>
      UserAgentRule.kind.AccountedBy UserAgentRule.fieldsOf table.userAgents text client.userAgent ∧
        OsRule.kind.AccountedBy OsRule.fieldsOf table.systems text client.os ∧
        DeviceRule.kind.AccountedBy DeviceRule.fieldsOf table.devices text client.device
  | .userAgent, agent =>
      UserAgentRule.kind.AccountedBy UserAgentRule.fieldsOf table.userAgents text agent
  | .os, os => OsRule.kind.AccountedBy OsRule.fieldsOf table.systems text os
  | .device, device => DeviceRule.kind.AccountedBy DeviceRule.fieldsOf table.devices text device

theorem RuleTable.Accounts.nonempty (accounts : table.Accounts text question answer) :
    some "" ∉ Answer.values question answer := by
  cases question with
  | client =>
      obtain ⟨userAgent, os, device⟩ := accounts
      simp only [Answer.values, List.mem_append, not_or]
      exact ⟨⟨UserAgent.nonempty_of_accountedBy userAgent, Os.nonempty_of_accountedBy os⟩,
        Device.nonempty_of_accountedBy device⟩
  | userAgent => exact UserAgent.nonempty_of_accountedBy accounts
  | os => exact Os.nonempty_of_accountedBy accounts
  | device => exact Device.nonempty_of_accountedBy accounts

theorem Parser.IsFor.accounts {parser : Parser} (isFor : parser.IsFor table) (question : Question)
    (text : String) : table.Accounts text question (parser.answer question text) := by
  obtain ⟨userAgent, os, device⟩ := accounted_of_compile isFor text
  cases question with
  | client => exact ⟨userAgent, os, device⟩
  | userAgent => exact userAgent
  | os => exact os
  | device => exact device

/-! ## Tables that were in force -/

/-- A table was there at the start, or a reload that succeeded brought it in. -/
def WasInForce (table : RuleTable) (past : List Event) (source : RuleTable) : Prop :=
  source = table ∨ .reload source ∈ past ∧ ∃ matchers, source.compile = .ok matchers

theorem WasInForce.append {source : RuleTable} (inForce : WasInForce table past source)
    (later : List Event) : WasInForce table (past ++ later) source :=
  inForce.imp_right fun broughtIn => ⟨List.mem_append_left later broughtIn.1, broughtIn.2⟩

/-- Nothing in the answer is empty text, and the rules of a table that was in force account for
it. -/
structure Answer.IsSound (table : RuleTable) (past : List Event) (question : Question)
    (text : String) (answer : Answer question) : Prop where
  nonempty : some "" ∉ Answer.values question answer
  accounted : ∃ source, WasInForce table past source ∧ source.Accounts text question answer

theorem RuleTable.Accounts.isSound {source : RuleTable}
    (accounts : source.Accounts text question answer) (inForce : WasInForce table past source) :
    Answer.IsSound table past question text answer :=
  ⟨accounts.nonempty, source, inForce, accounts⟩

theorem Answer.IsSound.append (sound : Answer.IsSound table past question text answer)
    (later : List Event) : Answer.IsSound table (past ++ later) question text answer := by
  obtain ⟨nonempty, source, inForce, accounts⟩ := sound
  exact ⟨nonempty, source, inForce.append later, accounts⟩

/-! ## Runs -/

namespace Service

/-- The parser has the rules of a table that was in force, and the latest answers are sound. -/
structure IsSound (service : Service σ) (known : Latest) (table : RuleTable) (past : List Event) :
    Prop where
  parser : ∃ source, WasInForce table past source ∧ service.parser.IsFor source
  latest : known.All (Answer.IsSound table past)

namespace IsSound

variable {service : Service σ} {known : Latest}

theorem parser_answer (sound : service.IsSound known table past) (question : Question)
    (text : String) :
    Answer.IsSound table past question text (service.parser.answer question text) := by
  obtain ⟨source, inForce, isFor⟩ := sound.parser
  exact (isFor.accounts question text).isSound inForce

variable [Store σ]

theorem step (sound : service.IsSound known table past) (event : Event) :
    (service.step event).IsSound (service.note known event) table (past ++ [event]) := by
  refine ⟨?_, fun question text answer noted => ?_⟩
  · by_cases keeps : event.KeepsRules
    · -- the parser stays as it is, and its table has been in force before
      obtain ⟨source, inForce, isFor⟩ := sound.parser
      refine ⟨source, inForce.append [event], ?_⟩
      rw [parser_step keeps]
      exact isFor
    · obtain ⟨source, matchers, rfl, compiled⟩ := Event.exists_of_renews keeps
      refine ⟨source, .inr ⟨by simp, matchers, compiled⟩, ?_⟩
      simp only [Service.step, reload, Parser.reload, compiled, Except.map]
      exact compiled
  · -- what is noted is the answer of the parser before the event
    have soundBefore := sound.latest.note sound.parser_answer event
    exact (soundBefore question text answer noted).append [event]

theorem run (sound : service.IsSound known table past) (events : List Event) :
    (service.run events).IsSound (service.latest known events) table (past ++ events) := by
  induction events generalizing service known past with
  | nil => rwa [List.append_nil]
  | cons event rest ih =>
      rw [List.append_cons]
      exact ih (sound.step event)

end IsSound

end Service

/-- Whatever happened before, and whichever layer answers, no field of an answer is empty text, and
one table that was in force accounts for all fields: each is what the first rule that applies makes
of the text. The answers of the parser itself are such answers. There may be any number of layers,
each with settings of its own. -/
theorem run_answers_sound [Store σ] (coherent : Store.Coherent σ) {start : Service σ}
    (isFor : start.parser.IsFor table) (new : ∀ layer ∈ start.layers, layer.IsNew)
    (past : List Event) :
    (∀ question text,
      Answer.IsSound table past question text ((start.run past).ask question text).1) ∧
    (∀ text client, ((start.run past).ask? text).1 = some client →
      ∃ present, text = some present ∧ Answer.IsSound table past .client present client) ∧
    ∀ question text,
      Answer.IsSound table past question text ((start.run past).parser.answer question text) := by
  have isNew : start.IsSound .nothing table [] :=
    ⟨⟨table, .inl rfl, isFor⟩, Latest.all_nothing _⟩
  have sound := isNew.run past
  have finds := (Service.FindsLatest.of_new coherent new).run past
  have asked := finds.ask_of_all sound.latest sound.parser_answer
  refine ⟨asked, fun text client answered => ?_, sound.parser_answer⟩
  cases text with
  | none => cases answered
  | some text =>
      cases answered
      exact ⟨text, rfl, asked .client text⟩

/-- The first template is blank where its group is empty, and so is the group of the minor version.
No brand is set. -/
def sparse : RuleTable :=
  ⟨[⟨some "(abc)/(x?)(y?)", some " $2 ", none, none⟩,
      ⟨some "(abc)/(x?)(y?)", none, some " v$1 ", none⟩], [],
    [⟨some "(abc)", none, some "$1", none, none⟩]⟩

/-- The answer is stored before new rules come in. -/
def storing : List Event := [.ask .client "abc/", .reload (naming "new")]

/-- Blank templates and empty groups leave no trace, and the template for the major version is
trimmed. -/
theorem sparse_fields :
    ∃ (parser : Parser) (start : Service),
      parser.IsFor sparse ∧
      Layering.recent.build ⟨1, Duration.ofSecs 1⟩ parser = .ok start ∧
      Answer.values .client ((start.run storing).ask .client "abc/").1 =
        [some "abc", some "vabc", none, none, none, some "Other", none, none, none, none,
          some "abc", none, some "abc"] ∧
      Answer.IsSound sparse storing .client "abc/" ((start.run storing).ask .client "abc/").1 := by
  let parser (matchers : Matchers) : Parser := ⟨matchers, ⟨[], []⟩, ⟨[]⟩⟩
  let cached (matchers : Matchers) : Service :=
    ⟨parser matchers, 0, [Layer.ofStores fun _ => Recent.empty 1]⟩
  have evaluated : sparse.compile.toOption.any (fun matchers =>
      Answer.values .client (((cached matchers).run storing).ask .client "abc/").1 ==
        [some "abc", some "vabc", none, none, none, some "Other", none, none, none, none,
          some "abc", none, some "abc"]) = true := by
    decide +kernel
  cases compiled : sparse.compile with
  | error cause => simp [compiled, Except.toOption] at evaluated
  | ok matchers =>
      simp only [compiled, Except.toOption, Option.any_some, beq_iff_eq] at evaluated
      have built : Layering.recent.build ⟨1, Duration.ofSecs 1⟩ (parser matchers) =
        .ok (cached matchers) := rfl
      have isFor : (parser matchers).IsFor sparse := compiled
      exact ⟨parser matchers, cached matchers, isFor, built, evaluated,
        (run_answers_sound Recent.coherent isFor (Layering.of_build built).2 storing).1 .client
          "abc/"⟩

end AgentClassifier
