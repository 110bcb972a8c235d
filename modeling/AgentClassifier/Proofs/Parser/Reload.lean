import AgentClassifier.Proofs.Matcher.Faults
import AgentClassifier.Service

/-!
A parser exchanges all of its rules or none of them.

* `Call` : what can be done with a parser; `Parser.reply` and `Parser.after` say what comes of it.
* `Parser.IsFor` : a parser has the rules of a table; then it is a new parser for the table, up to
  the classifiers.
* `Parser.tableAfter` : the table of the last reload that succeeded.
* `Parser.IsFor.after` : every call preserves that the rules are those of this table.
* `run_replies_as_new` : after any calls, a parser replies like a new one for this table.
-/

namespace AgentClassifier

open Traversal

/-- What can be done with a parser. -/
inductive Call
  | ask (question : Question) (text : String)
  | askOptional (text : Option String)
  | platform (text : String)
  | manufacturer (text : String)
  | reload (table : RuleTable)

/-- The type of the replies to a call. -/
def Call.Reply : Call → Type
  | .ask question _ => Answer question
  | .askOptional _ => Option Client
  | .platform _ => Platform
  | .manufacturer _ => Manufacturer
  | .reload _ => Except BuildError Unit

namespace Parser

/-- The reply of a parser to a call. -/
def reply (parser : Parser) : (call : Call) → call.Reply
  | .ask question text => parser.answer question text
  | .askOptional text => parser.parse? text
  | .platform text => parser.parsePlatform text
  | .manufacturer text => parser.parseManufacturer text
  | .reload table => (parser.reload table).map fun _ => ()

/-- The parser after a call. Only a reload that succeeds changes it. -/
def after (parser : Parser) : Call → Parser
  | .reload table =>
      match parser.reload table with
      | .ok reloaded => reloaded
      | .error _ => parser
  | .ask _ _ | .askOptional _ | .platform _ | .manufacturer _ => parser

/-- The parser after some calls. -/
def run (parser : Parser) (calls : List Call) : Parser := calls.foldl after parser

/-- The table that a call brings into force: that of a reload that succeeds. -/
def accepted? (parser : Parser) : Call → Option RuleTable
  | .reload table => (parser.reload table).toOption.map fun _ => table
  | .ask _ _ | .askOptional _ | .platform _ | .manufacturer _ => none

/-- The table of the last reload that succeeded; where there is none, the table at the start. -/
def tableAfter (parser : Parser) (start : RuleTable) : List Call → RuleTable
  | [] => start
  | call :: rest => (parser.after call).tableAfter ((parser.accepted? call).getD start) rest

/-! ## Parsers for a table -/

/-- A parser has the rules of a table. -/
def IsFor (parser : Parser) (table : RuleTable) : Prop := table.compile = .ok parser.matchers

variable {parser : Parser} {table : RuleTable}

theorem isFor_of_ofTable (made : ofTable table = .ok parser) : parser.IsFor table := by
  obtain ⟨platform, manufacturer, ofTable⟩ := ofTable_eq_map
  rw [ofTable] at made
  obtain ⟨matchers, compiled, rfl⟩ := map_eq_ok_iff.mp made
  exact compiled

/-- A parser for a table is a new one for the table, with classifiers of its own. -/
theorem IsFor.exists_new (isFor : parser.IsFor table) :
    ∃ new, ofTable table = .ok new ∧
      parser = (new.withPlatform parser.platform).withManufacturer parser.manufacturer := by
  obtain ⟨platform, manufacturer, ofTable⟩ := ofTable_eq_map
  refine ⟨⟨parser.matchers, platform, manufacturer⟩, ?_, rfl⟩
  rw [ofTable, isFor]
  rfl

/-! ## Calls -/

theorem after_of_reload_eq_error {cause : BuildError}
    (failed : parser.reload table = .error cause) : parser.after (.reload table) = parser := by
  rw [after, failed]

/-- The rules are always those of the last table that compiled. -/
theorem IsFor.after {start : RuleTable} (isFor : parser.IsFor start) (call : Call) :
    (parser.after call).IsFor ((parser.accepted? call).getD start) := by
  cases call with
  | reload table =>
      cases outcome : parser.reload table with
      | ok reloaded =>
          obtain ⟨matchers, compiled, rfl⟩ := map_eq_ok_iff.mp outcome
          rw [Parser.after, accepted?, outcome]
          exact compiled
      | error cause =>
          rw [after_of_reload_eq_error outcome, accepted?, outcome]
          exact isFor
  | ask question text => exact isFor
  | askOptional text => exact isFor
  | platform text => exact isFor
  | manufacturer text => exact isFor

theorem classifiers_after (parser : Parser) (call : Call) :
    (parser.after call).platform = parser.platform ∧
      (parser.after call).manufacturer = parser.manufacturer := by
  cases call with
  | reload table =>
      cases outcome : parser.reload table with
      | ok reloaded =>
          obtain ⟨matchers, _, rfl⟩ := map_eq_ok_iff.mp outcome
          rw [after, outcome]
          exact ⟨rfl, rfl⟩
      | error cause =>
          rw [after_of_reload_eq_error outcome]
          exact ⟨rfl, rfl⟩
  | ask question text => exact ⟨rfl, rfl⟩
  | askOptional text => exact ⟨rfl, rfl⟩
  | platform text => exact ⟨rfl, rfl⟩
  | manufacturer text => exact ⟨rfl, rfl⟩

theorem IsFor.run {start : RuleTable} (isFor : parser.IsFor start) (calls : List Call) :
    (parser.run calls).IsFor (parser.tableAfter start calls) := by
  induction calls generalizing parser start with
  | nil => exact isFor
  | cons call rest ih => exact ih (isFor.after call)

theorem classifiers_run (parser : Parser) (calls : List Call) :
    (parser.run calls).platform = parser.platform ∧
      (parser.run calls).manufacturer = parser.manufacturer := by
  induction calls generalizing parser with
  | nil => exact ⟨rfl, rfl⟩
  | cons call rest ih =>
      obtain ⟨platform, manufacturer⟩ := classifiers_after parser call
      rw [← platform, ← manufacturer]
      exact ih (parser.after call)

/-- A reload that fails might as well not have been tried. -/
theorem run_skip_failed {before later : List Call} {cause : BuildError}
    (failed : (parser.run before).reload table = .error cause) :
    parser.run (before ++ .reload table :: later) = parser.run (before ++ later) := by
  have same : (parser.run before).after (.reload table) = parser.run before :=
    after_of_reload_eq_error failed
  rw [run, run, List.foldl_append, List.foldl_append, List.foldl_cons]
  exact congrArg (fun parser => List.foldl after parser later) same

end Parser

/-- After any calls, a parser replies to every call like a new parser for the table of the last
reload that succeeded, with the classifiers it had from the start. A reload that failed changes no
later reply, and the parts of a client are what the parser answers when asked for each of them. -/
theorem run_replies_as_new {parser : Parser} {table : RuleTable} (isFor : parser.IsFor table)
    (past : List Call) :
    (∃ new, Parser.ofTable (parser.tableAfter table past) = .ok new ∧
      ∀ call, (parser.run past).reply call =
        ((new.withPlatform parser.platform).withManufacturer parser.manufacturer).reply call) ∧
    (∀ other cause, (parser.run past).reply (.reload other) = .error cause →
      ∀ later call, (parser.run (past ++ .reload other :: later)).reply call =
        (parser.run (past ++ later)).reply call) ∧
    ∀ text, (parser.run past).parse text =
      { userAgent := (parser.run past).parseUserAgent text
        os := (parser.run past).parseOs text
        device := (parser.run past).parseDevice text
        platform := (parser.run past).parsePlatform text
        manufacturer := (parser.run past).parseManufacturer text } := by
  refine ⟨?_, ?_, fun _ => rfl⟩
  · obtain ⟨new, made, same⟩ := (isFor.run past).exists_new
    obtain ⟨platform, manufacturer⟩ := parser.classifiers_run past
    rw [platform, manufacturer] at same
    refine ⟨new, made, fun call => ?_⟩
    rw [← same]
  · intro other cause failed later call
    rw [Parser.run_skip_failed (map_eq_error_iff.mp failed)]

/-- Rules for a user agent, and for a device with a flag. -/
def edition (family : String) (flag : Option String) : RuleTable :=
  ⟨[⟨some "abc", some family, none, none⟩], [], [⟨some "abc", flag, some family, none, none⟩]⟩

/-- New rules, and then some whose last category alone is at fault. -/
def editions : List Call :=
  [.ask .client "abc", .reload (edition "new" none), .platform "abc",
    .reload (edition "bad" (some "x"))]

/-- Neither category has the rules of the reload that failed. -/
theorem bad_edition_left_out :
    ∃ parser new, Parser.ofTable (edition "old" none) = .ok parser ∧
      Parser.ofTable (edition "new" none) = .ok new ∧
      (∀ call, (parser.run editions).reply call =
        ((new.withPlatform parser.platform).withManufacturer parser.manufacturer).reply call) ∧
      ((parser.run editions).parseUserAgent "abc").family = "new" ∧
      ((parser.run editions).parseDevice "abc").family = "new" := by
  have evaluated : (Parser.ofTable (edition "old" none)).toOption.any (fun parser =>
      parser.tableAfter (edition "old" none) editions == edition "new" none &&
        ((parser.run editions).parseUserAgent "abc").family == "new" &&
        ((parser.run editions).parseDevice "abc").family == "new") = true := by
    decide +kernel
  cases made : Parser.ofTable (edition "old" none) with
  | error cause => simp [made, Except.toOption] at evaluated
  | ok parser =>
      simp only [made, Except.toOption, Option.any_some, Bool.and_eq_true, beq_iff_eq] at evaluated
      obtain ⟨⟨inForce, userAgent⟩, device⟩ := evaluated
      obtain ⟨new, madeNew, same⟩ := (run_replies_as_new (Parser.isFor_of_ofTable made) editions).1
      rw [inForce] at madeNew
      exact ⟨parser, new, rfl, madeNew, same, userAgent, device⟩

end AgentClassifier
