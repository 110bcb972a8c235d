import AgentClassifier.Proofs.Matcher.Faults
import AgentClassifier.Proofs.Pattern.CaseFolding
import AgentClassifier.Proofs.Pattern.Search
import AgentClassifier.Proofs.PatternSet.Soundness
import AgentClassifier.Proofs.Template.Segments
import AgentClassifier.Rules.Bundled
import AgentClassifier.Rules.Reader

/-!
The bundled rules are what their text says, they compile, and they tell crawlers from all other
devices.

* `PatternSpec.LooksFor` : a pattern is a choice of words that match in either case; it is found,
  and tried before, where one of them stands in the text up to case.
* `RuleKind.answeredBy_cons_iff` : the first rule decides where no other rule makes its answer.
* `RuleTable.ofText_bundledText` : the bundled rules are read from their text.
* `RuleTable.bundled_builds` : every bundled rule builds.
* `crawlers_alone_are_spiders` : a text is answered with the device of crawlers exactly if a word
  for crawlers stands in it.
-/

namespace AgentClassifier

open Pattern

/-! ## Words in either case -/

/-- A word of lower-case letters stands in a text up to simple case folding. -/
def ContainsFolded (text word : String) : Prop := word.toList <:+: text.toList.map foldToAscii

/-- The expression of an engine that matches a regular one. -/
def Pattern.Engine.regular? : Engine → Option Regular
  | .regular expression => some expression
  | .machine _ => none

/-- An expression is a choice of words that match in either case. -/
def Pattern.Regular.IsChoiceOf (words : List String) (expression : Regular) : Prop :=
  expression.alternatives = words.map fun word => concat (caseless word.toList)

instance decidableIsChoiceOf (words : List String) :
    DecidablePred (Regular.IsChoiceOf words) :=
  fun _ => inferInstanceAs (Decidable (_ = _))

theorem Pattern.Regular.IsChoiceOf.exists_matches_iff {words : List String} {expression : Regular}
    (isChoice : expression.IsChoiceOf words)
    (lower : ∀ word ∈ words, ∀ c ∈ word.toList, IsLowerLetter c) (text : String) :
    (∃ start stop, start ≤ text.toList.toArray.size ∧
      expression.Matches text.toList.toArray start stop) ↔
        ∃ word ∈ words, ContainsFolded text word := by
  constructor
  · rintro ⟨start, stop, inside, here⟩
    obtain ⟨choice, isPart, here⟩ := matches_iff_alternatives.mp here
    rw [isChoice] at isPart
    obtain ⟨word, member, rfl⟩ := List.mem_map.mp isPart
    exact ⟨word, member,
      (exists_matches_caseless_iff (lower word member) text).mp ⟨start, stop, inside, here⟩⟩
  · rintro ⟨word, member, stands⟩
    obtain ⟨start, stop, inside, here⟩ :=
      (exists_matches_caseless_iff (lower word member) text).mpr stands
    refine ⟨start, stop, inside, matches_iff_alternatives.mpr ⟨_, ?_, here⟩⟩
    rw [isChoice]
    exact List.mem_map_of_mem member

namespace PatternSpec

variable {α : Type}

/-- A pattern that ignores case is a choice of words: as it is compiled, and as its literals are
taken from it. -/
structure LooksFor (spec : PatternSpec α) (words : List String) : Prop where
  lower : ∀ word ∈ words, ∀ c ∈ word.toList, IsLowerLetter c
  ignoresCase : spec.ignoreCase = true
  compiled : ∃ expression ∈
      (Engine.readWithin? Regular.seemsSmall (switched true spec.source.toList)).bind
        Engine.regular?,
    expression.HasAscendingSets ∧ expression.IsChoiceOf words
  bare : ∃ expression ∈ Regular.read? true spec.source.toList, expression.IsChoiceOf words

namespace LooksFor

variable {spec : PatternSpec α} {words : List String} {text : String}

/-- The pattern is found where one of the words stands. -/
theorem exists_finds_iff (looks : spec.LooksFor words) :
    (∃ captures, spec.Finds text captures) ↔ ∃ word ∈ words, ContainsFolded text word := by
  obtain ⟨lower, ignoresCase, ⟨expression, isRead, ascending, isChoice⟩, _⟩ := looks
  obtain ⟨engine, isEngine, isRegular⟩ := Option.bind_eq_some_iff.mp isRead
  obtain rfl : engine = .regular expression := by
    cases engine with
    | regular => cases isRegular; rfl
    | machine => cases isRegular
  have compiled : Pattern.compile? spec.source spec.ignoreCase =
      some ⟨spec.source, .regular expression⟩ := by
    rw [Pattern.compile?, compileWithin?, ignoresCase, isEngine, Option.map_some]
  rw [← isChoice.exists_matches_iff lower, ← Regular.isSome_search_iff ascending]
  simp only [Finds, compiled, Option.some.injEq, exists_eq_left', Pattern.search, Pattern.searchIn]
  cases expression.search? text.toList.toArray with
  | none => simp
  | some => simp

/-- Where one of the words stands, the literals let the pattern be tried. -/
theorem isTried (looks : spec.LooksFor words) (stands : ∃ word ∈ words, ContainsFolded text word) :
    PatternSet.isTried spec.literals text.toList = true := by
  obtain ⟨lower, ignoresCase, _, ⟨bare, isRead, isChoice⟩⟩ := looks
  rw [PatternSet.isTried_iff]
  by_cases empty : spec.literals = []
  · exact .inl empty
  · obtain ⟨_, other, isOther, begins⟩ := leadingLiterals_spec empty
    rw [ignoresCase] at isOther
    obtain rfl : bare = other := Option.some.inj (isRead.symm.trans isOther)
    obtain ⟨start, stop, _, here⟩ := (isChoice.exists_matches_iff lower text).mpr stands
    obtain ⟨literal, member, standsAt⟩ := begins _ start stop here
    exact .inr ⟨literal, member, occursIn_of_standsAt standsAt⟩

end LooksFor

end PatternSpec

/-! ## An answer of one rule only -/

namespace RuleKind

variable {ρ γ : Type} {kind : RuleKind ρ γ} {first : ρ} {others : List ρ} {text : String}
  {answer : γ}

/-- Where the first rule is tried whenever it applies, and always makes the same answer, which no
other rule makes, this is the answer for a text exactly if the rule applies. -/
theorem answeredBy_tried_cons_iff
    (tried : kind.Applies first text → kind.isTried first text = true)
    (own : ∀ captures family, kind.Resolves first text captures family →
      kind.fields first captures family = answer)
    (foreign : ∀ rule ∈ others, ∀ captures family, kind.fields rule captures family ≠ answer)
    (unknown : kind.other ≠ answer) :
    kind.AnsweredBy (kind.tried (first :: others) text) text answer ↔ kind.Applies first text := by
  constructor
  · intro answered
    by_contra inapplicable
    -- the answer is then made by another rule, or by none
    cases answered with
    | other => exact unknown rfl
    | @rule rule after captures family decides =>
        obtain ⟨⟨before, split, _⟩, resolves⟩ := decides
        have member : rule ∈ kind.tried (first :: others) text := by
          rw [split]
          exact List.mem_append_right before List.mem_cons_self
        rcases List.mem_cons.mp (List.mem_filter.mp member).1 with rfl | isOther
        · exact inapplicable ⟨captures, family, resolves⟩
        · exact foreign rule isOther captures family rfl
  · intro applies
    have kept : kind.tried (first :: others) text = first :: kind.tried others text :=
      List.filter_cons_of_pos (tried applies)
    obtain ⟨captures, family, resolves⟩ := applies
    rw [kept, ← own captures family resolves]
    exact .rule ⟨⟨[], rfl, nofun⟩, resolves⟩

end RuleKind

/-! ## The bundled rules are read -/

namespace RuleTable

open Yaml

/-- The lines are spelled with the characters. -/
inductive Spells : List (List Char) → List String → Prop
  | nil : Spells [] []
  | cons {chars : List Char} {line : String} {others : List (List Char)} {lines : List String}
      (spells : line = String.ofList chars) (rest : Spells others lines) :
      Spells (chars :: others) (line :: lines)

namespace Spells

variable {first second : List (List Char)} {lines more : List String}

theorem append (spells : Spells first lines) (others : Spells second more) :
    Spells (first ++ second) (lines ++ more) := by
  induction spells with
  | nil => exact others
  | cons spells _ ih => exact .cons spells ih

theorem textOfLines_eq (spells : Spells first lines) :
    textOfLines lines = String.ofList (first.flatMap (· ++ ['\n'])) := by
  refine congrArg String.ofList ?_
  induction spells with
  | nil => rfl
  | cons spells _ ih => rw [spells, List.flatMap_cons, List.flatMap_cons, ih, String.toList_ofList]

/-- A table is read from lines whose characters are scanned for the tokens of its document. -/
theorem ofText_textOfLines {chars : List (List Char)} {table : RuleTable}
    (spells : Spells chars lines)
    (printable : (chars.flatMap (· ++ ['\n'])).all isPrintable = true)
    (reads : (((Scan.start (chars.flatMap (· ++ ['\n']))).restWithin
      (' ' :: chars.flatMap (· ++ ['\n']))).bind fun scan =>
        (Document.ofTokens? scan.tokens.reverse).bind ofDocument?) = some table) :
    ofText (textOfLines lines) = .ok table := by
  obtain ⟨scan, scanned, reads⟩ := Option.bind_eq_some_iff.mp reads
  have tokens : Token.ofText? (textOfLines lines) = some scan.tokens.reverse := by
    rw [spells.textOfLines_eq, Token.ofText?, String.toList_ofList, if_pos printable, scanned,
      Option.map_some]
  have document : Document.ofText? (textOfLines lines) =
      Document.ofTokens? scan.tokens.reverse := by
    rw [Document.ofText?, tokens]
    rfl
  rw [ofText, document, reads]

end Spells

set_option maxRecDepth 100000 in
/-- The bundled rules are what is read from their text. -/
theorem ofText_bundledText : ofText bundledText = .ok bundled := by
  apply Spells.ofText_textOfLines
  · -- the characters of each line are found here; to evaluate them from the text would be slow
    repeat' apply Spells.append
    all_goals
      repeat (apply Spells.cons; rfl)
      exact .nil
  · decide +kernel
  · decide +kernel

end RuleTable

/-! ## The bundled rules compile -/

theorem Pattern.exists_compile_of_read {ignoreCase : Bool} {source : List Char}
    (reads : (Engine.readWithin? Regular.seemsSmall (switched ignoreCase source)).isSome = true) :
    ∃ pattern, compile? (String.ofList source) ignoreCase = some pattern := by
  rw [compile?, compileWithin?, String.toList_ofList, ← Option.isSome_iff_exists, Option.isSome_map]
  exact reads

/-- A rule builds if its pattern, taken apart into characters, can be read. -/
theorem RuleShape.Builds.of_read {ρ γ : Type} {shape : RuleShape ρ γ} {rule : ρ}
    {source : List Char} (flag : shape.FlagKnown rule)
    (regex : shape.regex rule = some (String.ofList source))
    (reads : (Engine.readWithin? Regular.seemsSmall
      (switched (shape.ignoresCase rule) source)).isSome = true) :
    shape.Builds rule where
  flag := flag
  compiles := by
    refine ⟨⟨String.ofList source, shape.ignoresCase rule, rule⟩, ?_, ?_⟩
    · rw [RuleKind.spec?, regex, Option.map_some]
    · exact exists_compile_of_read reads

namespace RuleTable

theorem bundledUserAgents_build :
    ∀ rule ∈ bundledUserAgents, UserAgentRule.shape.Builds rule := by
  simp only [bundledUserAgents, List.forall_mem_cons, List.not_mem_nil, false_imp_iff, implies_true,
    and_true]
  and_intros
  all_goals exact .of_read (.inl rfl) rfl (by decide +kernel)

/-- A source that is put together from two is taken apart in both. -/
theorem some_append_eq {first second : List Char} :
    some (String.ofList first ++ String.ofList second) = some (String.ofList (first ++ second)) :=
  congrArg some String.ofList_append.symm

theorem bundledSystems_build : ∀ rule ∈ bundledSystems, OsRule.shape.Builds rule := by
  simp only [bundledSystems, List.forall_mem_cons, List.not_mem_nil, false_imp_iff, implies_true,
    and_true]
  and_intros
  all_goals
    first
    | exact .of_read (.inl rfl) rfl (by decide +kernel)
    | exact .of_read (.inl rfl) some_append_eq (by decide +kernel)

theorem bundledDevices_build : ∀ rule ∈ bundledDevices, DeviceRule.shape.Builds rule := by
  simp only [bundledDevices, List.forall_mem_cons, List.not_mem_nil, false_imp_iff, implies_true,
    and_true]
  and_intros
  all_goals
    first
    | exact .of_read (by first | exact .inl rfl | exact .inr rfl) rfl (by decide +kernel)
    | exact .of_read (.inl rfl) some_append_eq (by decide +kernel)

theorem bundled_builds : bundled.Builds :=
  ⟨bundledUserAgents_build, bundledSystems_build, bundledDevices_build⟩

end RuleTable

/-! ## Crawlers -/

/-- The device is answered by the first rule that applies among those that are tried. -/
theorem answeredBy_device {table : RuleTable} {matchers : Matchers}
    (compiled : table.compile = .ok matchers) (text : String) :
    DeviceRule.kind.AnsweredBy (DeviceRule.kind.tried table.devices text) text
      (matchers.device text) := by
  obtain ⟨_, _, built⟩ := compile_eq_ok compiled
  rw [Matchers.device, DeviceRule.answer?_eq_kind]
  exact (follows_of_build (fun _ _ _ => DeviceRule.spec?_of_spec) built text).tried

/-- The bundled rule for crawlers. -/
def crawlerRule : DeviceRule :=
  ⟨some "(?:bot|spider|crawl|slurp)", some "i", some "Spider", some "Spider", some "Desktop"⟩

/-- The pattern of the rule for crawlers. -/
def crawlerSpec : PatternSpec DeviceRule := ⟨"(?:bot|spider|crawl|slurp)", true, crawlerRule⟩

/-- The bundled rules for other devices. -/
def handsetRules : List DeviceRule := RuleTable.bundledDevices.tail

theorem bundled_devices : RuleTable.bundled.devices = crawlerRule :: handsetRules := rfl

theorem spec?_crawlerRule : DeviceRule.kind.spec? crawlerRule = some crawlerSpec := rfl

theorem crawlerSpec_looksFor : crawlerSpec.LooksFor ["bot", "spider", "crawl", "slurp"] where
  lower := by
    have checked : (["bot", "spider", "crawl", "slurp"].all fun word =>
        word.toList.all fun c => decide (IsLowerLetter c)) = true := by decide +kernel
    simpa only [List.all_eq_true, decide_eq_true_eq] using checked
  ignoresCase := rfl
  compiled := by decide +kernel
  bare := by decide +kernel

theorem expand_crawler (captures : Captures) :
    Template.expand "Spider" captures = some "Spider" ∧
      Template.expand "Desktop" captures = some "Desktop" :=
  ⟨(Template.expand_of_plain (by decide)).mpr ⟨rfl, 'S', by decide, by decide⟩,
    (Template.expand_of_plain (by decide)).mpr ⟨rfl, 'D', by decide, by decide⟩⟩

/-- The rule applies wherever its pattern is found, as its family is no reference. -/
theorem applies_crawlerRule_iff {text : String} :
    DeviceRule.kind.Applies crawlerRule text ↔ ∃ captures, crawlerSpec.Finds text captures := by
  constructor
  · rintro ⟨captures, _, ⟨spec, isSpec, finds⟩, _⟩
    obtain rfl : crawlerSpec = spec := Option.some.inj (spec?_crawlerRule.symm.trans isSpec)
    exact ⟨captures, finds⟩
  · rintro ⟨captures, finds⟩
    exact ⟨captures, "Spider", ⟨crawlerSpec, spec?_crawlerRule, finds⟩, (expand_crawler captures).1⟩

theorem fields_crawlerRule {text family : String} {captures : Captures}
    (resolves : DeviceRule.kind.Resolves crawlerRule text captures family) :
    DeviceRule.kind.fields crawlerRule captures family =
      ⟨"Spider", some "Spider", some "Desktop"⟩ := by
  obtain ⟨spider, desktop⟩ := expand_crawler captures
  obtain rfl : "Spider" = family := Option.some.inj (spider.symm.trans resolves.family)
  simp only [DeviceRule.kind, crawlerRule, fieldOrGroup, Option.bind_some, spider, desktop]

/-- The brand of another device is a constant, and a different one. -/
theorem brand_of_mem_handsetRules : ∀ rule ∈ handsetRules,
    ∃ brand ∈ rule.brand, '$' ∉ brand.toList ∧ brand ≠ "Spider" := by
  decide +kernel

theorem fields_ne_of_mem_handsetRules {rule : DeviceRule} (member : rule ∈ handsetRules)
    (captures : Captures) (family : String) :
    DeviceRule.kind.fields rule captures family ≠
      ⟨"Spider", some "Spider", some "Desktop"⟩ := by
  obtain ⟨brand, isBrand, plain, foreign⟩ := brand_of_mem_handsetRules rule member
  intro same
  have expanded : rule.brand.bind (fun template => Template.expand template captures) =
      some "Spider" := congrArg Device.brand same
  rw [isBrand, Option.bind_some, Template.expand_of_plain plain] at expanded
  exact foreign expanded.1.symm

/-- The bundled rules compile. A text is then answered with the device of crawlers exactly if one of
the words for crawlers stands in it up to simple case folding, wherever that is and whatever else
the text says. -/
theorem crawlers_alone_are_spiders :
    ∃ parser, Parser.ofTable RuleTable.bundled = .ok parser ∧ ∀ text : String,
      parser.parseDevice text = ⟨"Spider", some "Spider", some "Desktop"⟩ ↔
        ∃ word ∈ ["bot", "spider", "crawl", "slurp"], ContainsFolded text word := by
  obtain ⟨matchers, compiled⟩ :=
    (RuleTable.bundled.compileBy_diagnoses PatternSet.inOrder_isFaithful).ok_iff.mpr
      RuleTable.bundled_builds
  obtain ⟨platform, manufacturer, ofTable⟩ := Parser.ofTable_eq_map
  refine ⟨⟨matchers, platform, manufacturer⟩, ?_, fun text => ?_⟩
  · rw [ofTable, RuleTable.compile, compiled]
    rfl
  · have answered := answeredBy_device compiled text
    rw [bundled_devices] at answered
    have tried (applies : DeviceRule.kind.Applies crawlerRule text) :
        DeviceRule.kind.isTried crawlerRule text = true := by
      rw [RuleKind.isTried, spec?_crawlerRule, Option.any_some]
      exact crawlerSpec_looksFor.isTried
        (crawlerSpec_looksFor.exists_finds_iff.mp (applies_crawlerRule_iff.mp applies))
    have unknown : Device.other ≠ ⟨"Spider", some "Spider", some "Desktop"⟩ := by decide
    rw [← crawlerSpec_looksFor.exists_finds_iff, ← applies_crawlerRule_iff,
      ← RuleKind.answeredBy_tried_cons_iff tried (fun _ _ => fields_crawlerRule)
        (fun _ => fields_ne_of_mem_handsetRules) unknown]
    constructor
    · intro same
      rw [← same]
      exact answered
    · intro crawler
      exact answered.unique crawler

/-- The long s stands for the letter that it is folded to. -/
example : ContainsFolded "iPhone \u017fPIDER\n" "spider" :=
  ⟨"iphone ".toList, "\n".toList, by decide +kernel⟩

end AgentClassifier
