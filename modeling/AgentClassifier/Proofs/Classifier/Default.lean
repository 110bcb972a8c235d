import AgentClassifier.Proofs.Classifier.Hints
import AgentClassifier.Proofs.Pattern.Search
import AgentClassifier.Proofs.Pattern.Words

/-!
What the default hints look for.

* `Contains`, `ContainsInLine` : a word in a text, and two words in one line of it.
* `Quest` : what a hint looks for; `Quest.exists_matches_iff` : the expression for it matches
  somewhere if it is there.
* `LooksFor` : a hint is read as a choice of such expressions; `LooksFor.occurs_iff` : it occurs if
  one of them is there.
* `default_classifiers_test_words` : the default classifiers in terms of words.
-/

namespace AgentClassifier

open Pattern Hint

/-! ## Words in a text -/

/-- The word stands somewhere in the text. -/
def Contains (text word : String) : Prop := word.toList <:+: text.toList

instance decidableContains (text word : String) : Decidable (Contains text word) :=
  inferInstanceAs (Decidable (word.toList <:+: text.toList))

/-- Both words stand in the text, the second one after the first and no line feed between them. -/
def ContainsInLine (text first second : String) : Prop :=
  ∃ gap, '\n' ∉ gap ∧ first.toList ++ gap ++ second.toList <:+: text.toList

/-- What a hint looks for. -/
inductive Quest
  | anywhere (word : String)
  | inLine (first second : String)

namespace Quest

/-- What is looked for is there. -/
def IsIn (text : String) : Quest → Prop
  | anywhere word => Contains text word
  | inLine first second => ContainsInLine text first second

/-- The expression that looks for it. -/
def expression : Quest → Regular
  | anywhere word => Regular.concat (Regular.letters word.toList)
  | inLine first second => Regular.concat (Regular.letters first.toList ++
      .repetition 0 none true (.set CharSet.notLineFeed) :: Regular.letters second.toList)

theorem matches_inLine_iff {text : Subject} {first second : String} {start stop : Nat} :
    (inLine first second).expression.Matches text start stop ↔
      ∃ gap, '\n' ∉ gap ∧ Between text (first.toList ++ gap ++ second.toList) start stop := by
  rw [expression, Regular.matches_concat, Regular.matchesAll_append]
  simp only [Regular.MatchesAll, Regular.matchesAll_letters, Regular.matches_star, between_append,
    CharSet.holds_notLineFeed_iff]
  constructor
  · rintro ⟨early, before, late, ⟨gap, other, between⟩, after⟩
    exact ⟨gap, fun member => other _ member rfl, late, ⟨early, before, between⟩, after⟩
  · rintro ⟨gap, other, late, ⟨early, before, between⟩, after⟩
    exact ⟨early, before, late, ⟨gap, fun c member same => other (same ▸ member), between⟩, after⟩

/-- The expression matches somewhere in a text if what it looks for is there. -/
theorem exists_matches_iff (quest : Quest) (text : String) :
    (∃ start stop, start ≤ text.toList.toArray.size ∧
      quest.expression.Matches text.toList.toArray start stop) ↔ quest.IsIn text := by
  cases quest with
  | anywhere word =>
      simp only [expression, Regular.matches_concat, Regular.matchesAll_letters]
      exact exists_between_iff
  | inLine first second =>
      simp only [matches_inLine_iff]
      constructor
      · rintro ⟨start, stop, inside, gap, other, between⟩
        exact ⟨gap, other, exists_between_iff.mp ⟨start, stop, inside, between⟩⟩
      · rintro ⟨gap, other, within⟩
        obtain ⟨start, stop, inside, between⟩ := exists_between_iff.mpr within
        exact ⟨start, stop, inside, gap, other, between⟩

end Quest

/-! ## Hints for words -/

/-- The hint is read as a choice of expressions that look for something. -/
def LooksFor (source : String) (quests : List Quest) : Prop :=
  ∃ expression, Engine.readWithin? Regular.seemsSmall source.toList = some (.regular expression) ∧
    expression.HasAscendingSets ∧ expression.alternatives = quests.map Quest.expression

instance decidableLooksFor (source : String) (quests : List Quest) :
    Decidable (LooksFor source quests) :=
  match isRead : Engine.readWithin? Regular.seemsSmall source.toList with
  | some (.regular expression) =>
      decidable_of_iff
        (expression.HasAscendingSets ∧ expression.alternatives = quests.map Quest.expression)
        ⟨fun looks => ⟨expression, isRead, looks⟩, fun ⟨other, isOther, looks⟩ => by
          cases isRead.symm.trans isOther
          exact looks⟩
  | some (.machine _) => isFalse fun ⟨_, isOther, _⟩ => nomatch isRead.symm.trans isOther
  | none => isFalse fun ⟨_, isOther, _⟩ => nomatch isRead.symm.trans isOther

namespace LooksFor

variable {source text : String} {quests : List Quest}

/-- A hint occurs in a text if something that it looks for is there. -/
theorem occurs_iff (looks : LooksFor source quests) :
    Occurs source text ↔ ∃ quest ∈ quests, quest.IsIn text := by
  obtain ⟨expression, isRead, ascending, choices⟩ := looks
  have compiled : Pattern.compile? source false = some ⟨source, .regular expression⟩ := by
    rw [Pattern.compile?, compileWithin?, switched, if_neg Bool.false_ne_true, isRead,
      Option.map_some]
  have searched : (⟨source, .regular expression⟩ : Pattern).occursIn text =
      (expression.search? text.toList.toArray).isSome := by
    cases found : expression.search? text.toList.toArray <;>
      simp [Pattern.occursIn, Pattern.search, Pattern.searchIn, found]
  rw [← occursIn_iff compiled, searched, Regular.isSome_search_iff ascending]
  simp only [← Quest.exists_matches_iff]
  constructor
  · rintro ⟨start, stop, inside, here⟩
    obtain ⟨choice, isChoice, here⟩ := Regular.matches_iff_alternatives.mp here
    rw [choices] at isChoice
    obtain ⟨quest, member, rfl⟩ := List.mem_map.mp isChoice
    exact ⟨quest, member, start, stop, inside, here⟩
  · rintro ⟨quest, member, start, stop, inside, here⟩
    refine ⟨start, stop, inside, Regular.matches_iff_alternatives.mpr ⟨_, ?_, here⟩⟩
    rw [choices]
    exact List.mem_map_of_mem member

theorem compiles (looks : LooksFor source quests) : Compiles source := by
  obtain ⟨expression, isRead, _⟩ := looks
  refine ⟨⟨source, .regular expression⟩, ?_⟩
  rw [Pattern.compile?, compileWithin?, switched, if_neg Bool.false_ne_true, isRead,
    Option.map_some]

end LooksFor

/-- One of the hints occurs if something that one of them looks for is there. -/
theorem anyOccurs_iff {sources : List String} {choices : List (List Quest)} {text : String}
    (look : List.Forall₂ LooksFor sources choices) :
    AnyOccurs sources text ↔ ∃ quests ∈ choices, ∃ quest ∈ quests, quest.IsIn text :=
  Traversal.exists_mem_congr_forall₂ look fun _ _ looks => looks.occurs_iff

theorem compile_of_look {sources : List String} {choices : List (List Quest)}
    (look : List.Forall₂ LooksFor sources choices) : ∀ source ∈ sources, Compiles source := by
  intro source member
  obtain ⟨quests, _, looks⟩ := Traversal.exists_mem_right_of_forall₂ look member
  exact looks.compiles

/-! ## The default hints -/

/-- The words that tell a mobile device. -/
def IsMobile (text : String) : Prop :=
  Contains text "iPhone" ∨ Contains text "iPod" ∨ ContainsInLine text "Android" "Mobile" ∨
    Contains text "Windows Phone" ∨ Contains text "IEMobile" ∨ Contains text "BlackBerry" ∨
    Contains text "BB10" ∨ Contains text "Opera Mini" ∨ ContainsInLine text "Silk" "Mobile"

/-- The words that tell a tablet, if none of a mobile device is there. -/
def IsTablet (text : String) : Prop :=
  Contains text "iPad" ∨ Contains text "Kindle" ∨ Contains text "Silk" ∨ Contains text "Android" ∨
    Contains text "Tablet"

/-- The manufacturer that the first words found tell. -/
def maker (text : String) : Manufacturer :=
  if Contains text "iOS" ∨ Contains text "OS X" ∨ Contains text "Macintosh" then ⟨"Apple"⟩
  else if Contains text "Android" then ⟨"Google"⟩
  else if Contains text "Windows" then ⟨"Microsoft"⟩
  else if Contains text "Linux" then ⟨"Linux"⟩
  else Manufacturer.other

theorem mobileSources_look : List.Forall₂ LooksFor PlatformHints.default.mobileSources
    [[.anywhere "iPhone"], [.anywhere "iPod"], [.inLine "Android" "Mobile"],
      [.anywhere "Windows Phone", .anywhere "IEMobile"], [.anywhere "BlackBerry", .anywhere "BB10"],
      [.anywhere "Opera Mini"], [.inLine "Silk" "Mobile"]] := by
  decide +kernel

theorem tabletSources_look : List.Forall₂ LooksFor PlatformHints.default.tabletSources
    [[.anywhere "iPad"], [.anywhere "Kindle", .anywhere "Silk"], [.anywhere "Android"],
      [.anywhere "Tablet"]] := by
  decide +kernel

/-- Every hint for a manufacturer is a word that it looks for. -/
theorem makerSources_look : ∀ source ∈ ManufacturerHints.default.sources,
    LooksFor source [.anywhere source] := by
  decide +kernel

theorem anyOccurs_words {sources : List String} {text : String}
    (among : sources ⊆ ManufacturerHints.default.sources) :
    AnyOccurs sources text ↔ ∃ source ∈ sources, Contains text source := by
  refine exists_congr fun source => and_congr_right fun member => ?_
  rw [(makerSources_look source (among member)).occurs_iff]
  simp [Quest.IsIn]

theorem anyOccurs_mobileSources_iff {text : String} :
    AnyOccurs PlatformHints.default.mobileSources text ↔ IsMobile text := by
  rw [anyOccurs_iff mobileSources_look]
  simp [Quest.IsIn, IsMobile, or_assoc]

theorem anyOccurs_tabletSources_iff {text : String} :
    AnyOccurs PlatformHints.default.tabletSources text ↔ IsTablet text := by
  rw [anyOccurs_iff tabletSources_look]
  simp [Quest.IsIn, IsTablet, or_assoc]

theorem namedBy_default_iff {text : String} {answer : Manufacturer} :
    NamedBy text ManufacturerHints.default answer ↔ maker text = answer := by
  have apple : AnyOccurs ["iOS", "OS X", "Macintosh"] text ↔
      Contains text "iOS" ∨ Contains text "OS X" ∨ Contains text "Macintosh" := by
    rw [anyOccurs_words (by decide)]
    simp
  have one (word : String) (among : word ∈ ManufacturerHints.default.sources) :
      AnyOccurs [word] text ↔ Contains text word := by
    rw [anyOccurs_words (List.cons_subset.mpr ⟨among, List.nil_subset _⟩)]
    simp
  have none : NamedBy text [] answer ↔ answer = Manufacturer.other :=
    ⟨fun named => by cases named; rfl, fun same => same ▸ .none⟩
  -- both are the same cascade of tests
  simp only [ManufacturerHints.default, ManufacturerClassifier.namedBy_cons_iff, none, apple,
    one "Android" (by decide), one "Windows" (by decide), one "Linux" (by decide), maker]
  split_ifs <;> exact eq_comm

/-- The default classifiers are built, and for every text they test which words stand in it: those
for a mobile device, some of them in pairs in one line; those for a tablet, where none for a mobile
device is; none of both for a desktop; and the first ones that are there for the manufacturer. -/
theorem default_classifiers_test_words :
    ∃ platform manufacturer,
      PlatformClassifier.build PlatformHints.default = .ok platform ∧
      ManufacturerClassifier.build ManufacturerHints.default = .ok manufacturer ∧
      ∀ text,
        (platform.classify text = .mobile ↔ IsMobile text) ∧
        (platform.classify text = .tablet ↔ ¬ IsMobile text ∧ IsTablet text) ∧
        (platform.classify text = .desktop ↔ ¬ IsMobile text ∧ ¬ IsTablet text) ∧
        manufacturer.classify text = maker text := by
  obtain ⟨platform, built⟩ := (PlatformClassifier.builtFrom .default).ok_iff.mpr
    (List.forall_mem_append.mpr
      ⟨compile_of_look mobileSources_look, compile_of_look tabletSources_look⟩)
  obtain ⟨manufacturer, builtToo⟩ := (ManufacturerClassifier.builtFrom .default).ok_iff.mpr
    fun source member => (makerSources_look source member).compiles
  refine ⟨platform, manufacturer, built, builtToo, fun text => ?_⟩
  have follows := PlatformClassifier.follows_of_build built
  have mobile := follows.mobile_iff text
  have tablet := follows.tablet_iff text
  have desktop := follows.desktop_iff text
  rw [anyOccurs_mobileSources_iff] at mobile tablet desktop
  rw [anyOccurs_tabletSources_iff] at tablet desktop
  refine ⟨mobile, tablet, desktop, ?_⟩
  rw [ManufacturerClassifier.classify_eq_iff builtToo, namedBy_default_iff]

-- a line feed in the gap leaves only the hint for a tablet
example : (PlatformClassifier.build .default).toOption.map
    (fun platform => platform.classify "Silk\nMobile") = some .tablet := by
  decide +kernel

end AgentClassifier
