import AgentClassifier.Classifier
import AgentClassifier.Proofs.Labelled
import AgentClassifier.Proofs.Settles

/-!
What classifiers answer for their hints, and which hints they are built from.

* `Hint.Compiles`, `Hint.Occurs` : a hint is a pattern, and a search finds it.
* `Hint.FirstBroken` : the cause is the first hint that is no pattern.
* `Hint.settles_mapM` : what is built hint by hint succeeds exactly if all hints are patterns.
* `PlatformClassifier.Follows`, `NamedBy` : the answers in terms of the hints that occur.
* `exists_twin_of_rearranges`, `exists_twin_searched` : other hints that are answered for alike.
* `classifiers_follow_hints` : the classifiers, for all hints and texts.
-/

namespace AgentClassifier

open Traversal

/-! ## Hints -/

namespace Hint

/-- The hint is a pattern. -/
def Compiles (source : String) : Prop := ∃ pattern, Pattern.compile? source false = some pattern

/-- The hint is a pattern, and a search finds it in the text. -/
def Occurs (source text : String) : Prop :=
  ∃ pattern captures, Pattern.compile? source false = some pattern ∧
    pattern.search text = .found captures

/-- The hint is a pattern, but its search in the text is given up. -/
def isGivenUp (source text : String) : Bool :=
  match Pattern.compile? source false with
  | some pattern =>
      match pattern.search text with
      | .exhausted => true
      | .found _ | .absent => false
  | none => false

/-- The cause is the first hint that is no pattern. -/
inductive FirstBroken : List String → BuildError → Prop
  | here {source : String} {rest : List String} :
      ¬ Compiles source → FirstBroken (source :: rest) (.pattern source)
  | later {source : String} {rest : List String} {cause : BuildError} :
      Compiles source → FirstBroken rest cause → FirstBroken (source :: rest) cause

variable {source text : String} {sources others : List String}

theorem compileHint_eq_ok_iff {pattern : Pattern} :
    compileHint source = .ok pattern ↔ Pattern.compile? source false = some pattern := by
  unfold compileHint
  cases Pattern.compile? source false with
  | some other => rw [Except.ok.injEq, Option.some.injEq]
  | none => exact ⟨nofun, nofun⟩

theorem occursIn_iff {pattern : Pattern} (compiled : Pattern.compile? source false = some pattern) :
    pattern.occursIn text = true ↔ Occurs source text := by
  unfold Pattern.occursIn Occurs
  cases found : pattern.search text with
  | found captures => simp [compiled, found]
  | absent => simp [compiled, found]
  | exhausted => simp [compiled, found]

instance decidableOccurs (source text : String) : Decidable (Occurs source text) :=
  match compiled : Pattern.compile? source false with
  | some _ => decidable_of_iff _ (occursIn_iff compiled)
  | none => isFalse fun ⟨_, _, found, _⟩ => by simp [compiled] at found

theorem not_occurs_of_isGivenUp (givenUp : isGivenUp source text = true) :
    ¬ Occurs source text := by
  rintro ⟨pattern, captures, compiled, found⟩
  simp [isGivenUp, compiled, found] at givenUp

theorem firstBroken_append (cause : BuildError) :
    FirstBroken (sources ++ others) cause ↔
      FirstBroken sources cause ∨
        (∀ source ∈ sources, Compiles source) ∧ FirstBroken others cause := by
  induction sources with
  | nil =>
      constructor
      · intro broken
        exact .inr ⟨fun _ member => absurd member List.not_mem_nil, broken⟩
      · rintro (impossible | ⟨_, broken⟩)
        · cases impossible
        · exact broken
  | cons source rest ih =>
      rw [List.forall_mem_cons]
      constructor
      · intro broken
        cases broken with
        | here broken => exact .inl (.here broken)
        | later compiles broken =>
            rcases ih.mp broken with broken | ⟨compile, broken⟩
            · exact .inl (.later compiles broken)
            · exact .inr ⟨⟨compiles, compile⟩, broken⟩
      · rintro (broken | ⟨⟨compiles, compile⟩, broken⟩)
        · cases broken with
          | here broken => exact .here broken
          | later compiles broken => exact .later compiles (ih.mpr (.inl broken))
        · exact .later compiles (ih.mpr (.inr ⟨compile, broken⟩))

/-! ## Building hint by hint -/

/-- What is built from hints succeeds if they are patterns, and fails with the first one that is
not. -/
def BuiltFrom {γ : Type} (outcome : Except BuildError γ) (sources : List String) : Prop :=
  Settles outcome (∀ source ∈ sources, Compiles source) (FirstBroken sources)

variable {α γ δ : Type}

theorem BuiltFrom.nil (result : γ) : BuiltFrom (.ok result) [] :=
  .ok (fun _ member => absurd member List.not_mem_nil) fun _ broken => nomatch broken

theorem BuiltFrom.one (source : String) : BuiltFrom (compileHint source) [source] := by
  unfold BuiltFrom compileHint
  rw [List.forall_mem_singleton]
  cases compiled : Pattern.compile? source false with
  | some pattern =>
      refine .ok ⟨pattern, compiled⟩ fun cause broken => ?_
      cases broken with
      | here broken => exact broken ⟨pattern, compiled⟩
      | later _ impossible => cases impossible
  | none =>
      have broken : ¬ Compiles source := fun ⟨_, done⟩ => by simp [compiled] at done
      refine .error broken fun cause => ⟨fun first => ?_, fun same => same ▸ .here broken⟩
      cases first with
      | here _ => rfl
      | later compiles _ => exact absurd compiles broken

theorem BuiltFrom.map {outcome : Except BuildError γ} (built : BuiltFrom outcome sources)
    (f : γ → δ) : BuiltFrom (outcome.map f) sources :=
  Settles.map built f

theorem BuiltFrom.bind {outcome : Except BuildError γ} {next : γ → Except BuildError δ}
    (built : BuiltFrom outcome sources) (builtNext : ∀ result, BuiltFrom (next result) others) :
    BuiltFrom (outcome >>= next) (sources ++ others) :=
  (Settles.bind built builtNext).congr List.forall_mem_append.symm
    fun cause => (firstBroken_append cause).symm

/-- A traversal takes the hints of each element after those of the elements before it. -/
theorem BuiltFrom.mapM {step : α → Except BuildError γ} (hintsOf : α → List String)
    (built : ∀ x, BuiltFrom (step x) (hintsOf x)) (xs : List α) :
    BuiltFrom (xs.mapM step) (xs.flatMap hintsOf) := by
  induction xs with
  | nil => exact .nil []
  | cons x rest ih =>
      -- putting the results together compiles nothing more
      rw [List.mapM_cons, List.flatMap_cons, ← List.append_nil (rest.flatMap hintsOf)]
      exact (built x).bind fun _ => ih.bind fun _ => .nil _

/-- One of the hints occurs in the text. -/
def AnyOccurs (sources : List String) (text : String) : Prop :=
  ∃ source ∈ sources, Occurs source text

instance decidableAnyOccurs (sources : List String) (text : String) :
    Decidable (AnyOccurs sources text) :=
  inferInstanceAs (Decidable (∃ source ∈ sources, Occurs source text))

theorem anyOccurs_congr (same : ∀ source, source ∈ sources ↔ source ∈ others) :
    AnyOccurs sources text ↔ AnyOccurs others text :=
  exists_congr fun source => and_congr_left fun _ => same source

/-- The hints whose search in the text is not given up. -/
def searched (text : String) (sources : List String) : List String :=
  sources.filter fun source => !isGivenUp source text

theorem anyOccurs_searched : AnyOccurs (searched text sources) text ↔ AnyOccurs sources text := by
  -- a hint that occurs was answered for, so it is not left out
  refine exists_congr fun source => and_congr_left fun occurs => ?_
  have answered : isGivenUp source text = false :=
    Bool.eq_false_iff.mpr fun givenUp => not_occurs_of_isGivenUp givenUp occurs
  simp [searched, answered]

end Hint

open Hint

/-! ## Platforms -/

namespace PlatformHints

def mobileSources (hints : PlatformHints) : List String := hints.mobile.map Prod.snd

def tabletSources (hints : PlatformHints) : List String := hints.tablet.map Prod.snd

/-- All hints, those for mobile devices first. -/
def sources (hints : PlatformHints) : List String := hints.mobileSources ++ hints.tabletSources

/-- The same hints stand in both lists, in whatever order, under whatever labels and however
often. -/
structure Rearranges (twin hints : PlatformHints) : Prop where
  mobile : ∀ source, source ∈ twin.mobileSources ↔ source ∈ hints.mobileSources
  tablet : ∀ source, source ∈ twin.tabletSources ↔ source ∈ hints.tabletSources

/-- The hints whose search in the text is not given up. -/
def searched (text : String) (hints : PlatformHints) : PlatformHints where
  mobile := hints.mobile.filter fun hint => !isGivenUp hint.2 text
  tablet := hints.tablet.filter fun hint => !isGivenUp hint.2 text

theorem mobileSources_searched (hints : PlatformHints) (text : String) :
    (hints.searched text).mobileSources = Hint.searched text hints.mobileSources := by
  rw [mobileSources, Hint.searched, mobileSources, List.filter_map]
  rfl

theorem tabletSources_searched (hints : PlatformHints) (text : String) :
    (hints.searched text).tabletSources = Hint.searched text hints.tabletSources := by
  rw [tabletSources, Hint.searched, tabletSources, List.filter_map]
  rfl

end PlatformHints

namespace PlatformClassifier

variable {hints twin : PlatformHints} {classifier other : PlatformClassifier} {text : String}

/-- The answers follow from the hints that occur in the text. -/
structure Follows (classifier : PlatformClassifier) (hints : PlatformHints) : Prop where
  mobile_iff : ∀ text, classifier.classify text = .mobile ↔ AnyOccurs hints.mobileSources text
  tablet_iff : ∀ text, classifier.classify text = .tablet ↔
    ¬ AnyOccurs hints.mobileSources text ∧ AnyOccurs hints.tabletSources text
  desktop_iff : ∀ text, classifier.classify text = .desktop ↔
    ¬ AnyOccurs hints.mobileSources text ∧ ¬ AnyOccurs hints.tabletSources text

theorem builtFrom_compileLabelled (hints : Labelled String) :
    BuiltFrom (compileLabelled hints) (hints.map Prod.snd) := by
  rw [List.map_eq_flatMap]
  exact .mapM (fun hint => [hint.2]) (fun hint => (BuiltFrom.one hint.2).map _) hints

theorem builtFrom (hints : PlatformHints) : BuiltFrom (build hints) hints.sources := by
  rw [PlatformHints.sources, ← List.append_nil hints.tabletSources]
  exact (builtFrom_compileLabelled hints.mobile).bind fun _ =>
    (builtFrom_compileLabelled hints.tablet).bind fun _ => .nil _

theorem isSome_firstHit?_iff {hints : Labelled String} {compiled : Labelled Pattern}
    (done : compileLabelled hints = .ok compiled) :
    (firstHit? compiled text).isSome = true ↔ AnyOccurs (hints.map Prod.snd) text := by
  have related : List.Forall₂ (fun source entry => Pattern.compile? source false = some entry.2)
      (hints.map Prod.snd) compiled := by
    refine List.forall₂_map_left_iff.mpr ((mapM_eq_ok_iff.mp done).imp ?_)
    rintro ⟨label, source⟩ entry made
    obtain ⟨pattern, compiled, rfl⟩ := map_eq_ok_iff.mp made
    exact compileHint_eq_ok_iff.mp compiled
  rw [firstHit?, Option.isSome_map, List.find?_isSome]
  exact (exists_mem_congr_forall₂ related fun _ _ same => (occursIn_iff same).symm).symm

theorem classify_of_build (built : build hints = .ok classifier) (text : String) :
    classifier.classify text =
      if AnyOccurs hints.mobileSources text then .mobile
      else if AnyOccurs hints.tabletSources text then .tablet
      else .desktop := by
  obtain ⟨mobile, mobileDone, built⟩ := bind_eq_ok_iff.mp built
  obtain ⟨tablet, tabletDone, built⟩ := bind_eq_ok_iff.mp built
  cases built
  exact if_congr (isSome_firstHit?_iff mobileDone) rfl
    (if_congr (isSome_firstHit?_iff tabletDone) rfl rfl)

theorem follows_of_build (built : build hints = .ok classifier) : classifier.Follows hints where
  mobile_iff text := by
    rw [classify_of_build built]
    split_ifs with mobile tablet <;> simp [mobile]
  tablet_iff text := by
    rw [classify_of_build built]
    split_ifs with mobile tablet <;> simp [mobile, tablet]
  desktop_iff text := by
    rw [classify_of_build built]
    split_ifs with mobile tablet <;> simp [mobile, tablet]

theorem classify_congr (built : build hints = .ok classifier) (builtTwin : build twin = .ok other)
    (mobile : AnyOccurs twin.mobileSources text ↔ AnyOccurs hints.mobileSources text)
    (tablet : AnyOccurs twin.tabletSources text ↔ AnyOccurs hints.tabletSources text) :
    other.classify text = classifier.classify text := by
  rw [classify_of_build built, classify_of_build builtTwin]
  exact if_congr mobile rfl (if_congr tablet rfl rfl)

/-- If all hints of a classifier are patterns, then others are that are among them. -/
theorem exists_build_of_subset (built : build hints = .ok classifier)
    (mobile : twin.mobileSources ⊆ hints.mobileSources)
    (tablet : twin.tabletSources ⊆ hints.tabletSources) : ∃ other, build twin = .ok other := by
  have compile := List.forall_mem_append.mp ((builtFrom hints).ok_iff.mp ⟨classifier, built⟩)
  exact (builtFrom twin).ok_iff.mpr (List.forall_mem_append.mpr
    ⟨fun source member => compile.1 source (mobile member),
      fun source member => compile.2 source (tablet member)⟩)

theorem exists_twin_of_rearranges (built : build hints = .ok classifier)
    (rearranges : twin.Rearranges hints) :
    ∃ other, build twin = .ok other ∧ other.classify = classifier.classify := by
  obtain ⟨other, builtTwin⟩ := exists_build_of_subset built
    (fun source => (rearranges.mobile source).mp) fun source => (rearranges.tablet source).mp
  refine ⟨other, builtTwin, funext fun text => ?_⟩
  exact classify_congr built builtTwin (anyOccurs_congr rearranges.mobile)
    (anyOccurs_congr rearranges.tablet)

/-- Hints whose search is given up might as well not be there. -/
theorem exists_twin_searched (built : build hints = .ok classifier) (text : String) :
    ∃ other, build (hints.searched text) = .ok other ∧
      other.classify text = classifier.classify text := by
  have mobile := hints.mobileSources_searched text
  have tablet := hints.tabletSources_searched text
  obtain ⟨other, builtTwin⟩ : ∃ other, build (hints.searched text) = .ok other :=
    exists_build_of_subset built (mobile ▸ List.filter_subset_self _)
      (tablet ▸ List.filter_subset_self _)
  refine ⟨other, builtTwin, classify_congr built builtTwin ?_ ?_⟩
  · rw [mobile, anyOccurs_searched]
  · rw [tablet, anyOccurs_searched]

end PlatformClassifier

/-! ## Manufacturers -/

namespace ManufacturerHints

/-- All hints, by name and then by their order under the name. -/
def sources (hints : ManufacturerHints) : List String := hints.flatMap Prod.snd

/-- The names stand in the same order, each with the same hints in whatever order. -/
def Rearranges (twin hints : ManufacturerHints) : Prop :=
  List.Forall₂ (fun entry original => entry.1 = original.1 ∧ entry.2.Perm original.2) twin hints

/-- The hints whose search in the text is not given up, under the same names. -/
def searched (text : String) (hints : ManufacturerHints) : ManufacturerHints :=
  hints.map fun entry => (entry.1, Hint.searched text entry.2)

end ManufacturerHints

/-- The answer is the first name with a hint that occurs in the text, or that no name has one. -/
inductive NamedBy (text : String) : ManufacturerHints → Manufacturer → Prop
  | none : NamedBy text [] Manufacturer.other
  | here {name : String} {sources : List String} {rest : ManufacturerHints} :
      AnyOccurs sources text → NamedBy text ((name, sources) :: rest) ⟨name⟩
  | later {name : String} {sources : List String} {rest : ManufacturerHints}
      {answer : Manufacturer} :
      ¬ AnyOccurs sources text → NamedBy text rest answer →
        NamedBy text ((name, sources) :: rest) answer

namespace ManufacturerClassifier

variable {hints twin : ManufacturerHints} {classifier other : ManufacturerClassifier}
  {text : String} {answer : Manufacturer}

theorem builtFrom (hints : ManufacturerHints) : BuiltFrom (build hints) hints.sources := by
  have each (entry : String × List String) : BuiltFrom
      ((entry.2.mapM compileHint).map fun patterns => (entry.1, patterns)) entry.2 := by
    have under := BuiltFrom.mapM (fun source => [source]) BuiltFrom.one entry.2
    rw [List.flatMap_singleton'] at under
    exact under.map _
  rw [← List.append_nil hints.sources]
  exact (BuiltFrom.mapM Prod.snd each hints).bind fun _ => .nil _

/-- The first entry decides if one of its hints occurs, and is passed over otherwise. -/
theorem namedBy_cons_iff {name : String} {sources : List String} :
    NamedBy text ((name, sources) :: hints) answer ↔
      if AnyOccurs sources text then answer = ⟨name⟩ else NamedBy text hints answer := by
  constructor
  · intro named
    cases named with
    | here occurs => rw [if_pos occurs]
    | later absent named => rwa [if_neg absent]
  · split
    · next occurs =>
        rintro rfl
        exact .here occurs
    · next absent => exact .later absent

theorem namedBy_iff_of_forall₂ {compiled : Labelled (List Pattern)}
    (related : List.Forall₂ (fun hint entry => hint.1 = entry.1 ∧
      ((entry.2.any fun pattern => pattern.occursIn text) = true ↔ AnyOccurs hint.2 text))
      hints compiled) :
    classify ⟨compiled⟩ text = answer ↔ NamedBy text hints answer := by
  induction related with
  | nil =>
      constructor
      · rintro rfl
        exact .none
      · intro named
        cases named
        rfl
  | @cons hint entry hints compiled first _ ih =>
      obtain ⟨name, sources⟩ := hint
      obtain ⟨rfl, decides⟩ := first
      -- the first entry decides for both, or both look at the others
      rw [namedBy_cons_iff, ← ih, classify, classify, List.find?_cons]
      cases occurs : entry.2.any fun pattern => pattern.occursIn text with
      | true => rw [if_pos (decides.mp occurs), eq_comm]
      | false => rw [if_neg fun found => by simp [decides.mpr found] at occurs]

theorem any_occursIn_iff {sources : List String} {patterns : List Pattern}
    (done : sources.mapM compileHint = .ok patterns) :
    (patterns.any fun pattern => pattern.occursIn text) = true ↔ AnyOccurs sources text := by
  rw [List.any_eq_true]
  refine (exists_mem_congr_forall₂ (mapM_eq_ok_iff.mp done) fun source pattern compiled => ?_).symm
  exact (occursIn_iff (compileHint_eq_ok_iff.mp compiled)).symm

theorem classify_eq_iff (built : build hints = .ok classifier) (text : String)
    (answer : Manufacturer) : classifier.classify text = answer ↔ NamedBy text hints answer := by
  obtain ⟨compiled, done, built⟩ := bind_eq_ok_iff.mp built
  cases built
  refine namedBy_iff_of_forall₂ ((mapM_eq_ok_iff.mp done).imp ?_)
  rintro ⟨name, sources⟩ entry made
  obtain ⟨patterns, compiled, rfl⟩ := map_eq_ok_iff.mp made
  exact ⟨rfl, any_occursIn_iff compiled⟩

theorem namedBy_congr (related : List.Forall₂ (fun entry original => entry.1 = original.1 ∧
      (AnyOccurs entry.2 text ↔ AnyOccurs original.2 text)) twin hints) :
    NamedBy text twin answer ↔ NamedBy text hints answer := by
  induction related with
  | nil => rfl
  | @cons entry original twin hints first _ ih =>
      obtain ⟨name, sources⟩ := entry
      obtain ⟨rfl, same⟩ := first
      rw [namedBy_cons_iff, ← Prod.mk.eta (p := original), namedBy_cons_iff, ih]
      simp only [same]

/-- Other hints with the same names build a classifier that answers alike, if they are among the
hints and as many of them occur. -/
theorem exists_twin (built : build hints = .ok classifier)
    (subset : twin.sources ⊆ hints.sources) :
    ∃ other, build twin = .ok other ∧ ∀ text,
      List.Forall₂ (fun entry original => entry.1 = original.1 ∧
        (AnyOccurs entry.2 text ↔ AnyOccurs original.2 text)) twin hints →
      other.classify text = classifier.classify text := by
  have compile := (builtFrom hints).ok_iff.mp ⟨classifier, built⟩
  obtain ⟨other, builtTwin⟩ := (builtFrom twin).ok_iff.mpr
    fun source member => compile source (subset member)
  refine ⟨other, builtTwin, fun text related => ?_⟩
  rw [classify_eq_iff builtTwin, namedBy_congr related, ← classify_eq_iff built]

theorem exists_twin_of_rearranges (built : build hints = .ok classifier)
    (rearranges : ManufacturerHints.Rearranges twin hints) :
    ∃ other, build twin = .ok other ∧ other.classify = classifier.classify := by
  have subset : twin.sources ⊆ hints.sources := by
    intro source member
    obtain ⟨entry, place, under⟩ := List.mem_flatMap.mp member
    obtain ⟨original, place, _, perm⟩ := exists_mem_right_of_forall₂ rearranges place
    exact List.mem_flatMap.mpr ⟨original, place, perm.mem_iff.mp under⟩
  obtain ⟨other, builtTwin, alike⟩ := exists_twin built subset
  refine ⟨other, builtTwin, funext fun text => alike text (rearranges.imp ?_)⟩
  rintro entry original ⟨same, perm⟩
  exact ⟨same, anyOccurs_congr fun _ => perm.mem_iff⟩

/-- Hints whose search is given up might as well not be there. -/
theorem exists_twin_searched (built : build hints = .ok classifier) (text : String) :
    ∃ other, build (hints.searched text) = .ok other ∧
      other.classify text = classifier.classify text := by
  have subset : (hints.searched text).sources ⊆ hints.sources := by
    intro source member
    obtain ⟨_, inTwin, under⟩ := List.mem_flatMap.mp member
    obtain ⟨entry, place, rfl⟩ := List.mem_map.mp inTwin
    exact List.mem_flatMap.mpr ⟨entry, place, List.mem_of_mem_filter under⟩
  obtain ⟨other, builtTwin, alike⟩ := exists_twin built subset
  refine ⟨other, builtTwin, alike text ?_⟩
  rw [ManufacturerHints.searched, List.forall₂_map_left_iff, List.forall₂_same]
  exact fun entry _ => ⟨rfl, anyOccurs_searched⟩

end ManufacturerClassifier

/-! ## Both classifiers -/

/-- The classifiers are built exactly from hints that are all patterns, and the error names the
first one that is not. A text is from a mobile device if a mobile hint occurs in it, else from a
tablet if a tablet hint does, else from a desktop, whatever the order, the labels and the number of
the hints; its manufacturer is the first one with a hint that occurs, whatever the order of the hints
under a name. A hint whose search is given up counts as one that is not there. Hints that are put
under labels one by one stand under each label once, at the place of the first with the value of the
last. -/
theorem classifiers_follow_hints (platforms : PlatformHints) (manufacturers : ManufacturerHints) :
    BuiltFrom (PlatformClassifier.build platforms) platforms.sources ∧
    BuiltFrom (ManufacturerClassifier.build manufacturers) manufacturers.sources ∧
    (∀ classifier, PlatformClassifier.build platforms = .ok classifier →
      classifier.Follows platforms ∧
      (∀ twin : PlatformHints, twin.Rearranges platforms →
        ∃ other, PlatformClassifier.build twin = .ok other ∧
          other.classify = classifier.classify) ∧
      ∀ text, ∃ other, PlatformClassifier.build (platforms.searched text) = .ok other ∧
        other.classify text = classifier.classify text) ∧
    (∀ classifier, ManufacturerClassifier.build manufacturers = .ok classifier →
      (∀ text answer, classifier.classify text = answer ↔ NamedBy text manufacturers answer) ∧
      (∀ twin : ManufacturerHints, twin.Rearranges manufacturers →
        ∃ other, ManufacturerClassifier.build twin = .ok other ∧
          other.classify = classifier.classify) ∧
      ∀ text, ∃ other, ManufacturerClassifier.build (manufacturers.searched text) = .ok other ∧
        other.classify text = classifier.classify text) ∧
    ∀ (α : Type) (pairs : List (String × α)), Labelled.ofPairs pairs = Labelled.settled pairs := by
  refine ⟨PlatformClassifier.builtFrom platforms, ManufacturerClassifier.builtFrom manufacturers,
    fun classifier built => ?_, fun classifier built => ?_, fun _ => Labelled.ofPairs_eq⟩
  · exact ⟨PlatformClassifier.follows_of_build built,
      fun _ => PlatformClassifier.exists_twin_of_rearranges built,
      PlatformClassifier.exists_twin_searched built⟩
  · exact ⟨ManufacturerClassifier.classify_eq_iff built,
      fun _ => ManufacturerClassifier.exists_twin_of_rearranges built,
      ManufacturerClassifier.exists_twin_searched built⟩

/-- Two hints for mobile devices, and one for tablets. -/
def tiers : PlatformHints := ⟨[("m", "Phone$"), ("n", "Call")], [("t", "^Tab")]⟩

/-- The same hints in another order, under other labels, and one of them twice. -/
def tiersAgain : PlatformHints :=
  ⟨[("x", "Call"), ("y", "Phone$"), ("z", "Call")], [("t", "^Tab")]⟩

/-- The second manufacturer has a hint that the first one has too. -/
def makers : ManufacturerHints := [("Zeta", ["Nope", "Linux"]), ("Alpha", ["Linux"])]

/-- The first manufacturer has its hints in another order. -/
def makersAgain : ManufacturerHints := [("Zeta", ["Linux", "Nope"]), ("Alpha", ["Linux"])]

/-- A mobile hint decides before a tablet hint that occurs earlier, and the first of two
manufacturers is named. -/
theorem tiers_and_makers_rearranged :
    (∃ classifier twin, PlatformClassifier.build tiers = .ok classifier ∧
      PlatformClassifier.build tiersAgain = .ok twin ∧
      classifier.classify "Tab Phone" = .mobile ∧ twin.classify "Tab Phone" = .mobile ∧
      classifier.classify "Tab" = .tablet) ∧
    ∃ classifier twin, ManufacturerClassifier.build makers = .ok classifier ∧
      ManufacturerClassifier.build makersAgain = .ok twin ∧
      classifier.classify "X11; Linux" = ⟨"Zeta"⟩ ∧ twin.classify "X11; Linux" = ⟨"Zeta"⟩ := by
  obtain ⟨_, _, platforms, manufacturers, _⟩ := classifiers_follow_hints tiers makers
  constructor
  · have evaluated : (PlatformClassifier.build tiers).isOk = true := by decide +kernel
    cases built : PlatformClassifier.build tiers with
    | error cause => simp [built, Except.isOk, Except.toBool] at evaluated
    | ok classifier =>
        obtain ⟨follows, twins, _⟩ := platforms classifier built
        obtain ⟨twin, builtTwin, same⟩ := twins tiersAgain
          ⟨fun source => by simp [tiers, tiersAgain, PlatformHints.mobileSources, or_comm],
            fun source => Iff.rfl⟩
        have mobile := (follows.mobile_iff "Tab Phone").mpr (by decide +kernel)
        have tablet := (follows.tablet_iff "Tab").mpr (by decide +kernel)
        exact ⟨classifier, twin, rfl, builtTwin, mobile, same ▸ mobile, tablet⟩
  · have evaluated : (ManufacturerClassifier.build makers).isOk = true := by decide +kernel
    cases built : ManufacturerClassifier.build makers with
    | error cause => simp [built, Except.isOk, Except.toBool] at evaluated
    | ok classifier =>
        obtain ⟨follows, twins, _⟩ := manufacturers classifier built
        obtain ⟨twin, builtTwin, same⟩ := twins makersAgain
          (.cons ⟨rfl, .swap ..⟩ (.cons ⟨rfl, .refl _⟩ .nil))
        have named := (follows "X11; Linux" ⟨"Zeta"⟩).mpr (.here (by decide +kernel))
        exact ⟨classifier, twin, rfl, builtTwin, named, same ▸ named⟩

end AgentClassifier
