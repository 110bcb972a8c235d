import AgentClassifier.Proofs.PatternSet.Candidates
import AgentClassifier.Proofs.Traversal

/-!
The search among the candidates of a set, compared with a scan of all its patterns.

* `PatternSpec.firstAnswer?` : the scan, which knows no literals: the first answer of a callback on
  the match of a pattern, in the order in which the patterns were given.
* `findMapBy?_of_build` : the search is the scan of the patterns that are tried.
* `search_eq_scan` : it is the scan of all patterns where a pattern that is found has a
  literal that occurs.
-/

namespace AgentClassifier

variable {α β : Type}

/-! ## Patterns on their own -/

namespace PatternSpec

/-- The literals that are looked for before the pattern is searched. -/
def literals (spec : PatternSpec α) : List (List Char) :=
  Pattern.leadingLiterals spec.source.toList spec.ignoreCase PatternSet.minLiteralBytes

/-- The pattern is found in a text, with captures. -/
def Finds (spec : PatternSpec α) (text : String) (captures : Captures) : Prop :=
  ∃ pattern, Pattern.compile? spec.source spec.ignoreCase = some pattern ∧
    pattern.search text = .found captures

/-- If the pattern has literals, then wherever it is found one of them occurs. -/
def LiteralsHold (spec : PatternSpec α) (text : String) : Prop :=
  spec.literals ≠ [] → (∃ captures, spec.Finds text captures) →
    ∃ literal ∈ spec.literals, PatternSet.OccursIn literal text.toList

/-- The answer of a callback on the match of the pattern. A search that was given up counts as no
match. -/
def answer? (spec : PatternSpec α) (callback : α → Captures → Option β) (text : String) :
    Option β :=
  match Pattern.compile? spec.source spec.ignoreCase with
  | some pattern =>
      match pattern.search text with
      | .found captures => callback spec.data captures
      | .absent | .exhausted => none
  | none => none

/-- The first answer of a callback on the match of a pattern. -/
def firstAnswer? (specs : List (PatternSpec α)) (callback : α → Captures → Option β)
    (text : String) : Option β :=
  specs.findSome? fun spec => spec.answer? callback text

theorem answer?_eq_some_iff {spec : PatternSpec α} {callback : α → Captures → Option β}
    {text : String} {answer : β} :
    spec.answer? callback text = some answer ↔
      ∃ captures, spec.Finds text captures ∧ callback spec.data captures = some answer := by
  unfold answer? Finds
  cases Pattern.compile? spec.source spec.ignoreCase with
  | none => simp
  | some pattern => cases outcome : pattern.search text <;> simp [outcome]

/-- A pattern is answered for only where its literals let it be tried. -/
theorem literalsHold_iff {spec : PatternSpec α} {text : String} :
    spec.LiteralsHold text ↔
      PatternSet.isTried spec.literals text.toList = true ∨
        spec.answer? (fun _ _ => some ()) text = none := by
  rw [PatternSet.isTried_iff, Option.eq_none_iff_forall_ne_some, LiteralsHold]
  simp only [ne_eq, answer?_eq_some_iff]
  constructor
  · intro hold
    by_cases empty : spec.literals = []
    · exact Or.inl (Or.inl empty)
    · by_cases found : ∃ captures, spec.Finds text captures
      · exact Or.inl (Or.inr (hold empty found))
      · refine Or.inr fun _ answered => found ?_
        obtain ⟨captures, finds, _⟩ := answered
        exact ⟨captures, finds⟩
  · rintro (tried | unanswered) nonempty ⟨captures, finds⟩
    · exact tried.resolve_left nonempty
    · exact absurd ⟨captures, finds, trivial⟩ (unanswered ())

end PatternSpec

/-! ## Compiled patterns -/

namespace PatternSet

theorem compileSpec_eq_ok {spec : PatternSpec α} {item : PatternEntry α × List (List Char)}
    (compiled : compileSpec spec = .ok item) :
    ∃ pattern, Pattern.compile? spec.source spec.ignoreCase = some pattern ∧
      item = (⟨pattern, spec.data⟩, spec.literals) := by
  unfold compileSpec at compiled
  cases found : Pattern.compile? spec.source spec.ignoreCase with
  | none => simp [found] at compiled
  | some pattern =>
      rw [found] at compiled
      cases compiled
      exact ⟨pattern, rfl, rfl⟩

theorem answer?_of_compileSpec {spec : PatternSpec α}
    {item : PatternEntry α × List (List Char)} (compiled : compileSpec spec = .ok item)
    (callback : α → Captures → Option β) (text : String) :
    answer? callback text.toList.toArray item.1 = spec.answer? callback text := by
  obtain ⟨pattern, found, rfl⟩ := compileSpec_eq_ok compiled
  unfold answer? PatternSpec.answer?
  rw [found]
  rfl

theorem findMapBy?_assemble {search : LiteralSearch} (exact : IsExact search)
    (compiled : List (PatternEntry α × List (List Char)))
    (callback : α → Captures → Option β) (text : String) :
    (assemble compiled).findMapBy? search callback text =
      compiled.findSome? fun item =>
        if isTried item.2 text.toList then answer? callback text.toList.toArray item.1
        else none := by
  rw [findMapBy?, candidates_assemble exact, assemble, List.zip_map', List.findSome?_map]
  rfl

/-- The search in a set that was built is the scan of the patterns whose literals let them be
tried. -/
theorem findMapBy?_of_build {search : LiteralSearch} (exact : IsExact search)
    {specs : List (PatternSpec α)} {set : PatternSet α} (built : build specs = .ok set)
    (callback : α → Captures → Option β) (text : String) :
    set.findMapBy? search callback text =
      specs.findSome? fun spec =>
        if isTried spec.literals text.toList then spec.answer? callback text else none := by
  unfold build buildBy at built
  cases traversed : inOrder _ _ compileSpec specs with
  | error cause => simp [traversed] at built
  | ok compiled =>
      rw [traversed] at built
      cases built
      rw [findMapBy?_assemble exact]
      refine (Traversal.findSome?_congr_forall₂ (Traversal.mapM_eq_ok_iff.mp traversed) ?_).symm
      intro spec item compiledSpec
      rw [answer?_of_compileSpec compiledSpec]
      obtain ⟨pattern, _, rfl⟩ := compileSpec_eq_ok compiledSpec
      rfl

/-! ## The search and the scan -/

/-- A pattern that its literals keep from being tried has no answer anyway. -/
theorem tried_answer?_eq {spec : PatternSpec α} {text : String} (hold : spec.LiteralsHold text)
    (callback : α → Captures → Option β) :
    (if isTried spec.literals text.toList then spec.answer? callback text else none) =
      spec.answer? callback text := by
  rcases PatternSpec.literalsHold_iff.mp hold with tried | unanswered
  · rw [if_pos tried]
  · have unanswered : spec.answer? callback text = none := by
      rw [Option.eq_none_iff_forall_ne_some] at unanswered ⊢
      intro answer answered
      obtain ⟨captures, finds, _⟩ := PatternSpec.answer?_eq_some_iff.mp answered
      exact unanswered () (PatternSpec.answer?_eq_some_iff.mpr ⟨captures, finds, rfl⟩)
    rw [unanswered, ite_self]

/-- The literals never change an answer: where a pattern that is found has a literal that occurs,
the search among the candidates gives the first answer among all patterns. -/
theorem search_eq_scan {search : LiteralSearch} (exact : IsExact search)
    {specs : List (PatternSpec α)} {set : PatternSet α} (built : build specs = .ok set)
    (callback : α → Captures → Option β) (text : String)
    (hold : ∀ spec ∈ specs, spec.LiteralsHold text) :
    set.findMapBy? search callback text = PatternSpec.firstAnswer? specs callback text := by
  rw [findMapBy?_of_build exact built, PatternSpec.firstAnswer?]
  refine Traversal.findSome?_congr_forall₂ (List.forall₂_same.mpr ?_) fun _ _ same => same
  intro spec member
  exact tried_answer?_eq (hold spec member) callback

/-- Patterns with several literals, with none, and with the literals of another one; the answer
`mobile` is rejected. -/
def overlapping : List (PatternSpec String) :=
  [⟨"Opera|Safari", false, "opera"⟩, ⟨"Chrom(?:e|ium)/", false, "mobile"⟩,
    ⟨"chrome", true, "chrome"⟩, ⟨".1", false, "one"⟩, ⟨"Chrome", false, "late"⟩]

/-- The pattern that ignores case answers, past one without a literal in the text and past one
whose match is rejected. -/
theorem search_overlapping :
    ∃ set, build overlapping = .ok set ∧
      (∀ spec ∈ overlapping, spec.LiteralsHold "A Chrome/1") ∧
      set.findMap? (fun data _ => if data = "mobile" then none else some data) "A Chrome/1" =
        some "chrome" := by
  have hold : ∀ spec ∈ overlapping, spec.LiteralsHold "A Chrome/1" := by
    intro spec member
    rw [PatternSpec.literalsHold_iff]
    revert spec
    decide +kernel
  cases built : build overlapping with
  | error cause =>
      have builds : (build overlapping).toOption.isSome = true := by decide +kernel
      simp [built, Except.toOption] at builds
  | ok set =>
      refine ⟨set, rfl, hold, ?_⟩
      rw [findMap?, search_eq_scan hits_isExact built _ _ hold]
      decide +kernel

end PatternSet

end AgentClassifier
