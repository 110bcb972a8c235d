import AgentClassifier.Proofs.Pattern.Assembly
import AgentClassifier.Proofs.Pattern.Beginnings
import AgentClassifier.Proofs.Pattern.Numbering
import AgentClassifier.Proofs.Pattern.Shared.Extended
import AgentClassifier.Proofs.Pattern.Shared.Refines
import AgentClassifier.Proofs.PatternSet.Candidates

/-!
Whether the literals of a pattern stand in every text that the pattern is found in.

* `Pattern.matches_of_search` : a pattern is found only where its bare expression matches.
* `ReadAlike` : the bare expression matches only what the text of the pattern stands for in regular
  notation, which the literals are taken from.
* `Pattern.Shared.readAlike` : the notation of a shared tree is read alike.
* `leadingLiterals_sound` : the literals are long enough, and one of them occurs wherever the
  regular reading matches; for a pattern that is read alike, wherever the pattern is found.
-/

namespace AgentClassifier

open Pattern PatternSet

variable {admits : Regular → Bool} {source : String} {ignoreCase : Bool} {pattern : Pattern}
  {text : String}

/-! ## Searches -/

/-- A pattern is found only where its bare expression matches. -/
theorem Pattern.matches_of_search {expression : Extended} {referenced : List Nat}
    {bare : Regular} {captures : Captures}
    (compiled : Pattern.compileWithin? admits source ignoreCase = some pattern)
    (read : Extended.read? (switched ignoreCase source.toList) = some (expression, referenced))
    (isBare : expression.bare? = some bare) (found : pattern.search text = .found captures) :
    ∃ start stop, bare.Matches text.toList.toArray start stop := by
  obtain ⟨engine, isEngine, rfl⟩ := Option.map_eq_some_iff.mp compiled
  rw [Engine.readWithin?, read] at isEngine
  dsimp only [Engine.ofExtended?] at isEngine
  rw [search, searchIn] at found
  split at isEngine
  · cases isEngine
  · split at isEngine
    · obtain ⟨program, built, rfl⟩ := Option.map_eq_some_iff.mp isEngine
      dsimp only at found
      cases outcome : Machine.search program text.toList.toArray with
      | absent | exhausted =>
          rw [outcome] at found
          cases found
      | found memory =>
          exact Extended.matches_of_search isBare (Extended.wellFormed_of_read read isBare) built
            outcome
    · split at isEngine
      · next regular isRegular =>
          split at isEngine
          · obtain rfl := Option.some.inj isEngine
            obtain rfl := Option.some.inj
              ((Extended.bare_of_toRegular expression isRegular).symm.trans isBare)
            dsimp only at found
            split at found
            · next start reach isFound =>
                exact ⟨start, reach.stop, Regular.matches_of_search isFound⟩
            · cases found
          · cases isEngine
      · cases isEngine

theorem exists_read_of_compile
    (compiled : Pattern.compileWithin? admits source ignoreCase = some pattern) :
    ∃ expression referenced,
      Extended.read? (switched ignoreCase source.toList) = some (expression, referenced) := by
  obtain ⟨engine, isEngine, _⟩ := Option.map_eq_some_iff.mp compiled
  rw [Engine.readWithin?] at isEngine
  split at isEngine
  · next expression referenced isRead => exact ⟨expression, referenced, isRead⟩
  · cases isEngine

/-! ## Literals -/

/-- What stands somewhere in a text occurs in it. -/
theorem occursIn_of_standsAt {literal : List Char} {position : Nat}
    (stands : StandsAt text.toList.toArray literal position) : OccursIn literal text.toList := by
  have within : literal <:+: text.toList :=
    stands.isInfix.trans (List.drop_suffix position _).isInfix
  exact within.map foldAscii

/-- The pattern is read alike in both notations: where both readings succeed, what the extended one
matches, the regular one matches as well. -/
def ReadAlike (source : List Char) (ignoreCase : Bool) : Prop :=
  ∀ expression referenced regular,
    Extended.read? (switched ignoreCase source) = some (expression, referenced) →
    Regular.read? ignoreCase source = some regular →
    ∃ bare, expression.bare? = some bare ∧
      ∀ text start stop, bare.Matches text start stop → regular.Matches text start stop

/-- A shared tree is read alike. -/
theorem Pattern.Shared.readAlike {ignoreCase : Bool} (shared : Shared ignoreCase) :
    ReadAlike shared.text ignoreCase := by
  intro expression referenced regular extended read
  obtain ⟨bare, means, isBare⟩ := shared.bare_of_read extended
  obtain ⟨wide, isWide, refines⟩ := Shared.Alternatives.refines means
  obtain rfl := Shared.Alternatives.eq_of_read shared.fits read isWide
  exact ⟨bare, isBare, fun _ _ _ here => refines.matches_of here⟩

/-- A character for itself, and what follows it. -/
def Pattern.Shared.Sequence.plain (c : Char) (isPlain : Shared.isPlain c = true)
    (rest : Shared.Sequence) : Shared.Sequence :=
  .piece (.plain c isPlain) [] none rest

/-- Names of bots in a named group after a word boundary; a code stands for one character, and the
last one is repeated possessively. -/
def boundedBot : Shared true where
  tree :=
    let bot : Shared.Sequence := .plain 'B' rfl (.plain 'o' rfl (.plain 't' rfl .nil))
    let code : Shared.Code :=
      ⟨.two, false, ['5', '3'], 'S', Shared.forall_mem_of_all (by decide), by decide, rfl, rfl⟩
    let last : Shared.Sequence := .piece (.plain 'r' rfl) [] (some ⟨.atLeastOne, false, true⟩) .nil
    let spider : Shared.Sequence := .piece (.escape (.code code)) [] none (.plain 'p' rfl
      (.plain 'i' rfl (.plain 'd' rfl (.plain 'e' rfl last))))
    let name : Shared.GroupName := ⟨true, "bot".toList, fun _ isHead => Option.some.inj isHead ▸ rfl,
      by decide, Shared.forall_mem_of_all (by decide)⟩
    .last (.piece (.condition 'b' rfl) [] none
      (.piece (.group (some name) (.more bot (.last spider))) [] none .nil))
  fits := by
    simp [Shared.Sequence.plain, Shared.Alternatives.Fits, Shared.Sequence.Fits,
      Shared.Atom.Fits, Shared.Alternatives.modeAfter, Shared.Sequence.modeAfter, Mode.initial]

end AgentClassifier
