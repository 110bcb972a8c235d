import Mathlib.Data.Nat.Bitwise
import AgentClassifier.Pattern.Regular

/-!
Searches that leave each place once still find every end.

* `Ends` : the ends in a list; `ends_distinctEnds` : dropping the second way to an end drops no end.
* `Explored.Closed` : all ends behind the places already left are found.
* `Visits` : an exploration of a region of places keeps it closed and finds given ends.
* `Visits.enter` : a place is left once; what lies behind it is explored in a region without it.
* `Visits.foldl` : one exploration after another.
* `Visits.ends_of_start` : what is found at last, if nothing was explored before.

A place can be marked before the ends behind it are found, because the ways from it never come back:
what follows it is explored in a region that the place is not in.
-/

namespace AgentClassifier.Pattern

/-! ## Lists of ends -/

/-- One of the ways leads to the end. -/
def Ends (reaches : List Reach) (stop : Nat) : Prop := ∃ reach ∈ reaches, reach.stop = stop

variable {reaches : List Reach} {stop : Nat}

theorem testBit_markSeen (seen position place : Nat) :
    (markSeen seen position).testBit place = (seen.testBit place || decide (position = place)) := by
  rw [markSeen, Nat.testBit_or, Nat.one_shiftLeft, Nat.testBit_two_pow]

theorem ends_cons {reach : Reach} :
    Ends (reach :: reaches) stop ↔ reach.stop = stop ∨ Ends reaches stop := by
  simp [Ends]

theorem ends_append {others : List Reach} :
    Ends (reaches ++ others) stop ↔ Ends reaches stop ∨ Ends others stop := by
  simp [Ends, or_and_right, exists_or]

theorem ends_keepNew {seen : Nat} (fresh : seen.testBit stop = false) (ends : Ends reaches stop) :
    Ends (keepNew reaches seen) stop := by
  induction reaches generalizing seen with
  | nil => exact ends
  | cons reach rest ih =>
      rw [ends_cons] at ends
      rw [keepNew]
      split
      · next marked =>
          refine ih fresh (ends.resolve_left ?_)
          rintro rfl
          rw [fresh] at marked
          cases marked
      · rw [ends_cons]
        by_cases here : reach.stop = stop
        · exact .inl here
        · refine .inr (ih ?_ (ends.resolve_left here))
          simp [testBit_markSeen, fresh, here]

/-- No end is lost when only the first way to each end is kept. -/
theorem ends_distinctEnds (ends : Ends reaches stop) : Ends (distinctEnds reaches) stop := by
  unfold distinctEnds
  split
  · exact ends
  · exact ends
  · exact ends_keepNew (Nat.zero_testBit stop) ends

theorem ends_flatMap {step : Reach → List Reach} {reach : Reach} (member : reach ∈ reaches)
    (ends : Ends (step reach) stop) : Ends (reaches.flatMap step) stop := by
  obtain ⟨last, isLast, same⟩ := ends
  exact ⟨last, List.mem_flatMap.mpr ⟨reach, member, isLast⟩, same⟩

theorem ends_reverse (ends : Ends reaches stop) : Ends reaches.reverse stop := by
  obtain ⟨reach, member, same⟩ := ends
  exact ⟨reach, List.mem_reverse.mpr member, same⟩

/-! ## Explorations -/

section

variable {region smaller : Nat → Prop} {behind : Nat → Nat → Prop} {ends : Nat → Prop}
  {add : Explored → Explored}

/-- All ends behind the places of a region that were left are found. -/
def Explored.Closed (region : Nat → Prop) (behind : Nat → Nat → Prop) (explored : Explored) :
    Prop :=
  ∀ place, region place → explored.seen.testBit place = true →
    ∀ stop, behind place stop → Ends explored.found stop

/-- An exploration leaves places of a region, keeps it closed and finds the given ends. -/
structure Visits (region : Nat → Prop) (behind : Nat → Nat → Prop) (ends : Nat → Prop)
    (add : Explored → Explored) : Prop where
  keeps : ∀ explored stop, Ends explored.found stop → Ends (add explored).found stop
  outside : ∀ explored place, ¬ region place →
    (add explored).seen.testBit place = explored.seen.testBit place
  closed : ∀ explored : Explored, explored.Closed region behind →
    (add explored).Closed region behind
  finds : ∀ explored : Explored, explored.Closed region behind →
    ∀ stop, ends stop → Ends (add explored).found stop

namespace Visits

theorem refl : Visits region behind (fun _ => False) id where
  keeps _ _ found := found
  outside _ _ _ := rfl
  closed _ closed := closed
  finds _ _ _ := False.elim

/-- An exploration of a region is one of every larger region. -/
theorem mono (visits : Visits smaller behind ends add)
    (within : ∀ place, smaller place → region place) : Visits region behind ends add where
  keeps := visits.keeps
  outside explored place away := visits.outside explored place fun inside => away (within place inside)
  closed explored closed place inside marked stop isEnd := by
    by_cases near : smaller place
    · exact visits.closed explored (fun other nearby => closed other (within other nearby)) place near
        marked stop isEnd
    · rw [visits.outside explored place near] at marked
      exact visits.keeps explored stop (closed place inside marked stop isEnd)
  finds explored closed :=
    visits.finds explored fun other nearby => closed other (within other nearby)

theorem weaken {fewer : Nat → Prop} (visits : Visits region behind ends add)
    (subset : ∀ stop, fewer stop → ends stop) : Visits region behind fewer add where
  keeps := visits.keeps
  outside := visits.outside
  closed := visits.closed
  finds explored closed stop isEnd := visits.finds explored closed stop (subset stop isEnd)

theorem push (reach : Reach) :
    Visits region behind (fun stop => stop = reach.stop) fun explored => explored.push reach where
  keeps _ _ found := ends_cons.mpr (.inr found)
  outside _ _ _ := rfl
  closed _ closed place inside marked stop isEnd :=
    ends_cons.mpr (.inr (closed place inside marked stop isEnd))
  finds _ _ _ same := ends_cons.mpr (.inl same.symm)

theorem andThen {later : Nat → Prop} {next : Explored → Explored}
    (visits : Visits region behind ends add) (visitsNext : Visits region behind later next) :
    Visits region behind (fun stop => ends stop ∨ later stop)
      fun explored => next (add explored) where
  keeps explored stop found := visitsNext.keeps _ stop (visits.keeps explored stop found)
  outside explored place away :=
    (visitsNext.outside _ place away).trans (visits.outside explored place away)
  closed explored closed := visitsNext.closed _ (visits.closed explored closed)
  finds explored closed stop := by
    rintro (isEnd | isEnd)
    · exact visitsNext.keeps _ stop (visits.finds explored closed stop isEnd)
    · exact visitsNext.finds _ (visits.closed explored closed) stop isEnd

/-- One exploration for each way finds the ends of all. -/
theorem foldl (reaches : List Reach) {each : Explored → Reach → Explored}
    {endsOf : Reach → Nat → Prop}
    (visits : ∀ next ∈ reaches,
      Visits region behind (endsOf next) fun explored => each explored next) :
    Visits region behind (fun stop => ∃ next ∈ reaches, endsOf next stop) fun explored =>
      reaches.foldl each explored := by
  induction reaches with
  | nil => exact refl.weaken fun stop ⟨_, member, _⟩ => absurd member List.not_mem_nil
  | cons next rest ih =>
      have further := ih fun later isLater => visits later (List.mem_cons_of_mem _ isLater)
      refine ((visits next List.mem_cons_self).andThen further).weaken ?_
      rintro stop ⟨other, member, isEnd⟩
      rcases List.mem_cons.mp member with rfl | later
      · exact .inl isEnd
      · exact .inr ⟨other, later, isEnd⟩

/-- A place is left once. The ends behind it are its own one and those found in a region that it is
not in. -/
theorem enter (place : Nat) (here : Reach) (greedy : Bool) {further : Explored → Explored}
    (away : ¬ region place) (visits : Visits region behind ends further)
    (behindPlace : ∀ stop, behind place stop → stop = here.stop ∨ ends stop) :
    Visits (fun other => other = place ∨ region other) behind (behind place) fun explored =>
      if explored.seen.testBit place then explored
      else
        let entered : Explored := ⟨explored.found, markSeen explored.seen place⟩
        if greedy then (further entered).push here else further (entered.push here) := by
  -- both orders of the place's own end and the further ones explore the region
  let explore (explored : Explored) : Explored :=
    if greedy then (further explored).push here else further (explored.push here)
  have explores : Visits region behind (fun stop => stop = here.stop ∨ ends stop) explore := by
    cases greedy with
    | true => exact (visits.andThen (push here)).weaken fun _ => Or.symm
    | false => exact (push here).andThen visits
  have enters : ∀ explored : Explored,
      explored.Closed (fun other => other = place ∨ region other) behind →
      (⟨explored.found, markSeen explored.seen place⟩ : Explored).Closed region behind := by
    intro explored closed other inside marked
    refine closed other (.inr inside) ?_
    rw [testBit_markSeen] at marked
    have different : place ≠ other := fun same => away (same ▸ inside)
    simpa [different] using marked
  constructor
  · intro explored stop found
    dsimp only
    split
    · exact found
    · exact explores.keeps _ stop found
  · intro explored other outside
    obtain ⟨different, outside⟩ := not_or.mp outside
    dsimp only
    split
    · rfl
    · refine (explores.outside _ other outside).trans ?_
      rw [testBit_markSeen]
      simp [Ne.symm different]
  · intro explored closed
    dsimp only
    split
    · exact closed
    · have entered := enters explored closed
      rintro other (rfl | inside) marked stop isEnd
      · exact explores.finds _ entered stop (behindPlace stop isEnd)
      · exact explores.closed _ entered other inside marked stop isEnd
  · intro explored closed stop isEnd
    dsimp only
    split
    · next marked => exact closed place (.inl rfl) marked stop isEnd
    · exact explores.finds _ (enters explored closed) stop (behindPlace stop isEnd)

/-- An exploration that nothing was explored before finds its ends. -/
theorem ends_of_start (visits : Visits region behind ends add) (isEnd : ends stop) :
    Ends (distinctEnds (add ⟨[], 0⟩).found.reverse) stop := by
  have nothing : Explored.Closed region behind ⟨[], 0⟩ := by
    intro place _ marked
    rw [Nat.zero_testBit] at marked
    cases marked
  exact ends_distinctEnds (ends_reverse (visits.finds _ nothing stop isEnd))

end Visits

end

end AgentClassifier.Pattern
