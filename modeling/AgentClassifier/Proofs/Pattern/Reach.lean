import AgentClassifier.Proofs.Pattern.Language

/-!
What the search for a regular expression finds is a match.

* `mem_repeated` : the ends found for a repetition are those of a number of iterations within its
  bounds.
* `Regular.matches_of_mem_reach` : the ends found for an expression are ends of its matches.
* `Regular.matches_of_search` : a search finds the start and the end of a match.
-/

namespace AgentClassifier.Pattern

/-! ## Lists of ends -/

theorem mem_of_mem_keepNew {reach : Reach} {reaches : List Reach} {seen : Nat}
    (member : reach ∈ keepNew reaches seen) : reach ∈ reaches := by
  induction reaches generalizing seen with
  | nil => exact member
  | cons first rest ih =>
      rw [keepNew] at member
      split at member
      · exact List.mem_cons_of_mem _ (ih member)
      · rcases List.mem_cons.mp member with rfl | later
        · exact List.mem_cons_self
        · exact List.mem_cons_of_mem _ (ih later)

theorem mem_of_mem_distinctEnds {reach : Reach} {reaches : List Reach}
    (member : reach ∈ distinctEnds reaches) : reach ∈ reaches := by
  unfold distinctEnds at member
  split at member
  · exact member
  · exact member
  · exact mem_of_mem_keepNew member

/-- A fold keeps every end it starts with, and adds only ends that an element brings. -/
theorem mem_found_foldl {add : Explored → Reach → Explored} {brings : Reach → Prop}
    {nexts : List Reach} {explored : Explored} {reach : Reach}
    (added : ∀ next ∈ nexts, ∀ explored, reach ∈ (add explored next).found →
      reach ∈ explored.found ∨ brings next)
    (member : reach ∈ (nexts.foldl add explored).found) :
    reach ∈ explored.found ∨ ∃ next ∈ nexts, brings next := by
  induction nexts generalizing explored with
  | nil => exact .inl member
  | cons next rest ih =>
      rw [List.foldl_cons] at member
      rcases ih (fun later isLater => added later (List.mem_cons_of_mem _ isLater)) member with
        before | ⟨later, isLater, brought⟩
      · rcases added next List.mem_cons_self explored before with old | brought
        · exact .inl old
        · exact .inr ⟨next, List.mem_cons_self, brought⟩
      · exact .inr ⟨later, List.mem_cons_of_mem _ isLater, brought⟩

/-! ## Repetitions -/

section Repetition

variable {iteration : Iteration} {once : Nat → Nat → Prop} {greedy : Bool} {width : Nat}
  {reach : Reach}

/-- The ways through one iteration lead to ends of steps. -/
def Steps (iteration : Iteration) (once : Nat → Nat → Prop) : Prop :=
  ∀ position spans, ∀ reach ∈ iteration position spans, once position reach.stop

theorem mem_exactly (steps : Steps iteration once) {count : Nat} {reaches : List Reach}
    (member : reach ∈ exactly iteration count reaches) :
    ∃ origin ∈ reaches, Iterated once count origin.stop reach.stop := by
  induction count generalizing reaches with
  | zero => exact ⟨reach, member, rfl⟩
  | succ count ih =>
      obtain ⟨middle, isMiddle, rest⟩ := ih member
      obtain ⟨origin, isOrigin, here⟩ :=
        List.mem_flatMap.mp (mem_of_mem_distinctEnds isMiddle)
      exact ⟨origin, isOrigin, middle.stop, steps _ _ _ here, rest⟩

/-- One step, and then a number of them, from a place left in this order or another. -/
theorem mem_push_further {further : Explored → Explored} {entered : Explored} {here : Reach}
    {brought : Prop}
    (added : ∀ explored, reach ∈ (further explored).found → reach ∈ explored.found ∨ brought)
    (member : reach ∈
      (if greedy then (further entered).push here else further (entered.push here)).found) :
    reach ∈ entered.found ∨ reach = here ∨ brought := by
  split at member
  · rcases List.mem_cons.mp member with rfl | member
    · exact .inr (.inl rfl)
    · exact (added _ member).imp_right .inr
  · rcases added _ member with member | brought
    · rcases List.mem_cons.mp member with rfl | member
      · exact .inr (.inl rfl)
      · exact .inl member
    · exact .inr (.inr brought)

theorem mem_atMost (steps : Steps iteration once) {count : Nat} {here : Reach}
    {explored : Explored}
    (member : reach ∈ (atMost iteration greedy width count here explored).found) :
    reach ∈ explored.found ∨ ∃ number ≤ count, Iterated once number here.stop reach.stop := by
  induction count generalizing here explored with
  | zero =>
      rcases List.mem_cons.mp member with rfl | member
      · exact .inr ⟨0, Nat.le_refl 0, rfl⟩
      · exact .inl member
  | succ count ih =>
      rw [atMost] at member
      dsimp only at member
      split at member
      · exact .inl member
      · have added : ∀ next ∈ iteration here.stop here.spans, ∀ explored,
            reach ∈ (atMost iteration greedy width count next explored).found →
            reach ∈ explored.found ∨
              ∃ number ≤ count, Iterated once number next.stop reach.stop :=
          fun _ _ _ member => ih member
        rcases mem_push_further (fun _ => mem_found_foldl added) member with
          old | rfl | ⟨next, isNext, number, few, rest⟩
        · exact .inl old
        · exact .inr ⟨0, Nat.zero_le _, rfl⟩
        · exact .inr ⟨number + 1, Nat.succ_le_succ few, next.stop, steps _ _ _ isNext, rest⟩

theorem mem_keepGoing (steps : Steps iteration once) {fuel : Nat} {here : Reach}
    {explored : Explored}
    (member : reach ∈ (keepGoing iteration greedy fuel here explored).found) :
    reach ∈ explored.found ∨ ∃ number, Iterated once number here.stop reach.stop := by
  induction fuel generalizing here explored with
  | zero => exact .inl member
  | succ fuel ih =>
      rw [keepGoing] at member
      dsimp only at member
      split at member
      · exact .inl member
      · have added : ∀ next ∈ iteration here.stop here.spans, ∀ explored,
            reach ∈ (if next.stop == here.stop then explored
              else keepGoing iteration greedy fuel next explored).found →
            reach ∈ explored.found ∨ ∃ number, Iterated once number next.stop reach.stop := by
          intro next _ explored member
          split at member
          · exact .inl member
          · exact ih member
        rcases mem_push_further (fun _ => mem_found_foldl added) member with
          old | rfl | ⟨next, isNext, number, rest⟩
        · exact .inl old
        · exact .inr ⟨0, rfl⟩
        · exact .inr ⟨number + 1, next.stop, steps _ _ _ isNext, rest⟩

theorem mem_onceOrMore (steps : Steps iteration once) {fuel : Nat} {reaches : List Reach}
    (member : reach ∈ onceOrMore iteration greedy fuel reaches) :
    ∃ origin ∈ reaches, ∃ number, Iterated once (number + 1) origin.stop reach.stop := by
  have found := List.mem_reverse.mp (mem_of_mem_distinctEnds member)
  have added : ∀ origin ∈ reaches, ∀ explored : Explored,
      reach ∈ ((iteration origin.stop origin.spans).foldl
        (fun explored next =>
          if next.stop == origin.stop then explored.push next
          else keepGoing iteration greedy fuel next explored) explored).found →
      reach ∈ explored.found ∨ ∃ number, Iterated once (number + 1) origin.stop reach.stop := by
    intro origin _ explored member
    have next : ∀ next ∈ iteration origin.stop origin.spans, ∀ explored,
        reach ∈ (if next.stop == origin.stop then explored.push next
          else keepGoing iteration greedy fuel next explored).found →
        reach ∈ explored.found ∨ ∃ number, Iterated once number next.stop reach.stop := by
      intro next _ explored member
      split at member
      · rcases List.mem_cons.mp member with rfl | member
        · exact .inr ⟨0, rfl⟩
        · exact .inl member
      · exact mem_keepGoing steps member
    rcases mem_found_foldl next member with old | ⟨next, isNext, number, rest⟩
    · exact .inl old
    · exact .inr ⟨number, next.stop, steps _ _ _ isNext, rest⟩
  rcases mem_found_foldl added found with old | brought
  · cases old
  · exact brought

/-- The ends found for a repetition are those of a number of iterations within its bounds. -/
theorem mem_repeated (steps : Steps iteration once) {low : Nat} {high : Option Nat}
    {here : Reach} (member : reach ∈ repeated iteration greedy width low high here) :
    ∃ count, WithinBounds low high count ∧ Iterated once count here.stop reach.stop := by
  unfold repeated at member
  split at member
  · next high =>
      dsimp only at member
      split at member
      · obtain ⟨origin, isOrigin, rest⟩ := mem_exactly steps member
        obtain rfl := List.mem_singleton.mp isOrigin
        exact ⟨low, ⟨Nat.le_refl _, fun _ _ => Nat.le_max_left _ _⟩, rest⟩
      · have found := List.mem_reverse.mp (mem_of_mem_distinctEnds member)
        have added : ∀ middle ∈ exactly iteration low [here], ∀ explored,
            reach ∈ (atMost iteration greedy width (high - low) middle explored).found →
            reach ∈ explored.found ∨
              ∃ number ≤ high - low, Iterated once number middle.stop reach.stop :=
          fun _ _ _ member => mem_atMost steps member
        rcases mem_found_foldl added found with
          old | ⟨middle, isMiddle, further, few, rest⟩
        · cases old
        · obtain ⟨origin, isOrigin, first⟩ := mem_exactly steps isMiddle
          obtain rfl := List.mem_singleton.mp isOrigin
          refine ⟨low + further, ⟨Nat.le_add_right _ _, fun most bound => ?_⟩,
            first.append rest⟩
          obtain rfl := Option.some.inj bound
          omega
  · split at member
    · have found : reach ∈ onceOrMore iteration greedy width [here] ∨ reach = here := by
        have member := mem_of_mem_distinctEnds member
        split at member
        · rw [List.mem_append, List.mem_singleton] at member
          exact member
        · exact (List.mem_cons.mp member).symm
      rcases found with found | rfl
      · obtain ⟨origin, isOrigin, number, rest⟩ := mem_onceOrMore steps found
        obtain rfl := List.mem_singleton.mp isOrigin
        exact ⟨number + 1, ⟨Nat.zero_le _, nofun⟩, rest⟩
      · exact ⟨0, ⟨Nat.le_refl _, nofun⟩, rfl⟩
    · next atLeast =>
        obtain ⟨middle, isMiddle, number, rest⟩ := mem_onceOrMore steps member
        obtain ⟨origin, isOrigin, first⟩ := mem_exactly steps isMiddle
        obtain rfl := List.mem_singleton.mp isOrigin
        exact ⟨atLeast + (number + 1), ⟨by omega, nofun⟩, first.append rest⟩

end Repetition

namespace Regular

variable {text : Subject}

/-! ## Searches -/

/-- The ends found for an expression are ends of its matches. -/
theorem matches_of_mem_reach {expression : Regular} {position : Nat} {spans : List Span}
    {reach : Reach} (member : reach ∈ expression.reach text position spans) :
    expression.Matches text position reach.stop := by
  induction expression generalizing position spans reach with
  | empty =>
      obtain rfl := List.mem_singleton.mp member
      rfl
  | set chars =>
      rw [Regular.reach] at member
      split at member
      · next c present =>
          split at member
          · next held =>
              obtain rfl := List.mem_singleton.mp member
              exact ⟨c, present, CharSet.holds_of_contains held, rfl⟩
          · cases member
      · cases member
  | assertion condition =>
      rw [Regular.reach] at member
      split at member
      · next holds =>
          obtain rfl := List.mem_singleton.mp member
          exact ⟨holds, rfl⟩
      · cases member
  | group index body ih =>
      obtain ⟨inner, isInner, rfl⟩ := List.mem_map.mp member
      exact @ih _ _ inner isInner
  | seq first second ihFirst ihSecond =>
      obtain ⟨middle, isMiddle, rest⟩ :=
        List.mem_flatMap.mp (mem_of_mem_distinctEnds member)
      exact ⟨middle.stop, ihFirst isMiddle, ihSecond rest⟩
  | alt first second ihFirst ihSecond =>
      exact (List.mem_append.mp (mem_of_mem_distinctEnds member)).imp ihFirst ihSecond
  | repetition low high greedy body ih =>
      have steps : Steps (fun position spans => body.reach text position spans)
          (fun start stop => body.Matches text start stop) :=
        fun _ _ _ isEnd => ih isEnd
      exact mem_repeated steps member

theorem matches_of_matchAt {expression : Regular} {position : Nat} {reach : Reach}
    (found : expression.matchAt? text position = some reach) :
    expression.Matches text position reach.stop :=
  matches_of_mem_reach (List.mem_of_mem_head? found)

theorem matches_of_searchFrom {expression : Regular} {count position start : Nat}
    {reach : Reach} (found : expression.searchFrom text count position = some (start, reach)) :
    expression.Matches text start reach.stop := by
  induction count generalizing position with
  | zero => cases found
  | succ count ih =>
      rw [searchFrom] at found
      split at found
      · next here =>
          cases found
          exact matches_of_matchAt here
      · exact ih found

/-- A search finds the start and the end of a match. -/
theorem matches_of_search {expression : Regular} {start : Nat} {reach : Reach}
    (found : expression.search? text = some (start, reach)) :
    expression.Matches text start reach.stop :=
  matches_of_searchFrom found

end Regular

end AgentClassifier.Pattern
