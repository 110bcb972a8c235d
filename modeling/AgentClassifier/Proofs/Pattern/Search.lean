import AgentClassifier.Proofs.Pattern.Reach
import AgentClassifier.Proofs.Pattern.Visits

/-!
Every match of a regular expression is found.

* `CharSet.contains_iff_holds` : the look-up in ascending ranges finds every member.
* `Walks` : steps that move on within a text, and iterations that lead to all their ends.
* `Walks.ends_repeated` : all ends of the steps within the bounds of a repetition are found.
* `Regular.Matches.ends_reach` : the end of every match is found.
* `Regular.isSome_search_iff` : a search finds something exactly if there is a match.
-/

namespace AgentClassifier

namespace CharSet

instance decidableAscending : (ranges : List (Nat × Nat)) → Decidable (Ascending ranges)
  | [] => isTrue trivial
  | [(low, high)] => inferInstanceAs (Decidable (low ≤ high))
  | (low, high) :: (nextLow, nextHigh) :: rest =>
      have := decidableAscending ((nextLow, nextHigh) :: rest)
      inferInstanceAs (Decidable (low ≤ high ∧ high + 1 < nextLow ∧ _))

variable {low high code : Nat} {ranges : List (Nat × Nat)} {chars : CharSet} {c : Char}

theorem Ascending.head (ascending : Ascending ((low, high) :: ranges)) : low ≤ high := by
  cases ranges with
  | nil => exact ascending
  | cons range rest => exact ascending.1

theorem Ascending.tail (ascending : Ascending ((low, high) :: ranges)) : Ascending ranges := by
  cases ranges with
  | nil => trivial
  | cons range rest => exact ascending.2.2

theorem Ascending.lt_of_inRange (ascending : Ascending ((low, high) :: ranges))
    (held : InRange code ranges) : high < code := by
  induction ranges generalizing low high with
  | nil =>
      obtain ⟨range, member, _⟩ := held
      cases member
  | cons range rest ih =>
      obtain ⟨nextLow, nextHigh⟩ := range
      have apart : high + 1 < nextLow := ascending.2.1
      have next := ascending.tail.head
      rcases inRange_cons.mp held with within | later
      · omega
      · have above := ih ascending.tail later
        omega

theorem inRanges_of_inRange (ascending : Ascending ranges) (held : InRange code ranges) :
    inRanges code ranges = true := by
  induction ranges with
  | nil =>
      obtain ⟨range, member, _⟩ := held
      cases member
  | cons range rest ih =>
      obtain ⟨low, high⟩ := range
      rw [inRanges]
      rcases inRange_cons.mp held with within | later
      · rw [if_neg (Nat.not_lt.mpr within.1), if_pos within.2]
      · have least := ascending.head
        have above := ascending.lt_of_inRange later
        rw [if_neg (by omega), if_neg (by omega)]
        exact ih ascending.tail later

/-- The look-up in ascending ranges finds every member. -/
theorem contains_iff_holds (ascending : Ascending chars.ranges) :
    chars.contains c = true ↔ chars.Holds c :=
  ⟨holds_of_contains, inRanges_of_inRange ascending⟩

end CharSet

namespace Pattern

/-! ## Iterations -/

/-- Either nothing was consumed, or one of the steps was the first one that moved on. -/
theorem Iterated.first_move {once : Nat → Nat → Prop} {count start stop : Nat}
    (steps : Iterated once count start stop) :
    stop = start ∨ ∃ middle, once start middle ∧ middle ≠ start ∧
      ∃ further, Iterated once further middle stop := by
  induction count generalizing start with
  | zero => exact .inl steps
  | succ count ih =>
      obtain ⟨middle, step, rest⟩ := steps
      by_cases idle : middle = start
      · subst idle
        exact ih rest
      · exact .inr ⟨middle, step, idle, count, rest⟩

theorem Iterated.forward {once : Nat → Nat → Prop} {count start stop : Nat}
    (forward : ∀ start stop, once start stop → start ≤ stop)
    (steps : Iterated once count start stop) : start ≤ stop := by
  induction count generalizing start with
  | zero => exact Nat.le_of_eq steps.symm
  | succ count ih =>
      obtain ⟨middle, step, rest⟩ := steps
      exact Nat.le_trans (forward _ _ step) (ih rest)

theorem Iterated.within {once : Nat → Nat → Prop} {size count start stop : Nat}
    (within : ∀ start stop, start ≤ size → once start stop → stop ≤ size) (inside : start ≤ size)
    (steps : Iterated once count start stop) : stop ≤ size := by
  induction count generalizing start with
  | zero => exact steps ▸ inside
  | succ count ih =>
      obtain ⟨middle, step, rest⟩ := steps
      exact ih (within _ _ inside step) rest

/-- Steps that move on within a text, and iterations that lead to all their ends. -/
structure Walks (iteration : Iteration) (once : Nat → Nat → Prop) (size : Nat) : Prop where
  sound : Steps iteration once
  complete : ∀ position spans stop, position ≤ size → once position stop →
    Ends (iteration position spans) stop
  forward : ∀ start stop, once start stop → start ≤ stop
  within : ∀ start stop, start ≤ size → once start stop → stop ≤ size

namespace Walks

variable {iteration : Iteration} {once : Nat → Nat → Prop} {greedy : Bool} {size : Nat}
  {reaches : List Reach} {stop : Nat}

theorem next_le (walks : Walks iteration once size) {here next : Reach} (inside : here.stop ≤ size)
    (member : next ∈ iteration here.stop here.spans) : next.stop ≤ size :=
  walks.within _ _ inside (walks.sound _ _ _ member)

theorem ends_exactly (walks : Walks iteration once size) {count : Nat} {origin : Reach}
    (inside : origin.stop ≤ size) (member : origin ∈ reaches)
    (steps : Iterated once count origin.stop stop) : Ends (exactly iteration count reaches) stop := by
  induction count generalizing reaches origin with
  | zero => exact ⟨origin, member, steps.symm⟩
  | succ count ih =>
      obtain ⟨middle, step, rest⟩ := steps
      have found : Ends (reaches.flatMap fun reach => iteration reach.stop reach.spans) middle :=
        ends_flatMap member (walks.complete _ origin.spans _ inside step)
      obtain ⟨next, isNext, rfl⟩ := ends_distinctEnds found
      exact ih (walks.within _ _ inside step) isNext rest

/-- The ends behind a place of a bounded repetition: the place tells the iterations left after the
next one, and the position. -/
def BehindBounded (once : Nat → Nat → Prop) (width place stop : Nat) : Prop :=
  ∃ number ≤ place / width + 1, Iterated once number (place % width) stop

/-- What comes after a place has fewer iterations left, so it is another place. -/
theorem visits_atMost (walks : Walks iteration once size) (greedy : Bool) (count : Nat)
    {here : Reach} (inside : here.stop ≤ size) :
    Visits (fun place => place < count * (size + 1)) (BehindBounded once (size + 1))
      (fun stop => ∃ number ≤ count, Iterated once number here.stop stop)
      fun explored => atMost iteration greedy (size + 1) count here explored := by
  induction count generalizing here with
  | zero =>
      refine (Visits.push here).weaken ?_
      rintro stop ⟨number, few, steps⟩
      obtain rfl : number = 0 := by omega
      exact steps
  | succ count ih =>
      have further := Visits.foldl (iteration here.stop here.spans)
        fun next member => ih (walks.next_le inside member)
      have place : (count * (size + 1) + here.stop) / (size + 1) = count := by
        rw [Nat.mul_comm, Nat.mul_add_div (by omega), Nat.div_eq_of_lt (by omega), Nat.add_zero]
      have position : (count * (size + 1) + here.stop) % (size + 1) = here.stop := by
        rw [Nat.mul_comm, Nat.mul_add_mod, Nat.mod_eq_of_lt (by omega)]
      have entered := Visits.enter (count * (size + 1) + here.stop) here greedy (by omega) further ?_
      · refine (entered.mono ?_).weaken ?_
        · rw [Nat.succ_mul]
          omega
        · rintro stop ⟨number, few, steps⟩
          exact ⟨number, by rwa [place], by rwa [position]⟩
      · rintro stop ⟨number, few, steps⟩
        rw [place] at few
        rw [position] at steps
        cases number with
        | zero => exact .inl steps
        | succ number =>
            obtain ⟨middle, step, rest⟩ := steps
            obtain ⟨next, isNext, rfl⟩ := walks.complete _ here.spans _ inside step
            exact .inr ⟨next, isNext, number, by omega, rest⟩

/-- The ends behind a position of an unbounded repetition. -/
def Behind (once : Nat → Nat → Prop) (position stop : Nat) : Prop :=
  ∃ number, Iterated once number position stop

/-- Only iterations that move on are followed, so what comes after a position lies behind it, and the
fuel lasts to the end of the text. -/
theorem visits_keepGoing (walks : Walks iteration once size) (greedy : Bool) (fuel : Nat)
    {here : Reach} (inside : here.stop ≤ size) (enough : size < here.stop + fuel) :
    Visits (fun position => here.stop ≤ position) (Behind once) (Behind once here.stop)
      fun explored => keepGoing iteration greedy fuel here explored := by
  induction fuel generalizing here with
  | zero => omega
  | succ fuel ih =>
      have each : ∀ next ∈ iteration here.stop here.spans,
          Visits (fun position => here.stop < position) (Behind once)
            (fun stop => next.stop ≠ here.stop ∧ Behind once next.stop stop)
            fun explored =>
              if next.stop == here.stop then explored
              else keepGoing iteration greedy fuel next explored := by
        intro next member
        have onward := walks.forward _ _ (walks.sound _ _ _ member)
        by_cases idle : next.stop = here.stop
        · simp only [idle, BEq.rfl, if_pos]
          exact Visits.refl.weaken fun stop behind => behind.1 rfl
        · simp only [beq_eq_false_iff_ne.mpr idle, Bool.false_eq_true, if_false]
          have moved := ih (walks.next_le inside member) (by omega)
          exact (moved.mono fun position => by omega).weaken fun stop behind => behind.2
      have entered := Visits.enter here.stop here greedy (Nat.lt_irrefl _)
        (Visits.foldl (iteration here.stop here.spans) each) ?_
      · exact (entered.mono (by omega)).weaken fun stop behind => behind
      · rintro stop ⟨number, steps⟩
        refine steps.first_move.imp_right ?_
        rintro ⟨middle, step, moved, behind⟩
        obtain ⟨next, isNext, rfl⟩ := walks.complete _ here.spans _ inside step
        exact ⟨next, isNext, moved, behind⟩

/-- The first iteration may go nowhere, and then it is the last one. -/
theorem visits_onceOrMore (walks : Walks iteration once size) (greedy : Bool) {here : Reach}
    (inside : here.stop ≤ size) :
    Visits (fun _ => True) (Behind once)
      (fun stop => ∃ number, Iterated once (number + 1) here.stop stop)
      fun explored => (iteration here.stop here.spans).foldl
        (fun explored next =>
          if next.stop == here.stop then explored.push next
          else keepGoing iteration greedy (size + 1) next explored) explored := by
  have each : ∀ next ∈ iteration here.stop here.spans,
      Visits (fun _ => True) (Behind once)
        (fun stop => if next.stop = here.stop then stop = here.stop else Behind once next.stop stop)
        fun explored =>
          if next.stop == here.stop then explored.push next
          else keepGoing iteration greedy (size + 1) next explored := by
    intro next member
    by_cases idle : next.stop = here.stop
    · simp only [idle, BEq.rfl, if_pos]
      exact idle ▸ Visits.push next
    · simp only [idle, beq_eq_false_iff_ne.mpr idle, Bool.false_eq_true, if_false]
      have moved := walks.visits_keepGoing greedy (size + 1) (walks.next_le inside member) (by omega)
      exact moved.mono fun _ _ => trivial
  refine (Visits.foldl (iteration here.stop here.spans) each).weaken ?_
  rintro stop ⟨number, middle, step, rest⟩
  obtain ⟨next, isNext, rfl⟩ := walks.complete _ here.spans _ inside step
  by_cases idle : next.stop = here.stop
  · -- after an idle step the first one that moves on is among the first steps, too
    rw [idle] at rest
    rcases rest.first_move with rfl | ⟨middle, step, moved, behind⟩
    · exact ⟨next, isNext, by rw [if_pos idle]⟩
    · obtain ⟨other, isOther, rfl⟩ := walks.complete _ here.spans _ inside step
      exact ⟨other, isOther, by rwa [if_neg moved]⟩
  · exact ⟨next, isNext, by rw [if_neg idle]; exact ⟨number, rest⟩⟩

theorem ends_onceOrMore (walks : Walks iteration once size) {count : Nat} {origin : Reach}
    (inside : ∀ reach ∈ reaches, reach.stop ≤ size) (member : origin ∈ reaches)
    (steps : Iterated once (count + 1) origin.stop stop) :
    Ends (onceOrMore iteration greedy (size + 1) reaches) stop := by
  have visits := Visits.foldl reaches fun reach isReach =>
    walks.visits_onceOrMore greedy (inside reach isReach)
  exact visits.ends_of_start ⟨origin, member, count, steps⟩

/-- All ends of the iterations within the bounds of a repetition are found. -/
theorem ends_repeated (walks : Walks iteration once size) {low count : Nat} {high : Option Nat}
    {here : Reach} (inside : here.stop ≤ size) (within : WithinBounds low high count)
    (steps : Iterated once count here.stop stop) :
    Ends (repeated iteration greedy (size + 1) low high here) stop := by
  have start (number : Nat) : ∀ reach ∈ exactly iteration number [here], reach.stop ≤ size := by
    intro reach member
    obtain ⟨origin, isOrigin, before⟩ := mem_exactly walks.sound member
    obtain rfl := List.mem_singleton.mp isOrigin
    exact before.within walks.within inside
  obtain ⟨least, most⟩ := within
  unfold repeated
  cases high with
  | some high =>
      dsimp only
      split
      · obtain rfl : count = low := by
          have bounded := most high rfl
          omega
        exact walks.ends_exactly inside (List.mem_singleton_self _) steps
      · have bounded := most high rfl
        -- the least number of iterations, then the optional ones
        obtain ⟨further, rfl⟩ := Nat.exists_eq_add_of_le least
        obtain ⟨middle, before, after⟩ := steps.split
        obtain ⟨origin, isOrigin, rfl⟩ :=
          walks.ends_exactly inside (List.mem_singleton_self _) before
        have visits := Visits.foldl (exactly iteration low [here]) fun reach isReach =>
          walks.visits_atMost greedy (high - low) (start low reach isReach)
        exact visits.ends_of_start ⟨origin, isOrigin, further, by omega, after⟩
  | none =>
      cases low with
      | zero =>
          have found : Ends [here] stop ∨
              Ends (onceOrMore iteration greedy (size + 1) [here]) stop := by
            cases count with
            | zero => exact .inl ⟨here, List.mem_singleton_self _, steps.symm⟩
            | succ count =>
                refine .inr (walks.ends_onceOrMore ?_ (List.mem_singleton_self _) steps)
                exact List.forall_mem_singleton.mpr inside
          refine ends_distinctEnds ?_
          split
          · exact ends_append.mpr found.symm
          · exact ends_append.mpr found
      | succ atLeast =>
          obtain ⟨further, rfl⟩ := Nat.exists_eq_add_of_le least
          rw [Nat.add_right_comm, Nat.add_assoc] at steps
          obtain ⟨middle, before, after⟩ := steps.split
          obtain ⟨origin, isOrigin, rfl⟩ :=
            walks.ends_exactly inside (List.mem_singleton_self _) before
          exact walks.ends_onceOrMore (start atLeast) isOrigin after

end Walks

namespace Regular

variable {text : Subject} {expression : Regular} {start stop : Nat}

/-! ## Searches -/

/-- The ranges of all sets are in ascending order. -/
def HasAscendingSets : Regular → Prop
  | empty | assertion _ => True
  | set chars => CharSet.Ascending chars.ranges
  | group _ body => body.HasAscendingSets
  | seq first second => first.HasAscendingSets ∧ second.HasAscendingSets
  | alt first second => first.HasAscendingSets ∧ second.HasAscendingSets
  | repetition _ _ _ body => body.HasAscendingSets

instance decidableHasAscendingSets :
    (expression : Regular) → Decidable expression.HasAscendingSets
  | empty | assertion _ => isTrue trivial
  | set chars => inferInstanceAs (Decidable (CharSet.Ascending chars.ranges))
  | group _ body => decidableHasAscendingSets body
  | seq first second =>
      have := decidableHasAscendingSets first
      have := decidableHasAscendingSets second
      inferInstanceAs (Decidable (first.HasAscendingSets ∧ second.HasAscendingSets))
  | alt first second =>
      have := decidableHasAscendingSets first
      have := decidableHasAscendingSets second
      inferInstanceAs (Decidable (first.HasAscendingSets ∧ second.HasAscendingSets))
  | repetition _ _ _ body => decidableHasAscendingSets body

theorem Matches.forward (here : expression.Matches text start stop) : start ≤ stop := by
  induction expression generalizing start stop with
  | empty => exact Nat.le_of_eq here.symm
  | set chars =>
      obtain ⟨c, present, held, rfl⟩ := here
      exact Nat.le_succ start
  | assertion condition => exact Nat.le_of_eq here.2.symm
  | group index body ih => exact ih here
  | seq first second ihFirst ihSecond =>
      obtain ⟨middle, before, after⟩ := here
      exact Nat.le_trans (ihFirst before) (ihSecond after)
  | alt first second ihFirst ihSecond => exact here.elim ihFirst ihSecond
  | repetition low high greedy body ih =>
      obtain ⟨count, within, steps⟩ := here
      exact steps.forward fun start stop step => ih step

theorem Matches.within (here : expression.Matches text start stop) (inside : start ≤ text.size) :
    stop ≤ text.size := by
  induction expression generalizing start stop with
  | empty => exact here ▸ inside
  | set chars =>
      obtain ⟨c, present, held, rfl⟩ := here
      exact (Array.getElem?_eq_some_iff.mp present).1
  | assertion condition => exact here.2 ▸ inside
  | group index body ih => exact ih here inside
  | seq first second ihFirst ihSecond =>
      obtain ⟨middle, before, after⟩ := here
      exact ihSecond after (ihFirst before inside)
  | alt first second ihFirst ihSecond =>
      rcases here with here | here
      · exact ihFirst here inside
      · exact ihSecond here inside
  | repetition low high greedy body ih =>
      obtain ⟨count, within, steps⟩ := here
      exact steps.within (fun start stop inside step => ih step inside) inside

/-- The end of every match is found. -/
theorem Matches.ends_reach (ascending : expression.HasAscendingSets) (spans : List Span)
    (inside : start ≤ text.size) (here : expression.Matches text start stop) :
    Ends (expression.reach text start spans) stop := by
  induction expression generalizing start stop spans with
  | empty => exact ⟨_, List.mem_singleton_self _, here.symm⟩
  | set chars =>
      obtain ⟨c, present, held, rfl⟩ := here
      rw [reach, present]
      dsimp only
      rw [if_pos ((CharSet.contains_iff_holds ascending).mpr held)]
      exact ⟨_, List.mem_singleton_self _, rfl⟩
  | assertion condition =>
      rw [reach, if_pos here.1]
      exact ⟨_, List.mem_singleton_self _, here.2.symm⟩
  | group index body ih =>
      obtain ⟨inner, member, same⟩ := ih ascending spans inside here
      exact ⟨_, List.mem_map_of_mem member, same⟩
  | seq first second ihFirst ihSecond =>
      obtain ⟨middle, before, after⟩ := here
      obtain ⟨way, isWay, rfl⟩ := ihFirst ascending.1 spans inside before
      have found : Ends ((first.reach text start spans).flatMap fun middle =>
          second.reach text middle.stop middle.spans) stop :=
        ends_flatMap isWay (ihSecond ascending.2 way.spans (before.within inside) after)
      exact ends_distinctEnds found
  | alt first second ihFirst ihSecond =>
      refine ends_distinctEnds (ends_append.mpr ?_)
      rcases here with here | here
      · exact .inl (ihFirst ascending.1 spans inside here)
      · exact .inr (ihSecond ascending.2 spans inside here)
  | repetition low high greedy body ih =>
      obtain ⟨count, within, steps⟩ := here
      have walks : Walks (fun position spans => body.reach text position spans)
          (fun start stop => body.Matches text start stop) text.size :=
        { sound := fun _ _ _ isEnd => matches_of_mem_reach isEnd
          complete := fun _ spans _ inside here => ih ascending spans inside here
          forward := fun _ _ here => here.forward
          within := fun _ _ inside here => here.within inside }
      exact walks.ends_repeated inside within steps

theorem isSome_matchAt_iff (ascending : expression.HasAscendingSets) (inside : start ≤ text.size) :
    (expression.matchAt? text start).isSome = true ↔ ∃ stop, expression.Matches text start stop := by
  unfold matchAt?
  rw [List.isSome_head?]
  constructor
  · intro some
    obtain ⟨reach, member⟩ := List.exists_mem_of_ne_nil _ some
    exact ⟨reach.stop, matches_of_mem_reach member⟩
  · rintro ⟨stop, here⟩
    obtain ⟨reach, member, _⟩ := here.ends_reach ascending [] inside
    exact List.ne_nil_of_mem member

theorem isSome_searchFrom_iff (ascending : expression.HasAscendingSets) {count position : Nat}
    (inside : position + count ≤ text.size + 1) :
    (expression.searchFrom text count position).isSome = true ↔
      ∃ start stop, position ≤ start ∧ start < position + count ∧
        expression.Matches text start stop := by
  induction count generalizing position with
  | zero =>
      refine ⟨nofun, ?_⟩
      rintro ⟨start, _, least, most, _⟩
      omega
  | succ count ih =>
      have bounded : position ≤ text.size := by omega
      have here := isSome_matchAt_iff ascending bounded
      rw [searchFrom]
      cases found : expression.matchAt? text position with
      | some reach =>
          obtain ⟨stop, here⟩ := here.mp (by rw [found]; rfl)
          exact ⟨fun _ => ⟨position, stop, by omega, by omega, here⟩, fun _ => rfl⟩
      | none =>
          -- no match starts here, so one that starts from here on starts later
          rw [found] at here
          dsimp only
          rw [ih (by omega)]
          constructor
          · rintro ⟨start, stop, least, most, matched⟩
            exact ⟨start, stop, by omega, by omega, matched⟩
          · rintro ⟨start, stop, least, most, matched⟩
            refine ⟨start, stop, ?_, by omega, matched⟩
            rcases Nat.eq_or_lt_of_le least with rfl | later
            · cases here.mpr ⟨stop, matched⟩
            · exact later

/-- A search finds something exactly if there is a match. -/
theorem isSome_search_iff (ascending : expression.HasAscendingSets) :
    (expression.search? text).isSome = true ↔
      ∃ start stop, start ≤ text.size ∧ expression.Matches text start stop := by
  rw [search?, isSome_searchFrom_iff ascending (by omega)]
  simp only [Nat.zero_le, true_and, Nat.zero_add, Nat.lt_succ_iff]

end Regular

end Pattern

end AgentClassifier
