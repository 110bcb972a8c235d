import Mathlib.Data.List.Basic
import Mathlib.Data.List.SplitBy
import AgentClassifier.Pattern.Regular

/-!
What a regular expression matches, apart from the order of preference.

* `CharSet.Holds` : one of the ranges of a set holds a character.
* `Regular.Matches` : the expression matches the text from one position to another.
* `Regular.matches_concat`, `Regular.matches_oneOf`, `Regular.Matches.times` : the normal forms
  match what they stand for.
-/

namespace AgentClassifier

/-! ## Sets of characters -/

namespace CharSet

variable {code low high : Nat} {ranges : List (Nat × Nat)} {left right : CharSet} {c : Char}

/-- One of the ranges holds a code point. -/
def InRange (code : Nat) (ranges : List (Nat × Nat)) : Prop :=
  ∃ range ∈ ranges, range.1 ≤ code ∧ code ≤ range.2

/-- One of the ranges of the set holds the character. -/
def Holds (chars : CharSet) (c : Char) : Prop := InRange c.toNat chars.ranges

theorem inRange_cons {range : Nat × Nat} :
    InRange code (range :: ranges) ↔ (range.1 ≤ code ∧ code ≤ range.2) ∨ InRange code ranges := by
  simp [InRange]

theorem inRange_of_inRanges (found : inRanges code ranges = true) : InRange code ranges := by
  induction ranges with
  | nil => cases found
  | cons range rest ih =>
      obtain ⟨low, high⟩ := range
      rw [inRanges] at found
      rw [inRange_cons]
      by_cases below : code < low
      · rw [if_pos below] at found
        cases found
      · rw [if_neg below] at found
        by_cases within : code ≤ high
        · exact .inl ⟨Nat.le_of_not_lt below, within⟩
        · rw [if_neg within] at found
          exact .inr (ih found)

theorem holds_of_contains {chars : CharSet} (found : chars.contains c = true) : chars.Holds c :=
  inRange_of_inRanges found

theorem inRange_insertRange :
    InRange code (insertRange low high ranges) ↔
      (low ≤ code ∧ code ≤ high) ∨ InRange code ranges := by
  induction ranges generalizing low high with
  | nil => simp [insertRange, InRange]
  | cons range rest ih =>
      obtain ⟨headLow, headHigh⟩ := range
      rw [insertRange, inRange_cons]
      split
      · rw [inRange_cons, inRange_cons]
      · split
        · rw [inRange_cons, ih]
          exact or_left_comm
        · -- the ranges meet or touch, so that the joined one holds nothing else
          rw [ih, ← or_assoc]
          refine or_congr_left ?_
          omega

theorem inRange_foldl_insertRange (inserted : List (Nat × Nat)) :
    InRange code (inserted.foldl (fun acc range => insertRange range.1 range.2 acc) ranges) ↔
      InRange code ranges ∨ InRange code inserted := by
  induction inserted generalizing ranges with
  | nil => simp [InRange]
  | cons range rest ih =>
      rw [List.foldl_cons, ih, inRange_insertRange, inRange_cons, or_assoc, or_left_comm]

/-- A union holds what either set holds. -/
theorem holds_union : (left.union right).Holds c ↔ left.Holds c ∨ right.Holds c :=
  inRange_foldl_insertRange right.ranges

theorem not_holds_empty : ¬CharSet.empty.Holds c := by
  rintro ⟨_, member, _⟩
  cases member

theorem toNat_le_maxCodePoint (c : Char) : c.toNat ≤ maxCodePoint := by
  rcases c.valid with low | ⟨_, high⟩
  · exact Nat.le_trans (Nat.le_of_lt low) (by decide)
  · exact Nat.le_of_lt_succ high

theorem holds_all : all.Holds c :=
  ⟨_, List.mem_singleton_self _, Nat.zero_le _, toNat_le_maxCodePoint c⟩

theorem holds_notLineFeed (other : c ≠ '\n') : notLineFeed.Holds c := by
  have distinct : c.toNat ≠ 10 := fun same => other (Char.ext (UInt32.toNat_inj.mp same))
  by_cases before : c.toNat ≤ 9
  · exact ⟨(0, 9), List.mem_cons_self, Nat.zero_le _, before⟩
  · refine ⟨(11, maxCodePoint), List.mem_cons_of_mem _ (List.mem_singleton_self _), ?_,
      toNat_le_maxCodePoint c⟩
    omega

end CharSet

namespace Pattern

/-! ## Iterations -/

/-- A number of steps, one after the other. -/
def Iterated (once : Nat → Nat → Prop) : Nat → Nat → Nat → Prop
  | 0, start, stop => stop = start
  | count + 1, start, stop => ∃ middle, once start middle ∧ Iterated once count middle stop

namespace Iterated

variable {once : Nat → Nat → Prop} {first second count start middle stop : Nat}

theorem one (step : once start stop) : Iterated once 1 start stop := ⟨stop, step, rfl⟩

/-- A step on the spot can be repeated. -/
theorem replicate (step : once start start) : Iterated once count start start := by
  induction count with
  | zero => rfl
  | succ count ih => exact ⟨start, step, ih⟩

theorem append (before : Iterated once first start middle)
    (after : Iterated once second middle stop) : Iterated once (first + second) start stop := by
  induction first generalizing start with
  | zero =>
      cases before
      rwa [Nat.zero_add]
  | succ first ih =>
      obtain ⟨next, step, rest⟩ := before
      rw [Nat.succ_add]
      exact ⟨next, step, ih rest⟩

theorem split (steps : Iterated once (first + second) start stop) :
    ∃ middle, Iterated once first start middle ∧ Iterated once second middle stop := by
  induction first generalizing start with
  | zero => exact ⟨start, rfl, by rwa [Nat.zero_add] at steps⟩
  | succ first ih =>
      rw [Nat.succ_add] at steps
      obtain ⟨next, step, rest⟩ := steps
      obtain ⟨middle, before, after⟩ := ih rest
      exact ⟨middle, ⟨next, step, before⟩, after⟩

/-- Where a step goes nowhere, a number of them goes nowhere. -/
theorem eq_of_idle (idle : ∀ start stop, once start stop → stop = start)
    (steps : Iterated once count start stop) : stop = start := by
  induction count generalizing start with
  | zero => exact steps
  | succ count ih =>
      obtain ⟨next, step, rest⟩ := steps
      rw [ih rest, idle start next step]

end Iterated

/-- A number of iterations is within the bounds of a repetition. An upper bound below the lower one
counts as the lower one. -/
def WithinBounds (low : Nat) (high : Option Nat) (count : Nat) : Prop :=
  low ≤ count ∧ ∀ most, high = some most → count ≤ max low most

namespace Regular

/-! ## Matches -/

/-- The expression matches the text from `start` to `stop`. -/
def Matches (text : Subject) : Regular → (start stop : Nat) → Prop
  | empty, start, stop => stop = start
  | set chars, start, stop => ∃ c, text[start]? = some c ∧ chars.Holds c ∧ stop = start + 1
  | assertion condition, start, stop => condition.holds text start = true ∧ stop = start
  | group _ body, start, stop => body.Matches text start stop
  | seq first second, start, stop =>
      ∃ middle, first.Matches text start middle ∧ second.Matches text middle stop
  | alt first second, start, stop =>
      first.Matches text start stop ∨ second.Matches text start stop
  | repetition low high _ body, start, stop =>
      ∃ count, WithinBounds low high count ∧
        Iterated (fun start stop => body.Matches text start stop) count start stop

/-- Expressions match one after the other. -/
def MatchesAll (text : Subject) : List Regular → (start stop : Nat) → Prop
  | [], start, stop => stop = start
  | expression :: rest, start, stop =>
      ∃ middle, expression.Matches text start middle ∧ MatchesAll text rest middle stop

variable {text : Subject} {start stop : Nat}

theorem matchesAll_append {first second : List Regular} :
    MatchesAll text (first ++ second) start stop ↔
      ∃ middle, MatchesAll text first start middle ∧ MatchesAll text second middle stop := by
  induction first generalizing start with
  | nil => simp [MatchesAll]
  | cons expression rest ih =>
      simp only [List.cons_append, MatchesAll, ih]
      constructor
      · rintro ⟨next, here, middle, before, after⟩
        exact ⟨middle, ⟨next, here, before⟩, after⟩
      · rintro ⟨middle, ⟨next, here, before⟩, after⟩
        exact ⟨next, here, middle, before, after⟩

theorem matchesAll_of_cut {expressions : List Regular} {head count early late : Nat}
    (before : MatchesAll text (expressions.take head) start early)
    (between : MatchesAll text ((expressions.drop head).take count) early late)
    (after : MatchesAll text (expressions.drop (head + count)) late stop) :
    MatchesAll text expressions start stop := by
  rw [← List.take_append_drop head expressions, matchesAll_append]
  refine ⟨early, before, ?_⟩
  rw [← List.take_append_drop count (expressions.drop head), matchesAll_append, List.drop_drop]
  exact ⟨late, between, after⟩

/-! ## Sequences -/

theorem matchesAll_singleton {expression : Regular} :
    MatchesAll text [expression] start stop ↔ expression.Matches text start stop := by
  simp [MatchesAll]

theorem matchesAll_parts {expression : Regular} :
    MatchesAll text expression.parts start stop ↔ expression.Matches text start stop := by
  induction expression generalizing start stop with
  | empty => rfl
  | seq first second ihFirst ihSecond =>
      rw [parts, matchesAll_append]
      simp only [ihFirst, ihSecond]
      rfl
  | _ => exact matchesAll_singleton

theorem matches_append {first second : Regular} :
    (first.append second).Matches text start stop ↔
      ∃ middle, first.Matches text start middle ∧ second.Matches text middle stop := by
  induction first generalizing start with
  | empty => simp [append, Matches]
  | seq head tail _ ih =>
      simp only [append, Matches, ih]
      constructor
      · rintro ⟨early, here, late, between, after⟩
        exact ⟨late, ⟨early, here, between⟩, after⟩
      · rintro ⟨late, ⟨early, here, between⟩, after⟩
        exact ⟨early, here, late, between, after⟩
  | _ =>
      cases second with
      | empty => simp [append, Matches]
      | _ => rfl

theorem matches_concat {expressions : List Regular} :
    (concat expressions).Matches text start stop ↔ MatchesAll text expressions start stop := by
  induction expressions generalizing start with
  | nil => rfl
  | cons expression rest ih =>
      rw [concat, List.foldr_cons, matches_append, ← concat]
      simp only [ih]
      rfl

theorem flatten_pieces (expression : Regular) : expression.pieces.flatten = expression.parts :=
  List.flatten_splitBy _ _

/-! ## Choices -/

theorem matches_iff_alternatives {expression : Regular} :
    expression.Matches text start stop ↔
      ∃ choice ∈ expression.alternatives, choice.Matches text start stop := by
  induction expression with
  | alt first second ihFirst ihSecond =>
      simp only [Matches, alternatives, List.mem_append, ihFirst, ihSecond, or_and_right, exists_or]
  | _ => simp [alternatives]

theorem exists_matches_flatMap_alternatives {expressions : List Regular} :
    (∃ choice ∈ expressions.flatMap alternatives, choice.Matches text start stop) ↔
      ∃ expression ∈ expressions, expression.Matches text start stop := by
  constructor
  · rintro ⟨choice, member, here⟩
    obtain ⟨expression, isOne, isPart⟩ := List.mem_flatMap.mp member
    exact ⟨expression, isOne, matches_iff_alternatives.mpr ⟨choice, isPart, here⟩⟩
  · rintro ⟨expression, isOne, here⟩
    obtain ⟨choice, isPart, here⟩ := matches_iff_alternatives.mp here
    exact ⟨choice, List.mem_flatMap.mpr ⟨expression, isOne, isPart⟩, here⟩

theorem not_matches_emptySet : ¬(set CharSet.empty).Matches text start stop := by
  rintro ⟨c, _, held, _⟩
  exact CharSet.not_holds_empty held

theorem matches_unionOfSets {choices : List Regular} {chars : CharSet}
    (union : unionOfSets? choices = some chars) :
    (set chars).Matches text start stop ↔ ∃ choice ∈ choices, choice.Matches text start stop := by
  induction choices generalizing chars with
  | nil =>
      obtain rfl := Option.some.inj union
      exact iff_of_false not_matches_emptySet nofun
  | cons choice rest ih =>
      cases choice with
      | set first =>
          obtain ⟨others, unionRest, rfl⟩ := Option.map_eq_some_iff.mp union
          rw [List.exists_mem_cons_iff, ← ih unionRest]
          simp only [Matches, CharSet.holds_union, or_and_right, and_or_left, exists_or]
      | _ => cases union

theorem matches_ofAlternatives {choices : List Regular} :
    (ofAlternatives choices).Matches text start stop ↔
      ∃ choice ∈ choices, choice.Matches text start stop := by
  induction choices with
  | nil => exact iff_of_false not_matches_emptySet nofun
  | cons choice rest ih =>
      cases rest with
      | nil => simp [ofAlternatives]
      | cons next others =>
          rw [List.exists_mem_cons_iff, ← ih]
          rfl

theorem matches_choose {choices : List Regular} :
    (choose choices).Matches text start stop ↔
      ∃ choice ∈ choices, choice.Matches text start stop := by
  unfold choose
  split
  · simp
  · split
    · next joined =>
        rw [joinedSet?] at joined
        split at joined
        · exact matches_unionOfSets joined
        · cases joined
    · exact matches_ofAlternatives

theorem sharedStart_begins (first second : List (List Regular)) :
    sharedStart first second <+: first ∧ sharedStart first second <+: second := by
  induction first generalizing second with
  | nil => exact ⟨List.prefix_rfl, List.nil_prefix⟩
  | cons piece rest ih =>
      cases second with
      | nil => exact ⟨List.nil_prefix, List.prefix_rfl⟩
      | cons other others =>
          rw [sharedStart]
          split
          · next same =>
              obtain ⟨before, after⟩ := ih others
              exact ⟨List.cons_prefix_cons.mpr ⟨rfl, before⟩,
                List.cons_prefix_cons.mpr ⟨same, after⟩⟩
          · exact ⟨List.nil_prefix, List.nil_prefix⟩

theorem foldl_sharedStart_begins (choices : List Regular) (first : List (List Regular)) :
    choices.foldl (fun start choice => sharedStart start choice.pieces) first <+: first ∧
      ∀ choice ∈ choices, choices.foldl (fun start choice => sharedStart start choice.pieces)
        first <+: choice.pieces := by
  induction choices generalizing first with
  | nil => exact ⟨List.prefix_rfl, nofun⟩
  | cons choice rest ih =>
      obtain ⟨initial, others⟩ := ih (sharedStart first choice.pieces)
      obtain ⟨before, after⟩ := sharedStart_begins first choice.pieces
      exact ⟨initial.trans before, List.forall_mem_cons.mpr ⟨initial.trans after, others⟩⟩

/-- Every alternative begins with the pieces they have in common. -/
theorem commonStart_begins {choices : List Regular} {choice : Regular} (member : choice ∈ choices) :
    commonStart choices <+: choice.pieces := by
  unfold commonStart
  split
  · split
    · next first second others _ =>
        obtain ⟨initial, rest⟩ := foldl_sharedStart_begins (second :: others) first.pieces
        rcases List.mem_cons.mp member with rfl | later
        · exact initial
        · exact rest choice later
    · exact List.nil_prefix
  · exact List.nil_prefix

/-- An expression that begins with some pieces is these pieces and what is left of it. -/
theorem matches_of_start {expression : Regular} {first : List (List Regular)}
    (begins : first <+: expression.pieces) :
    expression.Matches text start stop ↔ ∃ middle, MatchesAll text first.flatten start middle ∧
      (concat (expression.pieces.drop first.length).flatten).Matches text middle stop := by
  simp only [matches_concat, ← matchesAll_append, ← List.flatten_append,
    List.prefix_iff_eq_append.mp begins, flatten_pieces, matchesAll_parts]

theorem matches_oneOf {expressions : List Regular} :
    (oneOf expressions).Matches text start stop ↔
      ∃ expression ∈ expressions, expression.Matches text start stop := by
  unfold oneOf
  dsimp only
  rw [← exists_matches_flatMap_alternatives]
  generalize expressions.flatMap alternatives = choices
  split
  · exact matches_choose
  · rw [matches_concat, matchesAll_append]
    simp only [matchesAll_singleton, matches_choose, exists_matches_flatMap_alternatives,
      List.mem_map, exists_exists_and_eq_and]
    constructor
    · rintro ⟨middle, before, choice, member, after⟩
      exact ⟨choice, member,
        (matches_of_start (commonStart_begins member)).mpr ⟨middle, before, after⟩⟩
    · rintro ⟨choice, member, here⟩
      obtain ⟨middle, before, after⟩ := (matches_of_start (commonStart_begins member)).mp here
      exact ⟨middle, before, choice, member, after⟩

/-! ## Repetitions -/

/-- The bounds of all repetitions are in order. -/
def HasOrderedBounds : Regular → Prop
  | empty | set _ | assertion _ => True
  | group _ body => body.HasOrderedBounds
  | seq first second => first.HasOrderedBounds ∧ second.HasOrderedBounds
  | alt first second => first.HasOrderedBounds ∧ second.HasOrderedBounds
  | repetition low high _ body =>
      (∀ most, high = some most → low ≤ most) ∧ body.HasOrderedBounds

theorem eq_of_consumesNothing {expression : Regular} (ordered : expression.HasOrderedBounds)
    (idle : expression.consumesNothing = true) (here : expression.Matches text start stop) :
    stop = start := by
  induction expression generalizing start stop with
  | empty => exact here
  | set chars => cases idle
  | assertion condition => exact here.2
  | group index body ih => exact ih ordered idle here
  | seq first second ihFirst ihSecond =>
      obtain ⟨idleFirst, idleSecond⟩ := Bool.and_eq_true_iff.mp idle
      obtain ⟨middle, before, after⟩ := here
      rw [ihSecond ordered.2 idleSecond after, ihFirst ordered.1 idleFirst before]
  | alt first second ihFirst ihSecond =>
      obtain ⟨idleFirst, idleSecond⟩ := Bool.and_eq_true_iff.mp idle
      rcases here with here | here
      · exact ihFirst ordered.1 idleFirst here
      · exact ihSecond ordered.2 idleSecond here
  | repetition low high greedy body ih =>
      obtain ⟨count, within, steps⟩ := here
      rcases Bool.or_eq_true_iff.mp idle with never | idle
      · have never : high = some 0 := beq_iff_eq.mp never
        have least := ordered.1 0 never
        have most := within.2 0 never
        obtain rfl : count = 0 := by omega
        exact steps
      · exact steps.eq_of_idle fun start stop here => ih ordered.2 idle here

/-- Of a body that consumes nothing, one iteration leads to the same end as many. -/
theorem normal_iterations {low count : Nat} {high : Option Nat} {body : Regular}
    (ordered : body.HasOrderedBounds) (idle : body.consumesNothing = true)
    (within : WithinBounds low high count)
    (steps : Iterated (fun start stop => body.Matches text start stop) count start stop) :
    ∃ count, WithinBounds (min low 1) (some (min (high.getD 1) 1)) count ∧
      Iterated (fun start stop => body.Matches text start stop) count start stop := by
  have stays : ∀ start stop, body.Matches text start stop → stop = start :=
    fun start stop here => eq_of_consumesNothing ordered idle here
  obtain rfl := steps.eq_of_idle stays
  cases count with
  | zero =>
      have least := within.1
      exact ⟨0, ⟨by omega, by omega⟩, rfl⟩
  | succ count =>
      obtain ⟨middle, step, _⟩ := steps
      obtain rfl := stays _ _ step
      refine ⟨1, ⟨by omega, fun most bound => ?_⟩, .one step⟩
      have allowed := within.2
      cases high with
      | none =>
          obtain rfl := Option.some.inj bound
          rw [Option.getD_none]
          omega
      | some high =>
          have bounded := allowed high rfl
          obtain rfl := Option.some.inj bound
          rw [Option.getD_some]
          omega

/-- A repetition; none and one iteration are written without one. -/
def bounded (low : Nat) (high : Option Nat) (greedy : Bool) (body : Regular) : Regular :=
  if low = 0 ∧ high = some 0 then empty
  else if low = 1 ∧ high = some 1 then body
  else repetition low high greedy body

theorem times_of_moves {low : Nat} {high : Option Nat} {greedy : Bool} {body : Regular}
    (moves : body.consumesNothing = false) :
    Regular.times low high greedy body = bounded low high greedy body := by
  unfold Regular.times bounded
  rw [moves]
  rfl

theorem times_of_idle {low : Nat} {high : Option Nat} {greedy : Bool} {body : Regular}
    (idle : body.consumesNothing = true) :
    Regular.times low high greedy body =
      bounded (min low 1) (some (min (high.getD 1) 1)) greedy body := by
  unfold Regular.times bounded
  rw [idle]
  rfl

theorem Matches.bounded {low count : Nat} {high : Option Nat} {body : Regular} (greedy : Bool)
    (within : WithinBounds low high count)
    (steps : Iterated (fun start stop => body.Matches text start stop) count start stop) :
    (Regular.bounded low high greedy body).Matches text start stop := by
  have least := within.1
  unfold Regular.bounded
  split
  · next never =>
      have most := within.2 0 never.2
      obtain rfl : count = 0 := by omega
      exact steps
  · split
    · next once =>
        have most := within.2 1 once.2
        obtain rfl : count = 1 := by omega
        obtain ⟨middle, step, rfl⟩ := steps
        exact step
    · exact ⟨count, within, steps⟩

theorem Matches.times {low : Nat} {high : Option Nat} {body : Regular} (greedy : Bool)
    (ordered : body.HasOrderedBounds)
    (here : (repetition low high greedy body).Matches text start stop) :
    (Regular.times low high greedy body).Matches text start stop := by
  obtain ⟨count, within, steps⟩ := here
  cases idle : body.consumesNothing with
  | false =>
      rw [times_of_moves idle]
      exact .bounded greedy within steps
  | true =>
      rw [times_of_idle idle]
      obtain ⟨count, within, steps⟩ := normal_iterations ordered idle within steps
      exact .bounded greedy within steps

theorem Matches.of_bounded {low : Nat} {high : Option Nat} {greedy : Bool} {body : Regular}
    (here : (Regular.bounded low high greedy body).Matches text start stop) :
    (repetition low high greedy body).Matches text start stop := by
  unfold Regular.bounded at here
  split at here
  · next never =>
      obtain ⟨rfl, rfl⟩ := never
      exact ⟨0, ⟨Nat.le_refl _, fun _ _ => Nat.zero_le _⟩, here⟩
  · split at here
    · next once =>
        obtain ⟨rfl, rfl⟩ := once
        exact ⟨1, ⟨Nat.le_refl _, fun _ _ => Nat.le_max_left _ _⟩, .one here⟩
    · exact here

/-- The normal form of a repetition matches what the repetition matches. -/
theorem matches_times {low : Nat} {high : Option Nat} {greedy : Bool} {body : Regular}
    (ordered : body.HasOrderedBounds) :
    (Regular.times low high greedy body).Matches text start stop ↔
      (repetition low high greedy body).Matches text start stop := by
  refine ⟨fun here => ?_, .times greedy ordered⟩
  cases idle : body.consumesNothing with
  | false =>
      rw [times_of_moves idle] at here
      exact here.of_bounded
  | true =>
      rw [times_of_idle idle] at here
      obtain ⟨count, ⟨least, most⟩, steps⟩ := here.of_bounded
      have stays : ∀ start stop, body.Matches text start stop → stop = start :=
        fun start stop here => eq_of_consumesNothing ordered idle here
      obtain rfl := steps.eq_of_idle stays
      cases count with
      | zero => exact ⟨0, ⟨by omega, fun _ _ => Nat.zero_le _⟩, rfl⟩
      | succ count =>
          obtain ⟨middle, step, _⟩ := steps
          obtain rfl := stays _ _ step
          have once := most _ rfl
          refine ⟨max low 1, ⟨Nat.le_max_left _ _, ?_⟩, .replicate step⟩
          rintro most rfl
          rw [Option.getD_some] at once
          omega

end Regular

end Pattern

end AgentClassifier
