import Mathlib.Data.List.Forall2
import AgentClassifier.Pattern.Extended
import AgentClassifier.Proofs.Pattern.Language

/-!
Extended expressions without references and look-around, as regular ones.

* `Extended.bare?` : the regular expression whose matches include all matches of the expression.
* `Extended.bare_of_toRegular` : where matching needs no machine, it is the one that is searched.
* `Extended.hasOrderedBounds_of_bare` : its bounds are in order.
* `Extended.WellFormed` : every group has an index below a bound, and every choice an alternative.
-/

namespace AgentClassifier.Pattern

/-! ## Normal forms -/

namespace Regular

/-- A property of expressions that the normal forms keep. -/
structure Kept (property : Regular → Prop) : Prop where
  empty : property empty
  set : ∀ chars, property (set chars)
  seq : ∀ {first second}, property (seq first second) ↔ property first ∧ property second
  alt : ∀ {first second}, property (alt first second) ↔ property first ∧ property second

namespace Kept

variable {property : Regular → Prop} (kept : Kept property) {expressions : List Regular}
include kept

theorem parts {expression : Regular} (holds : property expression) :
    ∀ part ∈ expression.parts, property part := by
  induction expression with
  | empty => nofun
  | seq first second ihFirst ihSecond =>
      obtain ⟨first, second⟩ := kept.seq.mp holds
      rw [Regular.parts, List.forall_mem_append]
      exact ⟨ihFirst first, ihSecond second⟩
  | _ => exact List.forall_mem_singleton.mpr holds

theorem append {first second : Regular} (holds : property first) (further : property second) :
    property (first.append second) := by
  induction first with
  | empty => exact further
  | seq head tail _ ih =>
      obtain ⟨head, tail⟩ := kept.seq.mp holds
      exact kept.seq.mpr ⟨head, ih tail⟩
  | _ =>
      cases second with
      | empty => exact holds
      | _ => exact kept.seq.mpr ⟨holds, further⟩

theorem concat (all : ∀ expression ∈ expressions, property expression) :
    property (Regular.concat expressions) := by
  induction expressions with
  | nil => exact kept.empty
  | cons expression rest ih =>
      obtain ⟨first, others⟩ := List.forall_mem_cons.mp all
      exact kept.append first (ih others)

theorem alternatives {expression : Regular} (holds : property expression) :
    ∀ choice ∈ expression.alternatives, property choice := by
  induction expression with
  | alt first second ihFirst ihSecond =>
      obtain ⟨first, second⟩ := kept.alt.mp holds
      rw [Regular.alternatives, List.forall_mem_append]
      exact ⟨ihFirst first, ihSecond second⟩
  | _ => exact List.forall_mem_singleton.mpr holds

theorem flatMap_alternatives (all : ∀ expression ∈ expressions, property expression) :
    ∀ choice ∈ expressions.flatMap Regular.alternatives, property choice :=
  List.forall_mem_flatMap.mpr fun expression isOne => kept.alternatives (all expression isOne)

theorem ofAlternatives (all : ∀ expression ∈ expressions, property expression) :
    property (Regular.ofAlternatives expressions) := by
  induction expressions with
  | nil => exact kept.set _
  | cons choice rest ih =>
      obtain ⟨first, others⟩ := List.forall_mem_cons.mp all
      cases rest with
      | nil => exact first
      | cons => exact kept.alt.mpr ⟨first, ih others⟩

theorem choose (all : ∀ expression ∈ expressions, property expression) :
    property (Regular.choose expressions) := by
  unfold Regular.choose
  split
  · exact List.forall_mem_singleton.mp all
  · split
    · exact kept.set _
    · exact kept.ofAlternatives all

/-- The parts of the pieces of an expression are those of the expression. -/
theorem pieces {expression : Regular} (holds : property expression) {some : List (List Regular)}
    (among : some ⊆ expression.pieces) : ∀ part ∈ some.flatten, property part := by
  intro part member
  obtain ⟨piece, isPiece, isPart⟩ := List.mem_flatten.mp member
  refine kept.parts holds part ?_
  rw [← flatten_pieces]
  exact List.mem_flatten.mpr ⟨piece, among isPiece, isPart⟩

theorem oneOf (all : ∀ expression ∈ expressions, property expression) :
    property (Regular.oneOf expressions) := by
  have all := kept.flatMap_alternatives all
  unfold Regular.oneOf
  dsimp only
  generalize expressions.flatMap Regular.alternatives = choices at all
  split
  · exact kept.choose all
  · next someStart =>
      refine kept.concat (List.forall_mem_append.mpr ⟨?_, List.forall_mem_singleton.mpr ?_⟩)
      · cases choices with
        | nil => exact absurd rfl someStart
        | cons choice others =>
            exact kept.pieces (all choice List.mem_cons_self)
              (commonStart_begins List.mem_cons_self).subset
      · refine kept.choose (kept.flatMap_alternatives (List.forall_mem_map.mpr ?_))
        exact fun choice member => kept.concat (kept.pieces (all choice member)
          (List.drop_subset _ _))

end Kept

theorem kept_hasOrderedBounds : Kept HasOrderedBounds where
  empty := trivial
  set _ := trivial
  seq := Iff.rfl
  alt := Iff.rfl

theorem HasOrderedBounds.bounded {low : Nat} {high : Option Nat} {body : Regular}
    (greedy : Bool) (bounds : ∀ most ∈ high, low ≤ most) (ordered : body.HasOrderedBounds) :
    (Regular.bounded low high greedy body).HasOrderedBounds := by
  unfold Regular.bounded
  split
  · trivial
  · split
    · exact ordered
    · exact ⟨bounds, ordered⟩

theorem HasOrderedBounds.times {low : Nat} {high : Option Nat} {body : Regular} (greedy : Bool)
    (bounds : ∀ most ∈ high, low ≤ most) (ordered : body.HasOrderedBounds) :
    (Regular.times low high greedy body).HasOrderedBounds := by
  cases idle : body.consumesNothing with
  | false =>
      rw [times_of_moves idle]
      exact .bounded greedy bounds ordered
  | true =>
      rw [times_of_idle idle]
      refine .bounded greedy (fun most bound => ?_) ordered
      obtain rfl := Option.some.inj bound
      cases high with
      | none => exact Nat.min_le_right _ _
      | some high =>
          have least := bounds high rfl
          rw [Option.getD_some]
          omega

end Regular

namespace Extended

/-! ## Bare expressions -/

mutual

/-- The regular expression whose matches include all matches of the expression, if it has no
references, no look-around and no conditionals and leaves the start of the match where it is. What
is matched atomically is matched by its body. -/
def bare? : Extended → Option Regular
  | empty => some .empty
  | literal c ignoreCase =>
      let chars := CharSet.singleton c
      some (.set (if ignoreCase then chars.foldCase else chars))
  | any lineFeed => some (.set (if lineFeed then CharSet.all else CharSet.notLineFeed))
  | set chars => some (.set chars)
  | assertion condition => some (.assertion condition)
  | seq parts => (allBare? parts).map Regular.concat
  | alt choices => (allBare? choices).map Regular.oneOf
  | group index body => body.bare?.map (Regular.group index)
  | repetition low high greedy body =>
      if ∀ most ∈ high, low ≤ most then body.bare?.map (Regular.times low high greedy) else none
  | atomic body => body.bare?
  | look .. | backref _ | recorded _ | conditional .. | resetStart | searchStart => none

def allBare? : List Extended → Option (List Regular)
  | [] => some []
  | part :: rest =>
      match part.bare?, allBare? rest with
      | some part, some rest => some (part :: rest)
      | _, _ => none

end

theorem allBare_cons {part : Extended} {rest : List Extended} {expressions : List Regular} :
    allBare? (part :: rest) = some expressions ↔ ∃ first others, part.bare? = some first ∧
      allBare? rest = some others ∧ expressions = first :: others := by
  rw [allBare?]
  split
  · next first others isFirst areOthers => simp [isFirst, areOthers, eq_comm]
  · next missing =>
      simp only [reduceCtorEq, false_iff, not_exists, not_and]
      exact fun first others isFirst areOthers => absurd areOthers (missing first others isFirst)

theorem allBare_iff_forall₂ {parts : List Extended} {expressions : List Regular} :
    allBare? parts = some expressions ↔
      List.Forall₂ (fun part expression => part.bare? = some expression) parts expressions := by
  induction parts generalizing expressions with
  | nil => simp [allBare?, eq_comm]
  | cons part rest ih =>
      rw [allBare_cons, List.forall₂_cons_left_iff]
      simp only [ih, eq_comm]

theorem allBare_take {parts : List Extended} {expressions : List Regular}
    (bare : allBare? parts = some expressions) (count : Nat) :
    allBare? (parts.take count) = some (expressions.take count) :=
  allBare_iff_forall₂.mpr (List.forall₂_take count (allBare_iff_forall₂.mp bare))

theorem allBare_drop {parts : List Extended} {expressions : List Regular}
    (bare : allBare? parts = some expressions) (count : Nat) :
    allBare? (parts.drop count) = some (expressions.drop count) :=
  allBare_iff_forall₂.mpr (List.forall₂_drop count (allBare_iff_forall₂.mp bare))

theorem allToRegular_cons {part : Extended} {rest : List Extended}
    {expressions : List Regular} :
    allToRegular? (part :: rest) = some expressions ↔ ∃ first others,
      part.toRegular? = some first ∧ allToRegular? rest = some others ∧
        expressions = first :: others := by
  rw [allToRegular?]
  split
  · next first others isFirst areOthers => simp [isFirst, areOthers, eq_comm]
  · next missing =>
      simp only [reduceCtorEq, false_iff, not_exists, not_and]
      exact fun first others isFirst areOthers => absurd areOthers (missing first others isFirst)

mutual

theorem hasOrderedBounds_of_bare : (expression : Extended) → {regular : Regular} →
    expression.bare? = some regular → regular.HasOrderedBounds
  | empty, _, rfl | literal .., _, rfl | any _, _, rfl | set _, _, rfl | assertion _, _, rfl =>
      trivial
  | seq parts, regular, bare => by
      obtain ⟨expressions, areParts, rfl⟩ := Option.map_eq_some_iff.mp bare
      exact Regular.kept_hasOrderedBounds.concat (hasOrderedBounds_of_allBare parts areParts)
  | alt choices, regular, bare => by
      obtain ⟨expressions, areChoices, rfl⟩ := Option.map_eq_some_iff.mp bare
      exact Regular.kept_hasOrderedBounds.oneOf (hasOrderedBounds_of_allBare choices areChoices)
  | group index body, regular, bare => by
      obtain ⟨inner, isBody, rfl⟩ := Option.map_eq_some_iff.mp bare
      have ordered := hasOrderedBounds_of_bare body isBody
      exact ordered
  | repetition low high greedy body, regular, bare => by
      rw [bare?] at bare
      split at bare
      · next bounds =>
          obtain ⟨inner, isBody, rfl⟩ := Option.map_eq_some_iff.mp bare
          exact .times greedy bounds (hasOrderedBounds_of_bare body isBody)
      · cases bare
  | atomic body, _, bare => hasOrderedBounds_of_bare body bare

theorem hasOrderedBounds_of_allBare : (parts : List Extended) → {expressions : List Regular} →
    allBare? parts = some expressions → ∀ expression ∈ expressions, expression.HasOrderedBounds
  | [], _, rfl => List.forall_mem_nil _
  | part :: rest, expressions, bare => by
      obtain ⟨first, others, isFirst, areOthers, rfl⟩ := allBare_cons.mp bare
      exact List.forall_mem_cons.mpr
        ⟨hasOrderedBounds_of_bare part isFirst, hasOrderedBounds_of_allBare rest areOthers⟩

end

theorem toRegular_repetition {low : Nat} {high : Option Nat} {greedy : Bool} {body : Extended}
    {regular : Regular} (same : (repetition low high greedy body).toRegular? = some regular) :
    (∀ most ∈ high, low ≤ most) ∧
      ∃ inner, body.toRegular? = some inner ∧ Regular.times low high greedy inner = regular := by
  unfold toRegular? at same
  cases high with
  | none =>
      dsimp only at same
      split at same
      · exact ⟨nofun, Option.map_eq_some_iff.mp same⟩
      · cases same
  | some high =>
      dsimp only at same
      split at same
      · next bounded =>
          refine ⟨fun most bound => ?_, Option.map_eq_some_iff.mp same⟩
          obtain rfl := Option.some.inj bound
          exact of_decide_eq_true (Bool.and_eq_true_iff.mp bounded).1
      · cases same

mutual

/-- Where matching needs no machine, the bare expression is the one that is searched. -/
theorem bare_of_toRegular : (expression : Extended) → {regular : Regular} →
    expression.toRegular? = some regular → expression.bare? = some regular
  | empty, _, same | literal .., _, same | any _, _, same | set _, _, same
  | assertion _, _, same => same
  | seq parts, regular, same => by
      obtain ⟨expressions, areParts, rfl⟩ := Option.map_eq_some_iff.mp same
      rw [bare?, allBare_of_allToRegular parts areParts, Option.map_some]
  | alt choices, regular, same => by
      obtain ⟨expressions, areChoices, rfl⟩ := Option.map_eq_some_iff.mp same
      rw [bare?, allBare_of_allToRegular choices areChoices, Option.map_some]
  | group index body, regular, same => by
      obtain ⟨inner, isBody, rfl⟩ := Option.map_eq_some_iff.mp same
      rw [bare?, bare_of_toRegular body isBody, Option.map_some]
  | repetition low high greedy body, regular, same => by
      obtain ⟨bounds, inner, isBody, rfl⟩ := toRegular_repetition same
      rw [bare?, if_pos bounds, bare_of_toRegular body isBody, Option.map_some]

theorem allBare_of_allToRegular : (parts : List Extended) → {expressions : List Regular} →
    allToRegular? parts = some expressions → allBare? parts = some expressions
  | [], _, same => same
  | part :: rest, expressions, same => by
      obtain ⟨first, others, isFirst, areOthers, rfl⟩ := allToRegular_cons.mp same
      exact allBare_cons.mpr ⟨first, others, bare_of_toRegular part isFirst,
        allBare_of_allToRegular rest areOthers, rfl⟩

end

/-! ## Well-formed expressions -/

mutual

/-- Every group has an index below a bound, and every choice has an alternative. -/
def WellFormed (bound : Nat) : Extended → Prop
  | empty | literal .. | any _ | set _ | assertion _ | backref _ | recorded _ | resetStart
  | searchStart => True
  | seq parts => AllWellFormed bound parts
  | alt choices => choices ≠ [] ∧ AllWellFormed bound choices
  | group index body => index < bound ∧ body.WellFormed bound
  | repetition _ _ _ body => body.WellFormed bound
  | look _ _ body => body.WellFormed bound
  | atomic body => body.WellFormed bound
  | conditional condition yes no =>
      condition.WellFormed bound ∧ yes.WellFormed bound ∧ no.WellFormed bound

def AllWellFormed (bound : Nat) : List Extended → Prop
  | [] => True
  | part :: rest => part.WellFormed bound ∧ AllWellFormed bound rest

end

theorem allWellFormed_iff {bound : Nat} {parts : List Extended} :
    AllWellFormed bound parts ↔ ∀ part ∈ parts, part.WellFormed bound := by
  induction parts with
  | nil => simp [AllWellFormed]
  | cons part rest ih => rw [AllWellFormed, ih, List.forall_mem_cons]

namespace AllWellFormed

variable {bound : Nat} {parts : List Extended}

theorem take (all : AllWellFormed bound parts) (count : Nat) :
    AllWellFormed bound (parts.take count) :=
  allWellFormed_iff.mpr fun part member =>
    allWellFormed_iff.mp all part (List.mem_of_mem_take member)

theorem drop (all : AllWellFormed bound parts) (count : Nat) :
    AllWellFormed bound (parts.drop count) :=
  allWellFormed_iff.mpr fun part member =>
    allWellFormed_iff.mp all part (List.mem_of_mem_drop member)

end AllWellFormed

end Extended

namespace Regular

/-- Every group of the expression has an index below a bound. -/
def GroupsBelow (bound : Nat) (expression : Regular) : Prop :=
  ∀ index ∈ expression.groups, index < bound

theorem kept_groupsBelow (bound : Nat) : Kept (GroupsBelow bound) where
  empty := List.forall_mem_nil _
  set _ := List.forall_mem_nil _
  seq := List.forall_mem_append
  alt := List.forall_mem_append

theorem GroupsBelow.bounded {bound low : Nat} {high : Option Nat} {body : Regular}
    (greedy : Bool) (below : body.GroupsBelow bound) :
    (Regular.bounded low high greedy body).GroupsBelow bound := by
  unfold Regular.bounded
  split
  · exact List.forall_mem_nil _
  · split
    · exact below
    · exact below

theorem GroupsBelow.times {bound low : Nat} {high : Option Nat} {body : Regular}
    (greedy : Bool) (below : body.GroupsBelow bound) :
    (Regular.times low high greedy body).GroupsBelow bound := by
  cases idle : body.consumesNothing with
  | false =>
      rw [times_of_moves idle]
      exact .bounded greedy below
  | true =>
      rw [times_of_idle idle]
      exact .bounded greedy below

end Regular

namespace Extended

variable {bound : Nat}

mutual

/-- What is read from a well-formed expression records no other groups. -/
theorem groupsBelow_of_bare : (expression : Extended) → {regular : Regular} →
    expression.bare? = some regular → expression.WellFormed bound → regular.GroupsBelow bound
  | empty, _, rfl, _ | literal .., _, rfl, _ | any _, _, rfl, _ | set _, _, rfl, _
  | assertion _, _, rfl, _ => List.forall_mem_nil _
  | seq parts, regular, bare, below => by
      obtain ⟨expressions, areParts, rfl⟩ := Option.map_eq_some_iff.mp bare
      exact (Regular.kept_groupsBelow bound).concat (groupsBelow_of_allBare parts areParts below)
  | alt choices, regular, bare, below => by
      obtain ⟨expressions, areChoices, rfl⟩ := Option.map_eq_some_iff.mp bare
      exact (Regular.kept_groupsBelow bound).oneOf
        (groupsBelow_of_allBare choices areChoices below.2)
  | group index body, regular, bare, below => by
      obtain ⟨inner, isBody, rfl⟩ := Option.map_eq_some_iff.mp bare
      exact List.forall_mem_cons.mpr ⟨below.1, groupsBelow_of_bare body isBody below.2⟩
  | repetition low high greedy body, regular, bare, below => by
      rw [bare?] at bare
      split at bare
      · obtain ⟨inner, isBody, rfl⟩ := Option.map_eq_some_iff.mp bare
        exact .times greedy (groupsBelow_of_bare body isBody below)
      · cases bare
  | atomic body, _, bare, below => groupsBelow_of_bare body bare below

theorem groupsBelow_of_allBare : (parts : List Extended) → {expressions : List Regular} →
    allBare? parts = some expressions → AllWellFormed bound parts →
      ∀ expression ∈ expressions, expression.GroupsBelow bound
  | [], _, rfl, _ => List.forall_mem_nil _
  | part :: rest, expressions, bare, below => by
      obtain ⟨first, others, isFirst, areOthers, rfl⟩ := allBare_cons.mp bare
      exact List.forall_mem_cons.mpr
        ⟨groupsBelow_of_bare part isFirst below.1, groupsBelow_of_allBare rest areOthers below.2⟩

end

end Extended

end AgentClassifier.Pattern
