import AgentClassifier.Proofs.Pattern.Bare
import AgentClassifier.Proofs.Pattern.Shared

/-!
The regular reading of a shared tree matches whatever the extended one does.

* `Refines` : one expression matches only what another one matches.
* `repeated_refines` : a possessive repetition is the only notation of which the readings differ.
* `Alternatives.refines` : the regular reading of a tree matches what the extended one matches.
-/

namespace AgentClassifier.Pattern

open Regular

/-- All matches of one expression are matches of the other one. -/
structure Refines (narrow wide : Regular) : Prop where
  narrowOrdered : narrow.HasOrderedBounds
  wideOrdered : wide.HasOrderedBounds
  matches_of {text : Subject} {start stop : Nat} :
    narrow.Matches text start stop → wide.Matches text start stop

theorem Iterated.imp {once further : Nat → Nat → Prop}
    (weaken : ∀ start stop, once start stop → further start stop) {count start stop : Nat}
    (steps : Iterated once count start stop) : Iterated further count start stop := by
  induction count generalizing start with
  | zero => exact steps
  | succ count ih =>
      obtain ⟨middle, step, rest⟩ := steps
      exact ⟨middle, weaken _ _ step, ih rest⟩

namespace Refines

variable {narrow wide : Regular} {narrows wides : List Regular}

theorem refl {expression : Regular} (ordered : expression.HasOrderedBounds) :
    Refines expression expression := ⟨ordered, ordered, id⟩

theorem times {low : Nat} {high : Option Nat} (greedy : Bool)
    (bounds : ∀ most ∈ high, low ≤ most) (refines : Refines narrow wide) :
    Refines (Regular.times low high greedy narrow) (Regular.times low high greedy wide) where
  narrowOrdered := .times greedy bounds refines.narrowOrdered
  wideOrdered := .times greedy bounds refines.wideOrdered
  matches_of here := by
    obtain ⟨count, within, steps⟩ := (matches_times refines.narrowOrdered).mp here
    exact (matches_times refines.wideOrdered).mpr
      ⟨count, within, steps.imp fun _ _ => refines.matches_of⟩

/-- Further iterations are allowed, not asked for. -/
theorem once_more (greedy : Bool) (refines : Refines narrow wide) :
    Refines narrow (Regular.times 1 none greedy wide) where
  narrowOrdered := refines.narrowOrdered
  wideOrdered := .times greedy nofun refines.wideOrdered
  matches_of here := (matches_times refines.wideOrdered).mpr
    ⟨1, ⟨Nat.le_refl 1, nofun⟩, .one (refines.matches_of here)⟩

theorem group (index : Nat) (refines : Refines narrow wide) :
    Refines (.group index narrow) (.group index wide) :=
  ⟨refines.narrowOrdered, refines.wideOrdered, refines.matches_of⟩

theorem forall_ordered (refines : List.Forall₂ Refines narrows wides) :
    (∀ expression ∈ narrows, expression.HasOrderedBounds) ∧
      ∀ expression ∈ wides, expression.HasOrderedBounds := by
  induction refines with
  | nil => exact ⟨nofun, nofun⟩
  | cons first _ ih =>
      exact ⟨List.forall_mem_cons.mpr ⟨first.narrowOrdered, ih.1⟩,
        List.forall_mem_cons.mpr ⟨first.wideOrdered, ih.2⟩⟩

theorem concat (refines : List.Forall₂ Refines narrows wides) :
    Refines (Regular.concat narrows) (Regular.concat wides) where
  narrowOrdered := kept_hasOrderedBounds.concat (forall_ordered refines).1
  wideOrdered := kept_hasOrderedBounds.concat (forall_ordered refines).2
  matches_of {text start stop} here := by
    rw [matches_concat] at here ⊢
    induction refines generalizing start with
    | nil => exact here
    | cons first _ ih =>
        obtain ⟨middle, before, after⟩ := here
        exact ⟨middle, first.matches_of before, ih after⟩

theorem oneOf (refines : List.Forall₂ Refines narrows wides) :
    Refines (Regular.oneOf narrows) (Regular.oneOf wides) where
  narrowOrdered := kept_hasOrderedBounds.oneOf (forall_ordered refines).1
  wideOrdered := kept_hasOrderedBounds.oneOf (forall_ordered refines).2
  matches_of here := by
    rw [matches_oneOf] at here ⊢
    induction refines with
    | nil => exact here
    | cons first _ ih =>
        rw [List.exists_mem_cons_iff] at here ⊢
        exact here.imp first.matches_of ih

end Refines

namespace Shared

theorem joined_refines {narrows wides : List Regular}
    (refines : List.Forall₂ Refines narrows wides) : Refines (joined narrows) (joined wides) := by
  cases refines with
  | nil => exact .oneOf .nil
  | cons first others =>
      cases others with
      | nil => exact first
      | cons second others => exact .oneOf (.cons first (.cons second others))

theorem primitive_ordered (mode : Mode) (primitive : Primitive) :
    (primitive.regular mode).HasOrderedBounds := by
  cases primitive <;> trivial

theorem repeated_refines (mode : Mode) (quantifier : Option Quantifier) {narrow wide : Regular}
    (refines : Refines narrow wide) :
    Refines (repeated .extended mode quantifier narrow) (repeated .regular mode quantifier wide) := by
  cases quantifier with
  | none => exact refines
  | some quantifier =>
      obtain ⟨bounds, reluctant, possessive⟩ := quantifier
      have once := refines.times (reluctant == mode.swapGreed) bounds.ordered
      cases possessive with
      | false => exact once
      | true => exact once.once_more _

mutual

theorem Atom.refines {mode : Mode} {count : Nat} {narrow : Regular} :
    (atom : Atom) → atom.regular? .extended mode count = some narrow →
    ∃ wide, atom.regular? .regular mode count = some wide ∧ Refines narrow wide
  | .plain .., means | .any, means | .start, means | .stop, means => by
      obtain rfl := Option.some.inj means
      exact ⟨_, rfl, .refl trivial⟩
  | .escape _, means | .condition .., means => by
      obtain ⟨read, isRead, rfl⟩ := Option.map_eq_some_iff.mp means
      exact ⟨_, Option.map_eq_some_iff.mpr ⟨read, isRead, rfl⟩, .refl (primitive_ordered _ _)⟩
  | .bracketed inside, means => by
      refine ⟨narrow, means, .refl ?_⟩
      rw [Atom.regular?] at means
      split at means
      · obtain rfl := Option.some.inj means
        trivial
      · cases means
  | .group _ body, means => by
      obtain ⟨narrows, areNarrow, rfl⟩ := Option.map_eq_some_iff.mp means
      obtain ⟨wides, areWide, refines⟩ := body.branches_refine areNarrow
      exact ⟨_, Option.map_eq_some_iff.mpr ⟨wides, areWide, rfl⟩, .group _ (joined_refines refines)⟩
  | .scoped _ body, means => by
      obtain ⟨narrows, areNarrow, rfl⟩ := Option.map_eq_some_iff.mp means
      obtain ⟨wides, areWide, refines⟩ := body.branches_refine areNarrow
      exact ⟨_, Option.map_eq_some_iff.mpr ⟨wides, areWide, rfl⟩, joined_refines refines⟩

theorem Sequence.refines {mode : Mode} {count : Nat} {narrows : List Regular} :
    (sequence : Sequence) → sequence.pieces? .extended mode count = some narrows →
    ∃ wides, sequence.pieces? .regular mode count = some wides ∧
      List.Forall₂ Refines narrows wides
  | .nil, means => by
      obtain rfl := Option.some.inj means
      exact ⟨[], rfl, .nil⟩
  | .piece atom gap quantifier rest, means => by
      rw [Sequence.pieces?] at means
      split at means
      · next narrow narrows isNarrow areNarrow =>
          obtain rfl := Option.some.inj means
          obtain ⟨wide, isWide, refines⟩ := atom.refines isNarrow
          obtain ⟨wides, areWide, others⟩ := rest.refines areNarrow
          refine ⟨_, ?_, .cons (repeated_refines mode quantifier refines) others⟩
          rw [Sequence.pieces?, isWide, areWide]
      · cases means
  | .switch _ rest, means => rest.refines means
  | .filler _ rest, means => rest.refines means

theorem Alternatives.branches_refine {mode : Mode} {count : Nat} {narrows : List Regular} :
    (tree : Alternatives) → tree.branches? .extended mode count = some narrows →
    ∃ wides, tree.branches? .regular mode count = some wides ∧ List.Forall₂ Refines narrows wides
  | .last sequence, means => by
      obtain ⟨narrows, areNarrow, rfl⟩ := Option.map_eq_some_iff.mp means
      obtain ⟨wides, areWide, refines⟩ := sequence.refines areNarrow
      exact ⟨_, Option.map_eq_some_iff.mpr ⟨wides, areWide, rfl⟩, .cons (.concat refines) .nil⟩
  | .more sequence rest, means => by
      rw [Alternatives.branches?] at means
      split at means
      · next narrow narrows areNarrow branches =>
          obtain rfl := Option.some.inj means
          obtain ⟨wide, areWide, refines⟩ := sequence.refines areNarrow
          obtain ⟨wides, areBranches, others⟩ := rest.branches_refine branches
          refine ⟨_, ?_, .cons (.concat refines) others⟩
          rw [Alternatives.branches?, areWide, areBranches]
      · cases means

end

/-- The regular reading of a tree matches what the extended one matches. -/
theorem Alternatives.refines {tree : Alternatives} {mode : Mode} {narrow : Regular}
    (means : tree.regular? .extended mode = some narrow) :
    ∃ wide, tree.regular? .regular mode = some wide ∧ Refines narrow wide := by
  obtain ⟨narrows, areNarrow, rfl⟩ := Option.map_eq_some_iff.mp means
  obtain ⟨wides, areWide, refines⟩ := tree.branches_refine areNarrow
  exact ⟨_, Option.map_eq_some_iff.mpr ⟨wides, areWide, rfl⟩, joined_refines refines⟩

end Shared

end AgentClassifier.Pattern
