import AgentClassifier.Error
import AgentClassifier.Proofs.Traversal

/-!
When something is built, and what is wrong otherwise.

* `Settles` : an outcome succeeds exactly under a condition, and fails with exactly the causes of a
  predicate.
* `Settles.map`, `Settles.bind` : one step after another.
-/

namespace AgentClassifier

open Traversal

/-- An outcome succeeds under a condition, and fails with the causes of a predicate. -/
structure Settles {γ : Type} (outcome : Except BuildError γ) (accepts : Prop)
    (refuses : BuildError → Prop) : Prop where
  ok_iff : (∃ result, outcome = .ok result) ↔ accepts
  error_iff : ∀ cause, outcome = .error cause ↔ refuses cause

namespace Settles

variable {γ δ : Type} {accepts acceptsNext : Prop} {refuses refusesNext : BuildError → Prop}
  {outcome : Except BuildError γ}

theorem ok {result : γ} (accepted : accepts) (never : ∀ cause, ¬ refuses cause) :
    Settles (.ok result : Except BuildError γ) accepts refuses where
  ok_iff := ⟨fun _ => accepted, fun _ => ⟨result, rfl⟩⟩
  error_iff cause := ⟨nofun, fun refused => absurd refused (never cause)⟩

theorem error {reason : BuildError} (refused : ¬ accepts)
    (only : ∀ cause, refuses cause ↔ cause = reason) :
    Settles (.error reason : Except BuildError γ) accepts refuses where
  ok_iff := ⟨nofun, fun accepted => absurd accepted refused⟩
  error_iff cause := by rw [Except.error.injEq, only, eq_comm]

theorem map (settles : Settles outcome accepts refuses) (f : γ → δ) :
    Settles (outcome.map f) accepts refuses where
  ok_iff := by
    rw [← settles.ok_iff]
    constructor
    · rintro ⟨_, mapped⟩
      obtain ⟨result, done, _⟩ := map_eq_ok_iff.mp mapped
      exact ⟨result, done⟩
    · rintro ⟨result, done⟩
      exact ⟨f result, map_eq_ok_iff.mpr ⟨result, done, rfl⟩⟩
  error_iff cause := map_eq_error_iff.trans (settles.error_iff cause)

/-- The second step is taken once the first one has succeeded. -/
theorem bind {next : γ → Except BuildError δ} (settles : Settles outcome accepts refuses)
    (settlesNext : ∀ result, Settles (next result) acceptsNext refusesNext) :
    Settles (outcome >>= next) (accepts ∧ acceptsNext)
      fun cause => refuses cause ∨ accepts ∧ refusesNext cause where
  ok_iff := by
    simp only [bind_eq_ok_iff]
    constructor
    · rintro ⟨last, result, done, doneNext⟩
      exact ⟨settles.ok_iff.mp ⟨result, done⟩, (settlesNext result).ok_iff.mp ⟨last, doneNext⟩⟩
    · rintro ⟨accepted, acceptedNext⟩
      obtain ⟨result, done⟩ := settles.ok_iff.mpr accepted
      obtain ⟨last, doneNext⟩ := (settlesNext result).ok_iff.mpr acceptedNext
      exact ⟨last, result, done, doneNext⟩
  error_iff cause := by
    rw [bind_eq_error_iff, settles.error_iff]
    refine or_congr_right ?_
    constructor
    · rintro ⟨result, done, failed⟩
      exact ⟨settles.ok_iff.mp ⟨result, done⟩, ((settlesNext result).error_iff cause).mp failed⟩
    · rintro ⟨accepted, refused⟩
      obtain ⟨result, done⟩ := settles.ok_iff.mpr accepted
      exact ⟨result, done, ((settlesNext result).error_iff cause).mpr refused⟩

theorem congr (settles : Settles outcome accepts refuses) (alike : accepts ↔ acceptsNext)
    (alikeError : ∀ cause, refuses cause ↔ refusesNext cause) :
    Settles outcome acceptsNext refusesNext where
  ok_iff := settles.ok_iff.trans alike
  error_iff cause := (settles.error_iff cause).trans (alikeError cause)

end Settles

end AgentClassifier
