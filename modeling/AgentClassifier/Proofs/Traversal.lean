import Mathlib.Data.List.Forall2

/-!
Lists built in order, with the first failure as the result.

* `bind_eq_ok_iff` : two steps succeed if the first does and then the second.
* `mapM_eq_ok_iff`, `mapM_eq_some_iff` : a traversal succeeds exactly with the list of the single
  results.
* `exists_of_mapM_eq_error` : a traversal fails with the first failure.
* `exists_mem_left_of_forall₂`, `exists_mem_right_of_forall₂` : every element is related to one.
* `exists_forall₂_iff` : a list of related elements can be made if there is one for each.
* `forall₂_replace` : one element may stand for another one.
* `exists_mem_congr_forall₂` : one element has a property if one of the related ones has its own.
* `findSome?_filter` : elements that are left out make no answer.
* `findSome?_congr_forall₂` : related elements that answer alike make the same first answer.
-/

namespace AgentClassifier.Traversal

variable {ε α β γ : Type}

theorem bind_eq_ok_iff {first : Except ε α} {next : α → Except ε β} {y : β} :
    (first >>= next) = .ok y ↔ ∃ x, first = .ok x ∧ next x = .ok y := by
  cases first with
  | error cause => simp [bind, Except.bind]
  | ok x => simp [bind, Except.bind]

instance decidableEqError [DecidableEq ε] (cause : ε) :
    (outcome : Except ε α) → Decidable (outcome = .error cause)
  | .error other => decidable_of_iff (other = cause) (by rw [Except.error.injEq])
  | .ok _ => isFalse fun impossible => by cases impossible

theorem bind_eq_error_iff {first : Except ε α} {next : α → Except ε β} {cause : ε} :
    (first >>= next) = .error cause ↔
      first = .error cause ∨ ∃ x, first = .ok x ∧ next x = .error cause := by
  cases first with
  | error other => simp [bind, Except.bind]
  | ok x => simp [bind, Except.bind]

theorem map_eq_ok_iff {first : Except ε α} {f : α → β} {y : β} :
    first.map f = .ok y ↔ ∃ x, first = .ok x ∧ f x = y := by
  cases first with
  | error cause => simp [Except.map]
  | ok x => simp [Except.map]

theorem map_eq_error_iff {first : Except ε α} {f : α → β} {cause : ε} :
    first.map f = .error cause ↔ first = .error cause := by
  cases first with
  | error other => simp [Except.map]
  | ok x => simp [Except.map]

theorem mapM_cons_eq_ok_iff {step : α → Except ε β} {x : α} {xs : List α} {ys : List β} :
    (x :: xs).mapM step = .ok ys ↔
      ∃ y rest, step x = .ok y ∧ xs.mapM step = .ok rest ∧ ys = y :: rest := by
  rw [List.mapM_cons, bind_eq_ok_iff]
  constructor
  · rintro ⟨y, first, done⟩
    obtain ⟨rest, others, done⟩ := bind_eq_ok_iff.mp done
    cases done
    exact ⟨y, rest, first, others, rfl⟩
  · rintro ⟨y, rest, first, others, rfl⟩
    exact ⟨y, first, bind_eq_ok_iff.mpr ⟨rest, others, rfl⟩⟩

/-- A traversal that succeeds has one result for each element, in the same order. -/
theorem mapM_eq_ok_iff {step : α → Except ε β} {xs : List α} {ys : List β} :
    xs.mapM step = .ok ys ↔ List.Forall₂ (fun x y => step x = .ok y) xs ys := by
  induction xs generalizing ys with
  | nil =>
      rw [List.mapM_nil, List.forall₂_nil_left_iff]
      constructor
      · intro done
        cases done
        rfl
      · rintro rfl
        rfl
  | cons x xs ih =>
      rw [mapM_cons_eq_ok_iff, List.forall₂_cons_left_iff]
      constructor
      · rintro ⟨y, rest, first, others, rfl⟩
        exact ⟨y, rest, first, ih.mp others, rfl⟩
      · rintro ⟨y, rest, first, others, rfl⟩
        exact ⟨y, rest, first, ih.mpr others, rfl⟩

/-- The same for steps that only fail or not. -/
theorem mapM_eq_some_iff {step : α → Option β} {xs : List α} {ys : List β} :
    xs.mapM step = some ys ↔ List.Forall₂ (fun x y => step x = some y) xs ys := by
  induction xs generalizing ys with
  | nil => simp [eq_comm]
  | cons x xs ih =>
      simp only [List.mapM_cons, bind, pure, Option.bind_eq_some_iff, Option.some.injEq, ih,
        List.forall₂_cons_left_iff]
      constructor
      · rintro ⟨y, first, rest, others, rfl⟩
        exact ⟨y, rest, first, others, rfl⟩
      · rintro ⟨y, rest, first, others, rfl⟩
        exact ⟨y, first, rest, others, rfl⟩

/-- A traversal that fails has the failure of the first element that fails. -/
theorem exists_of_mapM_eq_error {step : α → Except ε β} {xs : List α} {cause : ε}
    (failed : xs.mapM step = .error cause) :
    ∃ before x after, xs = before ++ x :: after ∧ (∀ y ∈ before, ∃ z, step y = .ok z) ∧
      step x = .error cause := by
  induction xs with
  | nil => cases failed
  | cons x xs ih =>
      rw [List.mapM_cons] at failed
      cases first : step x with
      | error other =>
          rw [first] at failed
          cases failed
          exact ⟨[], x, xs, rfl, fun _ member => absurd member List.not_mem_nil, first⟩
      | ok z =>
          cases others : xs.mapM step with
          | error other =>
              rw [first, others] at failed
              cases failed
              obtain ⟨before, y, after, split, passed, failed⟩ := ih others
              refine ⟨x :: before, y, after, by rw [split, List.cons_append], ?_, failed⟩
              exact List.forall_mem_cons.mpr ⟨⟨z, first⟩, passed⟩
          | ok rest =>
              rw [first, others] at failed
              cases failed

theorem findSome?_filter (test : α → Bool) (f : α → Option β) (xs : List α) :
    (xs.filter test).findSome? f = xs.findSome? fun x => if test x then f x else none := by
  induction xs with
  | nil => rfl
  | cons x xs ih =>
      rw [List.filter_cons, List.findSome?_cons]
      cases test x with
      | true => rw [if_pos rfl, if_pos rfl, List.findSome?_cons, ih]
      | false => simpa using ih

theorem exists_mem_right_of_forall₂ {R : α → β → Prop} {xs : List α} {ys : List β}
    (related : List.Forall₂ R xs ys) {x : α} (member : x ∈ xs) : ∃ y ∈ ys, R x y := by
  induction related with
  | nil => exact absurd member List.not_mem_nil
  | cons first _ ih =>
      rcases List.mem_cons.mp member with rfl | later
      · exact ⟨_, List.mem_cons_self, first⟩
      · obtain ⟨y, place, same⟩ := ih later
        exact ⟨y, List.mem_cons_of_mem _ place, same⟩

theorem exists_mem_left_of_forall₂ {R : α → β → Prop} {xs : List α} {ys : List β}
    (related : List.Forall₂ R xs ys) {y : β} (member : y ∈ ys) : ∃ x ∈ xs, R x y :=
  exists_mem_right_of_forall₂ (List.Forall₂.flip (R := flip R) related) member

/-- A list of related elements can be made if there is one for each element. -/
theorem exists_forall₂_iff {R : α → β → Prop} {xs : List α} :
    (∃ ys, List.Forall₂ R xs ys) ↔ ∀ x ∈ xs, ∃ y, R x y := by
  constructor
  · rintro ⟨ys, related⟩ x member
    obtain ⟨y, _, same⟩ := exists_mem_right_of_forall₂ related member
    exact ⟨y, same⟩
  · intro each
    induction xs with
    | nil => exact ⟨[], .nil⟩
    | cons x xs ih =>
        obtain ⟨⟨y, first⟩, each⟩ := List.forall_mem_cons.mp each
        obtain ⟨ys, related⟩ := ih each
        exact ⟨y :: ys, .cons first related⟩

/-- One element may stand for another one that is related to the same. -/
theorem forall₂_replace {R : α → β → Prop} {before after : List α} {x other : α} {ys : List β}
    (related : List.Forall₂ R (before ++ x :: after) ys) (alike : ∀ y ∈ ys, R x y → R other y) :
    List.Forall₂ R (before ++ other :: after) ys := by
  induction before generalizing ys with
  | nil =>
      obtain ⟨y, rest, first, others, rfl⟩ := List.forall₂_cons_left_iff.mp related
      exact .cons (alike y List.mem_cons_self first) others
  | cons z before ih =>
      obtain ⟨y, rest, first, others, rfl⟩ := List.forall₂_cons_left_iff.mp related
      exact .cons first (ih others fun y member => alike y (List.mem_cons_of_mem _ member))

theorem exists_mem_congr_forall₂ {R : α → β → Prop} {P : α → Prop} {Q : β → Prop} {xs : List α}
    {ys : List β} (related : List.Forall₂ R xs ys) (alike : ∀ x y, R x y → (P x ↔ Q y)) :
    (∃ x ∈ xs, P x) ↔ ∃ y ∈ ys, Q y := by
  constructor
  · rintro ⟨x, member, holds⟩
    obtain ⟨y, place, same⟩ := exists_mem_right_of_forall₂ related member
    exact ⟨y, place, (alike x y same).mp holds⟩
  · rintro ⟨y, member, holds⟩
    obtain ⟨x, place, same⟩ := exists_mem_left_of_forall₂ related member
    exact ⟨x, place, (alike x y same).mpr holds⟩

theorem findSome?_congr_forall₂ {R : α → β → Prop} {f : α → Option γ} {g : β → Option γ}
    {xs : List α} {ys : List β} (related : List.Forall₂ R xs ys)
    (alike : ∀ x y, R x y → f x = g y) : xs.findSome? f = ys.findSome? g := by
  induction related with
  | nil => rfl
  | cons first _ ih => rw [List.findSome?_cons, List.findSome?_cons, alike _ _ first, ih]

end AgentClassifier.Traversal
