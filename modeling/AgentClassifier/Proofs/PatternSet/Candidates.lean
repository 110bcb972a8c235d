import AgentClassifier.PatternSet
import Mathlib.Data.List.Basic

/-!
Which entries of a set of patterns are candidates for a text.

* `occursFolded_iff` : the search for a literal decides `OccursIn`, occurrence up to ASCII case.
* `IsExact` : a search for literals reports those that occur and no others; `hits` is exact.
* `zip_literalToEntry` : each literal stands beside the index of the entry it was taken from.
* `candidates_assemble` : with an exact search, an entry is a candidate exactly when it has no
  literals or when one of its own occurs.
-/

namespace AgentClassifier.PatternSet

/-! ## Occurrence of literals -/

/-- A literal occurs in a text, up to ASCII case. -/
def OccursIn (literal text : List Char) : Prop :=
  literal.map foldAscii <:+: text.map foldAscii

theorem startsWithFolded_iff {literal text : List Char} :
    startsWithFolded literal text = true ↔ literal.map foldAscii <+: text.map foldAscii := by
  induction literal generalizing text with
  | nil => simp [startsWithFolded]
  | cons l literal ih =>
      cases text with
      | nil => simp [startsWithFolded]
      | cons c text =>
          rw [startsWithFolded, Bool.and_eq_true, beq_iff_eq, ih, List.map_cons, List.map_cons,
            List.cons_prefix_cons]

theorem occursFolded_iff {literal text : List Char} :
    occursFolded literal text = true ↔ OccursIn literal text := by
  induction text with
  | nil => simp [occursFolded, OccursIn]
  | cons c text ih =>
      rw [occursFolded, Bool.or_eq_true, startsWithFolded_iff, ih, OccursIn, OccursIn,
        List.map_cons, List.infix_cons_iff]

/-- Whether an entry with these literals is tried on a text: it has none, or one of them occurs. -/
def isTried (literals : List (List Char)) (text : List Char) : Bool :=
  literals.isEmpty || literals.any fun literal => occursFolded literal text

theorem isTried_iff {literals : List (List Char)} {text : List Char} :
    isTried literals text = true ↔
      literals = [] ∨ ∃ literal ∈ literals, OccursIn literal text := by
  simp only [isTried, Bool.or_eq_true, List.isEmpty_iff, List.any_eq_true, occursFolded_iff]

/-- A search reports exactly the literals that occur, in whatever order and however often. -/
def IsExact (search : LiteralSearch) : Prop :=
  ∀ literals text hit, hit ∈ search literals text ↔
    ∃ literal, literals[hit]? = some literal ∧ OccursIn literal text

theorem hits_isExact : IsExact hits := by
  intro literals text hit
  simp only [hits, List.mem_filterMap, Prod.exists, List.mk_mem_zipIdx_iff_getElem?,
    Option.ite_none_right_eq_some, Option.some.injEq, occursFolded_iff]
  constructor
  · rintro ⟨literal, _, place, occurs, rfl⟩
    exact ⟨literal, place, occurs⟩
  · rintro ⟨literal, place, occurs⟩
    exact ⟨literal, hit, place, occurs, rfl⟩

/-! ## Flags -/

theorem getElem?_mark {literalToEntry : List Nat} {flags : List Bool} {hit index : Nat} :
    (mark literalToEntry flags hit)[index]? =
      flags[index]?.map fun flag => flag || literalToEntry[hit]? == some index := by
  unfold mark
  cases literalToEntry[hit]? with
  | none => simp
  | some entry =>
      rw [List.getElem?_set]
      by_cases same : entry = index
      · subst same
        cases bound : flags[entry]? with
        | none => simpa using bound
        | some flag =>
            have inside : entry < flags.length := (List.getElem?_eq_some_iff.mp bound).1
            simp [inside]
      · cases flags[index]? <;> simp [same]

/-- The flags after any number of hits, in whatever order and however often they come. -/
theorem getElem?_foldl_mark {literalToEntry : List Nat} {hits : List Nat} {flags : List Bool}
    {index : Nat} :
    (hits.foldl (mark literalToEntry) flags)[index]? =
      flags[index]?.map fun flag =>
        flag || hits.any fun hit => literalToEntry[hit]? == some index := by
  induction hits generalizing flags with
  | nil => simp
  | cons hit hits ih =>
      rw [List.foldl_cons, ih, getElem?_mark, Option.map_map]
      congr 1
      funext flag
      simp [Bool.or_assoc]

/-! ## Assembled sets -/

section Assembled

variable {α : Type} {compiled : List (PatternEntry α × List (List Char))}

/-- The literals of all entries in one list. -/
def allLiterals (compiled : List (PatternEntry α × List (List Char))) : List (List Char) :=
  compiled.flatMap fun item => item.2

theorem zip_map_const (literals : List (List Char)) (index : Nat) :
    literals.zip (literals.map fun _ => index) = literals.map fun literal => (literal, index) := by
  induction literals with
  | nil => rfl
  | cons literal literals ih => rw [List.map_cons, List.map_cons, List.zip_cons_cons, ih]

/-- Each literal stands beside the index of its entry; `first` is the index of the first entry. -/
theorem zip_literalToEntry (first : Nat) :
    (allLiterals compiled).zip
        ((compiled.zipIdx first).flatMap fun item => item.1.2.map fun _ => item.2) =
      (compiled.zipIdx first).flatMap fun item =>
        item.1.2.map fun literal => (literal, item.2) := by
  -- the index of the first entry moves on with each entry
  induction compiled generalizing first with
  | nil => rfl
  | cons item rest ih =>
      simp only [allLiterals, List.zipIdx_cons, List.flatMap_cons] at ih ⊢
      rw [List.zip_append (by simp), zip_map_const, ih]

theorem mem_zip_literalToEntry {literal : List Char} {index : Nat} :
    (literal, index) ∈ (allLiterals compiled).zip (assemble compiled).literalToEntry ↔
      ∃ item, compiled[index]? = some item ∧ literal ∈ item.2 := by
  rw [assemble, zip_literalToEntry]
  simp only [List.mem_flatMap, Prod.exists, List.mk_mem_zipIdx_iff_getElem?, List.mem_map,
    Prod.mk.injEq]
  constructor
  · rintro ⟨entry, literals, _, place, _, own, rfl, rfl⟩
    exact ⟨entry, literals, place, own⟩
  · rintro ⟨entry, literals, place, own⟩
    exact ⟨entry, literals, index, place, literal, own, rfl, rfl⟩

section Search

variable {search : LiteralSearch} {text : List Char}

/-- Some hit leads to an entry exactly when one of the entry's own literals occurs. -/
theorem exists_hit_iff (exact : IsExact search) {index : Nat} :
    (∃ hit ∈ search (allLiterals compiled) text,
        (assemble compiled).literalToEntry[hit]? = some index) ↔
      ∃ item, compiled[index]? = some item ∧ ∃ literal ∈ item.2, OccursIn literal text := by
  constructor
  · rintro ⟨hit, isHit, leads⟩
    obtain ⟨literal, place, occurs⟩ := (exact _ _ hit).mp isHit
    have paired : (literal, index) ∈
        (allLiterals compiled).zip (assemble compiled).literalToEntry :=
      List.mem_iff_getElem?.mpr ⟨hit, List.getElem?_zip_eq_some.mpr ⟨place, leads⟩⟩
    obtain ⟨item, found, own⟩ := mem_zip_literalToEntry.mp paired
    exact ⟨item, found, literal, own, occurs⟩
  · rintro ⟨item, found, literal, own, occurs⟩
    obtain ⟨hit, paired⟩ :=
      List.mem_iff_getElem?.mp (mem_zip_literalToEntry.mpr ⟨item, found, own⟩)
    obtain ⟨place, leads⟩ := List.getElem?_zip_eq_some.mp paired
    exact ⟨hit, (exact _ _ hit).mpr ⟨literal, place, occurs⟩, leads⟩

/-- Without literals there is nothing to report, so the flags start and stay as they are. -/
theorem candidates_eq_foldl (exact : IsExact search) :
    (assemble compiled).candidates search text =
      (search (allLiterals compiled) text).foldl (mark (assemble compiled).literalToEntry)
        (assemble compiled).always := by
  cases none : (allLiterals compiled).isEmpty with
  | true =>
      have noLiterals : (assemble compiled).literals = .none := if_pos none
      have noHits : search [] text = [] := by
        rw [List.eq_nil_iff_forall_not_mem]
        intro hit isHit
        obtain ⟨_, place, _⟩ := (exact _ _ hit).mp isHit
        simp at place
      rw [candidates, noLiterals, List.isEmpty_iff.mp none, noHits]
      rfl
  | false =>
      have someLiterals : (assemble compiled).literals = some (allLiterals compiled) :=
        if_neg (by rw [allLiterals] at none; simp [none])
      rw [candidates, someLiterals]

/-- The hits raise the flag of an entry exactly when one of its own literals occurs. -/
theorem any_hits_eq_any_literals (exact : IsExact search) {index : Nat}
    {item : PatternEntry α × List (List Char)} (found : compiled[index]? = some item) :
    ((search (allLiterals compiled) text).any fun hit =>
        (assemble compiled).literalToEntry[hit]? == some index) =
      item.2.any fun literal => occursFolded literal text := by
  have same := @exists_hit_iff _ compiled _ text exact index
  rw [Bool.eq_iff_iff, List.any_eq_true, List.any_eq_true]
  simpa only [beq_iff_eq, found, Option.some.injEq, exists_eq_left', occursFolded_iff] using same

/-- An entry is a candidate for a text exactly when its own literals let it be tried. -/
theorem candidates_assemble (exact : IsExact search) :
    (assemble compiled).candidates search text =
      compiled.map fun item => isTried item.2 text := by
  apply List.ext_getElem?
  intro index
  -- a flag is up from the start if the entry has no literals, and hits can only raise it
  have flag : (assemble compiled).always[index]? =
      compiled[index]?.map fun item => item.2.isEmpty := List.getElem?_map
  rw [candidates_eq_foldl exact, getElem?_foldl_mark, flag, Option.map_map, List.getElem?_map]
  cases found : compiled[index]? with
  | none => rfl
  | some item =>
      rw [Option.map_some, Option.map_some, Function.comp, any_hits_eq_any_literals exact found,
        isTried]

end Search

end Assembled

end AgentClassifier.PatternSet
