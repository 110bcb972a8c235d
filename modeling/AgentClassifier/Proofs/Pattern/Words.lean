import AgentClassifier.Proofs.Pattern.Beginnings

/-!
Expressions that match given characters, and what they match.

* `Between` : a piece is what stands between two positions; `exists_between_iff` : somewhere, if it
  is an infix of the text.
* `Regular.letters` : the sets of the single characters of a word.
* `Regular.matchesAll_letters` : the letters of a word match the word.
* `Regular.matches_star` : any number of members of a set match a piece of such members.
-/

namespace AgentClassifier

namespace CharSet

theorem holds_singleton {c other : Char} : (singleton c).Holds other ↔ other = c := by
  rw [Holds, singleton, InRange]
  simp only [List.mem_singleton, exists_eq_left]
  rw [← Char.toNat_inj]
  omega

theorem holds_notLineFeed_iff {c : Char} : notLineFeed.Holds c ↔ c ≠ '\n' := by
  refine ⟨?_, holds_notLineFeed⟩
  rintro held rfl
  revert held
  simp [Holds, notLineFeed, InRange, maxCodePoint]

end CharSet

namespace Pattern

/-! ## Pieces of a text -/

/-- The piece is what stands between two positions of the text. -/
def Between (text : Subject) (piece : List Char) (start stop : Nat) : Prop :=
  StandsAt text piece start ∧ stop = start + piece.length

variable {text : Subject} {start stop : Nat}

theorem between_nil : Between text [] start stop ↔ stop = start :=
  and_iff_right StandsAt.nil

theorem between_cons {c : Char} {rest : List Char} :
    Between text (c :: rest) start stop ↔ text[start]? = some c ∧ Between text rest (start + 1) stop := by
  have place : StandsAt text (c :: rest) start ↔
      text[start]? = some c ∧ StandsAt text rest (start + 1) := by
    rw [StandsAt, StandsAt, ← Array.getElem?_toList]
    -- behind the end of the text stands nothing
    by_cases inside : start < text.toList.length
    · rw [List.drop_eq_getElem_cons inside, List.cons_prefix_cons, List.getElem?_eq_getElem inside,
        Option.some.injEq, eq_comm]
    · rw [List.drop_of_length_le (Nat.not_lt.mp inside), List.getElem?_eq_none (Nat.not_lt.mp inside)]
      simp
  rw [Between, Between, place, and_assoc, List.length_cons, Nat.add_right_comm, Nat.add_assoc]

theorem between_append {first second : List Char} :
    Between text (first ++ second) start stop ↔
      ∃ middle, Between text first start middle ∧ Between text second middle stop := by
  induction first generalizing start with
  | nil => simp [between_nil]
  | cons c rest ih =>
      rw [List.cons_append, between_cons, ih]
      simp only [between_cons, and_assoc, exists_and_left]

/-- A piece stands somewhere in a text if it is an infix of it. -/
theorem exists_between_iff {piece : List Char} :
    (∃ start stop, start ≤ text.size ∧ Between text piece start stop) ↔ piece <:+: text.toList := by
  constructor
  · rintro ⟨start, _, _, stands, _⟩
    exact stands.isInfix.trans (List.drop_suffix start _).isInfix
  · rintro ⟨before, after, split⟩
    have inside : before.length ≤ text.toList.length := by
      rw [← split, List.append_assoc, List.length_append]
      exact Nat.le_add_right _ _
    refine ⟨before.length, _, inside, ?_, rfl⟩
    rw [StandsAt, ← split, List.append_assoc, List.drop_left]
    exact List.prefix_append piece after

namespace Regular

/-! ## Words -/

/-- The sets of the single characters of a word. -/
def letters (word : List Char) : List Regular := word.map fun c => set (CharSet.singleton c)

theorem matchesAll_letters {word : List Char} :
    MatchesAll text (letters word) start stop ↔ Between text word start stop := by
  induction word generalizing start with
  | nil => exact between_nil.symm
  | cons c rest ih =>
      rw [between_cons, ← ih, letters, List.map_cons, MatchesAll]
      simp only [Matches, CharSet.holds_singleton]
      constructor
      · rintro ⟨_, ⟨_, present, rfl, rfl⟩, others⟩
        exact ⟨present, others⟩
      · rintro ⟨present, others⟩
        exact ⟨_, ⟨c, present, rfl, rfl⟩, others⟩

theorem iterated_set {chars : CharSet} {count : Nat} :
    Iterated (fun start stop => (set chars).Matches text start stop) count start stop ↔
      ∃ piece, piece.length = count ∧ (∀ c ∈ piece, chars.Holds c) ∧
        Between text piece start stop := by
  induction count generalizing start with
  | zero => simp [Iterated, List.length_eq_zero_iff, between_nil]
  | succ count ih =>
      constructor
      · rintro ⟨_, ⟨c, present, held, rfl⟩, steps⟩
        obtain ⟨piece, rfl, others, between⟩ := ih.mp steps
        exact ⟨c :: piece, rfl, List.forall_mem_cons.mpr ⟨held, others⟩,
          between_cons.mpr ⟨present, between⟩⟩
      · rintro ⟨_ | ⟨c, piece⟩, counted, held, between⟩
        · cases counted
        · obtain ⟨held, others⟩ := List.forall_mem_cons.mp held
          obtain ⟨present, between⟩ := between_cons.mp between
          exact ⟨start + 1, ⟨c, present, held, rfl⟩,
            ih.mpr ⟨piece, Nat.succ.inj counted, others, between⟩⟩

/-- Any number of members of a set match a piece of such members. -/
theorem matches_star {greedy : Bool} {chars : CharSet} :
    (repetition 0 none greedy (set chars)).Matches text start stop ↔
      ∃ piece, (∀ c ∈ piece, chars.Holds c) ∧ Between text piece start stop := by
  constructor
  · rintro ⟨_, _, steps⟩
    obtain ⟨piece, _, held, between⟩ := iterated_set.mp steps
    exact ⟨piece, held, between⟩
  · rintro ⟨piece, held, between⟩
    exact ⟨piece.length, ⟨Nat.zero_le _, nofun⟩, iterated_set.mpr ⟨piece, rfl, held, between⟩⟩

end Regular

end Pattern

end AgentClassifier
