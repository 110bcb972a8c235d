import AgentClassifier.PatternSet
import AgentClassifier.Proofs.Pattern.Words

/-!
Words in lower-case ASCII letters that match in either case.

* `foldToAscii` : what simple case folding makes of a character, as far as this is an ASCII letter.
* `CharSet.holds_foldCase_iff` : the closure of a letter under case holds what is folded to it.
* `Regular.caseless` : the sets of the letters of a word, closed under case.
* `Regular.exists_matches_caseless_iff` : they match somewhere in a text if the word stands in the
  folded text.
-/

namespace AgentClassifier

/-- What simple case folding makes of a character, as far as this is an ASCII letter: beyond ASCII,
only the long s and the Kelvin sign are folded to one. -/
def foldToAscii (c : Char) : Char :=
  if c = '\u017f' then 's' else if c = '\u212a' then 'k' else foldAscii c

/-- The character is a lower-case ASCII letter. -/
def IsLowerLetter (c : Char) : Prop := 'a' ≤ c ∧ c ≤ 'z'

instance decidableIsLowerLetter (c : Char) : Decidable (IsLowerLetter c) :=
  inferInstanceAs (Decidable (_ ∧ _))

namespace CharSet

/-- The code points that are folded to the lower-case letter at a place of the alphabet. -/
def variants (place : Nat) : List Nat :=
  [65 + place, 97 + place] ++
    if place = 10 then [0x212A] else if place = 18 then [0x17F] else []

theorem foldCase_letter : ∀ place < 26,
    (singleton (Char.ofNat (97 + place))).foldCase.ranges =
      (variants place).map fun code => (code, code) := by
  decide +kernel

end CharSet

theorem toNat_ofNat_ascii : ∀ code < 128, (Char.ofNat code).toNat = code := by decide +kernel

theorem toNat_foldAscii (c : Char) :
    (foldAscii c).toNat = if 65 ≤ c.toNat ∧ c.toNat ≤ 90 then c.toNat + 32 else c.toNat := by
  have upper : ('A' ≤ c ∧ c ≤ 'Z') ↔ 65 ≤ c.toNat ∧ c.toNat ≤ 90 := Iff.rfl
  rw [foldAscii]
  by_cases letter : 65 ≤ c.toNat ∧ c.toNat ≤ 90
  · rw [if_pos (upper.mpr letter), if_pos letter]
    exact toNat_ofNat_ascii _ (by omega)
  · rw [if_neg (mt upper.mp letter), if_neg letter]

theorem toNat_foldToAscii (c : Char) :
    (foldToAscii c).toNat = if c.toNat = 0x17F then 115 else if c.toNat = 0x212A then 107
      else (foldAscii c).toNat := by
  have longS : c = '\u017f' ↔ c.toNat = 0x17F := Char.toNat_inj.symm
  have kelvin : c = '\u212a' ↔ c.toNat = 0x212A := Char.toNat_inj.symm
  simp only [foldToAscii, longS, kelvin]
  split_ifs <;> rfl

theorem foldToAscii_eq_iff {c : Char} {place : Nat} (inside : place < 26) :
    foldToAscii c = Char.ofNat (97 + place) ↔ c.toNat ∈ CharSet.variants place := by
  rw [← Char.toNat_inj, toNat_foldToAscii, toNat_foldAscii, toNat_ofNat_ascii _ (by omega),
    CharSet.variants]
  split_ifs <;> simp <;> omega

theorem CharSet.holds_of_points {codes : List Nat} {c : Char} :
    (⟨codes.map fun code => (code, code)⟩ : CharSet).Holds c ↔ c.toNat ∈ codes := by
  simp only [Holds, InRange, List.mem_map, exists_exists_and_eq_and]
  constructor
  · rintro ⟨code, member, lower, upper⟩
    exact Nat.le_antisymm lower upper ▸ member
  · intro member
    exact ⟨_, member, le_refl _, le_refl _⟩

/-- The closure of a letter under case holds the characters that are folded to the letter. -/
theorem CharSet.holds_foldCase_iff {letter c : Char} (isLower : IsLowerLetter letter) :
    (singleton letter).foldCase.Holds c ↔ foldToAscii c = letter := by
  obtain ⟨lower, upper⟩ : 97 ≤ letter.toNat ∧ letter.toNat ≤ 122 := isLower
  obtain ⟨place, atPlace⟩ := Nat.exists_eq_add_of_le lower
  have inside : place < 26 := by omega
  obtain rfl : Char.ofNat (97 + place) = letter := by rw [← atPlace, Char.ofNat_toNat]
  rw [foldToAscii_eq_iff inside, ← holds_of_points, ← foldCase_letter place inside]

/-! ## Words -/

namespace Pattern.Regular

/-- The sets of the letters of a word, closed under case. -/
def caseless (word : List Char) : List Regular :=
  word.map fun c => set (CharSet.singleton c).foldCase

variable {word : List Char}

/-- They match where the word stands in the folded text. -/
theorem matchesAll_caseless (lower : ∀ c ∈ word, IsLowerLetter c) {text : Subject}
    {start stop : Nat} :
    MatchesAll text (caseless word) start stop ↔
      Between (text.map foldToAscii) word start stop := by
  induction word generalizing start with
  | nil => exact between_nil.symm
  | cons letter rest ih =>
      obtain ⟨isLower, lower⟩ := List.forall_mem_cons.mp lower
      rw [between_cons, ← ih lower, caseless, List.map_cons, MatchesAll, Array.getElem?_map,
        Option.map_eq_some_iff]
      simp only [Matches, CharSet.holds_foldCase_iff isLower]
      constructor
      · rintro ⟨_, ⟨c, present, folded, rfl⟩, others⟩
        exact ⟨⟨c, present, folded⟩, others⟩
      · rintro ⟨⟨c, present, folded⟩, others⟩
        exact ⟨_, ⟨c, present, folded, rfl⟩, others⟩

theorem exists_matches_caseless_iff (lower : ∀ c ∈ word, IsLowerLetter c) (text : String) :
    (∃ start stop, start ≤ text.toList.toArray.size ∧
      (concat (caseless word)).Matches text.toList.toArray start stop) ↔
        word <:+: text.toList.map foldToAscii := by
  have within := @exists_between_iff (text.toList.toArray.map foldToAscii) word
  rw [Array.size_map, Array.toList_map] at within
  simp only [matches_concat, matchesAll_caseless lower]
  exact within

end Pattern.Regular

end AgentClassifier
