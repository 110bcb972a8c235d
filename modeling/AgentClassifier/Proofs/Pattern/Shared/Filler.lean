import AgentClassifier.Proofs.Pattern.Reads
import AgentClassifier.Proofs.Pattern.Shared

/-!
What the readers of the two notations skip in a shared tree.

* `Calm` : both readers skip the same of a text, and nothing that is left repeats what stands
  before.
* `Filler.skip_text`, `Filler.skipFiller_text` : a filler is skipped.
* `Sequence.calm`, `Alternatives.calm` : the notation of a tree is calm if what follows it ends a
  sequence.
-/

namespace AgentClassifier.Pattern

namespace Shared

/-! ## Skipping -/

/-- What spaced mode does not skip stays. -/
theorem skipBlanks_of_solid {c : Char} (solid : isFiller c = false) (rest : List Char) :
    skipBlanks (c :: rest) = c :: rest := by
  obtain ⟨notBlank, notComment⟩ := Bool.or_eq_false_iff.mp solid
  rw [skipBlanks, if_neg (Bool.eq_false_iff.mp notBlank),
    if_neg (beq_eq_false_iff_ne.mp notComment)]

theorem skip_of_solid {mode : Mode} {c : Char} {rest : List Char}
    (solid : mode.spaced = true → isFiller c = false) : mode.skip (c :: rest) = c :: rest := by
  unfold Mode.skip
  split
  · next spaced => exact skipBlanks_of_solid (solid spaced) rest
  · rfl

theorem skip_question (mode : Mode) (rest : List Char) : mode.skip ('?' :: rest) = '?' :: rest :=
  skip_of_solid fun _ => rfl

theorem skip_nil (mode : Mode) : mode.skip [] = [] := by
  rw [Mode.skip, skipBlanks, ite_self]

theorem skipBlanks_skipBlanks (text : List Char) :
    skipBlanks (skipBlanks text) = skipBlanks text := by
  fun_induction skipBlanks text with
  | case1 => rw [skipBlanks]
  | case2 c rest blank ih => exact ih
  | case3 rest notBlank ih => exact ih
  | case4 c rest notBlank notComment =>
      rw [skipBlanks, if_neg notBlank, if_neg notComment]

/-- Skipping once is enough. -/
theorem skip_skip (mode : Mode) (text : List Char) : mode.skip (mode.skip text) = mode.skip text := by
  unfold Mode.skip
  split
  · exact skipBlanks_skipBlanks text
  · rfl

theorem skipFiller_skipFiller (spaced : Bool) (filler : Pattern.Filler) (text : List Char) :
    ∀ rest, skipFiller spaced filler text = some rest →
      skipFiller spaced .outside rest = some rest := by
  fun_induction skipFiller spaced filler text with
  | case4 c rest notComment notBlank notLine =>
      intro rest' read
      obtain rfl := Option.some.inj read
      rw [skipFiller, if_neg notBlank, if_neg notLine]
      exact notComment
  | case5 | case7 =>
      intro rest read
      obtain rfl := Option.some.inj read
      rfl
  | case9 | case11 => nofun
  | case1 _ ih | case2 _ _ _ _ ih | case3 _ _ _ _ _ ih | case6 _ _ ih | case8 _ _ ih
  | case10 _ _ ih => exact ih

theorem blank_mem_spaces : ∀ c ∈ [' ', '\t', '\n', '\r'],
    CharSet.spaces.contains c = true ∧ (c == ' ' || c == '\t' || c == '\n' || c == '\r') = true :=
  forall_mem_of_all (by decide)

theorem skipLine_append {line : List Char} (inside : '\n' ∉ line) (rest : List Char) :
    skipLine (line ++ '\n' :: rest) = rest := by
  induction line with
  | nil => rfl
  | cons c line ih =>
      rw [List.mem_cons, not_or] at inside
      rw [List.cons_append, skipLine, if_neg (Ne.symm inside.1), ih inside.2]

theorem skipFiller_line {line : List Char} (inside : '\n' ∉ line) (rest : List Char) :
    skipFiller true .line (line ++ '\n' :: rest) = skipFiller true .outside rest := by
  induction line with
  | nil => rfl
  | cons c line ih =>
      rw [List.mem_cons, not_or] at inside
      rw [List.cons_append, skipFiller, if_neg (Ne.symm inside.1), ih inside.2]

namespace Filler

variable (filler : Filler) {mode : Mode} (spaced : mode.spaced = true) (rest : List Char)
include spaced

theorem skip_text : mode.skip (filler.text ++ rest) = mode.skip rest := by
  rw [Mode.skip, Mode.skip, if_pos spaced, if_pos spaced]
  cases filler with
  | blank c isBlank =>
      rw [text, List.singleton_append, skipBlanks, if_pos (blank_mem_spaces c isBlank).1]
  | comment line inside =>
      rw [text, List.cons_append, List.append_assoc, List.singleton_append, skipBlanks,
        if_neg (by decide), if_pos rfl, skipLine_append inside]

theorem skipFiller_text : mode.skipFiller? (filler.text ++ rest) = mode.skipFiller? rest := by
  rw [Mode.skipFiller?, Mode.skipFiller?, spaced]
  cases filler with
  | blank c isBlank =>
      have notGroup : c ≠ '(' := by
        rintro rfl
        exact absurd isBlank (by decide)
      rw [text, List.singleton_append, skipFiller, (blank_mem_spaces c isBlank).2]
      · rfl
      · exact fun _ same => absurd same notGroup
  | comment line inside =>
      rw [text, List.cons_append, List.append_assoc, List.singleton_append, skipFiller]
      · exact skipFiller_line inside rest
      · exact fun _ same => absurd same (by decide)

end Filler

/-- So are the fillers in a gap. -/
theorem skip_gap {gap : List Filler} {mode : Mode} (spaced : gap ≠ [] → mode.spaced = true)
    (rest : List Char) : mode.skip (gap.flatMap Filler.text ++ rest) = mode.skip rest ∧
      mode.skipFiller? (gap.flatMap Filler.text ++ rest) = mode.skipFiller? rest := by
  induction gap with
  | nil => exact ⟨rfl, rfl⟩
  | cons filler gap ih =>
      have spaced := spaced (List.cons_ne_nil _ _)
      obtain ⟨skipped, skipped'⟩ := ih fun _ => spaced
      rw [List.flatMap_cons, List.append_assoc, filler.skip_text spaced,
        filler.skipFiller_text spaced]
      exact ⟨skipped, skipped'⟩

/-! ## Calm texts -/

/-- The signs that repeat what stands before them. -/
def repeats : List Char := ['?', '*', '+', '\x7b']

/-- Both readers skip the same of a text, and what is left begins with no repetition. -/
structure Calm (mode : Mode) (text : List Char) : Prop where
  skipped : mode.skipFiller? text = some (mode.skip text)
  sign : ∀ c ∈ (mode.skip text).head?, c ∉ repeats

/-- The text behind a sequence ends it. -/
def Stops (text : List Char) : Prop :=
  text = [] ∨ ∃ rest, text = ')' :: rest ∨ text = '|' :: rest

/-- A text that does not begin with a comment in parentheses. -/
def Uncommented (text : List Char) : Prop := ∀ rest, text ≠ '(' :: '?' :: '#' :: rest

theorem Uncommented.of_head {c : Char} {rest : List Char} (notGroup : c ≠ '(') :
    Uncommented (c :: rest) :=
  fun _ same => notGroup (List.cons.inj same).1

/-- A character that no reader skips stays. -/
theorem skipFiller_of_solid {mode : Mode} {c : Char} {rest : List Char}
    (solid : mode.spaced = true → isFiller c = false) (uncommented : Uncommented (c :: rest)) :
    mode.skipFiller? (c :: rest) = some (c :: rest) := by
  have notBlank : (mode.spaced && (c == ' ' || c == '\t' || c == '\n' || c == '\r')) = false := by
    refine Bool.eq_false_iff.mpr fun skipped => ?_
    obtain ⟨spaced, blank⟩ := Bool.and_eq_true_iff.mp skipped
    have isBlank : c ∈ [' ', '\t', '\n', '\r'] := by
      simpa [or_assoc] using blank
    have filler : isFiller c = true := by
      rw [isFiller, (blank_mem_spaces c isBlank).1]
      rfl
    exact Bool.noConfusion ((solid spaced).symm.trans filler)
  have notComment : (mode.spaced && c == '#') = false := by
    refine Bool.eq_false_iff.mpr fun skipped => ?_
    obtain ⟨spaced, comment⟩ := Bool.and_eq_true_iff.mp skipped
    exact Bool.noConfusion ((Bool.or_eq_false_iff.mp (solid spaced)).2.symm.trans comment)
  rw [Mode.skipFiller?, skipFiller, notBlank, notComment]
  · rfl
  · rintro others rfl rfl
    exact uncommented _ rfl

theorem Calm.of_head {mode : Mode} {c : Char} {rest : List Char}
    (solid : mode.spaced = true → isFiller c = false) (uncommented : Uncommented (c :: rest))
    (notSign : c ∉ repeats) : Calm mode (c :: rest) where
  skipped := by rw [skipFiller_of_solid solid uncommented, skip_of_solid solid]
  sign d isHead := by
    rw [skip_of_solid solid] at isHead
    obtain rfl := Option.some.inj isHead
    exact notSign

theorem Calm.nil (mode : Mode) : Calm mode [] where
  skipped := by rw [skip_nil]; rfl
  sign c isHead := by
    rw [skip_nil] at isHead
    cases isHead

/-- Nothing is skipped before a repetition. -/
theorem skipFiller_repeat {c : Char} (sign : c ∈ repeats) (mode : Mode) (rest : List Char) :
    mode.skipFiller? (c :: rest) = some (c :: rest) := by
  have solid : ∀ c ∈ repeats, isFiller c = false ∧ c ≠ '(' := forall_mem_of_all (by decide)
  exact skipFiller_of_solid (fun _ => (solid c sign).1) (.of_head (solid c sign).2)

/-- A calm text itself begins with no repetition. -/
theorem Calm.head_ne {mode : Mode} {text : List Char} (calm : Calm mode text) {c : Char}
    (sign : c ∈ repeats) : text.head? ≠ some c := by
  intro isHead
  obtain ⟨rest, rfl⟩ := List.head?_eq_some_iff.mp isHead
  have solid : ∀ c ∈ repeats, isFiller c = false := forall_mem_of_all (by decide)
  refine calm.sign c ?_ sign
  rw [skip_of_solid fun _ => solid c sign]
  rfl

theorem Stops.calm {text : List Char} (stops : Stops text) (mode : Mode) : Calm mode text := by
  rcases stops with rfl | ⟨rest, rfl | rfl⟩
  · exact .nil mode
  · exact .of_head (fun _ => rfl) (.of_head (by decide)) (by decide)
  · exact .of_head (fun _ => rfl) (.of_head (by decide)) (by decide)

theorem Filler.calm (filler : Filler) {mode : Mode} (spaced : mode.spaced = true)
    {rest : List Char} (calm : Calm mode rest) : Calm mode (filler.text ++ rest) where
  skipped := by rw [filler.skipFiller_text spaced, filler.skip_text spaced, calm.skipped]
  sign := by rw [filler.skip_text spaced]; exact calm.sign

/-! ## Trees -/

/-- A list of switches begins with a letter, a hyphen or the sign that closes it. -/
theorem Switches.head_text {switches : Switches} {close c : Char} {tail rest : List Char}
    (begins : switches.text ++ close :: tail = c :: rest) :
    c ∈ '-' :: switchLetters ∨ c = close := by
  obtain ⟨on, off⟩ := switches
  rw [text] at begins
  cases on with
  | cons first others =>
      obtain ⟨rfl, _⟩ := List.cons.inj begins
      cases first <;> exact .inl (by decide)
  | nil =>
      cases off with
      | cons first others =>
          obtain ⟨rfl, _⟩ := List.cons.inj begins
          exact .inl (by decide)
      | nil =>
          obtain ⟨rfl, _⟩ := List.cons.inj begins
          exact .inr rfl

theorem Switches.text_ne (switches : Switches) {close sign : Char} {tail rest : List Char}
    (closes : close = ')' ∨ close = ':') (unlike : sign ∉ [')', ':', '-'] ++ switchLetters) :
    switches.text ++ close :: tail ≠ sign :: rest := by
  intro begins
  rcases head_text begins with letter | rfl
  · exact unlike (List.mem_append_right [')', ':'] letter)
  · rcases closes with rfl | rfl <;> exact unlike (by decide)

/-- What begins with a parenthesis is calm if no comment begins there. -/
theorem Calm.of_group {mode : Mode} {rest : List Char}
    (notComment : ∀ more, rest ≠ '?' :: '#' :: more) : Calm mode ('(' :: rest) :=
  .of_head (fun _ => rfl) (fun more same => notComment more (List.cons.inj same).2) (by decide)

theorem Switches.calm (switches : Switches) {close : Char} (closes : close = ')' ∨ close = ':')
    (mode : Mode) (tail : List Char) :
    Calm mode ('(' :: '?' :: (switches.text ++ close :: tail)) :=
  .of_group fun _ same => switches.text_ne closes (by decide) (List.cons.inj same).2

theorem GroupName.calm (name : GroupName) (mode : Mode) (tail : List Char) :
    Calm mode ('(' :: (name.text ++ tail)) := by
  refine .of_group fun more same => ?_
  have begins := (List.cons.inj same).2
  cases marked : name.marked <;> rw [marked] at begins <;>
    exact absurd (List.cons.inj begins).1 (by decide)

mutual

theorem Atom.calm {mode : Mode} (tail : List Char) :
    (atom : Atom) → atom.Fits mode → Calm mode (atom.text ++ tail)
  | .plain _ isPlain, fits => by
      have notSign := not_mem_of_isPlain isPlain
      have isSign : ∀ c ∈ repeats, c ∈ signs := forall_mem_of_all (by decide)
      refine .of_head fits (.of_head ?_) fun sign => notSign ?_
      · rintro rfl
        exact notSign (by decide)
      · exact isSign _ sign
  | .escape .., _ | .condition .., _ | .any, _ | .start, _ | .stop, _ | .bracketed _, _ =>
      .of_head (fun _ => rfl) (.of_head (by decide)) (by decide)
  | .group none body, fits => by
      have inside : Calm mode (body.text ++ ')' :: tail) :=
        body.calm (.inr ⟨tail, .inl rfl⟩) fits.2
      rw [Atom.text, List.cons_append, nameText, List.nil_append, List.append_assoc]
      refine .of_group fun more same => ?_
      have begins : body.text ++ ')' :: tail = '?' :: '#' :: more := same
      have sign : '?' ∈ repeats := by decide
      exact inside.head_ne sign (by rw [begins]; rfl)
  | .group (some name) body, _ => by
      rw [Atom.text, List.cons_append, nameText, List.append_assoc]
      exact name.calm mode _
  | .scoped switches body, _ => by
      rw [Atom.text, List.cons_append, List.cons_append, List.append_assoc]
      exact switches.calm (.inr rfl) mode _

theorem Sequence.calm {mode : Mode} {tail : List Char} (stops : Stops tail) :
    (sequence : Sequence) → sequence.Fits mode → Calm mode (sequence.text ++ tail)
  | .nil, _ => stops.calm mode
  | .piece atom gap quantifier rest, fits => by
      rw [Sequence.text, List.append_assoc]
      exact atom.calm _ fits.1
  | .switch switches rest, _ => by
      rw [Sequence.text, List.cons_append, List.cons_append, List.append_assoc]
      exact switches.calm (.inl rfl) mode _
  | .filler filler rest, fits => by
      rw [Sequence.text, List.append_assoc]
      exact filler.calm fits.1 (rest.calm stops fits.2)

theorem Alternatives.calm {mode : Mode} {tail : List Char} (stops : Stops tail) :
    (tree : Alternatives) → tree.Fits mode → Calm mode (tree.text ++ tail)
  | .last sequence, fits => sequence.calm stops fits
  | .more sequence rest, fits => by
      rw [Alternatives.text, List.append_assoc]
      exact sequence.calm (.inr ⟨_, .inr rfl⟩) fits.1

end

/-- An atom begins with no filler. -/
theorem Atom.skip_text {mode : Mode} (atom : Atom) (fits : atom.Fits mode) (tail : List Char) :
    mode.skip (atom.text ++ tail) = atom.text ++ tail := by
  cases atom with
  | plain => exact skip_of_solid fits
  | _ => exact skip_of_solid fun _ => rfl

end Shared

end AgentClassifier.Pattern
