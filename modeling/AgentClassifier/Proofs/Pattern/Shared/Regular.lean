import AgentClassifier.Proofs.Pattern.Shared.Class

/-!
What the reader of regular notation makes of a shared tree.

* `ReadsTo` : the reader gets from a choice and a text to its result.
* `Alternatives.readsTo` : the reader takes the notation of a tree to its end, and returns what the
  tree stands for.
-/

namespace AgentClassifier.Pattern

namespace Shared

/-! ## Reading -/

/-- What the reader returns: the expression, the number of groups and the text behind it. -/
structure Result where
  regular : Regular
  count : Nat
  rest : List Char

/-- With `count` groups before it, the reader gets from a choice and a text to a result. -/
def ReadsTo (mode : Mode) (count : Nat) (choice : Choice) (text : List Char) (result : Result) :
    Prop :=
  ∃ fuel names names', readChoice fuel mode ⟨names, count⟩ choice text =
    some (result.regular, ⟨names', result.count⟩, result.rest)

/-- The text behind a tree ends the choice. -/
def Closes (text : List Char) : Prop := text = [] ∨ ∃ rest, text = ')' :: rest

theorem ReadsTo.exists_succ {mode : Mode} {count : Nat} {choice : Choice} {text : List Char}
    {result : Result} (reads : ReadsTo mode count choice text result) :
    ∃ fuel names names', readChoice (fuel + 1) mode ⟨names, count⟩ choice text =
      some (result.regular, ⟨names', result.count⟩, result.rest) := by
  obtain ⟨fuel, names, names', read⟩ := reads
  cases fuel with
  | zero => cases read
  | succ fuel => exact ⟨fuel, names, names', read⟩

/-- The reader skips what the mode says before it goes on. -/
theorem readChoice_skip (fuel : Nat) (mode : Mode) (groups : GroupCount) (choice : Choice)
    (text : List Char) :
    readChoice fuel mode groups choice (mode.skip text) = readChoice fuel mode groups choice text := by
  cases fuel with
  | zero => rfl
  | succ fuel => rw [readChoice, readChoice, skip_skip]

section Steps

variable {mode : Mode} {count : Nat} {choice : Choice} {text : List Char} {result : Result}

theorem ReadsTo.skip : ReadsTo mode count choice (mode.skip text) result ↔
    ReadsTo mode count choice text result := by
  unfold ReadsTo
  simp only [readChoice_skip]

theorem readsTo_filler (filler : Filler) (spaced : mode.spaced = true)
    (reads : ReadsTo mode count choice (filler.text ++ text) result) :
    ReadsTo mode count choice text result := by
  rw [← ReadsTo.skip, filler.skip_text spaced, ReadsTo.skip] at reads
  exact reads

theorem readsTo_bar (reads : ReadsTo mode count choice ('|' :: text) result) :
    ReadsTo mode count choice.next text result := by
  obtain ⟨fuel, names, names', read⟩ := reads.exists_succ
  rw [readChoice, skip_of_solid fun _ => rfl] at read
  exact ⟨_, _, _, read⟩

theorem readsTo_end (closes : Closes text) (reads : ReadsTo mode count choice text result) :
    result = ⟨choice.finish, count, text⟩ := by
  obtain ⟨fuel, names, names', read⟩ := reads.exists_succ
  obtain ⟨regular, count', rest⟩ := result
  rcases closes with rfl | ⟨others, rfl⟩
  · rw [readChoice, skip_nil] at read
    obtain ⟨rfl, behind⟩ := Prod.mk.inj (Option.some.inj read)
    obtain ⟨groups, rfl⟩ := Prod.mk.inj behind
    obtain ⟨_, rfl⟩ := GroupCount.mk.inj groups
    rfl
  · rw [readChoice, skip_of_solid fun _ => rfl] at read
    obtain ⟨rfl, behind⟩ := Prod.mk.inj (Option.some.inj read)
    obtain ⟨groups, rfl⟩ := Prod.mk.inj behind
    obtain ⟨_, rfl⟩ := GroupCount.mk.inj groups
    rfl

/-- The reader adds what stands behind a backslash. -/
theorem readsTo_primitive (reads : ReadsTo mode count choice ('\\' :: text) result) :
    ∃ primitive rest, readEscape mode text = some (primitive, rest) ∧
      ReadsTo mode count (choice.add (primitive.regular mode)) rest result := by
  obtain ⟨fuel, names, names', read⟩ := reads.exists_succ
  rw [readChoice, skip_of_solid fun _ => rfl] at read
  simp only at read
  split at read
  case h_4 => cases read
  all_goals
    next isEscape => exact ⟨_, _, isEscape, _, _, _, read⟩

theorem readsTo_bracketed {bracketed : Bracketed} {chars : CharSet}
    (solid : Solid mode bracketed.signs)
    (isClass : readClass mode.inClass bracketed.coded = some (chars, []))
    (reads : ReadsTo mode count choice ('[' :: (bracketed.text ++ text)) result) :
    ReadsTo mode count (choice.add (.set chars)) text result := by
  obtain ⟨fuel, names, names', read⟩ := reads.exists_succ
  rw [readChoice, skip_of_solid fun _ => rfl] at read
  simp only at read
  split at read
  · next isClass' =>
      obtain ⟨rfl, rfl⟩ := readClass_bracketed solid isClass isClass'
      exact ⟨_, _, _, read⟩
  · cases read

end Steps

/-! ## Repetitions -/

theorem notSpace_of_code : ∀ code < 128, 33 ≤ code → CharSet.spaces.containsCode code = false := by
  decide

theorem dropWhile_spaces {c : Char} (low : 33 ≤ c.toNat) (high : c.toNat < 128) (text : List Char) :
    (c :: text).dropWhile CharSet.spaces.contains = c :: text :=
  List.dropWhile_cons_of_neg (Bool.eq_false_iff.mp (notSpace_of_code c.toNat high low))

theorem code_of_digit {c : Char} (digit : isAsciiDigit c = true) :
    33 ≤ c.toNat ∧ c.toNat < 128 := by
  obtain ⟨least, most⟩ := Bool.and_eq_true_iff.mp digit
  have least : 48 ≤ c.toNat := of_decide_eq_true least
  have most : c.toNat ≤ 57 := of_decide_eq_true most
  exact ⟨by omega, by omega⟩

theorem Numeral.head_digit (numeral : Numeral) {c : Char} {text rest : List Char}
    (begins : numeral.digits ++ text = c :: rest) : isAsciiDigit c = true := by
  obtain ⟨digits, notEmpty, areDigits, small⟩ := numeral
  cases digits with
  | nil => exact absurd rfl notEmpty
  | cons digit others =>
      obtain ⟨rfl, _⟩ := List.cons.inj begins
      exact List.all_eq_true.mp areDigits digit List.mem_cons_self

theorem solid_of_digit {c : Char} (digit : isAsciiDigit c = true) : isFiller c = false := by
  obtain ⟨low, high⟩ := code_of_digit digit
  rw [isFiller, Bool.or_eq_false_iff]
  refine ⟨notSpace_of_code c.toNat high low, beq_eq_false_iff_ne.mpr ?_⟩
  rintro rfl
  exact absurd digit (by decide)

theorem Numeral.skip_digits (numeral : Numeral) (rest : List Char) (mode : Mode) :
    mode.skip (numeral.digits ++ rest) = numeral.digits ++ rest := by
  cases begins : numeral.digits ++ rest with
  | nil => exact skip_nil mode
  | cons digit others => exact skip_of_solid fun _ => solid_of_digit (numeral.head_digit begins)

/-- A sign that can follow a number of iterations. -/
def EndsNumeral (c : Char) : Prop := c = ',' ∨ c = '\x7d'

theorem EndsNumeral.solid {c : Char} (ends : EndsNumeral c) : isFiller c = false := by
  rcases ends with rfl | rfl <;> decide

theorem EndsNumeral.notDigit {c : Char} (ends : EndsNumeral c) : isAsciiDigit c = false := by
  rcases ends with rfl | rfl <;> decide

namespace Numeral

variable (numeral : Numeral) {c : Char} (ends : EndsNumeral c) (rest : List Char)
include ends

theorem takeWhile_digits :
    (numeral.digits ++ c :: rest).takeWhile isAsciiDigit = numeral.digits := by
  rw [List.takeWhile_append_of_pos (List.all_eq_true.mp numeral.areDigits),
    List.takeWhile_cons_of_neg (Bool.eq_false_iff.mp ends.notDigit), List.append_nil]

theorem dropWhile_digits :
    (numeral.digits ++ c :: rest).dropWhile isAsciiDigit = c :: rest := by
  rw [List.dropWhile_append_of_pos (List.all_eq_true.mp numeral.areDigits),
    List.dropWhile_cons_of_neg (Bool.eq_false_iff.mp ends.notDigit)]

theorem readCount (mode : Mode) :
    Pattern.readCount mode (numeral.digits ++ c :: rest) = some (numeral.value, c :: rest) := by
  have noBlanks : (numeral.digits ++ c :: rest).dropWhile CharSet.spaces.contains =
      numeral.digits ++ c :: rest := by
    cases begins : numeral.digits ++ c :: rest with
    | nil => rfl
    | cons digit others =>
        obtain ⟨low, high⟩ := code_of_digit (numeral.head_digit begins)
        exact dropWhile_spaces low high _
  have noBlanks' : (c :: rest).dropWhile CharSet.spaces.contains = c :: rest := by
    rcases ends with rfl | rfl <;> exact dropWhile_spaces (by decide) (by decide) _
  rw [Pattern.readCount, noBlanks, numeral.takeWhile_digits ends, numeral.dropWhile_digits ends,
    skip_of_solid fun _ => ends.solid, noBlanks', if_neg]
  · rfl
  · rw [not_or]
    exact ⟨fun none => numeral.notEmpty (List.isEmpty_iff.mp none), Nat.not_lt.mpr numeral.small⟩

end Numeral

/-- The bounds in braces. -/
theorem readBounds_text (mode : Mode) {bounds : Bounds} {inside : List Char}
    (braces : bounds.text = '\x7b' :: inside) (text : List Char) :
    readBounds mode (inside ++ text) = some (bounds.low, bounds.high, text) := by
  have brace : ∀ text, mode.skip ('\x7d' :: text) = '\x7d' :: text :=
    fun _ => skip_of_solid fun _ => rfl
  cases bounds with
  | optional | any | atLeastOne => cases braces
  | exactly count =>
      obtain rfl := (List.cons.inj braces).2
      have low := count.readCount (.inr rfl) text mode
      have skip := count.skip_digits ('\x7d' :: text) mode
      simp [readBounds, skip, low, Bounds.low, Bounds.high]
  | atLeast least =>
      obtain rfl := (List.cons.inj braces).2
      have low := least.readCount (.inl rfl) ('\x7d' :: text) mode
      have skip := least.skip_digits (',' :: '\x7d' :: text) mode
      simp [readBounds, skip, brace, low, Bounds.low, Bounds.high]
  | between least most ordered =>
      obtain rfl := (List.cons.inj braces).2
      have low := least.readCount (.inl rfl) (most.digits ++ '\x7d' :: text) mode
      have high := most.readCount (.inr rfl) text mode
      have skip := least.skip_digits (',' :: (most.digits ++ '\x7d' :: text)) mode
      have skip' := most.skip_digits ('\x7d' :: text) mode
      simp only [readBounds, skip, skip', List.append_assoc, List.cons_append, List.nil_append,
        low, Option.bind_eq_bind, Option.bind_some]
      split
      · next begins => exact absurd (most.head_digit begins) (by decide)
      · rw [high]
        simp [ordered, Bounds.low, Bounds.high]

section Repetitions

variable {mode : Mode} {count : Nat} {choice : Choice} {piece : Regular} {text : List Char}
  {result : Result}

/-- A question mark behind the bounds turns the greed around. -/
theorem iterate_reluctant (low : Nat) (high : Option Nat) (reluctant : Bool)
    (other : text.head? ≠ some '?') :
    (choice.add piece).iterate mode low high ((if reluctant then ['?'] else []) ++ text) =
      some (choice.add (Regular.times low high (reluctant == mode.swapGreed) piece), text) := by
  cases reluctant with
  | true => rfl
  | false =>
      cases text with
      | nil => rfl
      | cons c text =>
          have notReluctant : c ≠ '?' := fun same => other (congrArg some same)
          simp [Choice.iterate, Choice.add, notReluctant]

/-- The bounds of a repetition and the question mark behind them apply to the latest piece. -/
theorem readsTo_bounds (bounds : Bounds) (reluctant : Bool)
    (other : (mode.skip text).head? ≠ some '?')
    (reads : ReadsTo mode count (choice.add piece)
      (bounds.text ++ ((if reluctant then ['?'] else []) ++ text)) result) :
    ReadsTo mode count
      (choice.add (Regular.times bounds.low bounds.high (reluctant == mode.swapGreed) piece)) text
      result := by
  have direct : text.head? ≠ some '?' := by
    intro isHead
    obtain ⟨rest, rfl⟩ := List.head?_eq_some_iff.mp isHead
    exact other (by rw [skip_of_solid fun _ => rfl]; rfl)
  obtain ⟨fuel, names, names', read⟩ := reads.exists_succ
  cases begins : bounds.text with
  | nil => cases bounds <;> cases begins
  | cons c inside =>
      rw [begins, List.cons_append, readChoice] at read
      by_cases counted : c = '\x7b'
      · subst counted
        rw [skip_of_solid fun _ => rfl] at read
        simp only [readBounds_text mode begins] at read
        cases reluctant with
        | true =>
            rw [if_pos rfl, List.singleton_append, skip_of_solid fun _ => rfl] at read
            exact ⟨_, _, _, read⟩
        | false =>
            rw [if_neg Bool.false_ne_true, List.nil_append] at read
            have iterated := @iterate_reluctant mode choice piece (mode.skip text) bounds.low
              bounds.high false other
            rw [if_neg Bool.false_ne_true, List.nil_append] at iterated
            simp only [iterated] at read
            exact ReadsTo.skip.mp ⟨_, _, _, read⟩
      · cases bounds with
        | optional | any | atLeastOne =>
            obtain ⟨rfl, rfl⟩ := List.cons.inj begins
            rw [skip_of_solid fun _ => rfl] at read
            simp only [List.nil_append, iterate_reluctant _ _ _ direct] at read
            exact ⟨_, _, _, read⟩
        | _ => exact absurd (List.cons.inj begins).1.symm counted

/-- A quantifier applies to the latest piece. -/
theorem readsTo_quantifier (quantifier : Quantifier) (calm : Calm mode text)
    (reads : ReadsTo mode count (choice.add piece) (quantifier.text ++ text) result) :
    ReadsTo mode count (choice.add (repeated .regular mode (some quantifier) piece)) text result := by
  obtain ⟨bounds, reluctant, possessive⟩ := quantifier
  have unrepeated : (mode.skip text).head? ≠ some '?' :=
    fun isHead => calm.sign _ isHead (by decide)
  rw [Quantifier.text, Quantifier.marks, List.append_assoc, List.append_assoc] at reads
  cases possessive with
  | false => exact readsTo_bounds bounds reluctant unrepeated reads
  | true =>
      have once := readsTo_bounds bounds reluctant
        (by rw [if_pos rfl, List.singleton_append, skip_of_solid fun _ => rfl]; nofun) reads
      exact readsTo_bounds .atLeastOne false unrepeated once

end Repetitions

/-! ## Switches -/

theorem Switch.eq_of_set {value : Bool} {mode changed : Mode} {switch : Switch}
    (set : mode.set? value switch.letter = some changed) : changed = switch.apply value mode := by
  cases switch with
  | unicode =>
      cases value with
      | true => exact (Option.some.inj set).symm
      | false => cases set
  | _ => exact (Option.some.inj set).symm

theorem Switch.letter_mem (switch : Switch) : switch.letter ∈ switchLetters := by
  cases switch <;> decide

theorem readSwitches_letters {letters : List Switch} {mode : Mode} {value : Bool}
    {used rest : List Char} {last : Char} {switches : SwitchList}
    (read : readSwitches mode value used last (letters.map Switch.letter ++ rest) = some switches) :
    ∃ used last, readSwitches (letters.foldl (Switch.apply value) mode) value used last rest =
      some switches := by
  induction letters generalizing mode used last with
  | nil => exact ⟨used, last, read⟩
  | cons letter others ih =>
      have unlike : ∀ sign, sign ∉ switchLetters → letter.letter ≠ sign :=
        fun _ notLetter same => notLetter (same ▸ letter.letter_mem)
      rw [List.map_cons, List.cons_append, readSwitches, if_neg (unlike _ (by decide)),
        if_neg (unlike _ (by decide)), if_neg (unlike _ (by decide))] at read
      split at read
      · cases read
      · split at read
        · next set =>
            obtain rfl := letter.eq_of_set set
            exact ih read
        · cases read

/-- What the switches and the sign that closes them set. -/
theorem readSwitches_text {switches : Switches} {mode : Mode} {close : Char} {rest : List Char}
    {list : SwitchList} (closes : close = ')' ∨ close = ':')
    (read : readSwitches mode true [] '?' (switches.text ++ close :: rest) = some list) :
    list = ⟨switches.apply mode, close == ':', rest⟩ := by
  have finish : ∀ {mode : Mode} {value : Bool} {used : List Char} {last : Char},
      readSwitches mode value used last (close :: rest) = some list →
        list = ⟨mode, close == ':', rest⟩ := by
    intro mode value used last read
    rw [readSwitches] at read
    rcases closes with rfl | rfl
    · rw [if_pos rfl] at read
      split at read
      · cases read
      · exact (Option.some.inj read).symm
    · rw [if_neg (by decide), if_pos rfl] at read
      split at read
      · cases read
      · exact (Option.some.inj read).symm
  obtain ⟨on, off⟩ := switches
  rw [Switches.text, List.append_assoc] at read
  obtain ⟨used, last, read⟩ := readSwitches_letters read
  cases off with
  | nil => exact finish read
  | cons first others =>
      rw [List.isEmpty_cons, if_neg Bool.false_ne_true, List.cons_append, readSwitches,
        if_neg (by decide), if_neg (by decide), if_pos rfl, if_pos rfl] at read
      obtain ⟨used, last, read⟩ := readSwitches_letters read
      exact finish read

/-! ## Groups -/

theorem splitAtFirst_append {name : List Char} (inside : '>' ∉ name) (rest : List Char) :
    splitAtFirst? ['>'] (name ++ '>' :: rest) = some (name, rest) := by
  induction name with
  | nil => rfl
  | cons c name ih =>
      rw [List.mem_cons, not_or] at inside
      have unlike : ['>'].isPrefixOf (c :: (name ++ '>' :: rest)) = false := by
        rw [List.isPrefixOf, beq_eq_false_iff_ne.mpr inside.1]
        rfl
      rw [List.cons_append, splitAtFirst?, unlike, if_neg Bool.false_ne_true, ih inside.2]
      rfl

theorem GroupName.head_isNameChar (name : GroupName) {c : Char} {text rest : List Char}
    (begins : name.chars ++ text = c :: rest) : isNameChar c = true := by
  cases chars : name.chars with
  | nil => exact absurd chars name.notEmpty
  | cons first others =>
      rw [chars] at begins
      obtain ⟨rfl, _⟩ := List.cons.inj begins
      exact name.areNameChars first (chars ▸ List.mem_cons_self)

theorem readGroupName_text (name : GroupName) (rest : List Char) :
    readGroupName (name.chars ++ '>' :: rest) = some (name.chars, rest) := by
  have inside : '>' ∉ name.chars := fun member =>
    absurd (name.areNameChars _ member) (by decide)
  rw [readGroupName, splitAtFirst_append inside, Option.bind_eq_bind, Option.bind_some]
  have starts := name.starts
  have areNameChars := name.areNameChars
  cases chars : name.chars with
  | nil => exact absurd chars name.notEmpty
  | cons first others =>
      rw [chars] at starts areNameChars
      have digit := starts first rfl
      have opens := areNameChars first List.mem_cons_self
      have continues : ∀ c ∈ others,
          ("_.[]".toList.contains c || CharSet.isAlphanumeric c) = true := by
        intro c member
        rcases Bool.or_eq_true_iff.mp (areNameChars c (List.mem_cons_of_mem _ member)) with
          underscore | letter
        · rw [beq_iff_eq.mp underscore]
          rfl
        · rw [letter, Bool.or_true]
      simp only [List.all_eq_true.mpr continues, digit, Bool.not_false, Bool.and_true]
      exact if_pos opens

section Groups

variable {mode : Mode} {count : Nat} {choice : Choice} {inside text : List Char} {result : Result}

/-- The body of a recorded group is what the group holds. -/
theorem readsTo_enclosed {fuel : Nat} {names names' : List (List Char)} {piece : Regular}
    {count' : Nat}
    (body : ∀ {found}, ReadsTo mode (count + 1) Choice.start inside found →
      found = ⟨piece, count', ')' :: text⟩)
    (read : (match readChoice fuel mode ⟨names, count + 1⟩ Choice.start inside with
      | some (body, groups, ')' :: rest) =>
          readChoice fuel mode groups (choice.add (.group (count + 1) body)) rest
      | _ => none) = some (result.regular, ⟨names', result.count⟩, result.rest)) :
    ReadsTo mode count' (choice.add (.group (count + 1) piece)) text result := by
  split at read
  · next opened _ isBody =>
      obtain ⟨rfl, rfl, behind⟩ := Result.mk.inj
        (@body ⟨_, opened.count, _⟩ ⟨fuel, names, opened.names, isBody⟩)
      obtain rfl := (List.cons.inj behind).2
      exact ⟨_, _, _, read⟩
  · cases read

/-- The same behind a name. -/
theorem readsTo_named {name : GroupName} {fuel : Nat} {names names' : List (List Char)}
    {piece : Regular} {count' : Nat}
    (body : ∀ {found}, ReadsTo mode (count + 1) Choice.start inside found →
      found = ⟨piece, count', ')' :: text⟩)
    (read : (match readGroupName (name.chars ++ '>' :: inside) with
      | some (name, rest) =>
          if names.contains name then none
          else
            match readChoice fuel mode ⟨name :: names, count + 1⟩ Choice.start rest with
            | some (body, groups, ')' :: rest) =>
                readChoice fuel mode groups (choice.add (.group (count + 1) body)) rest
            | _ => none
      | none => none) = some (result.regular, ⟨names', result.count⟩, result.rest)) :
    ReadsTo mode count' (choice.add (.group (count + 1) piece)) text result := by
  rw [readGroupName_text] at read
  dsimp only at read
  split at read
  · cases read
  · exact readsTo_enclosed body read

/-- A recorded group, of which the body is known. -/
theorem readsTo_group {name : Option GroupName} {piece : Regular} {count' : Nat}
    (calm : Calm mode inside)
    (body : ∀ {found}, ReadsTo mode (count + 1) Choice.start inside found →
      found = ⟨piece, count', ')' :: text⟩)
    (reads : ReadsTo mode count choice ('(' :: (nameText name ++ inside)) result) :
    ReadsTo mode count' (choice.add (.group (count + 1) piece)) text result := by
  obtain ⟨fuel, names, names', read⟩ := reads.exists_succ
  rw [readChoice, skip_of_solid fun _ => rfl] at read
  cases name with
  | none =>
      have unrepeated : (mode.skip inside).head? ≠ some '?' :=
        fun isHead => calm.sign _ isHead (by decide)
      simp only [nameText, List.nil_append] at read
      split at read
      case h_8 =>
        rw [readChoice_skip] at read
        exact readsTo_enclosed body read
      all_goals
        next begins => exact absurd (by rw [begins]; rfl) unrepeated
  | some name =>
      rw [nameText, GroupName.text, List.cons_append, List.append_assoc, List.append_assoc,
        List.singleton_append] at read
      cases marked : name.marked with
      | true =>
          rw [marked] at read
          simp only [if_true, List.cons_append, List.nil_append, skip_question] at read
          exact readsTo_named body read
      | false =>
          rw [marked] at read
          simp only [Bool.false_eq_true, if_false, List.singleton_append, skip_question] at read
          have unsigned : ∀ sign rest, isNameChar sign = false →
              name.chars ++ '>' :: inside ≠ sign :: rest :=
            fun sign rest other begins =>
              absurd (name.head_isNameChar begins) (by rw [other]; exact Bool.false_ne_true)
          split at read
          case h_6 same =>
            obtain rfl := (List.cons.inj (List.cons.inj same).2).2
            exact readsTo_named body read
          case h_3 same =>
            exact absurd (List.cons.inj (List.cons.inj same).2).2 (unsigned '=' _ (by decide))
          case h_4 same =>
            exact absurd (List.cons.inj (List.cons.inj same).2).2 (unsigned '!' _ (by decide))
          case h_8 other => exact absurd rfl (other _)
          case h_7 unnamed same => exact absurd (List.cons.inj same).2.symm (unnamed _)
          all_goals
            next same => exact absurd (List.cons.inj (List.cons.inj same).2).1 (by decide)

/-- Behind a list of switches stands the body of a group or the rest of the sequence. -/
theorem readChoice_switches {switches : Switches} {close : Char} {fuel : Nat}
    {groups : GroupCount} {found : Regular × GroupCount × List Char}
    (closes : close = ')' ∨ close = ':')
    (read : readChoice (fuel + 1) mode groups choice
      ('(' :: '?' :: (switches.text ++ close :: inside)) = some found) :
    (close = ')' → readChoice fuel (switches.apply mode) groups
      { choice with repeatable := false } inside = some found) ∧
    (close = ':' → ∃ piece opened behind,
      readChoice fuel (switches.apply mode) groups Choice.start inside =
        some (piece, opened, ')' :: behind) ∧
      readChoice fuel mode opened (choice.add piece) behind = some found) := by
  rw [readChoice, skip_of_solid fun _ => rfl] at read
  simp only [skip_question] at read
  split at read
  case h_7 same =>
    obtain rfl := (List.cons.inj same).2
    split at read
    · next isList =>
        have list := readSwitches_text closes isList
        obtain ⟨rfl, opens, rfl⟩ := SwitchList.mk.inj list
        obtain rfl : close = ':' := beq_iff_eq.mp opens.symm
        refine ⟨fun other => absurd other (by decide), fun _ => ?_⟩
        split at read
        · next isBody => exact ⟨_, _, _, isBody, read⟩
        · cases read
    · next isList =>
        have list := readSwitches_text closes isList
        obtain ⟨rfl, opens, rfl⟩ := SwitchList.mk.inj list
        exact ⟨fun _ => read, fun other => absurd other (beq_eq_false_iff_ne.mp opens.symm)⟩
    · cases read
  case h_8 other => exact absurd rfl (other _)
  all_goals exact absurd (List.cons.inj ‹_›).2 (switches.text_ne closes (by decide))

/-- A group with switches of its own, of which the body is known. -/
theorem readsTo_scoped {switches : Switches} {piece : Regular} {count' : Nat}
    (body : ∀ {found}, ReadsTo (switches.apply mode) count Choice.start inside found →
      found = ⟨piece, count', ')' :: text⟩)
    (reads : ReadsTo mode count choice ('(' :: '?' :: (switches.text ++ ':' :: inside)) result) :
    ReadsTo mode count' (choice.add piece) text result := by
  obtain ⟨fuel, names, names', read⟩ := reads.exists_succ
  obtain ⟨found, opened, behind, isBody, read⟩ := (readChoice_switches (.inr rfl) read).2 rfl
  obtain ⟨rfl, rfl, same⟩ := Result.mk.inj
    (@body ⟨found, opened.count, _⟩ ⟨fuel, names, opened.names, isBody⟩)
  obtain rfl := (List.cons.inj same).2
  exact ⟨_, _, _, read⟩

theorem readsTo_switch {switches : Switches}
    (reads : ReadsTo mode count choice ('(' :: '?' :: (switches.text ++ ')' :: text)) result) :
    ReadsTo (switches.apply mode) count { choice with repeatable := false } text result := by
  obtain ⟨fuel, names, names', read⟩ := reads.exists_succ
  exact ⟨_, _, _, (readChoice_switches (.inl rfl) read).1 rfl⟩

end Groups

/-! ## Trees -/

theorem finish_eq_joined (choice : Choice) :
    choice.finish = joined choice.next.branches.reverse := by
  rw [Choice.finish]
  split
  · next single => rw [single]; rfl
  · next notSingle =>
      unfold joined
      split
      · next single =>
          exact absurd (List.reverse_eq_iff.mp single) (notSingle _)
      · rfl

theorem Closes.stops {text : List Char} (closes : Closes text) : Stops text :=
  closes.imp_right fun ⟨rest, same⟩ => ⟨rest, .inl same⟩

theorem Closes.skipFiller {text : List Char} (closes : Closes text) (mode : Mode) :
    mode.skipFiller? text = some text := by
  rcases closes with rfl | ⟨rest, rfl⟩
  · rfl
  · exact skipFiller_of_solid (fun _ => rfl) (.of_head (by decide))

mutual

theorem Atom.readsTo {mode : Mode} {count : Nat} {choice : Choice} {piece : Regular}
    {text : List Char} {result : Result} : (atom : Atom) → atom.Fits mode →
    atom.regular? .regular mode count = some piece →
    ReadsTo mode count choice (atom.text ++ text) result →
    ReadsTo mode (count + atom.groups) (choice.add piece) text result
  | .plain c isPlain, fits, rfl, reads => by
      have notSign : ∀ {sign : Char} {others : List Char}, sign ∈ signs →
          c :: text ≠ sign :: others :=
        fun member same => not_mem_of_isPlain isPlain ((List.cons.inj same).1 ▸ member)
      obtain ⟨fuel, names, names', read⟩ := reads.exists_succ
      rw [Atom.text, List.singleton_append, readChoice, skip_of_solid fits] at read
      dsimp only at read
      split at read
      case h_1 => cases ‹c :: text = []›
      case h_14 same =>
        obtain ⟨rfl, rfl⟩ := List.cons.inj same
        exact ⟨_, _, _, read⟩
      all_goals exact absurd ‹c :: text = _› (notSign (by decide))
  | .escape inside, _, means, reads => by
      obtain ⟨primitive, isPrimitive, rfl⟩ := Option.map_eq_some_iff.mp means
      rw [Atom.text, List.cons_append] at reads
      obtain ⟨found, rest, read, reads'⟩ := readsTo_primitive reads
      rw [inside.readEscape_text, isPrimitive] at read
      obtain ⟨rfl, rfl⟩ := Prod.mk.inj (Option.some.inj read)
      exact reads'
  | .condition c isCondition, _, means, reads => by
      obtain ⟨primitive, rest, read, reads'⟩ := readsTo_primitive reads
      obtain ⟨rfl, same⟩ := readEscape_condition isCondition read
      rw [Atom.regular?, same] at means
      obtain rfl := Option.some.inj means
      exact reads'
  | .any, _, rfl, reads | .start, _, rfl, reads | .stop, _, rfl, reads => by
      obtain ⟨fuel, names, names', read⟩ := reads.exists_succ
      rw [Atom.text, List.singleton_append, readChoice, skip_of_solid fun _ => rfl] at read
      exact ⟨_, _, _, read⟩
  | .bracketed inside, fits, means, reads => by
      rw [Atom.regular?] at means
      split at means
      · next chars isClass =>
          obtain rfl := Option.some.inj means
          exact readsTo_bracketed (fun sign member spaced => fits spaced sign member) isClass reads
      · cases means
  | .group name body, fits, means, reads => by
      rw [Atom.text, List.cons_append, List.append_assoc, List.append_assoc] at reads
      obtain ⟨branches, areBranches, rfl⟩ := Option.map_eq_some_iff.mp means
      have calm : Calm mode (body.text ++ ([')'] ++ text)) := body.calm (.inr ⟨text, .inl rfl⟩) fits.2
      rw [Atom.groups, Nat.add_comm body.groups, ← Nat.add_assoc]
      exact readsTo_group calm
        (fun isBody => body.readsTo (.inr ⟨text, rfl⟩) fits.2 areBranches isBody) reads
  | .scoped switches body, fits, means, reads => by
      rw [Atom.text, List.cons_append, List.cons_append, List.append_assoc, List.cons_append,
        List.append_assoc] at reads
      obtain ⟨branches, areBranches, rfl⟩ := Option.map_eq_some_iff.mp means
      exact readsTo_scoped
        (fun isBody => body.readsTo (.inr ⟨text, rfl⟩) fits areBranches isBody) reads

theorem Sequence.readsTo {mode : Mode} {count : Nat} {choice : Choice} {pieces : List Regular}
    {text : List Char} {result : Result} (stops : Stops text) :
    (sequence : Sequence) → sequence.Fits mode →
    sequence.pieces? .regular mode count = some pieces →
    ReadsTo mode count choice (sequence.text ++ text) result →
    ∃ repeatable, ReadsTo (sequence.modeAfter mode) (count + sequence.groups)
      ⟨choice.branches, pieces.reverse ++ choice.pieces, repeatable⟩ text result
  | .nil, _, rfl, reads => ⟨choice.repeatable, reads⟩
  | .piece atom gap quantifier others, fits, means, reads => by
      rw [Sequence.text, List.append_assoc, List.append_assoc, List.append_assoc] at reads
      rw [Sequence.pieces?] at means
      split at means
      · next piece pieces isPiece arePieces =>
          obtain rfl := Option.some.inj means
          have reads := atom.readsTo fits.1 isPiece reads
          rw [← ReadsTo.skip, (skip_gap fits.2.1 _).1, ReadsTo.skip] at reads
          have iterated : ReadsTo mode (count + atom.groups)
              (choice.add (repeated .regular mode quantifier piece)) (others.text ++ text)
              result := by
            cases quantifier with
            | none => exact reads
            | some quantifier => exact readsTo_quantifier quantifier (others.calm stops fits.2.2) reads
          rw [List.reverse_cons, List.append_assoc, Sequence.groups, ← Nat.add_assoc]
          exact others.readsTo stops fits.2.2 arePieces iterated
      · cases means
  | .switch switches others, fits, means, reads => by
      rw [Sequence.text, List.cons_append, List.cons_append, List.append_assoc] at reads
      obtain ⟨repeatable, reads⟩ := others.readsTo stops fits means (readsTo_switch reads)
      exact ⟨repeatable, reads⟩
  | .filler filler others, fits, means, reads => by
      rw [Sequence.text, List.append_assoc] at reads
      exact others.readsTo stops fits.2 means (readsTo_filler filler fits.1 reads)

/-- The reader takes a tree to its end. -/
theorem Alternatives.readsTo {mode : Mode} {count : Nat} {before branches : List Regular}
    {repeatable : Bool} {text : List Char} {result : Result} (closes : Closes text) :
    (tree : Alternatives) → tree.Fits mode →
    tree.branches? .regular mode count = some branches →
    ReadsTo mode count ⟨before, [], repeatable⟩ (tree.text ++ text) result →
    result = ⟨joined (before.reverse ++ branches), count + tree.groups, text⟩
  | .last sequence, fits, means, reads => by
      obtain ⟨pieces, arePieces, rfl⟩ := Option.map_eq_some_iff.mp means
      obtain ⟨repeatable, reads⟩ := sequence.readsTo closes.stops fits arePieces reads
      rw [readsTo_end closes reads, finish_eq_joined, Choice.next, List.append_nil,
        List.reverse_reverse, List.reverse_cons]
      rfl
  | .more sequence others, fits, means, reads => by
      rw [Alternatives.text, List.append_assoc] at reads
      rw [Alternatives.branches?] at means
      split at means
      · next pieces branches arePieces areBranches =>
          obtain rfl := Option.some.inj means
          obtain ⟨repeatable, reads⟩ :=
            sequence.readsTo (.inr ⟨_, .inr rfl⟩) fits.1 arePieces reads
          have further := readsTo_bar reads
          rw [Choice.next, List.append_nil, List.reverse_reverse] at further
          rw [others.readsTo closes fits.2 areBranches further, List.reverse_cons,
            List.append_assoc, Alternatives.groups, ← Nat.add_assoc]
          rfl
      · cases means

end

/-- The reader of regular notation returns what the tree stands for. -/
theorem Alternatives.eq_of_read {tree : Alternatives} {ignoreCase : Bool} {regular meant : Regular}
    (fits : tree.Fits { Mode.initial with ignoreCase })
    (read : Regular.read? ignoreCase tree.text = some regular)
    (means : tree.regular? .regular { Mode.initial with ignoreCase } = some meant) :
    regular = meant := by
  obtain ⟨branches, areBranches, rfl⟩ := Option.map_eq_some_iff.mp means
  unfold Regular.read? at read
  dsimp only at read
  split at read
  · next found groups isRead =>
      obtain rfl := Option.some.inj read
      have reads : ReadsTo { Mode.initial with ignoreCase } 0 Choice.start (tree.text ++ [])
          ⟨found, groups.count, []⟩ := ⟨_, _, groups.names, by rwa [List.append_nil]⟩
      exact (Result.mk.inj (tree.readsTo (.inl rfl) fits areBranches reads)).1
  · cases read

end Shared

end AgentClassifier.Pattern
