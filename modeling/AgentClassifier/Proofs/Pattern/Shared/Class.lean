import AgentClassifier.Proofs.Pattern.Shared.Escape
import AgentClassifier.Proofs.Pattern.Shared.Filler

/-!
Classes that both notations share.

* `Spelling` : a way to write the signs of a class that keeps what they stand for.
* `Move`, `move` : what the reader of a class does at the signs in front of it, however they are
  written; `Spelling.readClassFrom_spell` : the reader does so.
* `readClassFrom_agree` : two spellings of the same signs are read as one set.
* `readExtendedClass_bracketed`, `readClass_bracketed` : both notations read one set.
-/

namespace AgentClassifier.Pattern

theorem settle_congr {mode mode' : Mode} (same : mode.ignoreCase = mode'.ignoreCase) :
    settle mode = settle mode' := by
  unfold settle ClassOperator.combine
  rw [Mode.applyTo_congr same]

namespace Shared

/-! ## Signs -/

/-- What a sign stands for as a member of a class. -/
def Sign.primitive? (ignoreCase : Bool) : Sign → Option Primitive
  | plain c _ => some (.literal c)
  | escape inside => inside.primitive? ignoreCase

/-- Signs of which the reader of a class skips none. -/
def Solid (mode : Mode) (signs : List Sign) : Prop :=
  ∀ sign ∈ signs, mode.spaced = true → sign.isFiller = false

/-- Signs up to a bracket that may close a class. -/
def Closed (signs : List Sign) : Prop := signs.getLast? = some Sign.close

theorem closed_append (signs : List Sign) : Closed (signs ++ [Sign.close]) :=
  List.getLast?_concat

theorem Closed.of_suffix {signs others : List Sign} (closed : Closed signs)
    (behind : others <:+ signs) : others = [] ∨ Closed others := by
  obtain ⟨before, rfl⟩ := behind
  cases others with
  | nil => exact .inl rfl
  | cons sign rest =>
      rw [Closed, List.getLast?_append_of_ne_nil _ (List.cons_ne_nil _ _)] at closed
      exact .inr closed

/-- Behind a sign that is not the last bracket others follow. -/
theorem Closed.tail {sign : Sign} {others : List Sign} (closed : Closed (sign :: others))
    (notClose : sign ≠ Sign.close) : Closed others := by
  refine (closed.of_suffix (List.suffix_cons sign others)).resolve_left ?_
  rintro rfl
  exact notClose (Option.some.inj closed)

theorem Sign.plain_ne_close {c : Char} {notEscape : c ≠ '\\'} (other : c ≠ ']') :
    Sign.plain c notEscape ≠ Sign.close :=
  fun same => other (Sign.plain.inj same)

theorem Solid.of_suffix {mode : Mode} {signs others : List Sign} (solid : Solid mode signs)
    (behind : others <:+ signs) : Solid mode others :=
  fun sign member => solid sign (behind.subset member)

/-- A way to write the signs of a class: plain ones as they are, and the others as escapes that
stand for the same. -/
structure Spelling (mode : Mode) (style : Sign → List Char) : Prop where
  plain : ∀ c notEscape, style (.plain c notEscape) = [c]
  escape : ∀ inside, ∃ more, style (.escape inside) = '\\' :: more ∧ ∀ rest,
    readEscape mode (more ++ rest) =
      (inside.primitive? mode.ignoreCase).map fun primitive => (primitive, rest)

/-- The signs as they stand in the pattern. -/
theorem spelling_text (mode : Mode) : Spelling mode Sign.text where
  plain _ _ := rfl
  escape inside := ⟨inside.text, rfl, inside.readEscape_text mode⟩

/-- The signs as a class in extended notation has them before it is read as a regular one. -/
theorem spelling_coded (mode : Mode) : Spelling mode Sign.coded where
  plain _ _ := rfl
  escape inside := by
    obtain ⟨more, written, read⟩ := inside.exists_coded
    exact ⟨more, written, read mode⟩

/-- The notation of signs, and what follows it. -/
def spell (style : Sign → List Char) (signs : List Sign) (tail : List Char) : List Char :=
  signs.flatMap style ++ tail

theorem spell_cons {style : Sign → List Char} {sign : Sign} {signs : List Sign}
    {tail : List Char} : spell style (sign :: signs) tail = style sign ++ spell style signs tail := by
  rw [spell, List.flatMap_cons, List.append_assoc]
  rfl

/-! ## Moves -/

/-- The set of a member alone. -/
def alone? : Primitive → Option CharSet
  | .literal c => some (CharSet.singleton c)
  | .chars members => some members
  | .assertion _ => none

/-- The set of the characters from one member to another. -/
def between? : Primitive → Primitive → Option CharSet
  | .literal low, .literal high =>
      if low ≤ high then some (CharSet.range low.toNat high.toNat) else none
  | _, _ => none

/-- The member or the range that starts with a sign, and the signs behind it. -/
def range? (ignoreCase : Bool) (first : Sign) (signs : List Sign) :
    Option (CharSet × List Sign) :=
  (first.primitive? ignoreCase).bind fun low =>
    match rangeEnd? signs with
    | some (last, others) =>
        (last.primitive? ignoreCase).bind fun high =>
          (between? low high).map fun chars => (chars, others)
    | none => (alone? low).map fun chars => (chars, signs)

/-- Whether the signs begin with hyphens, and the signs behind these. -/
def hyphens : List Sign → Bool × List Sign
  | .plain '-' _ :: signs => (true, (hyphens signs).2)
  | signs => (false, signs)

/-- Whether the signs begin with the one for a negation, and the signs behind it. -/
def caret : List Sign → Bool × List Sign
  | .plain '^' _ :: signs => (true, signs)
  | signs => (false, signs)

/-- Whether a class is negated, the signs at its start that stand for themselves, and the signs
behind them. -/
def opening (signs : List Sign) : Bool × CharSet × List Sign :=
  let (negated, signs) := caret signs
  let (hyphen, signs) := hyphens signs
  if hyphen then (negated, CharSet.singleton '-', signs)
  else match signs with
    | .plain ']' _ :: signs => (negated, CharSet.singleton ']', signs)
    | signs => (negated, CharSet.empty, signs)

/-- The characters up to a colon, and the signs behind it. -/
def className? : List Sign → Option (List Char × List Sign)
  | .plain ':' _ :: signs => some ([], signs)
  | .plain c _ :: signs => (className? signs).map fun found => (c :: found.1, found.2)
  | _ => none

/-- The ASCII class that the signs behind a bracket name, and the signs behind it. -/
def ascii? (mode : Mode) : List Sign → Option (CharSet × List Sign)
  | .plain ':' _ :: signs =>
      match className? (caret signs).2 with
      | some (name, .plain ']' _ :: others) =>
          (CharSet.asciiClass? name).map fun chars => (mode.applyTo (caret signs).1 chars, others)
      | _ => none
  | _ => none

/-- What the reader of a class does next. -/
inductive Move
  /-- It fails. -/
  | stuck
  /-- The class ends. -/
  | done (chars : CharSet) (signs : List Sign)
  | on (current : CharSet) (frames : List ClassFrame) (signs : List Sign)

/-- An operator waits for its right side. -/
def Move.pending (mode : Mode) (current : CharSet) (frames : List ClassFrame)
    (operator : ClassOperator) (signs : List Sign) : Move :=
  .on CharSet.empty
    (.pending operator (settle mode current frames).1 :: (settle mode current frames).2) signs

/-- What the reader of a class does at some signs. -/
def move (mode : Mode) (current : CharSet) (frames : List ClassFrame) : List Sign → Move
  | [] => .stuck
  | .plain '[' _ :: signs =>
      match ascii? mode signs with
      | some (chars, signs) => .on (current.union chars) frames signs
      | none =>
          let (negated, start, signs) := opening signs
          .on start (.opened current negated :: frames) signs
  | .plain ']' _ :: signs =>
      match settle mode current frames with
      | (content, .opened outer negated :: frames) =>
          let chars := mode.applyTo negated content
          if frames.isEmpty then .done chars signs else .on (outer.union chars) frames signs
      | _ => .stuck
  | .plain '&' _ :: .plain '&' _ :: signs => .pending mode current frames .intersection signs
  | .plain '-' _ :: .plain '-' _ :: signs => .pending mode current frames .difference signs
  | .plain '~' _ :: .plain '~' _ :: signs => .pending mode current frames .symmetricDifference signs
  | sign :: signs =>
      match range? mode.ignoreCase sign signs with
      | some (chars, signs) => .on (current.union chars) frames signs
      | none => .stuck

theorem move_escape (mode : Mode) (current : CharSet) (frames : List ClassFrame) (inside : Escape)
    (signs : List Sign) : move mode current frames (.escape inside :: signs) =
      match range? mode.ignoreCase (.escape inside) signs with
      | some (chars, signs) => .on (current.union chars) frames signs
      | none => .stuck := rfl

theorem move_congr {mode mode' : Mode} (same : mode.ignoreCase = mode'.ignoreCase) :
    move mode = move mode' := by
  unfold move ascii? Move.pending
  rw [settle_congr same, Mode.applyTo_congr same, same]

/-! ## What is left -/

theorem caret_suffix (signs : List Sign) : (caret signs).2 <:+ signs := by
  unfold caret
  split
  · exact List.suffix_cons _ _
  · exact List.suffix_rfl

theorem hyphens_suffix (signs : List Sign) : (hyphens signs).2 <:+ signs := by
  induction signs with
  | nil => exact List.suffix_rfl
  | cons sign signs ih =>
      unfold hyphens
      split
      · next same =>
          obtain ⟨rfl, rfl⟩ := List.cons.inj same
          exact ih.trans (List.suffix_cons _ _)
      · exact List.suffix_rfl

theorem opening_suffix (signs : List Sign) : (opening signs).2.2 <:+ signs := by
  have begins := (hyphens_suffix (caret signs).2).trans (caret_suffix signs)
  unfold opening
  dsimp only
  split
  · exact begins
  · split
    · next same =>
        rw [same] at begins
        exact (List.suffix_cons _ _).trans begins
    · exact begins

theorem className_suffix {signs others : List Sign} {name : List Char}
    (found : className? signs = some (name, others)) : others <:+ signs := by
  induction signs generalizing name with
  | nil => cases found
  | cons sign signs ih =>
      unfold className? at found
      split at found
      · next same =>
          obtain ⟨rfl, rfl⟩ := List.cons.inj same
          obtain ⟨_, rfl⟩ := Prod.mk.inj (Option.some.inj found)
          exact List.suffix_cons _ _
      · next same =>
          obtain ⟨rfl, rfl⟩ := List.cons.inj same
          obtain ⟨⟨name, rest⟩, isFound, same⟩ := Option.map_eq_some_iff.mp found
          obtain ⟨_, rfl⟩ := Prod.mk.inj same
          exact (ih isFound).trans (List.suffix_cons _ _)
      · cases found

theorem ascii_suffix {mode : Mode} {signs others : List Sign} {chars : CharSet}
    (found : ascii? mode signs = some (chars, others)) : others <:+ signs := by
  unfold ascii? at found
  split at found
  · split at found
    · next named =>
        obtain ⟨_, _, same⟩ := Option.map_eq_some_iff.mp found
        obtain ⟨_, rfl⟩ := Prod.mk.inj same
        exact (List.suffix_cons _ _).trans ((className_suffix named).trans
          ((caret_suffix _).trans (List.suffix_cons _ _)))
    · cases found
  · cases found

theorem rangeEnd_suffix {signs others : List Sign} {last : Sign}
    (found : rangeEnd? signs = some (last, others)) : others <:+ signs := by
  unfold rangeEnd? at found
  split at found
  case h_3 =>
    obtain ⟨_, rfl⟩ := Prod.mk.inj (Option.some.inj found)
    exact (List.suffix_cons _ _).trans (List.suffix_cons _ _)
  all_goals cases found

theorem range_suffix {ignoreCase : Bool} {first : Sign} {signs others : List Sign}
    {chars : CharSet} (found : range? ignoreCase first signs = some (chars, others)) :
    others <:+ signs := by
  obtain ⟨low, _, found⟩ := Option.bind_eq_some_iff.mp found
  split at found
  · next ends =>
      obtain ⟨high, _, found⟩ := Option.bind_eq_some_iff.mp found
      obtain ⟨_, _, same⟩ := Option.map_eq_some_iff.mp found
      obtain ⟨_, rfl⟩ := Prod.mk.inj same
      exact rangeEnd_suffix ends
  · obtain ⟨_, _, same⟩ := Option.map_eq_some_iff.mp found
    obtain ⟨_, rfl⟩ := Prod.mk.inj same
    exact List.suffix_rfl

/-- A move leads towards the end of the signs. -/
theorem move_suffix {mode : Mode} {current current' : CharSet} {frames frames' : List ClassFrame}
    {signs others : List Sign} (moved : move mode current frames signs = .on current' frames' others) :
    others <:+ signs := by
  unfold move at moved
  split at moved
  case h_1 => cases moved
  case h_2 =>
    split at moved
    · next found =>
        obtain ⟨_, _, rfl⟩ := Move.on.inj moved
        exact (ascii_suffix found).trans (List.suffix_cons _ _)
    · obtain ⟨_, _, rfl⟩ := Move.on.inj moved
      exact (opening_suffix _).trans (List.suffix_cons _ _)
  case h_3 =>
    split at moved
    · dsimp only at moved
      split at moved
      · cases moved
      · obtain ⟨_, _, rfl⟩ := Move.on.inj moved
        exact List.suffix_cons _ _
    · cases moved
  case h_7 =>
    split at moved
    · next found =>
        obtain ⟨_, _, rfl⟩ := Move.on.inj moved
        exact (range_suffix found).trans (List.suffix_cons _ _)
    · cases moved
  all_goals
    obtain ⟨_, _, rfl⟩ := Move.on.inj moved
    exact (List.suffix_cons _ _).trans (List.suffix_cons _ _)

theorem rangeEnd_some {signs others : List Sign} {last : Sign}
    (found : rangeEnd? signs = some (last, others)) :
    ∃ isHyphen, signs = .plain '-' isHyphen :: last :: others ∧
      (∀ isClose, last ≠ .plain ']' isClose) ∧ ∀ isHyphen, last ≠ .plain '-' isHyphen := by
  unfold rangeEnd? at found
  split at found
  case h_3 isHyphen _ _ notHyphen notClose =>
    obtain ⟨rfl, rfl⟩ := Prod.mk.inj (Option.some.inj found)
    exact ⟨isHyphen, rfl, fun _ same => notClose _ same, fun _ same => notHyphen _ same⟩
  all_goals cases found

theorem rangeEnd_none {signs : List Sign} {isHyphen : '-' ≠ '\\'}
    (closed : Closed signs) (none : rangeEnd? (.plain '-' isHyphen :: signs) = none) :
    ∃ c notEscape others, signs = .plain c notEscape :: others ∧ (c = ']' ∨ c = '-') := by
  unfold rangeEnd? at none
  split at none
  case h_1 same =>
    exact ⟨'-', _, _, (List.cons.inj same).2, .inr rfl⟩
  case h_2 same =>
    exact ⟨']', _, _, (List.cons.inj same).2, .inl rfl⟩
  case h_3 => cases none
  case h_4 other =>
    cases signs with
    | nil => cases closed
    | cons sign others => exact absurd rfl (other _ sign others)

theorem Closed.caret {signs : List Sign} (closed : Closed signs) : Closed (caret signs).2 := by
  unfold Shared.caret
  split
  · exact closed.tail (Sign.plain_ne_close (by decide))
  · exact closed

theorem Closed.className {signs others : List Sign} {name : List Char} (closed : Closed signs)
    (found : className? signs = some (name, others)) : Closed others := by
  induction signs generalizing name with
  | nil => cases found
  | cons sign signs ih =>
      unfold className? at found
      split at found
      · next same =>
          obtain ⟨rfl, rfl⟩ := List.cons.inj same
          obtain ⟨_, rfl⟩ := Prod.mk.inj (Option.some.inj found)
          exact closed.tail (Sign.plain_ne_close (by decide))
      · next same =>
          obtain ⟨rfl, rfl⟩ := List.cons.inj same
          obtain ⟨⟨name, rest⟩, isFound, same⟩ := Option.map_eq_some_iff.mp found
          obtain ⟨_, rfl⟩ := Prod.mk.inj same
          exact (closed.of_suffix (List.suffix_cons _ _)).elim
            (fun none => by rw [none] at isFound; cases isFound) fun closed => ih closed isFound
      · cases found

theorem Closed.hyphens {signs : List Sign} (closed : Closed signs) : Closed (hyphens signs).2 := by
  induction signs with
  | nil => cases closed
  | cons sign others ih =>
      unfold Shared.hyphens
      split
      · next same =>
          obtain ⟨rfl, rfl⟩ := List.cons.inj same
          exact ih (closed.tail (Sign.plain_ne_close (by decide)))
      · exact closed

/-! ## Reading signs -/

/-- The name of an ASCII class has lower-case letters only. -/
theorem not_mem_of_asciiClass {name : List Char} {c : Char} (sign : c = '\\' ∨ c = ']')
    (member : c ∈ name) : CharSet.asciiClass? name = none := by
  have named : ∀ known : String, (∀ d ∈ known.toList, d ≠ '\\' ∧ d ≠ ']') →
      String.ofList name ≠ known := by
    rintro known letters same
    rw [← String.toList_inj, String.toList_ofList] at same
    obtain ⟨notEscape, notClose⟩ := letters c (same ▸ member)
    exact sign.elim notEscape notClose
  unfold CharSet.asciiClass?
  split
  case h_15 => rfl
  all_goals
    next same => exact absurd same (named _ (forall_mem_of_all (by decide)))

namespace Spelling

variable {mode : Mode} {style : Sign → List Char} (spelling : Spelling mode style)
  {signs : List Sign} {tail : List Char}
include spelling

theorem spell_plain (c : Char) (notEscape : c ≠ '\\') :
    spell style (.plain c notEscape :: signs) tail = c :: spell style signs tail := by
  rw [spell_cons, spelling.plain]
  rfl

theorem spell_plain_plain {c : Char} {notEscape notEscape' : c ≠ '\\'} :
    spell style (.plain c notEscape :: .plain c notEscape' :: signs) tail =
      c :: c :: spell style signs tail := by
  rw [spelling.spell_plain, spelling.spell_plain]

theorem exists_spell_escape (inside : Escape) :
    ∃ more, spell style (.escape inside :: signs) tail = '\\' :: more := by
  obtain ⟨more, written, _⟩ := spelling.escape inside
  exact ⟨_, by rw [spell_cons, written]; rfl⟩

theorem spell_ne_nil (sign : Sign) : spell style (sign :: signs) tail ≠ [] := by
  cases sign with
  | plain c notEscape =>
      rw [spelling.spell_plain]
      exact List.cons_ne_nil _ _
  | escape inside =>
      obtain ⟨more, written⟩ :=
        @exists_spell_escape mode style spelling signs tail inside
      rw [written]
      exact List.cons_ne_nil _ _

theorem skip_spell (solid : Solid mode signs) (closed : Closed signs) :
    mode.skip (spell style signs tail) = spell style signs tail := by
  cases signs with
  | nil => cases closed
  | cons sign signs =>
      cases sign with
      | plain c notEscape =>
          rw [spelling.spell_plain]
          exact skip_of_solid (solid _ List.mem_cons_self)
      | escape inside =>
          obtain ⟨more, written⟩ :=
            @exists_spell_escape mode style spelling signs tail inside
          rw [written]
          exact skip_of_solid fun _ => rfl

theorem readMember_style (sign : Sign) (rest : List Char) :
    readMember mode (style sign ++ rest) =
      (sign.primitive? mode.ignoreCase).map fun primitive => (primitive, rest) := by
  cases sign with
  | plain c notEscape =>
      rw [spelling.plain, List.singleton_append, Pattern.readMember]
      · rfl
      · exact notEscape
  | escape inside =>
      obtain ⟨more, written, read⟩ := spelling.escape inside
      rw [written, List.cons_append, Pattern.readMember, read]
      rfl

/-- The notation of signs begins with a character of its own only if the first sign is it. -/
theorem head_spell {c : Char} {rest : List Char} (closed : Closed signs) (notEscape : c ≠ '\\')
    (begins : spell style signs tail = c :: rest) :
    ∃ others, signs = .plain c notEscape :: others ∧ rest = spell style others tail := by
  cases signs with
  | nil => cases closed
  | cons sign others =>
      cases sign with
      | plain d =>
          rw [spelling.spell_plain] at begins
          obtain ⟨rfl, rfl⟩ := List.cons.inj begins
          exact ⟨others, rfl, rfl⟩
      | escape inside =>
          obtain ⟨more, written⟩ :=
            @exists_spell_escape mode style spelling others tail inside
          rw [written] at begins
          exact absurd (List.cons.inj begins).1.symm notEscape

theorem twice_spell {c : Char} {rest : List Char} (closed : Closed signs) (notEscape : c ≠ '\\')
    (notClose : c ≠ ']') (begins : spell style signs tail = c :: c :: rest) :
    ∃ others, signs = .plain c notEscape :: .plain c notEscape :: others ∧
      rest = spell style others tail := by
  obtain ⟨others, rfl, next⟩ := spelling.head_spell closed notEscape begins
  obtain ⟨others, rfl, rest⟩ :=
    spelling.head_spell (closed.tail (Sign.plain_ne_close notClose)) notEscape next.symm
  exact ⟨others, rfl, rest⟩

/-- A member is a part of its own if no hyphen follows it, or one that begins no range. -/
theorem readRange_eq (first : Sign) {text : List Char} (settled : mode.skip text = text)
    (behind : text.head? = some '-' → mode.skip text.tail = text.tail) :
    readRange mode (style first ++ text) = (first.primitive? mode.ignoreCase).bind fun low =>
      if text.head? ≠ some '-' ∨ text.tail.head? = some ']' ∨ text.tail.head? = some '-' then
        (alone? low).map fun chars => (chars, text)
      else
        (readMember mode text.tail).bind fun read =>
          (between? low read.1).map fun chars => (chars, read.2) := by
  rw [readRange, spelling.readMember_style]
  simp only [Option.bind_eq_bind, Option.bind_map]
  refine Option.bind_congr fun low _ => ?_
  simp only [Function.comp, settled]
  by_cases hyphen : text.head? = some '-'
  · obtain ⟨rest, rfl⟩ := List.head?_eq_some_iff.mp hyphen
    have behind : mode.skip rest = rest := behind rfl
    simp only [List.tail_cons, behind]
    refine ite_congr (propext (by simp)) (fun _ => ?_)
      fun _ => Option.bind_congr fun read _ => ?_
    · cases low <;> rfl
    · obtain ⟨last, rest⟩ := read
      cases low with
      | literal least =>
          cases last with
          | literal most =>
              dsimp only [between?]
              split <;> rfl
          | _ => rfl
      | _ => rfl
  · rw [if_pos (Or.inl hyphen), if_pos]
    · cases low <;> rfl
    · split
      · exact absurd rfl hyphen
      · rfl

theorem head_style_ne {sign : Sign} {c : Char} (notEscape : c ≠ '\\')
    (other : ∀ isSign, sign ≠ .plain c isSign) (rest : List Char) :
    (style sign ++ rest).head? ≠ some c := by
  cases sign with
  | plain d isSign =>
      rw [spelling.plain]
      intro same
      obtain rfl := Option.some.inj same
      exact other isSign rfl
  | escape inside =>
      obtain ⟨more, written, _⟩ := spelling.escape inside
      rw [written]
      exact fun same => notEscape (Option.some.inj same).symm

theorem readRange_spell (first : Sign) (solid : Solid mode signs) (closed : Closed signs) :
    readRange mode (style first ++ spell style signs tail) =
      (range? mode.ignoreCase first signs).map fun read => (read.1, spell style read.2 tail) := by
  have behind : (spell style signs tail).head? = some '-' →
      mode.skip (spell style signs tail).tail = (spell style signs tail).tail := by
    intro hyphen
    obtain ⟨rest, begins⟩ := List.head?_eq_some_iff.mp hyphen
    obtain ⟨others, rfl, rfl⟩ := spelling.head_spell closed (by decide) begins
    rw [begins]
    exact spelling.skip_spell (solid.of_suffix (List.suffix_cons _ _))
      (closed.tail (Sign.plain_ne_close (by decide)))
  rw [spelling.readRange_eq first (spelling.skip_spell solid closed) behind, range?,
    Option.map_bind]
  refine Option.bind_congr fun low _ => ?_
  dsimp only [Function.comp]
  cases ends : rangeEnd? signs with
  | none =>
      rw [if_pos, Option.map_map]
      · rfl
      · refine or_iff_not_imp_left.mpr fun hyphen => ?_
        obtain ⟨rest, begins⟩ := List.head?_eq_some_iff.mp (not_not.mp hyphen)
        obtain ⟨others, rfl, rfl⟩ := spelling.head_spell closed (by decide) begins
        obtain ⟨c, notEscape, others, rfl, either⟩ :=
          rangeEnd_none (closed.tail (Sign.plain_ne_close (by decide))) ends
        rw [begins, List.tail_cons, spelling.spell_plain]
        exact either.imp (congrArg some) (congrArg some)
  | some found =>
      obtain ⟨last, others⟩ := found
      obtain ⟨isHyphen, rfl, notClose, notHyphen⟩ := rangeEnd_some ends
      rw [spelling.spell_plain, List.tail_cons, spell_cons, if_neg, spelling.readMember_style,
        Option.bind_map, Option.map_bind]
      · refine Option.bind_congr fun high _ => ?_
        dsimp only [Function.comp]
        rw [Option.map_map]
        rfl
      · rintro (other | close | hyphen)
        · exact other rfl
        · exact spelling.head_style_ne (by decide) notClose _ close
        · exact spelling.head_style_ne (by decide) notHyphen _ hyphen

theorem skipHyphens_spell (closed : Closed signs) :
    skipHyphens mode (spell style signs tail) =
      ((hyphens signs).1, spell style (hyphens signs).2 tail) := by
  induction signs with
  | nil => cases closed
  | cons sign others ih =>
      unfold skipHyphens
      split
      · next begins =>
          obtain ⟨others, same, rfl⟩ := spelling.head_spell closed (by decide) begins
          obtain ⟨rfl, rfl⟩ := List.cons.inj same
          rw [ih (closed.tail (Sign.plain_ne_close (by decide)))]
          rfl
      · next other =>
          have none : hyphens (sign :: others) = (false, sign :: others) := by
            unfold hyphens
            split
            · next same =>
                obtain ⟨rfl, rfl⟩ := List.cons.inj same
                exact absurd (spelling.spell_plain _ _) (other _)
            · rfl
          rw [none]

theorem caret_spell (solid : Solid mode signs) (closed : Closed signs) :
    (match mode.skip (spell style signs tail) with
      | '^' :: rest => (true, mode.skip rest)
      | text => (false, text)) = ((caret signs).1, spell style (caret signs).2 tail) := by
  rw [spelling.skip_spell solid closed]
  split
  · next begins =>
      obtain ⟨others, rfl, rfl⟩ := spelling.head_spell closed (by decide) begins
      rw [spelling.skip_spell (solid.of_suffix (List.suffix_cons _ _))
        (closed.tail (Sign.plain_ne_close (by decide)))]
      rfl
  · next other =>
      unfold caret
      split
      · exact absurd (spelling.spell_plain _ _) (other _)
      · rfl

theorem plainCaret_spell (closed : Closed signs) :
    (match spell style signs tail with
      | '^' :: rest => (true, rest)
      | text => (false, text)) = ((caret signs).1, spell style (caret signs).2 tail) := by
  split
  · next begins =>
      obtain ⟨others, rfl, rfl⟩ := spelling.head_spell closed (by decide) begins
      rfl
  · next other =>
      unfold caret
      split
      · exact absurd (spelling.spell_plain _ _) (other _)
      · rfl

/-- What follows an opening bracket up to the first sign that does not stand for itself. -/
theorem readOpening_spell (solid : Solid mode signs) (closed : Closed signs) :
    readOpening mode (spell style signs tail) =
      ((opening signs).1, (opening signs).2.1, spell style (opening signs).2.2 tail) := by
  unfold readOpening
  split
  next negated text opened =>
  obtain ⟨rfl, rfl⟩ := Prod.mk.inj (opened.symm.trans (spelling.caret_spell solid closed))
  unfold opening
  rw [spelling.skipHyphens_spell closed.caret]
  dsimp only
  split
  · rfl
  · split
    · next begins =>
        obtain ⟨others, same, rfl⟩ := spelling.head_spell closed.caret.hyphens (by decide) begins
        rw [same]
        rfl
    · next other =>
        split
        · next same =>
            rw [same] at other
            exact absurd (spelling.spell_plain _ _) (other _)
        · rfl

theorem splitAtFirst_spell {others : List Sign} {name : List Char}
    (found : className? signs = some (name, others)) :
    splitAtFirst? [':'] (spell style signs tail) = some (name, spell style others tail) := by
  induction signs generalizing name with
  | nil => cases found
  | cons sign signs ih =>
      unfold className? at found
      split at found
      · next same =>
          obtain ⟨rfl, rfl⟩ := List.cons.inj same
          obtain ⟨rfl, rfl⟩ := Prod.mk.inj (Option.some.inj found)
          rw [spelling.spell_plain]
          rfl
      · next c notEscape _ notColon same =>
          obtain ⟨rfl, rfl⟩ := List.cons.inj same
          obtain ⟨⟨more, rest⟩, isFound, same⟩ := Option.map_eq_some_iff.mp found
          obtain ⟨rfl, rfl⟩ := Prod.mk.inj same
          have unlike : [':'].isPrefixOf (c :: spell style signs tail) = false := by
            rw [List.isPrefixOf, beq_eq_false_iff_ne.mpr]
            · rfl
            · rintro rfl
              exact notColon rfl
          rw [spelling.spell_plain, splitAtFirst?, unlike, if_neg Bool.false_ne_true, ih isFound]
          rfl
      · cases found

/-- Where the signs give no name, what stands before the first colon is none. -/
theorem mem_of_splitAtFirst {name rest : List Char} (closed : Closed signs)
    (none : className? signs = none)
    (found : splitAtFirst? [':'] (spell style signs tail) = some (name, rest)) :
    '\\' ∈ name ∨ ']' ∈ name := by
  induction signs generalizing name with
  | nil => cases closed
  | cons sign signs ih =>
      cases sign with
      | escape inside =>
          obtain ⟨more, written⟩ :=
            @exists_spell_escape mode style spelling signs tail inside
          have unlike : [':'].isPrefixOf ('\\' :: more) = false := rfl
          rw [written, splitAtFirst?, unlike, if_neg Bool.false_ne_true] at found
          obtain ⟨⟨others, after⟩, _, same⟩ := Option.map_eq_some_iff.mp found
          obtain ⟨rfl, _⟩ := Prod.mk.inj same
          exact .inl List.mem_cons_self
      | plain c notEscape =>
          have notColon : c ≠ ':' := by
            rintro rfl
            cases none
          have unlike : [':'].isPrefixOf (c :: spell style signs tail) = false := by
            rw [List.isPrefixOf, beq_eq_false_iff_ne.mpr notColon.symm]
            rfl
          rw [spelling.spell_plain, splitAtFirst?, unlike, if_neg Bool.false_ne_true] at found
          obtain ⟨⟨others, after⟩, isFound, same⟩ := Option.map_eq_some_iff.mp found
          obtain ⟨rfl, rfl⟩ := Prod.mk.inj same
          by_cases close : c = ']'
          · subst close
            exact .inr List.mem_cons_self
          · have further : className? signs = .none := by
              rw [className?] at none
              · exact Option.map_eq_none_iff.mp none
              · exact notColon
            exact (ih (closed.tail (Sign.plain_ne_close close)) further isFound).imp
              (List.mem_cons_of_mem _) (List.mem_cons_of_mem _)

theorem readAsciiClass_spell (closed : Closed signs) :
    readAsciiClass mode (spell style signs tail) =
      (ascii? mode signs).map fun found => (found.1, spell style found.2 tail) := by
  unfold readAsciiClass
  split
  · next text begins =>
      obtain ⟨others, rfl, rfl⟩ := spelling.head_spell closed (by decide) begins
      replace closed := closed.tail (Sign.plain_ne_close (by decide))
      split
      next negated text opened =>
      obtain ⟨rfl, rfl⟩ := Prod.mk.inj (opened.symm.trans (spelling.plainCaret_spell closed))
      rw [ascii?]
      cases named : className? (caret others).2 with
      | some found =>
          obtain ⟨name, rest⟩ := found
          rw [spelling.splitAtFirst_spell named, Option.bind_eq_bind, Option.bind_some]
          dsimp only
          split
          · next begins =>
              obtain ⟨behind, rfl, rfl⟩ :=
                spelling.head_spell (closed.caret.className named) (by decide) begins
              show _ = Option.map _ ((CharSet.asciiClass? name).map
                fun chars => (mode.applyTo (caret others).1 chars, behind))
              cases CharSet.asciiClass? name <;> rfl
          · next other =>
              split
              · next same =>
                  obtain ⟨rfl, rfl⟩ := Prod.mk.inj (Option.some.inj same)
                  exact absurd (spelling.spell_plain _ _) (other _)
              · rfl
      | none =>
          cases found : splitAtFirst? [':'] (spell style (caret others).2 tail) with
          | none => simp only [Option.bind_eq_bind, Option.bind_none, Option.map_none]
          | some found =>
              have unknown := (spelling.mem_of_splitAtFirst closed.caret named found).elim
                (not_mem_of_asciiClass (.inl rfl)) (not_mem_of_asciiClass (.inr rfl))
              rw [Option.bind_eq_bind, Option.bind_some]
              dsimp only
              split
              · rw [unknown]
                rfl
              · rfl
  · next other =>
      unfold ascii?
      split
      · exact absurd (spelling.spell_plain _ _) (other _)
      · rfl

/-- The reader makes the moves that the signs say, however these are written. -/
theorem readClassFrom_spell (fuel : Nat) (current : CharSet) (frames : List ClassFrame)
    (solid : Solid mode signs) (closed : Closed signs) :
    readClassFrom mode (fuel + 1) current frames (spell style signs tail) =
      match move mode current frames signs with
      | .stuck => none
      | .done chars others => some (chars, spell style others tail)
      | .on current frames others =>
          readClassFrom mode fuel current frames (spell style others tail) := by
  have behind : ∀ {sign others}, signs = sign :: others → sign ≠ Sign.close →
      Solid mode others ∧ Closed others := by
    rintro sign others rfl notClose
    exact ⟨solid.of_suffix (List.suffix_cons _ _), closed.tail notClose⟩
  rw [readClassFrom, spelling.skip_spell solid closed]
  dsimp only
  split
  case h_1 none =>
    cases signs with
    | nil => cases closed
    | cons sign others => exact absurd none (spelling.spell_ne_nil sign)
  case h_2 begins =>
    obtain ⟨others, rfl, rfl⟩ := spelling.head_spell closed (by decide) begins
    obtain ⟨solid, closed⟩ := behind rfl (Sign.plain_ne_close (by decide))
    rw [spelling.readAsciiClass_spell closed, move]
    cases ascii? mode others with
    | some found => rfl
    | none =>
        simp only [Option.map_none]
        rw [spelling.readOpening_spell solid closed]
  case h_3 begins =>
    obtain ⟨others, rfl, rfl⟩ := spelling.head_spell closed (by decide) begins
    rw [move]
    obtain ⟨content, around⟩ := settle mode current frames
    cases around with
    | nil => rfl
    | cons frame around =>
        cases frame with
        | pending => rfl
        | opened outer negated => cases around <;> rfl
  case h_4 begins =>
    obtain ⟨others, rfl, rfl⟩ := spelling.twice_spell closed (by decide) (by decide) begins
    rw [move]
    rfl
  case h_5 begins =>
    obtain ⟨others, rfl, rfl⟩ := spelling.twice_spell closed (by decide) (by decide) begins
    rw [move]
    rfl
  case h_6 begins =>
    obtain ⟨others, rfl, rfl⟩ := spelling.twice_spell closed (by decide) (by decide) begins
    rw [move]
    rfl
  case h_7 notOpen notClose notAnd notMinus notTilde =>
    cases signs with
    | nil => cases closed
    | cons sign others =>
        have isClose : sign ≠ Sign.close := by
          rintro rfl
          exact notClose _ (spelling.spell_plain _ _)
        obtain ⟨solid, closed⟩ := behind rfl isClose
        rw [spell_cons, spelling.readRange_spell sign solid closed, move]
        case x_1 =>
          rintro _ rfl
          exact notOpen _ (spelling.spell_plain _ _)
        case x_2 =>
          rintro _ rfl
          exact isClose rfl
        case x_3 =>
          rintro _ _ _ rfl rfl
          exact notAnd _ spelling.spell_plain_plain
        case x_4 =>
          rintro _ _ _ rfl rfl
          exact notMinus _ spelling.spell_plain_plain
        case x_5 =>
          rintro _ _ _ rfl rfl
          exact notTilde _ spelling.spell_plain_plain
        cases range? mode.ignoreCase sign others <;> rfl

end Spelling

theorem readClassFrom_nil (mode : Mode) (fuel : Nat) (current : CharSet)
    (frames : List ClassFrame) : readClassFrom mode fuel current frames [] = none := by
  cases fuel with
  | zero => rfl
  | succ fuel =>
      rw [readClassFrom, skip_nil]

/-- Two spellings of the same signs are read as one set, if the first one is read to its end. -/
theorem readClassFrom_agree {mode mode' : Mode} {style style' : Sign → List Char}
    {signs : List Sign} {tail rest : List Char} {fuel fuel' : Nat} {current chars chars' : CharSet}
    {frames : List ClassFrame} (one : Spelling mode style) (other : Spelling mode' style')
    (same : mode.ignoreCase = mode'.ignoreCase) (solid : Solid mode signs)
    (solid' : Solid mode' signs) (closed : Closed signs)
    (read : readClassFrom mode fuel current frames (spell style signs []) = some (chars, []))
    (read' : readClassFrom mode' fuel' current frames (spell style' signs tail) =
      some (chars', rest)) :
    chars' = chars ∧ rest = tail := by
  induction fuel generalizing fuel' current frames signs with
  | zero => cases read
  | succ fuel ih =>
      cases fuel' with
      | zero => cases read'
      | succ fuel' =>
          rw [one.readClassFrom_spell fuel current frames solid closed] at read
          rw [other.readClassFrom_spell fuel' current frames solid' closed, ← move_congr same]
            at read'
          cases moved : move mode current frames signs with
          | stuck =>
              rw [moved] at read
              cases read
          | done found others =>
              rw [moved] at read read'
              obtain ⟨rfl, ended⟩ := Prod.mk.inj (Option.some.inj read)
              obtain ⟨rfl, rfl⟩ := Prod.mk.inj (Option.some.inj read')
              cases others with
              | nil => exact ⟨rfl, rfl⟩
              | cons sign others => exact absurd ended (one.spell_ne_nil sign)
          | on current frames others =>
              rw [moved] at read read'
              have behind := move_suffix moved
              rcases closed.of_suffix behind with rfl | closed
              · cases (readClassFrom_nil mode fuel current frames).symm.trans read
              · exact ih (solid.of_suffix behind) (solid'.of_suffix behind) closed read read'

/-! ## Classes -/

theorem balanced_escape (depth : Nat) (inside : Escape) (signs : List Sign) :
    balanced depth (.escape inside :: signs) = balanced depth signs := by
  cases depth <;> rfl

theorem balanced_plain {c : Char} {notEscape : c ≠ '\\'} (notOpen : c ≠ '[') (notClose : c ≠ ']')
    (depth : Nat) (signs : List Sign) :
    balanced depth (.plain c notEscape :: signs) = balanced depth signs := by
  rw [balanced]
  · rintro _ same
    exact notOpen (Sign.plain.inj same)
  · rintro _ _ same
    exact notClose (Sign.plain.inj same)
  · rintro _ _ _ same
    exact notClose (Sign.plain.inj same)

/-- A class in extended notation is turned into its code. -/
theorem classText_spell {signs : List Sign} {fuel depth : Nat} {written tail inside rest : List Char}
    (pairs : balanced depth signs = true)
    (read : classText fuel (depth + 1) written (spell Sign.text (signs ++ [Sign.close]) tail) =
      some (inside, rest)) :
    inside = written.reverse ++ spell Sign.coded (signs ++ [Sign.close]) [] ∧ rest = tail := by
  have onward : ∀ before more others : List Char,
      (more.reverse ++ before).reverse ++ others = before.reverse ++ (more ++ others) := by
    intro before more others
    rw [List.reverse_append, List.reverse_reverse, List.append_assoc]
  induction signs generalizing fuel depth written with
  | nil =>
      cases fuel with
      | zero => cases read
      | succ fuel =>
          obtain rfl : depth = 0 := beq_iff_eq.mp pairs
          obtain ⟨rfl, rfl⟩ := Prod.mk.inj (Option.some.inj read)
          exact ⟨by rw [List.reverse_cons]; rfl, rfl⟩
  | cons sign signs ih =>
      cases fuel with
      | zero => cases read
      | succ fuel =>
          rw [List.cons_append, spell_cons] at read ⊢
          cases sign with
          | escape escape =>
              rw [balanced_escape] at pairs
              have step : escapeInClass (escape.text ++ _) = _ :=
                escape.escapeInClass_text (spell Sign.text (signs ++ [Sign.close]) tail)
              rw [Sign.text, List.cons_append, classText] at read
              simp only [step] at read
              obtain ⟨rfl, rfl⟩ := ih pairs read
              exact ⟨onward written escape.coded _, rfl⟩
          | plain c notEscape =>
              by_cases isOpen : c = '['
              · subst isOpen
                obtain ⟨rfl, rfl⟩ := @ih fuel (depth + 1) ('[' :: written) pairs read
                exact ⟨onward written ['['] _, rfl⟩
              · by_cases isClose : c = ']'
                · subst isClose
                  cases depth with
                  | zero => cases pairs
                  | succ depth =>
                      obtain ⟨rfl, rfl⟩ := @ih fuel depth (']' :: written) pairs read
                      exact ⟨onward written [']'] _, rfl⟩
                · rw [balanced_plain isOpen isClose] at pairs
                  rw [Sign.text, List.singleton_append, classText] at read
                  · obtain ⟨rfl, rfl⟩ := ih pairs read
                    exact ⟨onward written [c] _, rfl⟩
                  · exact notEscape
                  · exact isOpen
                  · exact isClose

namespace Bracketed

variable (bracketed : Bracketed)

/-- All signs of a class, with one for a closing bracket at the start. -/
def whole (bracket : Sign) : List Sign :=
  (if bracketed.caret then [.plain '^' (by decide)] else []) ++
    ((if bracketed.bracket then [bracket] else []) ++ bracketed.closed)

theorem text_append (tail : List Char) :
    bracketed.text ++ tail = spell Sign.text (bracketed.whole Sign.close) tail := by
  rw [text, spell, whole, List.flatMap_append, List.flatMap_append]
  cases bracketed.caret <;> cases bracketed.bracket <;> rfl

theorem coded_eq :
    bracketed.coded = spell Sign.coded (bracketed.whole (.escape (.sign ']' rfl))) [] := by
  rw [coded, spell, whole, List.flatMap_append, List.flatMap_append, List.append_nil]
  cases bracketed.caret <;> cases bracketed.bracket <;> rfl

theorem closed_whole (bracket : Sign) : Closed (bracketed.whole bracket) := by
  rw [whole, ← List.append_assoc, closed, ← List.append_assoc]
  exact closed_append _

/-- Whether the class is negated, and how its characters begin. -/
def opened : Bool × CharSet × List Sign := opening (bracketed.whole Sign.close)

theorem readClass_text {mode : Mode} (solid : Solid mode (bracketed.whole Sign.close))
    (tail : List Char) : ∃ fuel, readClass mode (bracketed.text ++ tail) =
      readClassFrom mode fuel bracketed.opened.2.1 [.opened CharSet.empty bracketed.opened.1]
        (spell Sign.text bracketed.opened.2.2 tail) := by
  rw [bracketed.text_append, readClass,
    (spelling_text mode).readOpening_spell solid (bracketed.closed_whole _)]
  exact ⟨_, rfl⟩

/-- The code of a bracket at the start is a member of the class like the bracket itself. -/
theorem readClass_coded {mode : Mode} (unspaced : mode.spaced = false) :
    ∃ fuel, readClass mode bracketed.coded =
      readClassFrom mode fuel bracketed.opened.2.1 [.opened CharSet.empty bracketed.opened.1]
        (spell Sign.coded bracketed.opened.2.2 []) := by
  have solid : ∀ signs, Solid mode signs := by
    intro _ _ _ spaced
    rw [unspaced] at spaced
    cases spaced
  rw [bracketed.coded_eq, readClass,
    (spelling_coded mode).readOpening_spell (solid _) (bracketed.closed_whole _)]
  cases isBracket : bracketed.bracket with
  | false =>
      have same : ∀ bracket, bracketed.whole bracket = bracketed.whole Sign.close := by
        intro bracket
        rw [whole, whole, isBracket]
        rfl
      rw [same]
      exact ⟨_, rfl⟩
  | true =>
      let code : Sign := .escape (.sign ']' rfl)
      have isOpened : bracketed.opened =
          (bracketed.caret, CharSet.singleton ']', bracketed.closed) := by
        rw [opened, whole, isBracket]
        cases bracketed.caret <;> rfl
      have isCode : opening (bracketed.whole code) =
          (bracketed.caret, CharSet.empty, code :: bracketed.closed) := by
        rw [whole, isBracket]
        cases bracketed.caret <;> rfl
      have alone : range? mode.ignoreCase code bracketed.closed =
          some (CharSet.singleton ']', bracketed.closed) := by
        rw [range?, closed, bracketed.noRange isBracket]
        rfl
      have step : ∀ frames, move mode CharSet.empty frames (code :: bracketed.closed) =
          .on (CharSet.singleton ']') frames bracketed.closed := by
        intro frames
        rw [move_escape, alone]
        rfl
      rw [isCode, isOpened]
      dsimp only
      have closed : Closed (code :: bracketed.closed) :=
        closed_append (code :: bracketed.signs)
      rw [(spelling_coded mode).readClassFrom_spell _ _ _ (solid _) closed, step]
      exact ⟨_, rfl⟩

/-- A sign that the text begins with is the first one of the class. -/
theorem exists_signs_of_begins {c : Char} {tail more : List Char} (notEscape : c ≠ '\\')
    (noBracket : bracketed.bracket = false)
    (begins : spell Sign.text bracketed.closed tail = c :: more) :
    ∃ others, bracketed.signs = .plain c notEscape :: others := by
  obtain ⟨others, first, _⟩ :=
    (spelling_text Mode.initial).head_spell (closed_append _) notEscape begins
  cases signs : bracketed.signs with
  | nil => exact absurd signs (bracketed.notEmpty noBracket)
  | cons sign signs' =>
      rw [signs] at first
      exact ⟨signs', by rw [(List.cons.inj first).1]⟩

theorem signs_ne_close {tail more : List Char} (noBracket : bracketed.bracket = false) :
    spell Sign.text bracketed.closed tail ≠ ']' :: more := by
  intro begins
  obtain ⟨others, signs⟩ := bracketed.exists_signs_of_begins (by decide) noBracket begins
  have pairs := bracketed.balanced
  rw [signs] at pairs
  cases pairs

theorem text_ne_caret {tail more : List Char} (noCaret : bracketed.caret = false) :
    (if bracketed.bracket then [']'] else []) ++ spell Sign.text bracketed.closed tail ≠
      '^' :: more := by
  intro begins
  cases bracket : bracketed.bracket with
  | true =>
      rw [bracket] at begins
      exact absurd (List.cons.inj begins).1 (by decide)
  | false =>
      rw [bracket] at begins
      obtain ⟨others, signs⟩ := bracketed.exists_signs_of_begins (by decide) bracket begins
      exact bracketed.notCaret noCaret bracket (by decide) (by rw [signs]; rfl)

end Bracketed

/-- A class in extended notation is read as its code. -/
theorem readExtendedClass_bracketed {mode : Mode} {bracketed : Bracketed} {tail rest : List Char}
    {chars : CharSet}
    (read : readExtendedClass mode (bracketed.text ++ tail) = some (chars, rest)) :
    readClass mode.inClass bracketed.coded = some (chars, []) ∧ rest = tail := by
  rw [Bracketed.text, List.append_assoc, List.append_assoc] at read
  unfold readExtendedClass at read
  split at read
  next opening text pieces =>
    have opened : opening = (if bracketed.caret then ['^'] else []) ∧
        text = (if bracketed.bracket then [']'] else []) ++ spell Sign.text bracketed.closed tail := by
      cases caret : bracketed.caret with
      | true =>
          rw [caret] at pieces
          obtain ⟨rfl, rfl⟩ := Prod.mk.inj pieces
          exact ⟨rfl, rfl⟩
      | false =>
          rw [caret] at pieces
          split at pieces
          · next begins => exact absurd begins (bracketed.text_ne_caret caret)
          · obtain ⟨rfl, rfl⟩ := Prod.mk.inj pieces
            exact ⟨rfl, rfl⟩
    obtain ⟨rfl, rfl⟩ := opened
    split at read
    next opening text pieces =>
      have opened : opening = (if bracketed.caret then ['^'] else []) ++
          (if bracketed.bracket then codeText ']' else []) ∧
            text = spell Sign.text bracketed.closed tail := by
        cases bracket : bracketed.bracket with
        | true =>
            rw [bracket] at pieces
            obtain ⟨rfl, rfl⟩ := Prod.mk.inj pieces
            exact ⟨rfl, rfl⟩
        | false =>
            rw [bracket] at pieces
            split at pieces
            · next begins => exact absurd begins (bracketed.signs_ne_close bracket)
            · obtain ⟨rfl, rfl⟩ := Prod.mk.inj pieces
              exact ⟨(List.append_nil _).symm, rfl⟩
      obtain ⟨rfl, rfl⟩ := opened
      obtain ⟨⟨inside, left⟩, isInside, found⟩ := Option.bind_eq_some_iff.mp read
      obtain ⟨rfl, rfl⟩ := classText_spell bracketed.balanced isInside
      have isCoded : ((if bracketed.caret then ['^'] else []) ++
          (if bracketed.bracket then codeText ']' else [])).reverse.reverse ++
            spell Sign.coded (bracketed.signs ++ [Sign.close]) [] = bracketed.coded := by
        rw [List.reverse_reverse, List.append_assoc, spell, List.append_nil]
        rfl
      dsimp only at found
      rw [isCoded] at found
      split at found
      · next isClass =>
          obtain ⟨rfl, rfl⟩ := Prod.mk.inj (Option.some.inj found)
          exact ⟨isClass, rfl⟩
      · cases found

theorem Bracketed.solid_whole {mode : Mode} {bracketed : Bracketed}
    (solid : Solid mode bracketed.signs) : Solid mode (bracketed.whole Sign.close) := by
  intro sign member spaced
  rw [whole, closed, List.mem_append, List.mem_append, List.mem_append] at member
  rcases member with caret | bracket | inside | last
  · split at caret
    · rw [List.mem_singleton.mp caret]
      rfl
    · cases caret
  · split at bracket
    · rw [List.mem_singleton.mp bracket]
      rfl
    · cases bracket
  · exact solid sign inside spaced
  · rw [List.mem_singleton.mp last]
    rfl

/-- Both notations read one set. -/
theorem readClass_bracketed {mode : Mode} {bracketed : Bracketed} {tail rest : List Char}
    {chars chars' : CharSet} (solid : Solid mode bracketed.signs)
    (read : readClass mode.inClass bracketed.coded = some (chars, []))
    (read' : readClass mode (bracketed.text ++ tail) = some (chars', rest)) :
    chars' = chars ∧ rest = tail := by
  have solid := Bracketed.solid_whole solid
  obtain ⟨fuel, coded⟩ := @Bracketed.readClass_coded bracketed mode.inClass rfl
  obtain ⟨fuel', plain⟩ := bracketed.readClass_text solid tail
  rw [coded] at read
  rw [plain] at read'
  have behind : bracketed.opened.2.2 <:+ bracketed.whole Sign.close := opening_suffix _
  rcases (bracketed.closed_whole Sign.close).of_suffix behind with none | closed
  · rw [none] at read
    cases (readClassFrom_nil _ _ _ _).symm.trans read
  · have unspaced : Solid mode.inClass bracketed.opened.2.2 := fun _ _ spaced => by cases spaced
    exact readClassFrom_agree (spelling_coded mode.inClass) (spelling_text mode) rfl unspaced
      (solid.of_suffix behind) closed read read'

end Shared

end AgentClassifier.Pattern
