import AgentClassifier.Pattern
import AgentClassifier.Proofs.Pattern.Bare
import AgentClassifier.Proofs.Pattern.Reads
import AgentClassifier.Proofs.Pattern.Shared.Regular

/-!
What the reader of extended notation makes of a shared tree.

* `At` : where a reader stands: its mode, the number of groups and the text that is left.
* `Alternatives.ensures` : the reader takes the notation of a tree to its end, and its bare
  expression is what the tree stands for.
* `Shared.bare_of_read` : the same of a whole pattern, in either case mode.
-/

namespace AgentClassifier.Pattern

open Extended

namespace Shared

/-! ## Places -/

/-- Where a reader stands. -/
structure At (mode : Mode) (count : Nat) (text : List Char) (reading : Reading) : Prop where
  mode : reading.mode = mode
  groups : reading.groups = count
  rest : reading.rest = text

/-- The reader stands at a text or somewhere before it, with nothing but fillers between. -/
structure Near (mode : Mode) (count : Nat) (text : List Char) (reading : Reading) : Prop where
  mode : reading.mode = mode
  groups : reading.groups = count
  rest : reading.mode.skipFiller? reading.rest = reading.mode.skipFiller? text

section Places

variable {β : Type} {mode : Mode} {count : Nat} {text rest : List Char} {c : Char}
  {before : Reading} {next : Unit → Reads β} {post : β → Reading → Prop}

theorem At.moved (here : At mode count text before) (rest : List Char) :
    At mode count rest { before with rest } :=
  ⟨here.mode, here.groups, rfl⟩

theorem At.near (here : At mode count text before) : Near mode count text before :=
  ⟨here.mode, here.groups, by rw [here.rest]⟩

/-- Fillers are skipped, and the reader stands at what is left. -/
theorem Near.skip_bind {settled : List Char} (here : Near mode count text before)
    (skipped : mode.skipFiller? text = some settled)
    (onward : ∀ reading, At mode count settled reading → (next ()).Ensures reading post) :
    (Reads.skip >>= next).Ensures before post := by
  have read : Reads.skip before = some ((), { before with rest := settled }) := by
    rw [Reads.skip, here.rest, here.mode, skipped]
  intro value after isRead
  obtain ⟨⟨_, middle⟩, same, isRead⟩ := Option.bind_eq_some_iff.mp isRead
  obtain ⟨_, rfl⟩ := Prod.mk.inj (Option.some.inj (read.symm.trans same))
  exact onward { before with rest := settled } ⟨here.mode, here.groups, rfl⟩ value after isRead

theorem Near.behind_gap {gap : List Shared.Filler}
    (here : Near mode count (gap.flatMap Filler.text ++ rest) before)
    (spaced : gap ≠ [] → mode.spaced = true) : Near mode count rest before :=
  ⟨here.mode, here.groups, by rw [here.rest, here.mode, (skip_gap spaced rest).2]⟩

/-- What stands behind fillers is still to be read in full. -/
theorem Near.length_le {settled : List Char} (here : Near mode count text before)
    (skipped : mode.skipFiller? text = some settled) : settled.length ≤ before.rest.length := by
  refine length_skipFiller? mode before.rest settled ?_
  rw [← here.mode, here.rest, here.mode, skipped]

/-- Behind its fillers a text is as near as before them. -/
theorem Calm.near {reading : Reading} (calm : Calm mode text)
    (there : At mode count (mode.skip text) reading) : Near mode count text reading where
  mode := there.mode
  groups := there.groups
  rest := by
    rw [there.mode, there.rest, calm.skipped]
    exact skipFiller_skipFiller mode.spaced .outside text _ calm.skipped

theorem Calm.length_le (calm : Calm mode text) : (mode.skip text).length ≤ text.length :=
  length_skipFiller? mode text _ calm.skipped

/-- Wherever fillers end, the text is as near as before. -/
theorem Near.skip_bind_near (here : Near mode count text before)
    (onward : ∀ reading, Near mode count text reading → (next ()).Ensures reading post) :
    (Reads.skip >>= next).Ensures before post := by
  intro value after isRead
  obtain ⟨⟨_, middle⟩, same, isRead⟩ := Option.bind_eq_some_iff.mp isRead
  unfold Reads.skip at same
  split at same
  · next rest skipped =>
      obtain ⟨_, rfl⟩ := Prod.mk.inj (Option.some.inj same)
      refine onward { before with rest } ⟨here.mode, here.groups, ?_⟩ value after isRead
      rw [← here.rest, skipped]
      exact skipFiller_skipFiller before.mode.spaced .outside before.rest rest skipped
  · cases same

theorem take_bind {α : Type} {step : Mode → List Char → Option (α × List Char)} {value : α}
    {onward : α → Reads β} (read : step before.mode before.rest = some (value, rest))
    (ensures : (onward value).Ensures { before with rest } post) :
    (Reads.take step >>= onward).Ensures before post := by
  have taken : Reads.take step before = some (value, { before with rest }) := by
    rw [Reads.take, read]
  intro found after isRead
  obtain ⟨⟨_, middle⟩, same, isRead⟩ := Option.bind_eq_some_iff.mp isRead
  obtain ⟨rfl, rfl⟩ := Prod.mk.inj (Option.some.inj (taken.symm.trans same))
  exact ensures found after isRead

end Places

/-! ## Repetitions -/

theorem readDecimal_digits (numeral : Numeral) {c : Char} (ends : EndsNumeral c)
    (rest : List Char) :
    readDecimal (numeral.digits ++ c :: rest) = some (numeral.value, c :: rest) := by
  have small := numeral.small
  have large : maxIterations < Nat.pow 2 64 := by decide
  rw [readDecimal, numeral.takeWhile_digits ends, numeral.dropWhile_digits ends, if_neg]
  · rfl
  · rw [not_or]
    exact ⟨fun none => numeral.notEmpty (List.isEmpty_iff.mp none), by omega⟩

theorem Numeral.skipFiller_digits (numeral : Numeral) (rest : List Char) (mode : Mode) :
    mode.skipFiller? (numeral.digits ++ rest) = some (numeral.digits ++ rest) := by
  cases begins : numeral.digits ++ rest with
  | nil => rfl
  | cons digit others =>
      have isDigit := numeral.head_digit begins
      refine skipFiller_of_solid (fun _ => solid_of_digit isDigit) (.of_head ?_)
      rintro rfl
      exact absurd isDigit (by decide)

theorem readExtendedBounds_text (mode : Mode) {bounds : Bounds} {inside : List Char}
    (braces : bounds.text = '\x7b' :: inside) (text : List Char) :
    readExtendedBounds mode (inside ++ text) = some ((bounds.low, bounds.high), text) := by
  have close : ∀ {text}, mode.skipFiller? ('\x7d' :: text) = some ('\x7d' :: text) :=
    skipFiller_of_solid (fun _ => rfl) (.of_head (by decide))
  have comma : ∀ {text}, mode.skipFiller? (',' :: text) = some (',' :: text) :=
    skipFiller_of_solid (fun _ => rfl) (.of_head (by decide))
  cases bounds with
  | optional | any | atLeastOne => cases braces
  | exactly count =>
      obtain rfl := (List.cons.inj braces).2
      have low := readDecimal_digits count (.inr rfl) text
      rw [List.append_assoc, readExtendedBounds, count.skipFiller_digits]
      simp only [Option.bind_eq_bind, Option.bind_some, List.cons_append, List.nil_append]
      split
      · next begins => exact absurd (count.head_digit begins) (by decide)
      · simp only [low, close, Option.bind_some]
        rfl
  | atLeast least =>
      obtain rfl := (List.cons.inj braces).2
      have low := readDecimal_digits least (.inl rfl) ('\x7d' :: text)
      have none : readDecimal ('\x7d' :: text) = none := rfl
      rw [List.append_assoc, readExtendedBounds, least.skipFiller_digits]
      simp only [Option.bind_eq_bind, Option.bind_some, List.cons_append, List.nil_append]
      split
      · next begins => exact absurd (least.head_digit begins) (by decide)
      · simp only [low, close, comma, none, Option.bind_some]
        rfl
  | between least most ordered =>
      obtain rfl := (List.cons.inj braces).2
      have low := readDecimal_digits least (.inl rfl) (most.digits ++ '\x7d' :: text)
      have high := readDecimal_digits most (.inr rfl) text
      have bounded : most.value ≠ Nat.pow 2 64 - 1 := by
        have small : most.value ≤ maxIterations := most.small
        have large : maxIterations < Nat.pow 2 64 - 1 := by decide
        omega
      rw [List.append_assoc, readExtendedBounds, least.skipFiller_digits]
      simp only [Option.bind_eq_bind, Option.bind_some, List.cons_append, List.nil_append,
        List.append_assoc]
      split
      · next begins => exact absurd (least.head_digit begins) (by decide)
      · simp only [low, high, close, comma, most.skipFiller_digits, Option.bind_some,
          if_neg bounded]
        rfl

theorem bare_repetition {child : Extended} {piece : Regular} (bare : child.bare? = some piece)
    (bounds : Bounds) (greedy : Bool) :
    (Extended.repetition bounds.low bounds.high greedy child).bare? =
      some (Regular.times bounds.low bounds.high greedy piece) := by
  rw [bare?, if_pos bounds.ordered, bare]
  rfl

/-- The bounds of the repetition that a text begins with, and what is left. -/
def boundsAt? (mode : Mode) : List Char → Option ((Nat × Option Nat) × List Char)
  | '?' :: rest => some ((0, some 1), rest)
  | '*' :: rest => some ((0, none), rest)
  | '+' :: rest => some ((1, none), rest)
  | '\x7b' :: rest => readExtendedBounds mode rest
  | _ => none

theorem boundsAt?_text (mode : Mode) (bounds : Bounds) (text : List Char) :
    boundsAt? mode (bounds.text ++ text) = some ((bounds.low, bounds.high), text) := by
  cases bounds with
  | optional | any | atLeastOne => rfl
  | exactly | atLeast | between => exact readExtendedBounds_text mode rfl text

theorem boundsAt?_of_unrepeated {mode : Mode} {text : List Char}
    (unrepeated : ∀ c ∈ text.head?, c ∉ repeats) : boundsAt? mode text = none := by
  unfold boundsAt?
  split
  case h_5 => rfl
  all_goals exact absurd (by decide) (unrepeated _ rfl)

/-- What is read behind a piece: its value is known, the reader stands before the rest, and no
more than that is left. -/
def Passes (wanted : Regular) (mode : Mode) (count : Nat) (text : List Char) (value : Extended)
    (after : Reading) : Prop :=
  value.bare? = some wanted ∧ Near mode count text after ∧ after.rest.length ≤ text.length

section Repetitions

variable {mode : Mode} {count : Nat} {text : List Char} {child : Extended} {piece : Regular}
  {before : Reading}

theorem Passes.of_settled (calm : Calm mode text) (bare : child.bare? = some piece)
    {reading : Reading} (there : At mode count (mode.skip text) reading) :
    Passes piece mode count text child reading :=
  ⟨bare, calm.near there, by rw [there.rest]; exact calm.length_le⟩

theorem Passes.of_at (bare : child.bare? = some piece) {reading : Reading}
    (there : At mode count text reading) : Passes piece mode count text child reading :=
  ⟨bare, there.near, by rw [there.rest]⟩

/-- Where no repetition stands, the expression stays as it is. -/
theorem readRepetition_none (calm : Calm mode text) (bare : child.bare? = some piece)
    (here : Near mode count text before) :
    (readRepetition child).Ensures before (Passes piece mode count text) := by
  refine here.skip_bind calm.skipped fun reading there => .get_bind ?_
  dsimp only
  split
  · exact .pure (.of_settled calm bare there)
  · next low high left found =>
      have some : boundsAt? reading.mode reading.rest = some ((low, high), left) := found
      rw [there.rest, boundsAt?_of_unrepeated calm.sign] at some
      cases some

theorem Quantifier.skipFiller_text (quantifier : Quantifier) (mode : Mode) (text : List Char) :
    mode.skipFiller? (quantifier.text ++ text) = some (quantifier.text ++ text) := by
  obtain ⟨bounds, reluctant, possessive⟩ := quantifier
  cases bounds <;> exact skipFiller_of_solid (fun _ => rfl) (.of_head (by decide))

theorem readRepetition_some (calm : Calm mode text) (bare : child.bare? = some piece)
    (quantifier : Quantifier) (here : Near mode count (quantifier.text ++ text) before) :
    (readRepetition child).Ensures before
      (Passes (repeated .extended mode (some quantifier) piece) mode count text) := by
  refine here.skip_bind (quantifier.skipFiller_text mode text) fun reading there => .get_bind ?_
  obtain ⟨bounds, reluctant, possessive⟩ := quantifier
  have known : boundsAt? reading.mode reading.rest =
      some ((bounds.low, bounds.high), (if reluctant then ['?'] else []) ++
        ((if possessive then ['+'] else []) ++ text)) := by
    rw [there.mode, there.rest, Quantifier.text, Quantifier.marks, List.append_assoc,
      List.append_assoc]
    exact boundsAt?_text mode bounds _
  have value : (Extended.repetition bounds.low bounds.high
      (reluctant == mode.swapGreed) child).bare? =
        some (repeated .extended mode (some ⟨bounds, reluctant, possessive⟩) piece) :=
    bare_repetition bare bounds _
  dsimp only
  split
  · next missing => cases known.symm.trans missing
  · next low high left found =>
      have same := Option.some.inj (known.symm.trans found)
      obtain ⟨isBounds, rfl⟩ := Prod.mk.inj same
      obtain ⟨rfl, rfl⟩ := Prod.mk.inj isBounds
      rw [there.mode]
      split
      · exact .fail
      · have there := there.moved ((if reluctant then ['?'] else []) ++
          ((if possessive then ['+'] else []) ++ text))
        have plus : '+' ∈ repeats := by decide
        refine .setRest_bind ?_
        cases reluctant with
        | true =>
            rw [if_pos rfl, List.singleton_append] at there ⊢
            refine there.near.skip_bind (skipFiller_repeat (by decide) mode _) fun reading there => .get_bind ?_
            rw [there.rest]
            simp only
            cases possessive with
            | true => exact .setRest_bind (.pure (.of_at value (there.moved text)))
            | false =>
                rw [if_neg Bool.false_ne_true, List.nil_append]
                split
                · exact absurd rfl (calm.head_ne plus)
                · exact .setRest_bind (.pure (.of_at value (there.moved text)))
        | false =>
            rw [if_neg Bool.false_ne_true, List.nil_append] at there ⊢
            cases possessive with
            | true =>
                rw [if_pos rfl, List.singleton_append] at there ⊢
                refine there.near.skip_bind (skipFiller_repeat plus mode _) fun reading there => .get_bind ?_
                rw [there.rest]
                exact .setRest_bind (.pure (.of_at value (there.moved text)))
            | false =>
                rw [if_neg Bool.false_ne_true, List.nil_append] at there ⊢
                refine there.near.skip_bind calm.skipped fun reading there => .get_bind ?_
                rw [there.rest]
                have passes := Passes.of_settled calm value (there.moved (mode.skip text))
                cases begins : mode.skip text with
                | nil =>
                    rw [begins] at passes
                    exact .setRest_bind (.pure passes)
                | cons d more =>
                    rw [begins] at passes
                    have notSign : d ∉ repeats := calm.sign d (begins ▸ rfl)
                    have notMark : d ≠ '?' := fun same => notSign (same ▸ by decide)
                    have notPlus : d ≠ '+' := fun same => notSign (same ▸ plus)
                    simp only [List.cons.injEq, notMark, false_and, imp_self, implies_true, notPlus]
                    exact .setRest_bind (.pure passes)

/-- The repetition behind an expression applies to it. -/
theorem readRepetition_text (calm : Calm mode text) (bare : child.bare? = some piece)
    (quantifier : Option Quantifier)
    (here : Near mode count (repetitionText quantifier ++ text) before) :
    (readRepetition child).Ensures before
      (Passes (repeated .extended mode quantifier piece) mode count text) := by
  cases quantifier with
  | none => exact readRepetition_none calm bare here
  | some quantifier => exact readRepetition_some calm bare quantifier here

end Repetitions

/-! ## Escapes -/

/-- A reader has returned an expression of which the bare form is wanted, and stands before a
text. -/
def Yields (wanted : Option Regular) (mode : Mode) (count : Nat) (text : List Char)
    (value : Extended) (after : Reading) : Prop :=
  ∃ regular, wanted = some regular ∧ value.bare? = some regular ∧ Near mode count text after

theorem bare_literal (c : Char) (mode : Mode) :
    (Extended.literal c mode.ignoreCase).bare? = some (.set (mode.charSet c)) := by
  rw [bare?]
  rfl

theorem unshared_digit : ∀ code < 128, isAsciiDigit (Char.ofNat code) = true →
    (isEscape (Char.ofNat code) || isCondition (Char.ofNat code)) = false := by
  decide

/-- A digit escapes nothing that both notations share. -/
theorem notDigit_of_shared {c : Char} (shared : (isEscape c || isCondition c) = true) :
    isAsciiDigit c = false := by
  refine Bool.eq_false_iff.mpr fun digit => ?_
  have not := unshared_digit c.toNat (code_of_digit digit).2
  rw [Char.ofNat_toNat] at not
  exact Bool.noConfusion (shared.symm.trans (not digit))

section Escapes

variable {mode : Mode} {count : Nat} {text : List Char} {before : Reading} (bytes : Nat)

theorem readExtendedEscape_condition {c : Char} (condition : isCondition c = true)
    (here : At mode count (c :: text) before) :
    (readExtendedEscape bytes).Ensures before
      (Yields ((readEscape mode [c]).map fun read => read.1.regular mode) mode count text) := by
  have notDigit := notDigit_of_shared (by rw [condition, Bool.or_true])
  refine .get_bind ?_
  dsimp only
  rw [here.rest]
  dsimp only
  rw [if_neg (Bool.eq_false_iff.mp notDigit)]
  have member : c ∈ ['A', 'z', 'b', 'B', '<', '>'] := List.contains_iff_mem.mp condition
  simp only [List.mem_cons, List.not_mem_nil, or_false] at member
  have advance : ∀ {expression : Extended} {regular : Regular},
      ((readEscape mode [c]).map fun read => read.1.regular mode) = some regular →
      expression.bare? = some regular →
      (do Reads.setRest text; pure expression : Reads Extended).Ensures before
        (Yields ((readEscape mode [c]).map fun read => read.1.regular mode) mode count text) :=
    fun means bare => .setRest_bind (.pure ⟨_, means, bare, (here.moved _).near⟩)
  rcases member with rfl | rfl | rfl | rfl | rfl | rfl
  case inr.inr.inl | inr.inr.inr.inl =>
    show Reads.Ensures (if text.head? = some '\x7b' then Reads.fail else _) before _
    split
    · exact .fail
    · exact advance rfl rfl
  all_goals exact advance rfl rfl

theorem readExtendedEscape_sign {c : Char} (escape : isEscape c = true)
    (here : At mode count (c :: text) before) :
    (readExtendedEscape bytes).Ensures before
      (Yields (((Escape.sign c escape).primitive? mode.ignoreCase).map (Primitive.regular mode))
        mode count text) := by
  have shared : (isEscape c || isCondition c) = true := by rw [escape, Bool.true_or]
  have unshared : ∀ {other : Prop}, (isEscape c || isCondition c) = false → other :=
    fun not => Bool.noConfusion (shared.symm.trans not)
  have advance : ∀ {expression : Extended} {regular : Regular},
      ((Escape.sign c escape).primitive? mode.ignoreCase).map (Primitive.regular mode) =
        some regular →
      expression.bare? = some regular →
      (do Reads.setRest text; pure expression : Reads Extended).Ensures before
        (Yields (((Escape.sign c escape).primitive? mode.ignoreCase).map (Primitive.regular mode))
          mode count text) :=
    fun means bare => .setRest_bind (.pure ⟨_, means, bare, (here.moved _).near⟩)
  refine .get_bind ?_
  dsimp only
  rw [here.rest]
  dsimp only
  rw [if_neg (Bool.eq_false_iff.mp (notDigit_of_shared shared))]
  split
  case h_15 =>
    split
    · obtain ⟨primitive, same⟩ := exists_primitive_of_isEscape escape
      rw [same]
      split
      · next chars left found =>
          obtain ⟨rfl, rfl⟩ := Prod.mk.inj (Option.some.inj found)
          exact advance (by rw [Escape.primitive_sign same]; rfl) rfl
      · exact .fail
    · next notSet =>
        have included : "dDsSwW".toList.all "dDsSwWpP".toList.contains = true := by decide
        have notSet : ¬"dDsSwW".toList.contains c = true := fun set =>
          notSet (List.all_eq_true.mp included c (List.contains_iff_mem.mp set))
        obtain ⟨d, escapes⟩ := (set_or_escapes escape).resolve_left notSet
        rw [escapes.escaped]
        refine advance ?_ (bare_literal d Mode.initial)
        rw [Escape.primitive_sign escapes.read]
        have same := charSet_of_notLetter escapes.ascii escapes.notLetter
        exact congrArg (fun chars => some (Regular.set chars)) ((same mode).trans (same _).symm)
  all_goals exact absurd escape (by decide)

theorem readExtendedEscape_code (number : Code)
    (here : At mode count (number.text ++ text) before) :
    (readExtendedEscape bytes).Ensures before
      (Yields (((Escape.code number).primitive? mode.ignoreCase).map (Primitive.regular mode))
        mode count text) := by
  have read : ∀ digits, digits = number.size.digits →
      (do
        let c ← Reads.take fun _ text => readCode digits (text.drop 1)
        pure (Extended.literal c before.mode.ignoreCase) : Reads Extended).Ensures before
        (Yields (((Escape.code number).primitive? mode.ignoreCase).map (Primitive.regular mode))
          mode count text) := by
    rintro _ rfl
    have isCode : readCode number.size.digits (before.rest.drop 1) = some (number.char, text) := by
      rw [here.rest, Code.text, List.cons_append, List.drop_one, List.tail_cons]
      exact number.readCode_text text
    refine take_bind isCode
      (.pure ⟨.set (mode.charSet number.char), ?_, ?_, (here.moved text).near⟩)
    · exact congrArg (Option.map _) (Escape.primitive_code number mode.ignoreCase)
    · rw [here.mode]
      exact bare_literal number.char mode
  refine .get_bind ?_
  dsimp only
  rw [here.rest, Code.text, List.cons_append]
  cases size : number.size <;> rw [size] at read <;> exact read _ rfl

/-- A set that the regular reader of escapes finds is taken over. -/
theorem takeSet_ensures (inside : Escape)
    (here : At mode count (inside.text ++ text) before) :
    Reads.Ensures (match readEscape before.mode.inClass before.rest with
      | some (.chars chars, rest) => do
          Reads.setRest rest
          pure (Extended.set chars)
      | _ => Reads.fail) before
        (Yields ((inside.primitive? mode.ignoreCase).map (Primitive.regular mode)) mode count
          text) := by
  rw [here.rest, here.mode, Escape.readEscape_text]
  split
  · next chars rest found =>
      obtain ⟨primitive, isPrimitive, same⟩ := Option.map_eq_some_iff.mp found
      obtain ⟨rfl, rfl⟩ := Prod.mk.inj same
      refine .setRest_bind (.pure ⟨.set chars, ?_, rfl, (here.moved _).near⟩)
      exact congrArg (Option.map _) isPrimitive
  · exact .fail

theorem readExtendedEscape_property (negated : Bool) (name : PropertyName)
    (here : At mode count ((Escape.property negated name).text ++ text) before) :
    (readExtendedEscape bytes).Ensures before
      (Yields (((Escape.property negated name).primitive? mode.ignoreCase).map
        (Primitive.regular mode)) mode count text) := by
  have taken := takeSet_ensures (.property negated name) here
  refine .get_bind ?_
  dsimp only
  have rest := here.rest
  cases negated <;> rw [here.rest, Escape.text, List.cons_append] <;> rw [rest] at taken <;>
    exact taken

/-- An escape stands for the same in extended notation. -/
theorem readExtendedEscape_text (inside : Escape)
    (here : At mode count (inside.text ++ text) before) :
    (readExtendedEscape bytes).Ensures before
      (Yields ((inside.primitive? mode.ignoreCase).map (Primitive.regular mode)) mode count text) := by
  cases inside with
  | sign c escape => exact readExtendedEscape_sign bytes escape here
  | code number => exact readExtendedEscape_code bytes number here
  | property negated name => exact readExtendedEscape_property bytes negated name here

end Escapes

/-! ## Switches -/

theorem Switch.skipFiller_letter (switch : Switch) (mode : Mode) (rest : List Char) :
    mode.skipFiller? (switch.letter :: rest) = some (switch.letter :: rest) := by
  cases switch <;> exact skipFiller_of_solid (fun _ => rfl) (.of_head (by decide))

theorem readExtendedSwitches_letters {value : Bool} {count : Nat} {rest : List Char}
    {post : SwitchEnd → Reading → Prop} (letters : List Switch) {mode : Mode}
    (onward : ∀ fuel signs reading,
      At (letters.foldl (Switch.apply value) mode) count rest reading →
      (readExtendedSwitches fuel signs value).Ensures reading post) (fuel signs : Nat)
    {before : Reading} (here : At mode count (letters.map Switch.letter ++ rest) before) :
    (readExtendedSwitches fuel signs value).Ensures before post := by
  induction letters generalizing mode fuel signs before with
  | nil => exact onward fuel signs before here
  | cons letter others ih =>
      cases fuel with
      | zero => exact .fail
      | succ fuel =>
          rw [List.map_cons, List.cons_append] at here
          refine here.near.skip_bind (letter.skipFiller_letter mode _)
            fun reading here => .get_bind ?_
          rw [here.rest, here.mode]
          have signed := letter.letter_mem
          split
          case h_1 same => cases same
          case h_5 c left _ _ _ same =>
            obtain ⟨rfl, rfl⟩ := List.cons.inj same
            split
            · next set =>
                obtain rfl := letter.eq_of_set set
                exact .set_bind (ih onward fuel (signs + 1) ⟨rfl, here.groups, rfl⟩)
            · exact .fail
          all_goals
            next same =>
            rw [(List.cons.inj same).1] at signed
            exact absurd signed (by decide)

/-- The sign that closes a list of switches, with what it says about them. -/
def Closing (close : Char) (kind : SwitchEnd) : Prop :=
  close = ')' ∧ kind = .inForce ∨ close = ':' ∧ kind = .opensGroup

theorem readExtendedSwitches_close {mode : Mode} {close : Char} {kind : SwitchEnd}
    (closing : Closing close kind) {count : Nat} {rest : List Char} (fuel signs : Nat)
    (value : Bool) {before : Reading} (here : At mode count (close :: rest) before) :
    (readExtendedSwitches fuel signs value).Ensures before fun found after =>
      found = kind ∧ At mode count rest after := by
  cases fuel with
  | zero => exact .fail
  | succ fuel =>
      rcases closing with ⟨rfl, rfl⟩ | ⟨rfl, rfl⟩
      all_goals
        refine here.near.skip_bind (skipFiller_of_solid (fun _ => rfl) (.of_head (by decide)))
          fun reading here => .get_bind ?_
        rw [here.rest]
        simp only
        split
        · exact .fail
        · exact .setRest_bind (.pure ⟨rfl, here.moved _⟩)

/-- What the switches and the sign that closes them set. -/
theorem readExtendedSwitches_text {mode : Mode} {close : Char} {kind : SwitchEnd}
    (closing : Closing close kind) {count : Nat} {rest : List Char} (switches : Switches)
    (fuel signs : Nat) {before : Reading}
    (here : At mode count (switches.text ++ close :: rest) before) :
    (readExtendedSwitches fuel signs true).Ensures before fun found after =>
      found = kind ∧ At (switches.apply mode) count rest after := by
  obtain ⟨on, off⟩ := switches
  rw [Switches.text, List.append_assoc] at here
  refine readExtendedSwitches_letters on (fun fuel signs reading here => ?_) fuel signs here
  cases off with
  | nil => exact readExtendedSwitches_close closing _ _ _ here
  | cons first others =>
      cases fuel with
      | zero => exact .fail
      | succ fuel =>
          refine here.near.skip_bind (skipFiller_of_solid (fun _ => rfl) (.of_head (by decide)))
            fun reading here => .get_bind ?_
          rw [here.rest]
          simp only
          split
          · exact .fail
          · refine .setRest_bind (readExtendedSwitches_letters (first :: others)
              (fun fuel signs reading here => ?_) _ _ (here.moved _))
            exact readExtendedSwitches_close closing _ _ _ here

/-! ## Groups -/

section Groups

variable {bytes : Nat} {mode : Mode} {count count' : Nat} {inside text : List Char}
  {wanted : Option Regular} {before : Reading}

theorem readClose_text (here : Near mode count (')' :: text) before) :
    readClose.Ensures before fun _ after => At mode count text after := by
  refine here.skip_bind (skipFiller_of_solid (fun _ => rfl) (.of_head (by decide)))
    fun reading here => .get_bind ?_
  rw [here.rest]
  exact .pure (here.moved text)

theorem readBody_text (fuel depth : Nat)
    (body : ∀ fuel depth, (readExtendedChoice bytes fuel depth).Ensures before
      (Yields wanted mode count (')' :: text))) :
    (readBody bytes fuel depth).Ensures before (Yields wanted mode count text) := by
  cases fuel with
  | zero =>
      rw [readBody]
      exact .fail
  | succ fuel =>
      rw [readBody]
      refine .bind (body fuel depth) ?_
      rintro value middle ⟨regular, isWanted, bare, here⟩
      exact .bind (readClose_text here)
        fun _ _ here => .pure ⟨regular, isWanted, bare, here.near⟩

theorem readName_text (name : GroupName) (rest : List Char) :
    readName false '>' (name.chars ++ '>' :: rest) = some (name.chars, rest) := by
  have close : isNameChar '>' = false := by decide
  have taken : (name.chars ++ '>' :: rest).takeWhile isNameChar = name.chars := by
    rw [List.takeWhile_append_of_pos name.areNameChars,
      List.takeWhile_cons_of_neg (Bool.eq_false_iff.mp close), List.append_nil]
  have dropped : (name.chars ++ '>' :: rest).dropWhile isNameChar = '>' :: rest := by
    rw [List.dropWhile_append_of_pos name.areNameChars,
      List.dropWhile_cons_of_neg (Bool.eq_false_iff.mp close)]
  simp [readName, taken, dropped, name.notEmpty]

theorem openNamedGroup_text (name : GroupName)
    (here : At mode count (name.chars ++ '>' :: inside) before) :
    openNamedGroup.Ensures before fun index after =>
      index = count + 1 ∧ At mode (count + 1) inside after := by
  refine openGroup_bind ?_
  have read : readName false '>' before.rest = some (name.chars, inside) := by
    rw [here.rest]
    exact readName_text name inside
  refine take_bind read (.modify_bind (.pure ⟨by rw [here.groups], here.mode, ?_, rfl⟩))
  exact congrArg (· + 1) here.groups

/-- The body of a recorded group is what the group holds. -/
theorem readGroup_body {index : Nat} (fuel depth : Nat)
    (body : ∀ fuel depth, (readExtendedChoice bytes fuel depth).Ensures before
      (Yields wanted mode count (')' :: text))) :
    (do
      let body ← readBody bytes fuel depth
      pure (Extended.group index body) : Reads Extended).Ensures before
        (Yields (wanted.map (Regular.group index)) mode count text) := by
  refine .bind (readBody_text fuel depth body) ?_
  rintro value after ⟨regular, rfl, bare, here⟩
  refine .pure ⟨_, rfl, ?_, here⟩
  rw [bare?, bare]
  rfl

/-- A recorded group, of which the body is known. -/
theorem readGroup_recorded (name : Option GroupName) (fuel depth : Nat) (calm : Calm mode inside)
    (body : ∀ fuel depth reading, Near mode (count + 1) inside reading →
      (readExtendedChoice bytes fuel depth).Ensures reading
        (Yields wanted mode count' (')' :: text)))
    (here : At mode count (nameText name ++ inside) before) :
    (readGroup bytes fuel depth).Ensures before
      (Yields (wanted.map (Regular.group (count + 1))) mode count' text) := by
  cases fuel with
  | zero =>
      rw [readGroup]
      exact .fail
  | succ fuel =>
      rw [readGroup]
      split
      · exact .fail_bind
      · cases name with
        | none =>
            refine here.near.skip_bind calm.skipped fun reading here => .get_bind ?_
            have unrepeated : (mode.skip inside).head? ≠ some '?' :=
              fun isHead => calm.sign _ isHead (by decide)
            rw [here.rest]
            split
            case h_11 =>
              have near := calm.near here
              have opened : Near mode (count + 1) inside
                  { reading with groups := reading.groups + 1 } :=
                ⟨near.mode, by rw [near.groups], near.rest⟩
              rw [← here.groups]
              exact openGroup_bind
                (readGroup_body fuel depth fun fuel depth => body fuel depth _ opened)
            all_goals
              next begins => exact absurd (by rw [begins]; rfl) unrepeated
        | some name =>
            have named : ∀ reading, At mode count (name.chars ++ '>' :: inside) reading →
                (do
                  let index ← openNamedGroup
                  let body ← readBody bytes fuel depth
                  pure (Extended.group index body) : Reads Extended).Ensures reading
                    (Yields (wanted.map (Regular.group (count + 1))) mode count' text) := by
              intro reading here
              refine .bind (openNamedGroup_text name here) ?_
              rintro index middle ⟨rfl, there⟩
              exact readGroup_body fuel depth fun fuel depth => body fuel depth middle there.near
            rw [nameText, GroupName.text, List.cons_append, List.append_assoc, List.append_assoc,
              List.singleton_append] at here
            refine here.near.skip_bind
              (skipFiller_of_solid (fun _ => rfl) (.of_head (by decide)))
              fun reading here => .get_bind ?_
            rw [here.rest]
            cases marked : name.marked with
            | true => exact .setRest_bind (named _ (here.moved _))
            | false =>
                rw [if_neg Bool.false_ne_true, List.singleton_append]
                have unsigned : ∀ sign rest, isNameChar sign = false →
                    name.chars ++ '>' :: inside ≠ sign :: rest :=
                  fun sign rest other begins =>
                    absurd (name.head_isNameChar begins)
                      (by rw [other]; exact Bool.false_ne_true)
                split
                case h_5 same =>
                  obtain rfl := (List.cons.inj (List.cons.inj same).2).2
                  exact .setRest_bind (named _ (here.moved _))
                case h_3 same =>
                  exact absurd (List.cons.inj (List.cons.inj same).2).2 (unsigned '=' _ (by decide))
                case h_4 same =>
                  exact absurd (List.cons.inj (List.cons.inj same).2).2 (unsigned '!' _ (by decide))
                case h_10 unnamed _ _ _ _ same =>
                  exact absurd (List.cons.inj same).2.symm (unnamed _)
                case h_11 other => exact absurd rfl (other _)
                all_goals
                  next same => exact absurd (List.cons.inj (List.cons.inj same).2).1 (by decide)

/-- Behind a list of switches stands the body of a group or the rest of the sequence. -/
theorem readGroup_switches {close : Char} {kind : SwitchEnd} (closing : Closing close kind)
    {switches : Switches} {post : Extended → Reading → Prop} (text : List Char) (fuel depth : Nat)
    (here : At mode count ('?' :: (switches.text ++ close :: inside)) before)
    (changed : kind = .inForce → ∀ after, At (switches.apply mode) count inside after →
      post .empty after)
    (body : kind = .opensGroup → ∀ fuel depth reading,
      At (switches.apply mode) count inside reading →
      (readExtendedChoice bytes fuel depth).Ensures reading fun value after =>
        after.rest = ')' :: text ∧ post value { after with mode := mode, rest := text }) :
    (readGroup bytes fuel depth).Ensures before post := by
  have closes : close = ')' ∨ close = ':' := closing.imp And.left And.left
  cases fuel with
  | zero =>
      rw [readGroup]
      exact .fail
  | succ fuel =>
      rw [readGroup]
      split
      · exact .fail_bind
      · refine here.near.skip_bind (skipFiller_of_solid (fun _ => rfl) (.of_head (by decide)))
          fun reading here => .get_bind ?_
        rw [here.rest]
        split
        case h_10 same =>
          obtain rfl := (List.cons.inj same).2
          refine .get_bind (.setRest_bind (.bind
            (readExtendedSwitches_text closing switches _ _ (here.moved _)) ?_))
          rintro found middle ⟨rfl, there⟩
          split
          · exact .pure (changed rfl _ there)
          · refine .bind (body rfl fuel depth middle there) ?_
            rintro value after ⟨closes, holds⟩
            refine .get_bind ?_
            rw [closes]
            refine .modify_bind (.pure ?_)
            rw [here.mode]
            exact holds
        case h_11 other => exact absurd rfl (other _)
        all_goals exact absurd (List.cons.inj ‹_›).2 (switches.text_ne closes (by decide))

end Groups

/-! ## Pieces -/

theorem concat_singleton (expression : Regular) : Regular.concat [expression] = expression := by
  show expression.append .empty = expression
  induction expression with
  | empty => rfl
  | seq first second _ ih => exact congrArg (Regular.seq first) ih
  | _ => rfl

/-- A piece that matches without consuming can be left out. -/
theorem concat_empty (before after : List Regular) :
    Regular.concat (before ++ .empty :: after) = Regular.concat (before ++ after) := by
  rw [Regular.concat, Regular.concat, List.foldr_append, List.foldr_append]
  rfl

theorem allBare_nil : allBare? ([] : List Extended).reverse = some [] := rfl

theorem allBare_concat {pieces : List Extended} {done : List Regular} {piece : Extended}
    {regular : Regular} (bare : allBare? pieces.reverse = some done)
    (isPiece : piece.bare? = some regular) :
    allBare? (piece :: pieces).reverse = some (done ++ [regular]) := by
  rw [List.reverse_cons]
  exact allBare_iff_forall₂.mpr
    (List.rel_append (allBare_iff_forall₂.mp bare) (.cons isPiece .nil))

theorem bare_ofPieces {pieces : List Extended} {done : List Regular}
    (bare : allBare? pieces.reverse = some done) :
    (ofPieces pieces).bare? = some (Regular.concat done) := by
  unfold ofPieces
  split
  · obtain rfl := Option.some.inj bare
    rfl
  · obtain ⟨first, others, isFirst, areOthers, rfl⟩ := allBare_cons.mp bare
    obtain rfl := Option.some.inj areOthers
    rw [concat_singleton]
    exact isFirst
  · rw [bare?, bare]
    rfl

theorem Alternatives.branches_ne_nil {reader : Reader} {mode : Mode} {count : Nat}
    {branches : List Regular} (tree : Alternatives)
    (means : tree.branches? reader mode count = some branches) : branches ≠ [] := by
  cases tree with
  | last sequence =>
      obtain ⟨pieces, _, rfl⟩ := Option.map_eq_some_iff.mp means
      exact List.cons_ne_nil _ _
  | more sequence others =>
      rw [branches?] at means
      split at means
      · obtain rfl := Option.some.inj means
        exact List.cons_ne_nil _ _
      · cases means

theorem Atom.text_ne_nil (atom : Atom) : atom.text ≠ [] := by
  cases atom <;> exact List.cons_ne_nil _ _

theorem joined_cons (branch : Regular) {branches : List Regular} (notEmpty : branches ≠ []) :
    joined (branch :: branches) = Regular.oneOf (branch :: branches) := by
  cases branches with
  | nil => exact absurd rfl notEmpty
  | cons => rfl

section Trees

variable {bytes : Nat}

theorem readAtom_of_succ {depth : Nat} {before : Reading} {post : Extended → Reading → Prop}
    (positive : ∀ fuel, (readAtom bytes (fuel + 1) depth).Ensures before post) (fuel : Nat) :
    (readAtom bytes fuel depth).Ensures before post := by
  cases fuel with
  | zero =>
      rw [readAtom]
      exact .fail
  | succ fuel => exact positive fuel

section Sequences

variable {mode mode' : Mode} {count count' : Nat} {text : List Char} (fuel depth : Nat)
  {pieces : List Extended} {done : List Regular} {before : Reading}

theorem readAtom_end (stops : Stops text) (here : Near mode count text before) :
    (readAtom bytes fuel depth).Ensures before (Yields (some .empty) mode count text) := by
  refine readAtom_of_succ (fun fuel => ?_) fuel
  rw [readAtom]
  refine here.skip_bind (stops.calm mode).skipped fun reading there => .get_bind ?_
  have ends : ∀ reading, At mode count (mode.skip text) reading →
      Yields (some .empty) mode count text .empty reading :=
    fun reading there => ⟨_, rfl, rfl, (stops.calm mode).near there⟩
  have yields := ends reading there
  rcases stops with rfl | ⟨rest, rfl | rfl⟩
  · rw [skip_nil] at there
    rw [there.rest]
    exact .pure yields
  all_goals
    rw [skip_of_solid fun _ => rfl] at there
    rw [there.rest]
    exact .pure yields

/-- At the end of a sequence no further piece is read. -/
theorem readExtendedBranch_end (stops : Stops text) (bare : allBare? pieces.reverse = some done)
    (here : Near mode count text before) :
    (readExtendedBranch bytes fuel depth pieces).Ensures before
      (Yields (some (Regular.concat done)) mode count text) := by
  -- fillers before the end are taken for a piece that matches nothing
  induction fuel generalizing pieces done before with
  | zero =>
      rw [readExtendedBranch]
      exact .fail
  | succ fuel ih =>
      rw [readExtendedBranch]
      refine .get_bind ?_
      dsimp only
      split
      · exact .pure ⟨_, rfl, bare_ofPieces bare, here⟩
      · refine .bind (readAtom_end fuel depth stops here) ?_
        rintro child middle ⟨regular, isEmpty, isChild, there⟩
        obtain rfl := Option.some.inj isEmpty
        refine .bind (readRepetition_none (stops.calm mode) isChild there) ?_
        rintro piece after ⟨isPiece, there, _⟩
        refine .get_bind ?_
        split
        · exact .pure ⟨_, rfl, bare_ofPieces bare, there⟩
        · split
          · exact ih bare there
          · have onward := ih (allBare_concat bare isPiece) there
            rw [concat_empty, List.append_nil] at onward
            exact onward

/-- A piece is read, and then the rest of the sequence. -/
theorem readExtendedBranch_piece {rest : List Char} (shorter : rest.length < before.rest.length)
    (calm : Calm mode' rest) {quantifier : Option Quantifier} {wanted : Option Regular}
    (bare : allBare? pieces.reverse = some done) {post : Extended → Reading → Prop}
    (atom : ∀ fuel depth, (readAtom bytes fuel depth).Ensures before
      (Yields wanted mode' count' (repetitionText quantifier ++ rest)))
    (onward : ∀ fuel depth pieces regular reading, wanted = some regular →
      (∃ all, allBare? pieces.reverse = some all ∧ ∀ others, Regular.concat (all ++ others) =
        Regular.concat (done ++ repeated .extended mode' quantifier regular :: others)) →
      Near mode' count' rest reading →
      (readExtendedBranch bytes fuel depth pieces).Ensures reading post) :
    (readExtendedBranch bytes fuel depth pieces).Ensures before post := by
  cases fuel with
  | zero =>
      rw [readExtendedBranch]
      exact .fail
  | succ fuel =>
      rw [readExtendedBranch]
      refine .get_bind ?_
      dsimp only
      split
      · next none =>
          rw [List.isEmpty_iff.mp none] at shorter
          cases shorter
      · refine .bind (atom fuel depth) ?_
        rintro child middle ⟨regular, isWanted, isChild, there⟩
        refine .bind (readRepetition_text calm isChild quantifier there) ?_
        rintro piece after ⟨isPiece, there, fewer⟩
        refine .get_bind ?_
        rw [if_neg (by omega)]
        split
        · refine onward fuel depth pieces regular after isWanted
            ⟨done, bare, fun others => ?_⟩ there
          rw [← Option.some.inj isPiece, concat_empty]
        · exact onward fuel depth (piece :: pieces) regular after isWanted
            ⟨_, allBare_concat bare isPiece, fun others => by rw [List.append_assoc]; rfl⟩ there

end Sequences

section Atoms

variable {mode : Mode} {count : Nat} {text : List Char} (fuel depth : Nat) {before : Reading}

theorem readAtom_plain {c : Char} (plain : isPlain c = true)
    (fits : (Atom.plain c plain).Fits mode) (here : Near mode count (c :: text) before) :
    (readAtom bytes fuel depth).Ensures before
      (Yields (some (.set (mode.charSet c))) mode count text) := by
  refine readAtom_of_succ (fun fuel => ?_) fuel
  rw [readAtom]
  have skipped := (Atom.calm text (.plain c plain) fits).skipped
  rw [Atom.skip_text _ fits] at skipped
  refine here.skip_bind skipped fun reading here => .get_bind ?_
  rw [here.rest, here.mode]
  have notSign : ∀ {sign : Char} {others : List Char}, sign ∈ signs →
      (Atom.plain c plain).text ++ text ≠ sign :: others :=
    fun member same => not_mem_of_isPlain plain ((List.cons.inj same).1 ▸ member)
  split
  case h_1 same => cases same
  case h_8 same =>
    obtain ⟨rfl, rfl⟩ := List.cons.inj same
    split
    · next ends =>
        have areSigns : ['+', '*', '?', '|', ')'].all signs.contains = true := by decide
        exact absurd rfl (notSign (List.contains_iff_mem.mp
          (List.all_eq_true.mp areSigns c (List.contains_iff_mem.mp ends))))
    · exact .setRest_bind (.pure ⟨_, rfl, bare_literal c mode, (here.moved _).near⟩)
  all_goals
    next same => exact absurd same (notSign (by decide))

theorem readAtom_backslash {inside : List Char} {wanted : Option Regular}
    (escape : ∀ reading, At mode count inside reading →
      (readExtendedEscape bytes).Ensures reading (Yields wanted mode count text))
    (here : Near mode count ('\\' :: inside) before) :
    (readAtom bytes fuel depth).Ensures before (Yields wanted mode count text) := by
  refine readAtom_of_succ (fun fuel => ?_) fuel
  rw [readAtom]
  refine here.skip_bind (skipFiller_of_solid (fun _ => rfl) (.of_head (by decide)))
    fun reading here => .get_bind ?_
  rw [here.rest]
  refine .setRest_bind (.bind (escape _ (here.moved _)) ?_)
  rintro value after ⟨regular, means, bare, there⟩
  split
  · cases bare
  · exact .pure ⟨regular, means, bare, there⟩

theorem readExtendedClass_ensures {bracketed : Bracketed}
    (here : At mode count (bracketed.text ++ text) before) :
    (Reads.take readExtendedClass).Ensures before fun chars after =>
      readClass mode.inClass bracketed.coded = some (chars, []) ∧ At mode count text after := by
  intro chars after read
  unfold Reads.take at read
  split at read
  · next found =>
      obtain ⟨rfl, rfl⟩ := Prod.mk.inj (Option.some.inj read)
      rw [here.mode, here.rest] at found
      obtain ⟨isClass, rfl⟩ := readExtendedClass_bracketed found
      exact ⟨isClass, here.moved _⟩
  · cases read

theorem readAtom_bracketed (inside : Bracketed)
    (here : Near mode count ((Atom.bracketed inside).text ++ text) before) :
    (readAtom bytes fuel depth).Ensures before
      (Yields ((Atom.bracketed inside).regular? .extended mode count) mode count text) := by
  refine readAtom_of_succ (fun fuel => ?_) fuel
  rw [readAtom]
  refine here.skip_bind (skipFiller_of_solid (fun _ => rfl) (.of_head (by decide)))
    fun reading here => .get_bind ?_
  rw [here.rest]
  refine .setRest_bind (.bind (readExtendedClass_ensures (here.moved _)) ?_)
  rintro chars after ⟨isClass, there⟩
  refine there.near.skip_bind_near fun reading there => .pure ⟨.set chars, ?_, rfl, there⟩
  rw [Atom.regular?, isClass]

theorem readAtom_group {inside : List Char} (calm : Calm mode ('(' :: inside))
    (here : Near mode count ('(' :: inside) before) {post : Extended → Reading → Prop}
    (group : ∀ fuel depth reading, At mode count inside reading →
      (readGroup bytes fuel depth).Ensures reading post) :
    (readAtom bytes fuel depth).Ensures before post := by
  refine readAtom_of_succ (fun fuel => ?_) fuel
  rw [readAtom]
  have skipped := calm.skipped
  rw [skip_of_solid fun _ => rfl] at skipped
  refine here.skip_bind skipped fun reading here => .get_bind ?_
  rw [here.rest]
  exact .setRest_bind (group fuel (depth + 1) _ (here.moved inside))

theorem readAtom_switches (switches : Switches)
    (here : Near mode count ('(' :: '?' :: (switches.text ++ ')' :: text)) before) :
    (readAtom bytes fuel depth).Ensures before
      (Yields (some .empty) (switches.apply mode) count text) :=
  readAtom_group fuel depth (switches.calm (.inl rfl) mode text) here
    fun fuel depth _ here => readGroup_switches (.inl ⟨rfl, rfl⟩) text fuel depth here
      (fun _ _ there => ⟨_, rfl, rfl, there.near⟩) nofun

end Atoms

/-- A branch is read, and the reader stands before the sign behind it. -/
theorem readBranch_bind {β : Type} {wanted : Option (List Regular)} {mode : Mode} {count : Nat}
    {text : List Char} {before : Reading} {branch : Reads Extended}
    {onward : Extended → Reading → Reads β} {post : β → Reading → Prop}
    (isRead : branch.Ensures before (Yields (wanted.map Regular.concat) mode count text))
    (settled : mode.skipFiller? text = some text)
    (ensures : ∀ value pieces reading, wanted = some pieces →
      value.bare? = some (Regular.concat pieces) → At mode count text reading →
      (onward value reading).Ensures reading post) :
    (branch >>= fun value => Reads.skip >>= fun _ => get >>= onward value).Ensures before post := by
  refine .bind isRead ?_
  rintro value middle ⟨regular, isWanted, bare, there⟩
  obtain ⟨pieces, arePieces, rfl⟩ := Option.map_eq_some_iff.mp isWanted
  exact there.skip_bind settled fun reading there =>
    .get_bind (ensures value pieces reading arePieces bare there)

mutual

theorem Atom.ensures {mode : Mode} {count : Nat} {text : List Char} (fuel depth : Nat)
    {before : Reading} : (atom : Atom) → atom.Fits mode →
    Near mode count (atom.text ++ text) before →
    (readAtom bytes fuel depth).Ensures before
      (Yields (atom.regular? .extended mode count) mode (count + atom.groups) text)
  | .plain _ plain, fits, here => readAtom_plain fuel depth plain fits here
  | .escape inside, _, here =>
      readAtom_backslash fuel depth (fun _ here => readExtendedEscape_text bytes inside here) here
  | .condition _ condition, _, here =>
      readAtom_backslash fuel depth
        (fun _ here => readExtendedEscape_condition bytes condition here) here
  | .any, _, here | .start, _, here | .stop, _, here => by
      refine readAtom_of_succ (fun fuel => ?_) fuel
      rw [readAtom]
      refine here.skip_bind (skipFiller_of_solid (fun _ => rfl) (.of_head (by decide)))
        fun reading here => .get_bind ?_
      rw [here.rest, here.mode]
      exact .setRest_bind (.pure ⟨_, rfl, rfl, (here.moved text).near⟩)
  | .bracketed inside, _, here => readAtom_bracketed fuel depth inside here
  | .group name body, fits, here => by
      have calm := Atom.calm text (.group name body) fits
      have inside : Calm mode (body.text ++ ')' :: text) := body.calm (.inr ⟨text, .inl rfl⟩) fits.2
      rw [Atom.text, List.cons_append, List.append_assoc, List.append_assoc] at here calm
      refine readAtom_group fuel depth calm here fun fuel depth reading there => ?_
      have recorded := readGroup_recorded name fuel depth inside
        (fun fuel depth reading there => by
          refine (body.ensures (.inr ⟨text, rfl⟩) fuel depth fits.2 there).imp ?_
          rintro value after ⟨yields, _⟩
          rw [fits.1] at yields
          exact yields) there
      rw [Option.map_map] at recorded
      rw [Atom.groups, Nat.add_comm body.groups, ← Nat.add_assoc]
      exact recorded
  | .scoped switches body, fits, here => by
      have calm := Atom.calm text (.scoped switches body) fits
      rw [Atom.text, List.cons_append, List.cons_append, List.append_assoc, List.cons_append,
        List.append_assoc] at here calm
      refine readAtom_group fuel depth calm here fun fuel depth reading there => ?_
      refine readGroup_switches (.inr ⟨rfl, rfl⟩) text fuel depth there nofun
        fun _ fuel depth reading there => ?_
      refine (body.ensures (.inr ⟨text, rfl⟩) fuel depth fits there.near).imp ?_
      rintro value after ⟨⟨regular, isWanted, bare, behind⟩, rest⟩
      exact ⟨rest, regular, isWanted, bare, rfl, behind.groups, rfl⟩

theorem Sequence.ensures {mode : Mode} {count : Nat} {text : List Char} (stops : Stops text)
    (fuel depth : Nat) {pieces : List Extended} {done : List Regular}
    (bare : allBare? pieces.reverse = some done) {before : Reading} :
    (sequence : Sequence) → sequence.Fits mode → Near mode count (sequence.text ++ text) before →
    (readExtendedBranch bytes fuel depth pieces).Ensures before
      (Yields ((sequence.pieces? .extended mode count).map fun more => Regular.concat (done ++ more))
        (sequence.modeAfter mode) (count + sequence.groups) text)
  | .nil, _, here => by
      rw [Sequence.pieces?, Option.map_some, List.append_nil]
      exact readExtendedBranch_end fuel depth stops bare here
  | .piece atom gap quantifier others, fits, here => by
      rw [Sequence.text, List.append_assoc, List.append_assoc, List.append_assoc] at here
      have calm : Calm mode (others.text ++ text) := others.calm stops fits.2.2
      have full := here.length_le (atom.calm _ fits.1).skipped
      rw [atom.skip_text fits.1, List.length_append, List.length_append, List.length_append] at full
      have notEmpty := List.length_pos_iff.mpr atom.text_ne_nil
      have isRead : ∀ fuel depth, (readAtom bytes fuel depth).Ensures before
          (Yields (atom.regular? .extended mode count) mode (count + atom.groups)
            (repetitionText quantifier ++ (others.text ++ text))) := by
        intro fuel depth
        refine (atom.ensures fuel depth fits.1 here).imp ?_
        rintro value after ⟨regular, isWanted, isValue, there⟩
        exact ⟨regular, isWanted, isValue, there.behind_gap fits.2.1⟩
      refine readExtendedBranch_piece fuel depth (by omega) calm bare isRead
        fun fuel depth pieces regular reading isAtom ⟨all, bare, same⟩ there => ?_
      refine (others.ensures stops fuel depth bare fits.2.2 there).imp ?_
      rintro value after ⟨found, isFound, isValue, behind⟩
      obtain ⟨more, areMore, rfl⟩ := Option.map_eq_some_iff.mp isFound
      refine ⟨_, ?_, isValue, ?_⟩
      · rw [Sequence.pieces?, isAtom, areMore, Option.map_some, same]
      · rw [Sequence.groups, ← Nat.add_assoc]
        exact behind
  | .switch switches others, fits, here => by
      rw [Sequence.text, List.cons_append, List.cons_append, List.append_assoc, List.cons_append]
        at here
      have calm : Calm (switches.apply mode) (others.text ++ text) := others.calm stops fits
      have full := here.length_le (switches.calm (.inl rfl) mode _).skipped
      rw [skip_of_solid fun _ => rfl, List.length_cons, List.length_cons, List.length_append,
        List.length_cons] at full
      have atom : ∀ fuel depth, (readAtom bytes fuel depth).Ensures before
          (Yields (some .empty) (switches.apply mode) count
            (repetitionText none ++ (others.text ++ text))) :=
        fun fuel depth => readAtom_switches fuel depth switches here
      refine readExtendedBranch_piece fuel depth (by omega) calm bare atom
        fun fuel depth pieces regular reading isAtom ⟨all, bare, same⟩ there => ?_
      obtain rfl := Option.some.inj isAtom
      refine (others.ensures stops fuel depth bare fits there).imp ?_
      rintro value after ⟨found, isFound, isValue, behind⟩
      obtain ⟨more, areMore, rfl⟩ := Option.map_eq_some_iff.mp isFound
      refine ⟨_, ?_, isValue, behind⟩
      rw [Sequence.pieces?, areMore, Option.map_some, same]
      exact congrArg some (concat_empty done more).symm
  | .filler filler others, fits, here => by
      rw [Sequence.text, List.append_assoc] at here
      have near : Near mode count (others.text ++ text) before := by
        refine ⟨here.mode, here.groups, ?_⟩
        rw [here.rest, here.mode, filler.skipFiller_text fits.1]
      exact others.ensures stops fuel depth bare fits.2 near

theorem Alternatives.further {mode : Mode} {count : Nat} {text : List Char} (closes : Closes text)
    (fuel depth : Nat) {branches : List Extended} {done : List Regular}
    (bare : allBare? branches.reverse = some done) {before : Reading} :
    (tree : Alternatives) → tree.Fits mode → Near mode count (tree.text ++ text) before →
    (readFurtherBranches bytes fuel depth branches).Ensures before fun value after =>
      Yields ((tree.branches? .extended mode count).map fun more => Regular.oneOf (done ++ more))
        (tree.modeAfter mode) (count + tree.groups) text value after ∧ after.rest = text
  | .last sequence, fits, here => by
      cases fuel with
      | zero =>
          rw [readFurtherBranches]
          exact .fail
      | succ fuel =>
          rw [readFurtherBranches]
          refine readBranch_bind (sequence.ensures closes.stops fuel depth allBare_nil fits here)
            (closes.skipFiller _)
            fun next pieces reading arePieces isNext there => ?_
          have yields : Yields ((Alternatives.branches? .extended mode count (.last sequence)).map
              fun more => Regular.oneOf (done ++ more)) (sequence.modeAfter mode)
              (count + sequence.groups) text (.alt (next :: branches).reverse) reading := by
            refine ⟨Regular.oneOf (done ++ [Regular.concat pieces]), ?_, ?_, there.near⟩
            · rw [Alternatives.branches?, arePieces]
              rfl
            · rw [bare?, allBare_concat bare isNext]
              rfl
          rw [there.rest]
          rcases closes with rfl | ⟨rest, rfl⟩ <;> exact .pure ⟨yields, there.rest⟩
  | .more sequence others, fits, here => by
      rw [Alternatives.text, List.append_assoc] at here
      cases fuel with
      | zero =>
          rw [readFurtherBranches]
          exact .fail
      | succ fuel =>
          rw [readFurtherBranches]
          refine readBranch_bind
            (sequence.ensures (.inr ⟨_, .inr rfl⟩) fuel depth allBare_nil fits.1 here)
            (skipFiller_of_solid (c := '|') (fun _ => rfl) (.of_head (by decide)))
            fun next pieces reading arePieces isNext there => ?_
          rw [there.rest]
          refine .setRest_bind ((others.further closes fuel depth
            (allBare_concat bare isNext) fits.2 (there.moved _).near).imp ?_)
          rintro value after ⟨⟨found, isFound, isValue, behind⟩, rest⟩
          obtain ⟨more, areMore, rfl⟩ := Option.map_eq_some_iff.mp isFound
          refine ⟨⟨_, ?_, isValue, ?_⟩, rest⟩
          · rw [Alternatives.branches?, arePieces, areMore, List.append_assoc]
            rfl
          · rw [Alternatives.groups, ← Nat.add_assoc]
            exact behind

/-- The reader takes a tree to its end. -/
theorem Alternatives.ensures {mode : Mode} {count : Nat} {text : List Char} (closes : Closes text)
    (fuel depth : Nat) {before : Reading} :
    (tree : Alternatives) → tree.Fits mode → Near mode count (tree.text ++ text) before →
    (readExtendedChoice bytes fuel depth).Ensures before fun value after =>
      Yields ((tree.branches? .extended mode count).map joined) (tree.modeAfter mode)
        (count + tree.groups) text value after ∧ after.rest = text
  | .last sequence, fits, here => by
      cases fuel with
      | zero =>
          rw [readExtendedChoice]
          exact .fail
      | succ fuel =>
          rw [readExtendedChoice]
          refine readBranch_bind (sequence.ensures closes.stops fuel depth allBare_nil fits here)
            (closes.skipFiller _)
            fun first pieces reading arePieces isFirst there => ?_
          have yields : Yields ((Alternatives.branches? .extended mode count (.last sequence)).map
              joined) (sequence.modeAfter mode) (count + sequence.groups) text first reading := by
            refine ⟨Regular.concat pieces, ?_, isFirst, there.near⟩
            rw [Alternatives.branches?, arePieces]
            rfl
          rw [there.rest]
          rcases closes with rfl | ⟨rest, rfl⟩
          all_goals
            refine .get_bind ?_
            split
            · exact .fail
            · exact .pure ⟨yields, there.rest⟩
  | .more sequence others, fits, here => by
      rw [Alternatives.text, List.append_assoc] at here
      cases fuel with
      | zero =>
          rw [readExtendedChoice]
          exact .fail
      | succ fuel =>
          rw [readExtendedChoice]
          refine readBranch_bind
            (sequence.ensures (.inr ⟨_, .inr rfl⟩) fuel depth allBare_nil fits.1 here)
            (skipFiller_of_solid (c := '|') (fun _ => rfl) (.of_head (by decide)))
            fun first pieces reading arePieces isFirst there => ?_
          rw [there.rest]
          refine .setRest_bind ((others.further closes fuel depth
            (allBare_concat allBare_nil isFirst) fits.2 (there.moved _).near).imp ?_)
          rintro value after ⟨⟨found, isFound, isValue, behind⟩, rest⟩
          obtain ⟨more, areMore, rfl⟩ := Option.map_eq_some_iff.mp isFound
          refine ⟨⟨_, ?_, isValue, ?_⟩, rest⟩
          · rw [Alternatives.branches?, arePieces, areMore]
            exact congrArg some (joined_cons _ (others.branches_ne_nil areMore))
          · rw [Alternatives.groups, ← Nat.add_assoc]
            exact behind

end

end Trees

/-! ## Whole patterns -/

theorem Alternatives.bare_of_read {tree : Alternatives} (fits : tree.Fits Mode.initial)
    {expression : Extended} {referenced : List Nat}
    (read : Extended.read? tree.text = some (expression, referenced)) :
    ∃ regular, tree.regular? .extended Mode.initial = some regular ∧
      expression.bare? = some regular := by
  dsimp only [Extended.read?] at read
  split at read
  · next found after isRead =>
      split at read
      · obtain ⟨rfl, _⟩ := Prod.mk.inj (Option.some.inj read)
        have start : At Mode.initial 0 (tree.text ++ [])
            ⟨Mode.initial, [], 0, false, [], tree.text⟩ := ⟨rfl, rfl, (List.append_nil _).symm⟩
        obtain ⟨⟨regular, means, bare, _⟩, _⟩ :=
          tree.ensures (.inl rfl) _ _ fits start.near _ _ isRead
        exact ⟨regular, means, bare⟩
      · cases read
  · cases read

/-- The tree with switches in front. -/
def Alternatives.under (switches : Switches) : Alternatives → Alternatives
  | .last sequence => .last (.switch switches sequence)
  | .more sequence rest => .more (.switch switches sequence) rest

theorem Alternatives.under_text (switches : Switches) (tree : Alternatives) :
    (tree.under switches).text = '(' :: '?' :: (switches.text ++ ')' :: tree.text) := by
  cases tree with
  | last => rfl
  | more => simp only [under, text, Sequence.text, List.cons_append, List.append_assoc]

theorem Alternatives.under_regular (switches : Switches) (tree : Alternatives) (reader : Reader)
    (mode : Mode) :
    (tree.under switches).regular? reader mode = tree.regular? reader (switches.apply mode) := by
  cases tree <;> rfl

theorem Alternatives.Fits.under {tree : Alternatives} {switches : Switches} {mode : Mode}
    (fits : tree.Fits (switches.apply mode)) : (tree.under switches).Fits mode := by
  cases tree <;> exact fits

/-- A shared tree is read as what it stands for. -/
theorem bare_of_read {ignoreCase : Bool} (shared : Shared ignoreCase) {expression : Extended}
    {referenced : List Nat}
    (read : Extended.read? (switched ignoreCase shared.text) = some (expression, referenced)) :
    ∃ regular, shared.tree.regular? .extended { Mode.initial with ignoreCase } = some regular ∧
      expression.bare? = some regular := by
  obtain ⟨tree, fits⟩ := shared
  cases ignoreCase with
  | false => exact Alternatives.bare_of_read fits read
  | true =>
      have led : (tree.under ⟨[.ignoreCase], []⟩).text = switched true tree.text :=
        tree.under_text _
      have fits : (tree.under ⟨[.ignoreCase], []⟩).Fits Mode.initial := .under fits
      obtain ⟨regular, means, bare⟩ := Alternatives.bare_of_read fits (led ▸ read)
      exact ⟨regular, (tree.under_regular _ _ _).symm.trans means, bare⟩

end Shared

end AgentClassifier.Pattern
