import Mathlib.Data.List.Basic
import AgentClassifier.Pattern.Extended.Reader

/-!
What reading extended notation does to the text that is left and to the number of groups.

* `Leaves` : a reader leaves at most so many characters, if it does not fail.
* `Reads.Ensures` : a reading step from a given reading ends with what is asked of it, if it does
  not fail; one rule for each way to put steps together.
* `Quiet` : between two readings no group was opened and no text was added.
-/

namespace AgentClassifier.Pattern

variable {α β : Type}

/-! ## Texts -/

/-- A reader leaves at most `limit` characters, if it does not fail. -/
def Leaves (limit : Nat) (result : Option (α × List Char)) : Prop :=
  ∀ value rest, result = some (value, rest) → rest.length ≤ limit

namespace Leaves

variable {limit more : Nat} {value : α} {rest text : List Char}

theorem none : Leaves limit (none : Option (α × List Char)) := nofun

theorem some (fewer : rest.length ≤ limit) : Leaves limit (some (value, rest)) := by
  intro _ _ read
  obtain ⟨_, rfl⟩ := Prod.mk.inj (Option.some.inj read)
  exact fewer

theorem mono (fewer : limit ≤ more) {result : Option (α × List Char)}
    (leaves : Leaves limit result) : Leaves more result :=
  fun value rest read => Nat.le_trans (leaves value rest read) fewer

/-- A reader behind a step that reads no text. -/
theorem bind {first : Option β} {next : β → Option (α × List Char)}
    (leaves : ∀ value, Leaves limit (next value)) : Leaves limit (first >>= next) := by
  intro value rest read
  obtain ⟨between, _, read⟩ := Option.bind_eq_some_iff.mp read
  exact leaves between value rest read

/-- A reader behind a step that only drops text. -/
theorem bind_rest {first : Option (List Char)} {next : List Char → Option (α × List Char)}
    (before : ∀ rest, first = Option.some rest → rest.length ≤ limit)
    (leaves : ∀ rest, rest.length ≤ limit → Leaves limit (next rest)) :
    Leaves limit (first >>= next) := by
  intro value rest read
  obtain ⟨between, readFirst, read⟩ := Option.bind_eq_some_iff.mp read
  exact leaves between (before between readFirst) value rest read

/-- A reader behind another one. -/
theorem bind_read {first : Option (β × List Char)} {next : β × List Char → Option (α × List Char)}
    (before : Leaves limit first)
    (leaves : ∀ value rest, rest.length ≤ limit → Leaves limit (next (value, rest))) :
    Leaves limit (first >>= next) := by
  intro value rest read
  obtain ⟨⟨between, left⟩, readFirst, read⟩ := Option.bind_eq_some_iff.mp read
  exact leaves between left (before between left readFirst) value rest read

theorem map {result : Option (β × List Char)} {change : β × List Char → α × List Char}
    (leaves : Leaves limit result) (same : ∀ read, (change read).2 = read.2) :
    Leaves limit (result.map change) := by
  intro value rest read
  obtain ⟨⟨between, left⟩, readFirst, changed⟩ := Option.map_eq_some_iff.mp read
  have kept := same (between, left)
  rw [changed] at kept
  obtain rfl : rest = left := kept
  exact leaves between rest readFirst

/-- A value read without text, beside the text that is left. -/
theorem beside {result : Option β} {change : β → α} (fewer : rest.length ≤ limit) :
    Leaves limit (result.map fun value => (change value, rest)) := by
  intro value left read
  obtain ⟨between, _, changed⟩ := Option.map_eq_some_iff.mp read
  obtain ⟨_, rfl⟩ := Prod.mk.inj changed
  exact fewer

end Leaves

theorem length_dropWhile_le (text : List Char) (p : Char → Bool) :
    (text.dropWhile p).length ≤ text.length :=
  (List.dropWhile_sublist p).length_le

theorem length_drop_le (text : List Char) (count : Nat) :
    (text.drop count).length ≤ text.length :=
  (List.drop_sublist count text).length_le

theorem untilBrace_leaves (text : List Char) : Leaves text.length (untilBrace? text) := by
  induction text with
  | nil => exact .none
  | cons c text ih =>
      rw [untilBrace?]
      split
      · exact .some (Nat.le_succ _)
      · exact .map (ih.mono (Nat.le_succ _)) fun _ => rfl

theorem readHex_leaves (digits : Nat) (text : List Char) :
    Leaves text.length (readHex digits text) := by
  have decode : ∀ code rest : List Char, rest.length ≤ text.length →
      Leaves text.length (do
        let value ← hexValue? code
        let c ← charOfCode? value
        some (Primitive.literal c, rest)) :=
    fun _ _ fewer => .bind fun _ => .bind fun _ => .some fewer
  unfold readHex
  dsimp only
  split
  · next inner =>
      have inside := (untilBrace_leaves inner).mono (Nat.le_succ _)
      refine .bind_read inside fun name rest fewer => ?_
      dsimp only
      split
      · exact .bind_read .none decode
      · exact .bind_read (.some fewer) decode
  · split
    · exact .bind_read (.some (length_drop_le _ _)) decode
    · exact .bind_read .none decode

theorem readProperty_leaves (mode : Mode) (negated : Bool) (text : List Char) :
    Leaves text.length (readProperty mode negated text) := by
  unfold readProperty
  split
  · exact .none
  · next inner =>
      have inside := (untilBrace_leaves inner).mono (Nat.le_succ _)
      exact .bind_read inside fun name rest fewer => .bind fun _ => .some fewer
  · split
    · exact .none
    · exact .beside (Nat.le_succ _)

theorem readEscape_leaves (mode : Mode) (c : Char) (text : List Char) :
    Leaves text.length (readEscape mode (c :: text)) := by
  unfold readEscape
  dsimp only
  split
  · exact .some (Nat.le_refl _)
  · split
    case h_1 | h_2 | h_3 => exact readHex_leaves _ _
    case h_4 | h_5 => exact readProperty_leaves _ _ _
    case h_20 =>
      split
      · exact .none
      · exact .some (Nat.le_refl _)
    case h_24 =>
      split
      · exact .some (Nat.le_refl _)
      · exact .none
    all_goals exact .some (Nat.le_refl _)

theorem readName_leaves (relative : Bool) (close : Char) (text : List Char) :
    Leaves text.length (readName relative close text) := by
  unfold readName
  split
  next sign body inName pieces =>
    have fewer : body.length ≤ text.length := by
      split at pieces
      · obtain ⟨_, rfl, _⟩ := pieces
        exact Nat.le_succ _
      · obtain ⟨_, rfl, _⟩ := pieces
        exact Nat.le_refl _
    dsimp only
    split
    · next c rest behind =>
        have less := length_dropWhile_le body inName
        rw [behind, List.length_cons] at less
        split
        · exact .some (by omega)
        · exact .none
    · exact .none

theorem readCode_leaves (digits : Nat) (text : List Char) :
    Leaves text.length (readCode digits text) := by
  have decode : ∀ code rest : List Char, rest.length ≤ text.length →
      Leaves text.length (do
        let c ← charOfCode? (← hexValue? code)
        some (c, rest)) :=
    fun _ _ fewer => .bind fun _ => .bind fun _ => .some fewer
  unfold readCode
  dsimp only
  split
  · exact .bind_read (.some (length_drop_le _ _)) decode
  · split
    · next inner _ =>
        have inside := (untilBrace_leaves inner).mono (Nat.le_succ _)
        refine .bind_read inside fun name rest fewer => ?_
        dsimp only
        split
        · exact .bind_read .none decode
        · exact .bind_read (.some fewer) decode
    · exact .bind_read .none decode

theorem readPropertyText_leaves (text : List Char) :
    Leaves text.length (readPropertyText text) := by
  unfold readPropertyText
  split
  · exact .none
  · next inner =>
      exact .map ((untilBrace_leaves inner).mono (Nat.le_succ _)) fun _ => rfl
  · exact .some (Nat.le_succ _)

theorem escapeInClass_leaves (text : List Char) : Leaves text.length (escapeInClass text) := by
  unfold escapeInClass
  split
  · exact .none
  · next c rest =>
      have code := fun digits => (readCode_leaves digits rest).mono (Nat.le_succ rest.length)
      split
      · exact .none
      · split
        · exact .some (Nat.le_succ _)
        · split
          · exact .some (Nat.le_succ _)
          · split
            · exact .map (code 2) fun _ => rfl
            · split
              · exact .map (code 4) fun _ => rfl
              · split
                · exact .map (code 8) fun _ => rfl
                · split
                  · exact .map ((readPropertyText_leaves rest).mono (Nat.le_succ _)) fun _ => rfl
                  · exact .beside (Nat.le_succ _)

theorem classText_leaves (fuel depth : Nat) (written text : List Char) :
    Leaves text.length (classText fuel depth written text) := by
  induction fuel generalizing depth written text with
  | zero => exact .none
  | succ fuel ih =>
      unfold classText
      split
      · exact .none
      · next rest =>
          split
          · next piece left read =>
              have fewer := escapeInClass_leaves rest piece left read
              exact (ih _ _ _).mono (Nat.le_succ_of_le fewer)
          · exact .none
      · exact (ih _ _ _).mono (Nat.le_succ _)
      · split
        · exact .some (Nat.le_succ _)
        · exact (ih _ _ _).mono (Nat.le_succ _)
      · exact (ih _ _ _).mono (Nat.le_succ _)

theorem readExtendedClass_leaves (mode : Mode) (text : List Char) :
    Leaves text.length (readExtendedClass mode text) := by
  unfold readExtendedClass
  dsimp only
  refine .bind_read ((classText_leaves _ _ _ _).mono ?_) fun inside rest fewer => ?_
  · -- what follows a caret and a closing bracket at the start
    split
    · next rest bracket =>
        split at bracket
        · next inner =>
            obtain rfl : inner = ']' :: rest := bracket
            simp only [List.length_cons]
            omega
        · obtain rfl : text = ']' :: rest := bracket
          exact Nat.le_succ _
    · split
      · exact Nat.le_succ _
      · exact Nat.le_refl _
  · dsimp only
    split
    · exact .some fewer
    · exact .none

theorem length_skipFiller (spaced : Bool) (filler : Filler) (text : List Char) :
    ∀ rest, skipFiller spaced filler text = some rest → rest.length ≤ text.length := by
  fun_induction skipFiller spaced filler text with
  | case4 | case5 | case7 =>
      intro rest read
      obtain rfl := Option.some.inj read
      exact Nat.le_refl _
  | case9 | case11 => nofun
  | case1 _ ih =>
      intro rest read
      have := ih rest read
      simp only [List.length_cons]
      omega
  | case2 _ _ _ _ ih | case3 _ _ _ _ _ ih | case6 _ _ ih | case8 _ _ ih | case10 _ _ ih =>
      exact fun rest read => Nat.le_succ_of_le (ih rest read)

theorem length_skipFiller? (mode : Mode) (text : List Char) :
    ∀ rest, mode.skipFiller? text = some rest → rest.length ≤ text.length :=
  length_skipFiller mode.spaced .outside text

theorem readDecimal_leaves (text : List Char) : Leaves text.length (readDecimal text) := by
  unfold readDecimal
  dsimp only
  split
  · exact .none
  · exact .some (length_dropWhile_le _ _)

theorem readExtendedBounds_leaves (mode : Mode) (text : List Char) :
    Leaves text.length (readExtendedBounds mode text) := by
  have skip : ∀ left : List Char, left.length ≤ text.length → ∀ rest,
      mode.skipFiller? left = some rest → rest.length ≤ text.length :=
    fun left fewer rest read => Nat.le_trans (length_skipFiller? mode left rest read) fewer
  unfold readExtendedBounds
  refine .bind_rest (skip text (Nat.le_refl _)) fun rest fewer => ?_
  extract_lets upper
  have upper_leaves : ∀ low left, left.length ≤ text.length →
      Leaves text.length (upper (low, left)) := by
    intro low left fewer
    refine .bind_rest (skip left fewer) fun rest less => ?_
    extract_lets close
    have close_leaves : ∀ high left, left.length ≤ text.length →
        Leaves text.length (close (high, left)) := by
      intro high left fewer
      refine .bind_rest (skip left fewer) fun rest less => ?_
      split
      · exact .some (Nat.le_of_succ_le less)
      · exact .none
    split
    · exact .bind_read (.some less) close_leaves
    · refine .bind_rest (skip _ (Nat.le_of_succ_le less)) fun rest less => ?_
      split
      · next high left read =>
          have fewer := Nat.le_trans (readDecimal_leaves rest high left read) less
          exact .bind_read (.some fewer) close_leaves
      · exact .bind_read (.some less) close_leaves
    · exact .bind_read .none close_leaves
  split
  · exact .bind_read (.some fewer) upper_leaves
  · exact .bind_read ((readDecimal_leaves rest).mono fewer) upper_leaves

/-! ## Reading steps -/

/-- Between two readings no group was opened and no text was added. -/
structure Quiet (before after : Reading) : Prop where
  groups : after.groups = before.groups
  rest : after.rest.length ≤ before.rest.length

namespace Quiet

variable {before middle after : Reading}

theorem trans (first : Quiet before middle) (second : Quiet middle after) : Quiet before after :=
  ⟨second.groups.trans first.groups, Nat.le_trans second.rest first.rest⟩

/-- Going on behind the first character of the text that is left. -/
theorem ofCons {c : Char} {rest : List Char} (same : before.rest = c :: rest) :
    Quiet before { before with rest } :=
  ⟨rfl, by rw [same]; exact Nat.le_succ _⟩

/-- Going on behind some signs that the text that is left begins with. -/
theorem ofAppend (signs : List Char) {rest : List Char} (same : before.rest = signs ++ rest) :
    Quiet before { before with rest } :=
  ⟨rfl, by rw [same, List.length_append]; exact Nat.le_add_left _ _⟩

end Quiet

namespace Reads

/-- A step from a given reading ends with what is asked of it, if it does not fail. -/
def Ensures (step : Reads α) (before : Reading) (post : α → Reading → Prop) : Prop :=
  ∀ value after, step before = some (value, after) → post value after

/-- A step opens no group and adds no text. -/
def IsQuiet (step : Reads α) : Prop :=
  ∀ before, step.Ensures before fun _ after => Quiet before after

namespace Ensures

variable {before : Reading} {post : β → Reading → Prop}

theorem fail : (fail : Reads β).Ensures before post := nofun

theorem pure {value : β} (holds : post value before) :
    (pure value : Reads β).Ensures before post := by
  intro _ _ read
  obtain ⟨rfl, rfl⟩ := Prod.mk.inj (Option.some.inj read)
  exact holds

theorem bind {first : Reads α} {next : α → Reads β} {between : α → Reading → Prop}
    (ensures : first.Ensures before between)
    (onward : ∀ value middle, between value middle → (next value).Ensures middle post) :
    (first >>= next).Ensures before post := by
  intro value after read
  obtain ⟨⟨one, middle⟩, readFirst, read⟩ := Option.bind_eq_some_iff.mp read
  exact onward one middle (ensures one middle readFirst) value after read

theorem fail_bind {next : α → Reads β} : (Reads.fail >>= next).Ensures before post := nofun

theorem pure_bind {value : α} {next : α → Reads β} (onward : (next value).Ensures before post) :
    ((Pure.pure value : Reads α) >>= next).Ensures before post := onward

theorem get_bind {next : Reading → Reads β} (onward : (next before).Ensures before post) :
    (get >>= next).Ensures before post := onward

theorem set_bind {state : Reading} {next : PUnit → Reads β}
    (onward : (next ⟨⟩).Ensures state post) : (set state >>= next).Ensures before post := onward

theorem modify_bind {change : Reading → Reading} {next : PUnit → Reads β}
    (onward : (next ⟨⟩).Ensures (change before) post) :
    (modify change >>= next).Ensures before post := onward

theorem setRest_bind {rest : List Char} {next : Unit → Reads β}
    (onward : (next ()).Ensures { before with rest } post) :
    (setRest rest >>= next).Ensures before post := onward

theorem imp {step : Reads β} {weaker : β → Reading → Prop} (ensures : step.Ensures before post)
    (weaken : ∀ value after, post value after → weaker value after) :
    step.Ensures before weaker :=
  fun value after read => weaken value after (ensures value after read)

end Ensures

theorem take_isQuiet {step : Mode → List Char → Option (α × List Char)}
    (leaves : ∀ mode text, Leaves text.length (step mode text)) : (take step).IsQuiet := by
  intro before value after read
  unfold take at read
  split at read
  · next found =>
      obtain ⟨_, rfl⟩ := Prod.mk.inj (Option.some.inj read)
      exact ⟨rfl, leaves _ _ _ _ found⟩
  · cases read

theorem skip_isQuiet : skip.IsQuiet := by
  intro before value after read
  unfold skip at read
  split at read
  · next found =>
      obtain ⟨_, rfl⟩ := Prod.mk.inj (Option.some.inj read)
      exact ⟨rfl, length_skipFiller? _ _ _ found⟩
  · cases read

end Reads

theorem readNamedReference_isQuiet (relative : Bool) (close : Char) :
    (readNamedReference relative close).IsQuiet := by
  intro before
  refine .bind (Reads.take_isQuiet (fun _ => readName_leaves relative close) before) ?_
  intro name middle quiet
  refine .get_bind ?_
  split
  · exact .pure quiet
  · exact .fail

theorem readNumberedReference_isQuiet (bytes : Nat) : (readNumberedReference bytes).IsQuiet := by
  intro before
  refine .get_bind ?_
  dsimp only
  split
  · exact .fail
  · refine .set_bind (.pure ⟨rfl, ?_⟩)
    exact length_dropWhile_le _ _

theorem readExtendedSwitches_isQuiet (fuel count : Nat) (value : Bool) :
    (readExtendedSwitches fuel count value).IsQuiet := by
  induction fuel generalizing count value with
  | zero => exact fun before => .fail
  | succ fuel ih =>
      intro before
      refine .bind (Reads.skip_isQuiet before) fun _ middle quiet => .get_bind ?_
      split
      · exact .fail
      · next rest same =>
          split
          · exact .fail
          · exact .setRest_bind (.pure (quiet.trans (.ofCons same)))
      · next rest same =>
          split
          · exact .fail
          · exact .setRest_bind (.pure (quiet.trans (.ofCons same)))
      · next rest same =>
          split
          · exact .fail
          · exact .setRest_bind ((ih _ _ _).imp fun _ _ further =>
              (quiet.trans (.ofCons same)).trans further)
      · next c rest _ _ _ same =>
          split
          · next mode _ =>
              have shorter : Quiet middle { middle with mode, rest } :=
                ⟨rfl, by rw [same]; exact Nat.le_succ _⟩
              exact .set_bind
                ((ih _ _ _).imp fun _ _ further => (quiet.trans shorter).trans further)
          · exact .fail

theorem readClose_isQuiet : readClose.IsQuiet := by
  intro before
  refine .bind (Reads.skip_isQuiet before) fun _ middle quiet => .get_bind ?_
  split
  · next rest same => exact .setRest_bind (.pure (quiet.trans (.ofCons same)))
  · exact .fail

theorem openGroup_bind {next : Nat → Reads β} {before : Reading} {post : β → Reading → Prop}
    (onward : (next (before.groups + 1)).Ensures { before with groups := before.groups + 1 } post) :
    (openGroup >>= next).Ensures before post := onward

theorem openNamedGroup_ensures (before : Reading) :
    openNamedGroup.Ensures before fun index after =>
      index = before.groups + 1 ∧ after.groups = before.groups + 1 ∧
        after.rest.length ≤ before.rest.length := by
  refine openGroup_bind (.bind (Reads.take_isQuiet (fun _ => readName_leaves false '>') _) ?_)
  intro name after quiet
  exact .modify_bind (.pure ⟨rfl, quiet.groups, quiet.rest⟩)

/-! ## Pieces -/

/-- An expression without parts. -/
def Extended.IsLeaf : Extended → Prop
  | empty | literal .. | any _ | set _ | assertion _ | backref _ | recorded _ | resetStart
  | searchStart => True
  | seq _ | alt _ | group .. | repetition .. | look .. | atomic _ | conditional .. => False

/-- An expression is another one or a repetition of it. -/
inductive Extended.Repeats (child : Extended) : Extended → Prop
  | once : Repeats child child
  | repeated {low : Nat} {high : Option Nat} {greedy : Bool} :
      Repeats child (repetition low high greedy child)
  | possessive {low : Nat} {high : Option Nat} {greedy : Bool} :
      Repeats child (atomic (repetition low high greedy child))

theorem readExtendedEscape_ensures (bytes : Nat) (before : Reading) :
    (readExtendedEscape bytes).Ensures before fun value after =>
      value.IsLeaf ∧ Quiet before after := by
  refine .get_bind ?_
  dsimp only
  split
  · exact .fail
  · next c rest same =>
      have advance : ∀ expression : Extended, expression.IsLeaf →
          (do Reads.setRest rest; pure expression : Reads Extended).Ensures before
            fun value after => value.IsLeaf ∧ Quiet before after :=
        fun _ leaf => .setRest_bind (.pure ⟨leaf, .ofCons same⟩)
      have code : ∀ digits, (do
            let c ← Reads.take fun _ text => readCode digits (text.drop 1)
            pure (Extended.literal c before.mode.ignoreCase) : Reads Extended).Ensures before
          fun value after => value.IsLeaf ∧ Quiet before after :=
        fun digits => .bind (Reads.take_isQuiet (fun _ text =>
            (readCode_leaves digits (text.drop 1)).mono (length_drop_le _ _)) before)
          fun _ _ quiet => .pure ⟨trivial, quiet⟩
      split
      · exact .bind (readNumberedReference_isQuiet bytes before) fun _ _ quiet =>
          .pure ⟨trivial, quiet⟩
      · split
        case h_1 =>
          have named : ∀ (close opening : Char) (inner : List Char), rest = opening :: inner →
              (do Reads.setRest inner; return .backref (← readNamedReference true close) :
                Reads Extended).Ensures before
              fun value after => value.IsLeaf ∧ Quiet before after := by
            rintro close opening inner rfl
            have shorter : Quiet before { before with rest := inner } :=
              ⟨rfl, by rw [same]; exact Nat.le_succ_of_le (Nat.le_succ _)⟩
            exact .setRest_bind (.bind (readNamedReference_isQuiet true close _) fun _ _ quiet =>
              .pure ⟨trivial, shorter.trans quiet⟩)
          split
          · exact named _ _ _ rfl
          · exact named _ _ _ rfl
          · exact .fail
        case h_4 | h_5 =>
          split
          · exact .fail
          · exact advance _ trivial
        case h_10 | h_11 | h_12 => exact code _
        case h_15 =>
          split
          · split
            · next chars left read =>
                rw [same] at read
                have fewer := readEscape_leaves _ _ _ _ _ read
                refine .setRest_bind (.pure ⟨trivial, rfl, ?_⟩)
                rw [same]
                exact Nat.le_succ_of_le fewer
            · exact .fail
          · split
            · exact advance _ trivial
            · exact .fail
        all_goals exact advance _ trivial

theorem readRepetition_ensures (child : Extended) (before : Reading) :
    (readRepetition child).Ensures before fun value after =>
      child.Repeats value ∧ Quiet before after := by
  refine .bind (Reads.skip_isQuiet before) fun _ middle quiet => .get_bind ?_
  dsimp only
  split
  · exact .pure ⟨.once, quiet⟩
  · next low high rest bounds =>
      have fewer : rest.length ≤ middle.rest.length := by
        split at bounds
        case h_1 same | h_2 same | h_3 same =>
          obtain ⟨_, rfl⟩ := Prod.mk.inj (Option.some.inj bounds)
          rw [same]
          exact Nat.le_succ _
        case h_4 inner same =>
          rw [same]
          exact Nat.le_succ_of_le (readExtendedBounds_leaves _ inner _ _ bounds)
        case h_5 => cases bounds
      have behind : Quiet middle { middle with rest } := ⟨rfl, fewer⟩
      split
      · exact .fail
      · refine .setRest_bind (.bind (Reads.skip_isQuiet _) fun _ last further => .get_bind ?_)
        have before := (quiet.trans behind).trans further
        split
        · next left same =>
            have shorter : left.length ≤ last.rest.length := by
              split at same
              · next inner lazily =>
                  obtain rfl : inner = '+' :: left := same
                  rw [lazily]
                  exact Nat.le_succ_of_le (Nat.le_succ _)
              · have here : last.rest = '+' :: left := same
                rw [here]
                exact Nat.le_succ _
            exact .setRest_bind (.pure ⟨.possessive, before.trans ⟨rfl, shorter⟩⟩)
        · refine .setRest_bind (.pure ⟨.repeated, before.trans ⟨rfl, ?_⟩⟩)
          split
          · next inner lazily =>
              rw [lazily]
              exact Nat.le_succ _
          · exact Nat.le_refl _

end AgentClassifier.Pattern
