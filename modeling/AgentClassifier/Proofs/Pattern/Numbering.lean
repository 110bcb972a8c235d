import AgentClassifier.Proofs.Pattern.Bare
import AgentClassifier.Proofs.Pattern.Reads

/-!
Groups are numbered in the order of their opening.

* `Numbers` : the groups of an expression are those opened between two counts.
* `ReadsNumber` : what each reader does to the count; `readsNumber` proves it for all of them, by
  induction on the fuel.
* `Extended.wellFormed_of_read` : the expression that a pattern stands for is well-formed, with the
  number of its groups as the bound.

A reader that takes no text is undone by its caller. No group is opened without taking text, so
none is lost that way: the count and the length of the text that is left never grow together.
-/

namespace AgentClassifier.Pattern

namespace Extended

variable {first last bound more : Nat} {expression body child : Extended}
  {parts choices : List Extended}

/-! ## Well-formed expressions -/

mutual

theorem WellFormed.mono (fewer : bound ≤ more) : (expression : Extended) →
    expression.WellFormed bound → expression.WellFormed more
  | empty, _ | literal .., _ | any _, _ | set _, _ | assertion _, _ | backref _, _
  | recorded _, _ | resetStart, _ | searchStart, _ => trivial
  | seq parts, wellFormed => AllWellFormed.mono fewer parts wellFormed
  | alt choices, wellFormed => ⟨wellFormed.1, AllWellFormed.mono fewer choices wellFormed.2⟩
  | group _ body, wellFormed =>
      ⟨Nat.lt_of_lt_of_le wellFormed.1 fewer, WellFormed.mono fewer body wellFormed.2⟩
  | repetition _ _ _ body, wellFormed => WellFormed.mono fewer body wellFormed
  | look _ _ body, wellFormed => WellFormed.mono fewer body wellFormed
  | atomic body, wellFormed => WellFormed.mono fewer body wellFormed
  | conditional condition yes no, wellFormed =>
      ⟨WellFormed.mono fewer condition wellFormed.1, WellFormed.mono fewer yes wellFormed.2.1,
        WellFormed.mono fewer no wellFormed.2.2⟩

theorem AllWellFormed.mono (fewer : bound ≤ more) : (parts : List Extended) →
    AllWellFormed bound parts → AllWellFormed more parts
  | [], _ => trivial
  | part :: rest, wellFormed =>
      ⟨WellFormed.mono fewer part wellFormed.1, AllWellFormed.mono fewer rest wellFormed.2⟩

end

/-- The groups of a bare expression are those opened between two counts. Of the other expressions
this says only that the count does not go back. -/
structure Numbers (expression : Extended) (first last : Nat) : Prop where
  grows : first ≤ last
  wellFormed : ∀ regular, expression.bare? = some regular → expression.WellFormed (last + 1)
  opened : ∀ regular, expression.bare? = some regular → ∀ before,
    expression.openedAfter? before = some (before + (last - first))

/-- The groups of the parts are those opened between two counts, if all parts are bare. -/
structure NumbersAll (parts : List Extended) (first last : Nat) : Prop where
  grows : first ≤ last
  wellFormed : ∀ regulars, allBare? parts = some regulars → AllWellFormed (last + 1) parts
  opened : ∀ regulars, allBare? parts = some regulars → ∀ before,
    openedAfterAll? before parts = some (before + (last - first))

theorem Numbers.ofBareless (grows : first ≤ last) (bareless : expression.bare? = none) :
    Numbers expression first last :=
  ⟨grows, fun _ bare => absurd (bareless.symm.trans bare) nofun,
    fun _ bare => absurd (bareless.symm.trans bare) nofun⟩

theorem Numbers.leaf (leaf : expression.IsLeaf) : Numbers expression first first := by
  cases expression with
  | seq | alt | group | repetition | look | atomic | conditional => cases leaf
  | backref | recorded => exact .ofBareless (Nat.le_refl _) rfl
  | _ =>
      refine ⟨Nat.le_refl _, fun _ _ => trivial, fun _ _ before => ?_⟩
      rw [Nat.sub_self]
      rfl

theorem Numbers.group (numbers : Numbers body (first + 1) last) :
    Numbers (group (first + 1) body) first last where
  grows := Nat.le_of_succ_le numbers.grows
  wellFormed _ bare := by
    obtain ⟨inner, isBody, _⟩ := Option.map_eq_some_iff.mp bare
    exact ⟨Nat.lt_succ_of_le numbers.grows, numbers.wellFormed inner isBody⟩
  opened _ bare before := by
    obtain ⟨inner, isBody, _⟩ := Option.map_eq_some_iff.mp bare
    have grows := numbers.grows
    rw [openedAfter?, numbers.opened inner isBody]
    congr 1
    omega

theorem Numbers.repetition {low : Nat} {high : Option Nat} {greedy : Bool}
    (numbers : Numbers child first last) :
    Numbers (repetition low high greedy child) first last := by
  have isChild : ∀ regular, (Extended.repetition low high greedy child).bare? = some regular →
      ∃ inner, child.bare? = some inner := by
    intro regular bare
    rw [bare?] at bare
    split at bare
    · obtain ⟨inner, isBody, _⟩ := Option.map_eq_some_iff.mp bare
      exact ⟨inner, isBody⟩
    · cases bare
  refine ⟨numbers.grows, fun regular bare => ?_, fun regular bare => ?_⟩
  · obtain ⟨inner, isBody⟩ := isChild regular bare
    exact numbers.wellFormed inner isBody
  · obtain ⟨inner, isBody⟩ := isChild regular bare
    exact numbers.opened inner isBody

theorem Numbers.atomic (numbers : Numbers body first last) :
    Numbers (atomic body) first last :=
  ⟨numbers.grows, numbers.wellFormed, numbers.opened⟩

theorem Numbers.repeats {value : Extended} (numbers : Numbers child first last)
    (repeats : child.Repeats value) : Numbers value first last := by
  cases repeats with
  | once => exact numbers
  | repeated => exact numbers.repetition
  | possessive => exact numbers.repetition.atomic

theorem NumbersAll.nil : NumbersAll [] first first := by
  refine ⟨Nat.le_refl _, fun _ _ => trivial, fun _ _ before => ?_⟩
  rw [Nat.sub_self]
  rfl

theorem openedAfterAll_append {before middle : Nat} {others : List Extended}
    (opened : openedAfterAll? before parts = some middle) :
    openedAfterAll? before (parts ++ others) = openedAfterAll? middle others := by
  induction parts generalizing before with
  | nil =>
      obtain rfl := Option.some.inj opened
      rfl
  | cons part rest ih =>
      rw [openedAfterAll?] at opened
      rw [List.cons_append, openedAfterAll?]
      split at opened
      · exact ih opened
      · cases opened

theorem allBare_append {others : List Extended} {regulars : List Regular}
    (bare : allBare? (parts ++ others) = some regulars) :
    ∃ before after, allBare? parts = some before ∧ allBare? others = some after := by
  have left := allBare_take bare parts.length
  have right := allBare_drop bare parts.length
  rw [List.take_left] at left
  rw [List.drop_left] at right
  exact ⟨_, _, left, right⟩

/-- One more part behind the others. -/
theorem NumbersAll.concat {middle : Nat} (before : NumbersAll parts first middle)
    (after : Numbers expression middle last) : NumbersAll (parts ++ [expression]) first last where
  grows := Nat.le_trans before.grows after.grows
  wellFormed regulars bare := by
    obtain ⟨left, right, isLeft, isRight⟩ := allBare_append bare
    obtain ⟨one, _, isOne, _⟩ := allBare_cons.mp isRight
    have early := AllWellFormed.mono (Nat.succ_le_succ after.grows) parts
      (before.wellFormed left isLeft)
    rw [allWellFormed_iff, List.forall_mem_append, List.forall_mem_singleton]
    exact ⟨allWellFormed_iff.mp early, after.wellFormed one isOne⟩
  opened regulars bare count := by
    obtain ⟨left, right, isLeft, isRight⟩ := allBare_append bare
    obtain ⟨one, _, isOne, _⟩ := allBare_cons.mp isRight
    have early := before.grows
    have late := after.grows
    rw [openedAfterAll_append (before.opened left isLeft count), openedAfterAll?,
      after.opened one isOne]
    dsimp only [openedAfterAll?]
    congr 1
    omega

theorem Numbers.one (numbers : Numbers expression first last) :
    NumbersAll [expression] first last :=
  NumbersAll.concat .nil numbers

theorem NumbersAll.seq (numbers : NumbersAll parts first last) :
    Numbers (seq parts) first last where
  grows := numbers.grows
  wellFormed _ bare := by
    obtain ⟨regulars, areParts, _⟩ := Option.map_eq_some_iff.mp bare
    exact numbers.wellFormed regulars areParts
  opened _ bare := by
    obtain ⟨regulars, areParts, _⟩ := Option.map_eq_some_iff.mp bare
    exact numbers.opened regulars areParts

theorem NumbersAll.alt (some : choices ≠ []) (numbers : NumbersAll choices first last) :
    Numbers (alt choices) first last where
  grows := numbers.grows
  wellFormed _ bare := by
    obtain ⟨regulars, areChoices, _⟩ := Option.map_eq_some_iff.mp bare
    exact ⟨some, numbers.wellFormed regulars areChoices⟩
  opened _ bare := by
    obtain ⟨regulars, areChoices, _⟩ := Option.map_eq_some_iff.mp bare
    exact numbers.opened regulars areChoices

theorem NumbersAll.single (numbers : NumbersAll [expression] first last) :
    Numbers expression first last where
  grows := numbers.grows
  wellFormed regular bare :=
    (numbers.wellFormed [regular] (allBare_cons.mpr ⟨regular, [], bare, rfl, rfl⟩)).1
  opened regular bare before := by
    have opened := numbers.opened [regular] (allBare_cons.mpr ⟨regular, [], bare, rfl, rfl⟩) before
    rw [openedAfterAll?] at opened
    split at opened
    · next next isNext =>
        rw [isNext]
        exact opened
    · cases opened

theorem NumbersAll.ofPieces {pieces : List Extended}
    (numbers : NumbersAll pieces.reverse first last) : Numbers (ofPieces pieces) first last := by
  unfold Extended.ofPieces
  split
  · exact ⟨numbers.grows, fun _ _ => trivial, fun _ _ => numbers.opened [] rfl⟩
  · exact numbers.single
  · exact numbers.seq

/-- An expression that consumes and records nothing opens no group. -/
theorem Numbers.eq_of_opened (numbers : Numbers expression first last) {regular : Regular}
    (bare : expression.bare? = some regular)
    (none : expression.openedAfter? 0 = some 0) : last = first := by
  have opened := numbers.opened regular bare 0
  have grows := numbers.grows
  rw [none, Option.some.injEq] at opened
  omega

end Extended

open Extended

/-! ## Readers -/

/-- The number of groups together with the length of the text that is left. -/
def Reading.budget (reading : Reading) : Nat := reading.groups + reading.rest.length

/-- A reader has read an expression with the groups opened since there were `first`, within a
budget. -/
structure Counts (first limit : Nat) (expression : Extended) (after : Reading) : Prop where
  numbers : Numbers expression first after.groups
  within : after.budget ≤ limit

namespace Counts

variable {first limit : Nat} {expression : Extended} {before middle after : Reading}

theorem quiet (counts : Counts first limit expression middle) (quiet : Quiet middle after) :
    Counts first limit expression after where
  numbers := quiet.groups ▸ counts.numbers
  within := by
    have within := counts.within
    have groups := quiet.groups
    have rest := quiet.rest
    unfold Reading.budget at within ⊢
    omega

theorem relax (counts : Counts first limit expression after) :
    Counts first (limit + 1) expression after :=
  ⟨counts.numbers, Nat.le_succ_of_le counts.within⟩

end Counts

theorem Quiet.budget {before after : Reading} (quiet : Quiet before after) :
    after.budget ≤ before.budget := by
  have groups := quiet.groups
  have rest := quiet.rest
  unfold Reading.budget
  omega

/-- After a quiet step nothing is counted in an expression without parts. -/
theorem Quiet.leaf {before after : Reading} (quiet : Quiet before after) {expression : Extended}
    (isLeaf : expression.IsLeaf) : Counts before.groups before.budget expression after :=
  (Counts.mk (.leaf isLeaf) (Nat.le_refl _)).quiet quiet

/-- What a reader counts after a quiet step it counts from before that step. -/
theorem Reads.Ensures.behind {step : Reads Extended} {before middle : Reading}
    (ensures : step.Ensures middle (Counts middle.groups middle.budget))
    (quiet : Quiet before middle) : step.Ensures middle (Counts before.groups before.budget) :=
  ensures.imp fun _ _ counts =>
    ⟨quiet.groups ▸ counts.numbers, Nat.le_trans counts.within quiet.budget⟩

/-- What the readers with some fuel do to the count. -/
structure ReadsNumber (bytes fuel : Nat) : Prop where
  choice : ∀ depth before, (readExtendedChoice bytes fuel depth).Ensures before
    (Counts before.groups before.budget)
  further : ∀ depth branches first limit before, branches ≠ [] →
    NumbersAll branches.reverse first before.groups → before.budget ≤ limit →
    (readFurtherBranches bytes fuel depth branches).Ensures before (Counts first limit)
  branch : ∀ depth pieces first limit before, NumbersAll pieces.reverse first before.groups →
    before.budget ≤ limit →
    (readExtendedBranch bytes fuel depth pieces).Ensures before (Counts first limit)
  atom : ∀ depth before, (readAtom bytes fuel depth).Ensures before
    (Counts before.groups before.budget)
  /-- The parenthesis that opens the group was taken before. -/
  group : ∀ depth before, (readGroup bytes fuel depth).Ensures before
    (Counts before.groups (before.budget + 1))
  body : ∀ depth before, (readBody bytes fuel depth).Ensures before
    (Counts before.groups before.budget)
  conditional : ∀ depth before, (readConditional bytes fuel depth).Ensures before
    (Counts before.groups before.budget)

section Step

variable {bytes fuel : Nat} (number : ReadsNumber bytes fuel) (depth : Nat)
include number

theorem readExtendedChoice_counts (before : Reading) :
    (readExtendedChoice bytes (fuel + 1) depth).Ensures before
      (Counts before.groups before.budget) := by
  rw [readExtendedChoice]
  refine .bind (number.branch depth [] _ _ before .nil (Nat.le_refl _)) ?_
  intro first middle counts
  refine .bind (Reads.skip_isQuiet middle) fun _ after quiet => .get_bind ?_
  have counts := counts.quiet quiet
  split
  · next rest same =>
      have onward := counts.quiet (.ofCons same)
      exact .setRest_bind
        (number.further depth [first] _ _ _ (List.cons_ne_nil _ _) onward.numbers.one onward.within)
  · refine .get_bind ?_
    split
    · exact .fail
    · exact .pure counts

theorem readFurtherBranches_counts {branches : List Extended} {first limit : Nat}
    {before : Reading} (numbers : NumbersAll branches.reverse first before.groups)
    (within : before.budget ≤ limit) :
    (readFurtherBranches bytes (fuel + 1) depth branches).Ensures before (Counts first limit) := by
  rw [readFurtherBranches]
  refine .bind (number.branch depth [] _ _ before .nil (Nat.le_refl _)) ?_
  intro next middle counts
  refine .bind (Reads.skip_isQuiet middle) fun _ after quiet => .get_bind ?_
  have counts := counts.quiet quiet
  have joined : NumbersAll (next :: branches).reverse first after.groups := by
    rw [List.reverse_cons]
    exact numbers.concat counts.numbers
  split
  · next rest same =>
      exact .setRest_bind (number.further depth (next :: branches) _ _ _ (List.cons_ne_nil _ _)
        joined (Nat.le_trans (counts.quiet (.ofCons same)).within within))
  · exact .pure ⟨joined.alt (by simp), Nat.le_trans counts.within within⟩

theorem readExtendedBranch_counts {pieces : List Extended} {first limit : Nat} {before : Reading}
    (numbers : NumbersAll pieces.reverse first before.groups) (within : before.budget ≤ limit) :
    (readExtendedBranch bytes (fuel + 1) depth pieces).Ensures before (Counts first limit) := by
  rw [readExtendedBranch]
  refine .get_bind ?_
  dsimp only
  split
  · exact .pure ⟨numbers.ofPieces, within⟩
  · refine .bind (number.atom depth before) fun child middle counts => ?_
    refine .bind (readRepetition_ensures child middle) ?_
    rintro piece after ⟨repeats, quiet⟩
    have counts : Counts before.groups before.budget piece after :=
      (Counts.mk (counts.numbers.repeats repeats) counts.within).quiet quiet
    have withinAfter := Nat.le_trans counts.within within
    refine .get_bind ?_
    split
    · next same =>
        -- nothing was taken, so no group was opened
        have unopened : after.groups = before.groups := by
          have grows := counts.numbers.grows
          have spent := counts.within
          unfold Reading.budget at spent
          omega
        exact .pure ⟨(unopened ▸ numbers).ofPieces, withinAfter⟩
    · split
      · have unopened := counts.numbers.eq_of_opened rfl rfl
        exact number.branch depth pieces _ _ after (unopened ▸ numbers) withinAfter
      · refine number.branch depth (piece :: pieces) _ _ after ?_ withinAfter
        rw [List.reverse_cons]
        exact numbers.concat counts.numbers

theorem readBody_counts (before : Reading) :
    (readBody bytes (fuel + 1) depth).Ensures before (Counts before.groups before.budget) := by
  rw [readBody]
  refine .bind (number.choice depth before) fun body middle counts => ?_
  exact .bind (readClose_isQuiet middle) fun _ _ quiet => .pure (counts.quiet quiet)

theorem readAtom_counts (before : Reading) :
    (readAtom bytes (fuel + 1) depth).Ensures before (Counts before.groups before.budget) := by
  rw [readAtom]
  refine .bind (Reads.skip_isQuiet before) fun _ middle quiet => .get_bind ?_
  dsimp only
  split
  · exact .pure (quiet.leaf trivial)
  · next rest same => exact .setRest_bind (.pure ((quiet.trans (.ofCons same)).leaf trivial))
  · next rest same =>
      refine .setRest_bind (.pure ((quiet.trans (.ofCons same)).leaf ?_))
      exact trivial
  · next rest same =>
      refine .setRest_bind (.pure ((quiet.trans (.ofCons same)).leaf ?_))
      exact trivial
  · next rest same =>
      refine .setRest_bind ((number.group (depth + 1) _).imp fun _ _ counts => ?_)
      have budget : (Reading.budget { middle with rest }) + 1 = middle.budget := by
        unfold Reading.budget
        rw [same, List.length_cons]
        rfl
      rw [budget] at counts
      exact ⟨quiet.groups ▸ counts.numbers, Nat.le_trans counts.within quiet.budget⟩
  · next rest same =>
      refine .setRest_bind (.bind (readExtendedEscape_ensures bytes _) ?_)
      rintro expression after ⟨isLeaf, further⟩
      have quiet := (quiet.trans (.ofCons same)).trans further
      split
      · next group =>
          have referring : Quiet before { after with referenced := group :: after.referenced } :=
            quiet.trans ⟨rfl, Nat.le_refl _⟩
          exact .modify_bind (.pure (referring.leaf trivial))
      · exact .pure (quiet.leaf isLeaf)
  · next rest same =>
      refine .setRest_bind (.bind (Reads.take_isQuiet readExtendedClass_leaves _) ?_)
      intro chars after further
      refine .bind (Reads.skip_isQuiet after) fun _ last skipped => ?_
      exact .pure ((((quiet.trans (.ofCons same)).trans further).trans skipped).leaf trivial)
  · next c rest _ _ _ _ _ _ same =>
      split
      · exact .pure (quiet.leaf trivial)
      · exact .setRest_bind (.pure ((quiet.trans (.ofCons same)).leaf trivial))

/-- The body of a group that was just opened. -/
theorem readBody_group {before middle : Reading} {index : Nat}
    (isNext : index = before.groups + 1) (opened : middle.groups = before.groups + 1)
    (fewer : middle.rest.length ≤ before.rest.length) :
    (do
      let body ← readBody bytes fuel depth
      pure (Extended.group index body) : Reads Extended).Ensures middle
      (Counts before.groups (before.budget + 1)) := by
  refine .bind (number.body depth middle) fun body after counts => .pure ⟨?_, ?_⟩
  · have numbers := counts.numbers
    rw [opened] at numbers
    exact isNext ▸ numbers.group
  · have within := counts.within
    unfold Reading.budget at within ⊢
    omega

/-- The body of a group that records nothing. -/
theorem readBody_keeps {before middle : Reading} (quiet : Quiet before middle)
    {build : Extended → Extended}
    (keeps : ∀ {body first last}, Numbers body first last → Numbers (build body) first last) :
    (do
      let body ← readBody bytes fuel depth
      pure (build body) : Reads Extended).Ensures middle
      (Counts before.groups (before.budget + 1)) := by
  refine .bind ((number.body depth middle).behind quiet) fun body after counts => .pure ?_
  exact ⟨keeps counts.numbers, Nat.le_succ_of_le counts.within⟩

/-- The name of a group, and its body. -/
theorem readNamedGroup_counts {before middle : Reading} (quiet : Quiet before middle) :
    (do
      let index ← openNamedGroup
      let body ← readBody bytes fuel depth
      pure (Extended.group index body) : Reads Extended).Ensures middle
      (Counts before.groups (before.budget + 1)) := by
  refine .bind (openNamedGroup_ensures _) ?_
  rintro index after ⟨isNext, opened, fewer⟩
  exact readBody_group number depth (quiet.groups ▸ isNext) (quiet.groups ▸ opened)
    (Nat.le_trans fewer quiet.rest)

theorem readGroup_counts (before : Reading) :
    (readGroup bytes (fuel + 1) depth).Ensures before
      (Counts before.groups (before.budget + 1)) := by
  rw [readGroup]
  split
  · exact .fail_bind
  · refine .bind (Reads.skip_isQuiet before) fun _ middle quiet => .get_bind ?_
    have look : ∀ {behind negated : Bool} {body : Extended} {first last : Nat},
        Numbers body first last → Numbers (.look behind negated body) first last :=
      fun numbers => .ofBareless numbers.grows rfl
    split
    · next rest same =>
        exact .setRest_bind
          (readBody_keeps number depth (quiet.trans (.ofAppend ['?', '='] same)) look)
    · next rest same =>
        exact .setRest_bind
          (readBody_keeps number depth (quiet.trans (.ofAppend ['?', '!'] same)) look)
    · next rest same =>
        exact .setRest_bind
          (readBody_keeps number depth (quiet.trans (.ofAppend ['?', '<', '='] same)) look)
    · next rest same =>
        exact .setRest_bind
          (readBody_keeps number depth (quiet.trans (.ofAppend ['?', '<', '!'] same)) look)
    · next rest _ _ same =>
        exact .setRest_bind (readNamedGroup_counts number depth
          (quiet.trans (.ofAppend ['?', '<'] same)))
    · next rest same =>
        exact .setRest_bind (readNamedGroup_counts number depth
          (quiet.trans (.ofAppend ['?', 'P', '<'] same)))
    · next rest same =>
        have dropped := quiet.trans (.ofAppend ['?', 'P', '='] same)
        refine .setRest_bind
          (.bind (readNamedReference_isQuiet _ _ _) fun group after further => ?_)
        have leaf : Counts before.groups before.budget (.backref group) after :=
          (dropped.trans further).leaf trivial
        exact .pure leaf.relax
    · next rest same =>
        exact .setRest_bind
          (readBody_keeps number depth (quiet.trans (.ofAppend ['?', '>'] same)) .atomic)
    · next rest same =>
        refine .setRest_bind
          (((number.conditional depth _).behind (quiet.trans (.ofAppend ['?', '('] same))).imp ?_)
        exact fun _ _ counts => counts.relax
    · next rest _ _ _ _ _ _ _ _ _ same =>
        have dropped := quiet.trans (.ofCons same)
        refine .get_bind (.setRest_bind (.bind (readExtendedSwitches_isQuiet _ _ _ _) ?_))
        intro kind after further
        have quiet := dropped.trans further
        split
        · have leaf : Counts before.groups before.budget .empty after := quiet.leaf trivial
          exact .pure leaf.relax
        · refine .bind ((number.choice depth after).behind quiet)
            fun body last counts => .get_bind ?_
          split
          · next rest same =>
              have closed : Quiet last { last with mode := middle.mode, rest } :=
                ⟨rfl, by rw [same]; exact Nat.le_succ _⟩
              exact .modify_bind (.pure (counts.quiet closed).relax)
          · exact .fail
    · exact openGroup_bind (readBody_group number depth
        (by rw [quiet.groups]) (by dsimp only; rw [quiet.groups]) quiet.rest)

/-- What the code behind the condition of a conditional makes of it. -/
theorem readConditional_counts (before : Reading) :
    (readConditional bytes (fuel + 1) depth).Ensures before
      (Counts before.groups before.budget) := by
  rw [readConditional]
  refine .get_bind ?_
  extract_lets finish
  have finishes : ∀ condition middle, Counts before.groups before.budget condition middle →
      (finish condition).Ensures middle (Counts before.groups before.budget) := by
    intro condition middle counts
    dsimp only [finish]
    refine .bind (readClose_isQuiet middle) fun _ closed quiet => .get_bind ?_
    have counts := counts.quiet quiet
    refine .bind (number.choice depth closed) fun child after childCounts => .get_bind ?_
    refine .bind (readClose_isQuiet after) fun _ last quiet => ?_
    have childCounts := childCounts.quiet quiet
    have grows := Nat.le_trans counts.numbers.grows childCounts.numbers.grows
    have within := Nat.le_trans childCounts.within counts.within
    split
    · split
      · exact .pure ⟨.ofBareless grows rfl, within⟩
      · exact .fail
    · split
      · next yes no =>
          -- both branches are empty, so reading them opened no group
          have unopened : last.groups = closed.groups := by
            cases child with
            | empty => exact childCounts.numbers.eq_of_opened rfl rfl
            | alt choices =>
                rcases choices with _ | ⟨first, _ | ⟨second, _ | _⟩⟩
                · cases yes
                · cases no
                · obtain rfl : first = empty := yes
                  obtain rfl : second = empty := no
                  exact childCounts.numbers.eq_of_opened rfl rfl
                · cases no
            | _ => cases yes
          split
          · exact .pure ⟨.ofBareless grows rfl, within⟩
          · exact .pure ⟨unopened ▸ counts.numbers, within⟩
      · exact .pure ⟨.ofBareless grows rfl, within⟩
  clear_value finish
  have reference : ∀ group {after : Reading}, Quiet before after →
      (finish (.backref group)).Ensures after (Counts before.groups before.budget) := by
    intro group after quiet
    exact finishes _ _ (quiet.leaf trivial)
  split
  · exact .fail_bind
  · next rest same =>
      refine .setRest_bind (.bind (readNamedReference_isQuiet _ _ _) fun group after quiet => ?_)
      exact .pure_bind (reference group ((Quiet.ofCons same).trans quiet))
  · next rest same =>
      refine .setRest_bind (.bind (readNamedReference_isQuiet _ _ _) fun group after quiet => ?_)
      exact .pure_bind (reference group ((Quiet.ofCons same).trans quiet))
  · split
    · refine .bind (readNumberedReference_isQuiet bytes before) fun group after quiet => ?_
      exact .pure_bind (reference group quiet)
    · exact .bind (number.choice depth before) finishes

end Step

/-- Every reader opens the groups of the expression it returns, and no others. -/
theorem readsNumber (bytes fuel : Nat) : ReadsNumber bytes fuel := by
  induction fuel with
  | zero =>
      exact {
        choice := fun _ _ => by rw [readExtendedChoice]; exact .fail
        further := fun _ _ _ _ _ _ _ _ => by rw [readFurtherBranches]; exact .fail
        branch := fun _ _ _ _ _ _ _ => by rw [readExtendedBranch]; exact .fail
        atom := fun _ _ => by rw [readAtom]; exact .fail
        group := fun _ _ => by rw [readGroup]; exact .fail
        body := fun _ _ => by rw [readBody]; exact .fail
        conditional := fun _ _ => by rw [readConditional]; exact .fail }
  | succ fuel ih =>
      exact {
        choice := readExtendedChoice_counts ih
        further := fun depth _ _ _ _ _ => readFurtherBranches_counts ih depth
        branch := fun depth _ _ _ _ => readExtendedBranch_counts ih depth
        atom := readAtom_counts ih
        group := readGroup_counts ih
        body := readBody_counts ih
        conditional := readConditional_counts ih }

/-- The expression that a pattern stands for is well-formed, with the number of its groups as the
bound. -/
theorem Extended.wellFormed_of_read {pattern : List Char} {expression : Extended}
    {referenced : List Nat} {regular : Regular}
    (read : Extended.read? pattern = some (expression, referenced))
    (bare : expression.bare? = some regular) :
    expression.WellFormed ((expression.openedAfter? 1).getD 1) := by
  unfold Extended.read? at read
  dsimp only at read
  split at read
  · next found reading isRead =>
      split at read
      · obtain ⟨rfl, rfl⟩ := Prod.mk.inj (Option.some.inj read)
        have numbers := ((readsNumber _ _).choice _ _ _ _ isRead).numbers
        rw [numbers.opened regular bare 1, Option.getD_some, Nat.sub_zero, Nat.add_comm]
        exact numbers.wellFormed regular bare
      · cases read
  · cases read

end AgentClassifier.Pattern
