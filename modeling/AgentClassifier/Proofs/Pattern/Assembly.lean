import AgentClassifier.Proofs.Pattern.Bare
import AgentClassifier.Proofs.Pattern.Passage
import AgentClassifier.Proofs.Pattern.Reach

/-!
Assembled code takes the paths that matches of its expression take.

* `Extended.handOver_passes` : the one instruction for parts that regular expressions can match.
* `Assembled.Realizes` : code passes by matches and takes fresh slots, with one rule for each shape
  of code.
* `Extended.assemble_realizes` : the code for an expression realizes the bare expression.
* `Extended.matches_of_search` : what the machine finds is matched by the bare expression.

The slots of groups lie below `2 * bound`, and every loop counts in slots of its own above them, so
a loop's counter outlasts its body.
-/

namespace AgentClassifier.Pattern

namespace Machine

theorem textAt_append {text : Subject} {position : Nat} {first second : List Char} :
    textAt text position (first ++ second) = true ↔
      textAt text position first = true ∧ textAt text (position + first.length) second = true := by
  induction first generalizing position with
  | nil => simp [textAt]
  | cons c rest ih =>
      rw [List.cons_append, textAt, textAt, Bool.and_eq_true, Bool.and_eq_true, ih, and_assoc,
        List.length_cons, Nat.add_assoc, Nat.add_comm 1]

end Machine

namespace Extended

variable {admits : Regular → Bool} {program : Array Instruction} {text : Subject}
  {bound slot pc position : Nat}

/-! ## Parts that are handed over -/

theorem matches_literal {c : Char} (here : Machine.textAt text position [c] = true) :
    (Regular.set (CharSet.singleton c)).Matches text position (position + 1) := by
  have present := (Bool.and_eq_true_iff.mp here).1
  exact ⟨c, beq_iff_eq.mp present,
    ⟨_, List.mem_singleton_self _, Nat.le_refl _, Nat.le_refl _⟩, rfl⟩

mutual

theorem matches_of_plainText : (expression : Extended) → {chars : List Char} →
    {regular : Regular} → {position : Nat} → plainText? expression = some chars →
      expression.bare? = some regular → Machine.textAt text position chars = true →
      regular.Matches text position (position + chars.length)
  | literal c false, _, _, _, rfl, rfl, here => matches_literal here
  | seq parts, chars, regular, position, plain, bare, here => by
      obtain ⟨expressions, areParts, rfl⟩ := Option.map_eq_some_iff.mp bare
      exact Regular.matches_concat.mpr (matchesAll_of_plainTexts parts plain areParts here)

theorem matchesAll_of_plainTexts : (parts : List Extended) → {chars : List Char} →
    {expressions : List Regular} → {position : Nat} →
      plainText?.plainTexts? parts = some chars → allBare? parts = some expressions →
      Machine.textAt text position chars = true →
      Regular.MatchesAll text expressions position (position + chars.length)
  | [], _, _, _, rfl, rfl, _ => rfl
  | part :: rest, chars, expressions, position, plain, bare, here => by
      obtain ⟨first, others, isFirst, areOthers, rfl⟩ := allBare_cons.mp bare
      rw [plainText?.plainTexts?] at plain
      split at plain
      · next text texts isText areTexts =>
          obtain rfl := Option.some.inj plain
          obtain ⟨before, after⟩ := Machine.textAt_append.mp here
          refine ⟨_, matches_of_plainText part isText isFirst before, ?_⟩
          rw [List.length_append, ← Nat.add_assoc]
          exact matchesAll_of_plainTexts rest areTexts areOthers after
      · cases plain

end

/-- The instruction for parts that are handed over passes by matches of the parts. -/
theorem handOver_passes {parts : List Extended} {expressions : List Regular}
    {code : List Instruction} (handed : handOver? admits parts = some code)
    (bare : allBare? parts = some expressions) (wellFormed : AllWellFormed bound parts)
    (stands : CodeAt program pc code) :
    Passes program text (2 * bound) slot pc (pc + code.length)
      (Regular.MatchesAll text expressions) := by
  unfold handOver? at handed
  split at handed
  · obtain rfl := Option.some.inj handed
    obtain rfl := Option.some.inj bare
    exact .refl
  · split at handed
    · next chars plain =>
        obtain rfl := Option.some.inj handed
        refine .instruction stands.head nofun fun position memory next leads => ?_
        obtain ⟨here, rfl⟩ := leads
        exact ⟨rfl, matchesAll_of_plainTexts parts plain bare here, .refl⟩
    · split at handed
      · next regulars areRegular =>
          obtain rfl := Option.some.inj (bare.symm.trans (allBare_of_allToRegular parts areRegular))
          dsimp only at handed
          split at handed
          · obtain rfl := Option.some.inj handed
            have below : (Regular.concat expressions).GroupsBelow bound :=
              (Regular.kept_groupsBelow bound).concat (groupsBelow_of_allBare parts bare wellFormed)
            refine .instruction stands.head nofun fun position memory next leads => ?_
            obtain ⟨reach, found, rfl⟩ := leads
            exact ⟨rfl, Regular.matches_concat.mp (Regular.matches_of_matchAt found),
              .recordAll below⟩
          · cases handed
      · cases handed

theorem handOver_one_passes {expression : Extended} {regular : Regular}
    {code : List Instruction} (handed : handOver? admits [expression] = some code)
    (bare : expression.bare? = some regular) (wellFormed : expression.WellFormed bound)
    (stands : CodeAt program pc code) :
    Passes program text (2 * bound) slot pc (pc + code.length)
      fun start stop => regular.Matches text start stop :=
  have one : allBare? [expression] = some [regular] :=
    allBare_cons.mpr ⟨regular, [], bare, rfl, rfl⟩
  (handOver_passes handed one ⟨wellFormed, trivial⟩ stands).imp
    fun _ _ ⟨_, here, same⟩ => same ▸ here

end Extended

/-! ## Code for one expression -/

/-- Assembled code takes fresh slots, and it is passed through by matches. -/
structure Assembled.Realizes (program : Array Instruction) (text : Subject) (bound pc slot : Nat)
    (assembled : Assembled) (matched : Nat → Nat → Prop) : Prop where
  fresh : slot ≤ assembled.nextSlot
  passes : Passes program text (2 * bound) slot pc (pc + assembled.code.length) matched

namespace Assembled.Realizes

variable {program : Array Instruction} {text : Subject} {bound pc next slot low : Nat}
  {high : Option Nat} {greedy : Bool} {assembled inner first second : Assembled}
  {matched others : Nat → Nat → Prop}

theorem imp (realizes : assembled.Realizes program text bound pc slot matched)
    (weaker : ∀ start stop, matched start stop → others start stop) :
    assembled.Realizes program text bound pc slot others :=
  ⟨realizes.fresh, realizes.passes.imp weaker⟩

/-- One instruction that takes no slot. -/
theorem single {instruction : Instruction}
    (stands : CodeAt program pc [instruction]) (unfinished : instruction ≠ .finish)
    (onward : ∀ position memory next, instruction.Leads text ⟨pc, position, memory⟩ next →
      next.pc = pc + 1 ∧ matched position next.position ∧ next.memory = memory) :
    Realizes program text bound pc slot ⟨[instruction], slot⟩ matched where
  fresh := Nat.le_refl _
  passes := .instruction stands.head unfinished fun position memory next leads => by
    obtain ⟨same, here, kept⟩ := onward position memory next leads
    exact ⟨same, here, kept ▸ .refl⟩

/-- Code behind code. -/
theorem append (before : first.Realizes program text bound pc slot matched)
    (after : second.Realizes program text bound (pc + first.code.length) first.nextSlot others) :
    Realizes program text bound pc slot ⟨first.code ++ second.code, second.nextSlot⟩
      fun start stop => ∃ middle, matched start middle ∧ others middle stop where
  fresh := Nat.le_trans before.fresh after.fresh
  passes := by
    rw [List.length_append, ← Nat.add_assoc]
    exact before.passes.trans (after.passes.mono before.fresh)

theorem fetched_fork {first second : Nat}
    (fetched : program[pc]? =
      some (if greedy then .split first second else .split second first)) :
    program[pc]? = some (.split first second) ∨ program[pc]? = some (.split second first) := by
  cases greedy with
  | false => exact .inr fetched
  | true => exact .inl fetched

/-- The code of a body that may be left out. -/
theorem optional
    (stands : CodeAt program pc ((if greedy then .split (pc + 1) (pc + 1 + inner.code.length)
      else .split (pc + 1 + inner.code.length) (pc + 1)) :: inner.code))
    (body : inner.Realizes program text bound (pc + 1) slot matched) :
    Realizes program text bound pc slot
      ⟨(if greedy then .split (pc + 1) (pc + 1 + inner.code.length)
        else .split (pc + 1 + inner.code.length) (pc + 1)) :: inner.code, inner.nextSlot⟩
      fun start stop => ∃ count, WithinBounds 0 (some 1) count ∧
        Iterated matched count start stop where
  fresh := body.fresh
  passes := by
    rw [List.length_cons, Nat.add_comm inner.code.length, ← Nat.add_assoc]
    refine (Passes.fork (fetched_fork stands.head) body.passes .refl).imp ?_
    rintro start stop (here | rfl)
    · exact ⟨1, ⟨Nat.zero_le _, by simp⟩, .one here⟩
    · exact ⟨0, ⟨Nat.zero_le _, by simp⟩, rfl⟩

/-- The code of a loop that counts; `turn` is the instruction that does. -/
theorem counted {turn : Instruction} (bounds : ∀ most ∈ high, low ≤ most)
    (inside : 2 * bound ≤ slot) (own : slot < next)
    (stands : CodeAt program pc ([.zero slot, turn] ++ inner.code ++ [.jump (pc + 1)]))
    (turns : Passes.Turns program text (2 * bound) slot (pc + 1) (pc + 2)
      (pc + 3 + inner.code.length) low high)
    (body : inner.Realizes program text bound (pc + 2) next matched) :
    Realizes program text bound pc slot
      ⟨[.zero slot, turn] ++ inner.code ++ [.jump (pc + 1)], inner.nextSlot⟩
      fun start stop => ∃ count, WithinBounds low high count ∧
        Iterated matched count start stop where
  fresh := Nat.le_trans (Nat.le_of_lt own) body.fresh
  passes := by
    have back : program[pc + 2 + inner.code.length]? = some (.jump (pc + 1)) :=
      (stands.right (by rw [List.length_append]; simp; omega)).head
    have round := (body.passes.mono own).before (.jump back)
    have stop : pc + ([.zero slot, turn] ++ inner.code ++ [Instruction.jump (pc + 1)]).length =
        pc + 3 + inner.code.length := by
      simp
      omega
    rw [stop]
    exact .counted bounds inside (Nat.le_refl _) stands.left.left.head turns round

/-- The code of a loop that forks before each iteration. -/
theorem starred
    (stands : CodeAt program pc ((if greedy then .split (pc + 1) (pc + 2 + inner.code.length)
      else .split (pc + 2 + inner.code.length) (pc + 1)) :: (inner.code ++ [.jump pc])))
    (body : inner.Realizes program text bound (pc + 1) slot matched) :
    Realizes program text bound pc slot
      ⟨(if greedy then .split (pc + 1) (pc + 2 + inner.code.length)
        else .split (pc + 2 + inner.code.length) (pc + 1)) :: (inner.code ++ [.jump pc]),
        inner.nextSlot⟩
      fun start stop => ∃ count, WithinBounds 0 none count ∧
        Iterated matched count start stop where
  fresh := body.fresh
  passes := by
    have round := body.passes.before (.jump (stands.tail.right rfl).head)
    have stop : pc + ((if greedy then Instruction.split (pc + 1) (pc + 2 + inner.code.length)
        else .split (pc + 2 + inner.code.length) (pc + 1)) ::
          (inner.code ++ [.jump pc])).length = pc + 2 + inner.code.length := by
      simp
      omega
    rw [stop]
    refine (Passes.star (fetched_fork stands.head) round).imp ?_
    rintro start stop ⟨count, steps⟩
    exact ⟨count, ⟨Nat.zero_le _, nofun⟩, steps⟩

/-- The code of a loop that forks after each iteration. -/
theorem plus
    (stands : CodeAt program pc (inner.code ++
      [if greedy then .split pc (pc + inner.code.length + 1)
        else .split (pc + inner.code.length + 1) pc]))
    (body : inner.Realizes program text bound pc slot matched) :
    Realizes program text bound pc slot
      ⟨inner.code ++ [if greedy then .split pc (pc + inner.code.length + 1)
        else .split (pc + inner.code.length + 1) pc], inner.nextSlot⟩
      fun start stop => ∃ count, WithinBounds 1 none count ∧
        Iterated matched count start stop where
  fresh := body.fresh
  passes := by
    rw [List.length_append, List.length_singleton, ← Nat.add_assoc]
    have further := Passes.star (fetched_fork (stands.right rfl).head) body.passes
    refine (body.passes.trans further).imp ?_
    rintro start stop ⟨middle, here, count, steps⟩
    exact ⟨count + 1, ⟨Nat.le_add_left _ _, nofun⟩, middle, here, steps⟩

/-- The code of two alternatives. -/
theorem either
    (stands : CodeAt program pc (.split (pc + 1) (pc + 2 + first.code.length) ::
      (first.code ++ [.jump (pc + 2 + first.code.length + second.code.length)] ++ second.code)))
    (left : first.Realizes program text bound (pc + 1) slot matched)
    (right : second.Realizes program text bound (pc + 2 + first.code.length) first.nextSlot
      others) :
    Realizes program text bound pc slot
      ⟨.split (pc + 1) (pc + 2 + first.code.length) ::
        (first.code ++ [.jump (pc + 2 + first.code.length + second.code.length)] ++ second.code),
        second.nextSlot⟩
      fun start stop => matched start stop ∨ others start stop where
  fresh := Nat.le_trans left.fresh right.fresh
  passes := by
    have leaves := left.passes.before (.jump (stands.tail.left.right rfl).head)
    have stop : pc + (Instruction.split (pc + 1) (pc + 2 + first.code.length) ::
        (first.code ++ [.jump (pc + 2 + first.code.length + second.code.length)] ++
          second.code)).length = pc + 2 + first.code.length + second.code.length := by
      simp
      omega
    rw [stop]
    exact .fork (.inl stands.head) leaves (right.passes.mono left.fresh)

/-- Code between two instructions that consume nothing. -/
theorem between {opening closing : Instruction}
    (opens : Passes program text (2 * bound) slot pc (pc + 1) fun start stop => stop = start)
    (body : inner.Realizes program text bound (pc + 1) slot matched)
    (closes : Passes program text (2 * bound) slot (pc + 1 + inner.code.length)
      (pc + 1 + inner.code.length + 1) fun start stop => stop = start) :
    Realizes program text bound pc slot
      ⟨opening :: (inner.code ++ [closing]), inner.nextSlot⟩ matched where
  fresh := body.fresh
  passes := by
    have stop : pc + (opening :: (inner.code ++ [closing])).length =
        pc + 1 + inner.code.length + 1 := by
      simp
      omega
    rw [stop]
    exact opens.after (body.passes.before closes)

end Assembled.Realizes

/-! ## Code for all expressions -/

namespace Extended

variable {admits : Regular → Bool} {program : Array Instruction} {text : Subject} {bound : Nat}
  {referenced : List Nat}

theorem realizes_handed {expression : Extended} {regular : Regular} {pc slot : Nat}
    {assembled : Assembled}
    (built : (handOver? admits [expression]).map (⟨·, slot⟩) = some assembled)
    (bare : expression.bare? = some regular) (wellFormed : expression.WellFormed bound)
    (stands : CodeAt program pc assembled.code) :
    assembled.Realizes program text bound pc slot
      fun start stop => regular.Matches text start stop := by
  obtain ⟨code, handed, rfl⟩ := Option.map_eq_some_iff.mp built
  exact ⟨Nat.le_refl _, handOver_one_passes handed bare wellFormed stands⟩

/-- Wherever code for the expression is assembled, it is passed through by matches. -/
def IsRealized (expression : Extended) (admits : Regular → Bool) (program : Array Instruction)
    (text : Subject) (bound : Nat) (referenced : List Nat) (regular : Regular) : Prop :=
  ∀ {exact : Bool} {pc slot : Nat} {assembled : Assembled},
    assemble admits referenced expression exact pc slot = some assembled →
      CodeAt program pc assembled.code → 2 * bound ≤ slot →
        assembled.Realizes program text bound pc slot fun start stop =>
          regular.Matches text start stop

/-- The parts in the middle of a sequence stand between parts that are handed over. -/
theorem realizes_cut {parts : List Extended} {expressions : List Regular} {head count pc slot : Nat}
    {first last : List Instruction} {inner : Assembled}
    (bare : allBare? parts = some expressions) (wellFormed : AllWellFormed bound parts)
    (builtFirst : handOver? admits (parts.take head) = some first)
    (builtLast : handOver? admits (parts.drop (head + count)) = some last)
    (stands : CodeAt program pc (first ++ inner.code ++ last))
    (between : inner.Realizes program text bound (pc + first.length) slot
      (Regular.MatchesAll text ((expressions.drop head).take count))) :
    Assembled.Realizes program text bound pc slot ⟨first ++ inner.code ++ last, inner.nextSlot⟩
      fun start stop => (Regular.concat expressions).Matches text start stop := by
  have before : Assembled.Realizes program text bound pc slot ⟨first, slot⟩ _ :=
    ⟨Nat.le_refl _, handOver_passes builtFirst (allBare_take bare _) (wellFormed.take _)
      stands.left.left⟩
  have after : Assembled.Realizes program text bound (pc + (first ++ inner.code).length)
      inner.nextSlot ⟨last, inner.nextSlot⟩ _ :=
    ⟨Nat.le_refl _, handOver_passes builtLast (allBare_drop bare _) (wellFormed.drop _)
      (stands.right rfl)⟩
  refine ((before.append between).append after).imp ?_
  rintro start stop ⟨late, ⟨early, here, next⟩, last⟩
  rw [Regular.matches_concat]
  exact Regular.matchesAll_of_cut here next last

/-- There are five kinds of loops: for a body that may be left out, for one that may match without
consuming anything, two that only fork, and one that counts. -/
theorem isRealized_repetition {low : Nat} {high : Option Nat} {greedy : Bool} {body : Extended}
    {regular : Regular} (bare : body.bare? = some regular) (bounds : ∀ most ∈ high, low ≤ most)
    (wellFormed : body.WellFormed bound)
    (realized : body.IsRealized admits program text bound referenced regular) :
    (repetition low high greedy body).IsRealized admits program text bound referenced
      (.times low high greedy regular) := by
  intro exact pc slot assembled built stands inside
  rw [assemble] at built
  split at built
  · refine realizes_handed built ?_ wellFormed stands
    rw [bare?, if_pos bounds, bare, Option.map_some]
  · suffices loops : assembled.Realizes program text bound pc slot fun start stop =>
        ∃ count, WithinBounds low high count ∧
          Iterated (fun start stop => regular.Matches text start stop) count start stop from
      loops.imp fun _ _ here => .times greedy (hasOrderedBounds_of_bare body bare) here
    dsimp only at built
    split at built
    · next optional =>
        obtain ⟨inner, builtBody, built⟩ := Option.bind_eq_some_iff.mp built
        obtain rfl := Option.some.inj built
        obtain ⟨rfl, rfl⟩ := optional
        exact .optional stands (realized builtBody stands.tail inside)
    split at built
    · next idle =>
        obtain ⟨inner, builtBody, built⟩ := Option.bind_eq_some_iff.mp built
        obtain rfl := Option.some.inj built
        obtain ⟨rfl, _⟩ := idle
        exact .counted bounds inside (by omega) stands (.iterateIdle stands.left.left.tail.head)
          (realized builtBody (stands.left.right rfl) (by omega))
    split at built
    · next star =>
        obtain ⟨inner, builtBody, built⟩ := Option.bind_eq_some_iff.mp built
        obtain rfl := Option.some.inj built
        obtain ⟨rfl, rfl⟩ := star
        exact .starred stands (realized builtBody stands.tail.left inside)
    split at built
    · next plus =>
        obtain ⟨inner, builtBody, built⟩ := Option.bind_eq_some_iff.mp built
        obtain rfl := Option.some.inj built
        obtain ⟨rfl, rfl⟩ := plus
        exact .plus stands (realized builtBody stands.left inside)
    obtain ⟨inner, builtBody, built⟩ := Option.bind_eq_some_iff.mp built
    obtain rfl := Option.some.inj built
    exact .counted bounds inside (by omega) stands (.iterate stands.left.left.tail.head)
      (realized builtBody (stands.left.right rfl) (by omega))

mutual

theorem assemble_realizes : (expression : Extended) → {regular : Regular} →
    expression.bare? = some regular → expression.WellFormed bound →
      expression.IsRealized admits program text bound referenced regular
  | empty, _, rfl, wellFormed, _, _, _, _, built, stands, _ => by
      rw [assemble] at built
      split at built
      · exact realizes_handed built rfl wellFormed stands
      · obtain rfl := Option.some.inj built
        exact ⟨Nat.le_refl _, .refl⟩
  | literal c ignoreCase, _, rfl, wellFormed, _, _, _, _, built, stands, _ => by
      rw [assemble] at built
      split at built
      · exact realizes_handed built rfl wellFormed stands
      · exact realizes_handed built rfl wellFormed stands
  | set chars, _, rfl, wellFormed, _, _, _, _, built, stands, _ => by
      rw [assemble] at built
      split at built
      · exact realizes_handed built rfl wellFormed stands
      · exact realizes_handed built rfl wellFormed stands
  | any lineFeed, _, rfl, wellFormed, _, _, _, _, built, stands, _ => by
      rw [assemble] at built
      split at built
      · exact realizes_handed built rfl wellFormed stands
      · obtain rfl := Option.some.inj built
        cases lineFeed with
        | true =>
            refine .single stands nofun fun position memory next leads => ?_
            obtain ⟨bound, rfl⟩ := leads
            exact ⟨rfl, ⟨_, Array.getElem?_eq_getElem bound, CharSet.holds_all, rfl⟩, rfl⟩
        | false =>
            refine .single stands nofun fun position memory next leads => ?_
            obtain ⟨c, present, other, rfl⟩ := leads
            exact ⟨rfl, ⟨c, present, CharSet.holds_notLineFeed other, rfl⟩, rfl⟩
  | assertion condition, _, rfl, wellFormed, _, _, _, _, built, stands, _ => by
      rw [assemble] at built
      split at built
      · exact realizes_handed built rfl wellFormed stands
      · obtain rfl := Option.some.inj built
        refine .single stands nofun fun position memory next leads => ?_
        obtain ⟨holds, rfl⟩ := leads
        exact ⟨rfl, ⟨holds, rfl⟩, rfl⟩
  | seq parts, _, bare, wellFormed, _, _, _, _, built, stands, inside => by
      rw [assemble] at built
      split at built
      · exact realizes_handed built bare wellFormed stands
      · obtain ⟨expressions, areParts, rfl⟩ := Option.map_eq_some_iff.mp bare
        obtain ⟨first, builtFirst, built⟩ := Option.bind_eq_some_iff.mp built
        obtain ⟨inner, builtInner, built⟩ := Option.bind_eq_some_iff.mp built
        obtain ⟨last, builtLast, built⟩ := Option.bind_eq_some_iff.mp built
        obtain rfl := Option.some.inj built
        exact realizes_cut areParts wellFormed builtFirst builtLast stands
          (assembleSome_realizes parts areParts wellFormed builtInner (stands.left.right rfl)
            inside)
  | alt choices, _, bare, wellFormed, _, _, _, _, built, stands, inside => by
      rw [assemble] at built
      split at built
      · exact realizes_handed built bare wellFormed stands
      · obtain ⟨expressions, areChoices, rfl⟩ := Option.map_eq_some_iff.mp bare
        have realizes := assembleChoice_realizes choices areChoices wellFormed.1 wellFormed.2 built
          stands inside
        exact realizes.imp fun _ _ here => Regular.matches_oneOf.mpr here
  | group index body, _, bare, wellFormed, _, _, _, _, built, stands, inside => by
      rw [assemble] at built
      split at built
      · exact realizes_handed built bare wellFormed stands
      · obtain ⟨regular, isBody, rfl⟩ := Option.map_eq_some_iff.mp bare
        obtain ⟨inner, builtBody, built⟩ := Option.bind_eq_some_iff.mp built
        obtain rfl := Option.some.inj built
        have realizes := assemble_realizes body isBody wellFormed.2 builtBody
          stands.tail.left inside
        have below := wellFormed.1
        exact .between (.save stands.head (.inl (by omega))) realizes
          (.save (stands.tail.right rfl).head (.inl (by omega)))
  | repetition low high greedy body, _, bare, wellFormed, _, _, _, _, built, stands, inside => by
      rw [bare?] at bare
      split at bare
      · next bounds =>
          obtain ⟨regular, isBody, rfl⟩ := Option.map_eq_some_iff.mp bare
          exact isRealized_repetition isBody bounds wellFormed
            (assemble_realizes body isBody wellFormed) built stands inside
      · cases bare
  | atomic body, _, bare, wellFormed, _, _, _, _, built, stands, inside => by
      rw [assemble] at built
      split at built
      · exact realizes_handed built bare wellFormed stands
      · obtain ⟨inner, builtBody, built⟩ := Option.bind_eq_some_iff.mp built
        obtain rfl := Option.some.inj built
        have realizes := assemble_realizes body bare wellFormed builtBody stands.tail.left inside
        exact .between (.atomic (.inl rfl) stands.head) realizes
          (.atomic (.inr rfl) (stands.tail.right rfl).head)

theorem assembleSome_realizes : (parts : List Extended) → {expressions : List Regular} →
    {skip count pc slot : Nat} → {assembled : Assembled} → allBare? parts = some expressions →
      AllWellFormed bound parts →
      assembleSome admits referenced parts skip count pc slot = some assembled →
      CodeAt program pc assembled.code → 2 * bound ≤ slot →
      assembled.Realizes program text bound pc slot
        (Regular.MatchesAll text ((expressions.drop skip).take count))
  | [], _, skip, count, _, _, _, rfl, _, built, _, _ => by
      obtain rfl := Option.some.inj built
      rw [List.drop_nil, List.take_nil]
      exact ⟨Nat.le_refl _, .refl⟩
  | part :: rest, _, skip + 1, count, pc, slot, assembled, bare, wellFormed, built, stands,
      inside => by
      obtain ⟨first, others, isFirst, areOthers, rfl⟩ := allBare_cons.mp bare
      rw [List.drop_succ_cons]
      exact assembleSome_realizes rest areOthers wellFormed.2 built stands inside
  | part :: rest, _, 0, 0, pc, slot, assembled, bare, wellFormed, built, stands, inside => by
      obtain rfl := Option.some.inj built
      exact ⟨Nat.le_refl _, .refl⟩
  | part :: rest, _, 0, count + 1, pc, slot, assembled, bare, wellFormed, built, stands,
      inside => by
      obtain ⟨first, others, isFirst, areOthers, rfl⟩ := allBare_cons.mp bare
      obtain ⟨one, builtOne, built⟩ := Option.bind_eq_some_iff.mp built
      obtain ⟨more, builtMore, built⟩ := Option.bind_eq_some_iff.mp built
      obtain rfl := Option.some.inj built
      have before := assemble_realizes part isFirst wellFormed.1 builtOne stands.left inside
      exact before.append (assembleSome_realizes rest areOthers wellFormed.2 builtMore
        (stands.right rfl) (Nat.le_trans inside before.fresh))

theorem assembleChoice_realizes : (choices : List Extended) → {expressions : List Regular} →
    {exact : Bool} → {pc slot : Nat} → {assembled : Assembled} →
      allBare? choices = some expressions → choices ≠ [] → AllWellFormed bound choices →
      assembleChoice admits referenced choices exact pc slot = some assembled →
      CodeAt program pc assembled.code → 2 * bound ≤ slot →
      assembled.Realizes program text bound pc slot
        fun start stop => ∃ choice ∈ expressions, choice.Matches text start stop
  | [last], _, exact, pc, slot, assembled, bare, _, wellFormed, built, stands, inside => by
      obtain ⟨first, others, isFirst, areOthers, rfl⟩ := allBare_cons.mp bare
      exact (assemble_realizes last isFirst wellFormed.1 built stands inside).imp
        fun _ _ here => ⟨first, List.mem_cons_self, here⟩
  | choice :: next :: rest, _, exact, pc, slot, assembled, bare, _, wellFormed, built, stands,
      inside => by
      obtain ⟨first, others, isFirst, areOthers, rfl⟩ := allBare_cons.mp bare
      obtain ⟨one, builtOne, built⟩ := Option.bind_eq_some_iff.mp built
      obtain ⟨more, builtMore, built⟩ := Option.bind_eq_some_iff.mp built
      obtain rfl := Option.some.inj built
      have left := assemble_realizes choice isFirst wellFormed.1 builtOne stands.tail.left.left
        inside
      have right := assembleChoice_realizes (next :: rest) areOthers nofun wellFormed.2 builtMore
        (stands.tail.right (by simp; omega)) (Nat.le_trans inside left.fresh)
      refine (Assembled.Realizes.either stands left right).imp ?_
      rintro start stop (here | ⟨choice, member, here⟩)
      · exact ⟨first, List.mem_cons_self, here⟩
      · exact ⟨choice, List.mem_cons_of_mem _ member, here⟩

end

/-! ## Searches -/

/-- What the machine finds is matched by the bare expression. -/
theorem matches_of_search {expression : Extended} {regular : Regular} {memory : Memory}
    (bare : expression.bare? = some regular) (wellFormed : expression.WellFormed bound)
    (built : expression.program? admits referenced bound = some program)
    (found : Machine.search program text = .found memory) :
    ∃ start stop, regular.Matches text start stop := by
  obtain ⟨body, builtBody, built⟩ := Option.bind_eq_some_iff.mp built
  have stands : CodeAt program 0 ([.split 3 1, .anyChar, .jump 0, .save 0] ++ body.code ++
      [.save 1, .finish]) := by
    obtain rfl := Option.some.inj built
    intro offset instruction fetched
    rw [Nat.zero_add, List.getElem?_toArray]
    exact fetched
  obtain ⟨place, isOpen, steps, path⟩ := Machine.finishes_of_run found
  obtain rfl := List.mem_singleton.mp isOpen
  have opening := stands.left.left
  -- the search moves on by one character before each try but the first
  have moveOn : Passes program text 0 0 1 0 fun _ _ => True :=
    (Passes.instruction opening.tail.head nofun fun position memory next leads => by
      obtain ⟨_, rfl⟩ := leads
      exact ⟨rfl, trivial, .refl⟩).before (.jump opening.tail.tail.head)
  have entering := (Passes.star (.inr opening.head) moveOn).before
    (.save opening.tail.tail.tail.head (.inr (Nat.zero_le _)))
  obtain ⟨fewer, start, kept, _, _, _, rest⟩ := entering steps _ _ path
  have realizes : body.Realizes program text bound 4 (2 * bound)
      fun start stop => regular.Matches text start stop :=
    assemble_realizes expression bare wellFormed builtBody (stands.left.right rfl) (Nat.le_refl _)
  obtain ⟨_, stop, _, _, here, _, _⟩ := realizes.passes fewer start kept rest
  exact ⟨start, stop, here⟩

end Extended

end AgentClassifier.Pattern
