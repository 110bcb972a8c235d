import AgentClassifier.Proofs.Pattern.Language
import AgentClassifier.Proofs.Pattern.Path

/-!
Stretches of code that every path to the end of a program passes through.

* `Memory.Keeps` : a stretch of slots holds the same in two memories.
* `CodeAt` : instructions stand in a program from an index on.
* `Passes` : every path to the end of the program that enters a stretch of code leaves it at its
  end, after a match, and the slots of the code around it are as they were.
* `Passes.star` : the loop that forks into its body or out of it.
* `Passes.counted` : the loop that counts its iterations in a slot which its body leaves alone.
-/

namespace AgentClassifier.Pattern

/-! ## Memory -/

namespace Memory

variable {memory kept later : Memory} {base slot other : Nat} {value : Option Nat}

theorem get?_store_self : (memory.store slot value).get? slot = value := by
  have bound : slot < (if slot < memory.slots.size then memory.slots
      else memory.slots ++ Array.replicate (slot + 1 - memory.slots.size) none).size := by
    split
    · assumption
    · rw [Array.size_append, Array.size_replicate]
      omega
  rw [store, get?, Array.getElem?_setIfInBounds_self_of_lt bound]
  rfl

theorem get?_store_of_ne (distinct : other ≠ slot) :
    (memory.store slot value).get? other = memory.get? other := by
  rw [store, get?, Array.getElem?_setIfInBounds_ne distinct.symm, get?]
  split
  · rfl
  · -- the slots that are added hold nothing
    rw [Array.getElem?_append]
    split
    · rfl
    · next outside =>
        rw [Array.getElem?_eq_none (Nat.le_of_not_lt outside), Array.getElem?_replicate]
        split <;> rfl

theorem count_store_self {number : Nat} :
    (memory.store slot (some number)).count slot = number := by
  rw [count, get?_store_self, Option.getD_some]

theorem count_store_of_ne (distinct : other ≠ slot) :
    (memory.store slot value).count other = memory.count other := by
  rw [count, get?_store_of_ne distinct, count]

/-- The slots from `base` up to `slot` are the same in both memories. -/
def Keeps (base slot : Nat) (memory kept : Memory) : Prop :=
  ∀ place, base ≤ place → place < slot → kept.get? place = memory.get? place

namespace Keeps

theorem refl : Keeps base slot memory memory := fun _ _ _ => rfl

theorem trans (before : Keeps base slot memory kept) (after : Keeps base slot kept later) :
    Keeps base slot memory later :=
  fun place least most => (after place least most).trans (before place least most)

theorem mono {most : Nat} (fewer : slot ≤ most) (keeps : Keeps base most memory kept) :
    Keeps base slot memory kept :=
  fun place least below => keeps place least (Nat.lt_of_lt_of_le below fewer)

/-- Slots below and above the stretch may be stored to. -/
theorem store (outside : other < base ∨ slot ≤ other) :
    Keeps base slot memory (memory.store other value) :=
  fun place least most => get?_store_of_ne (by omega)

theorem recordAll {bound : Nat} {spans : List Span} {groups : List Nat}
    (below : ∀ group ∈ groups, group < bound) :
    Keeps (2 * bound) slot memory (memory.recordAll spans groups) := by
  induction groups generalizing memory with
  | nil => exact refl
  | cons group rest ih =>
      obtain ⟨first, others⟩ := List.forall_mem_cons.mp below
      rw [Memory.recordAll, List.foldl_cons]
      refine trans ?_ (ih others)
      split
      · exact (store (.inl (by omega))).trans (store (.inl (by omega)))
      · exact (store (.inl (by omega))).trans (store (.inl (by omega)))

end Keeps

end Memory

/-! ## Code -/

/-- The instructions stand in the program from an index on. -/
def CodeAt (program : Array Instruction) (pc : Nat) (code : List Instruction) : Prop :=
  ∀ offset instruction, code[offset]? = some instruction →
    program[pc + offset]? = some instruction

namespace CodeAt

variable {program : Array Instruction} {pc next : Nat} {instruction : Instruction}
  {code others : List Instruction}

theorem head (stands : CodeAt program pc (instruction :: code)) :
    program[pc]? = some instruction :=
  stands 0 instruction rfl

theorem right (stands : CodeAt program pc (code ++ others)) (same : next = pc + code.length) :
    CodeAt program next others := by
  intro offset instruction fetched
  rw [same, Nat.add_assoc]
  refine stands _ instruction ?_
  rw [List.getElem?_append_right (Nat.le_add_right _ _), Nat.add_sub_cancel_left]
  exact fetched

theorem left (stands : CodeAt program pc (code ++ others)) : CodeAt program pc code := by
  intro offset instruction fetched
  refine stands offset instruction ?_
  rw [List.getElem?_append_left (List.getElem?_eq_some_iff.mp fetched).1]
  exact fetched

theorem tail (stands : CodeAt program pc (instruction :: code)) : CodeAt program (pc + 1) code :=
  @right _ _ _ [instruction] code stands rfl

end CodeAt

/-! ## Passing through code -/

section Passes

variable {program : Array Instruction} {text : Subject} {base slot pc middle stop : Nat}
  {matched others : Nat → Nat → Prop}

/-- Every path to the end of the program from the first index leads through the second one. On the
way a match consumes what is consumed, and the slots from `base` up to `slot` are kept. -/
def Passes (program : Array Instruction) (text : Subject) (base slot pc stop : Nat)
    (matched : Nat → Nat → Prop) : Prop :=
  ∀ steps position memory, Finishes program text steps ⟨pc, position, memory⟩ →
    ∃ fewer after kept, fewer ≤ steps ∧ matched position after ∧
      memory.Keeps base slot kept ∧ Finishes program text fewer ⟨stop, after, kept⟩

/-- A path takes the instruction that stands where it is. -/
theorem Finishes.step {steps position : Nat} {memory : Memory} {instruction : Instruction}
    (path : Finishes program text steps ⟨pc, position, memory⟩)
    (fetched : program[pc]? = some instruction) (unfinished : instruction ≠ .finish) :
    ∃ fewer next, fewer < steps ∧ instruction.Leads text ⟨pc, position, memory⟩ next ∧
      Finishes program text fewer next := by
  cases steps with
  | zero =>
      have finish : program[pc]? = some .finish := path
      rw [fetched] at finish
      exact absurd (Option.some.inj finish) unfinished
  | succ fewer =>
      obtain ⟨taken, next, same, leads, rest⟩ := path
      obtain rfl := Option.some.inj (fetched.symm.trans same)
      exact ⟨fewer, next, Nat.lt_succ_self _, leads, rest⟩

/-- A fork leads to either of its targets, whichever is preferred. -/
theorem Finishes.fork {first second steps position : Nat} {memory : Memory}
    (path : Finishes program text steps ⟨pc, position, memory⟩)
    (fetched : program[pc]? = some (.split first second) ∨
      program[pc]? = some (.split second first)) :
    ∃ fewer < steps, Finishes program text fewer ⟨first, position, memory⟩ ∨
      Finishes program text fewer ⟨second, position, memory⟩ := by
  rcases fetched with fetched | fetched
  · obtain ⟨fewer, next, less, rfl | rfl, rest⟩ := path.step fetched nofun
    · exact ⟨fewer, less, .inl rest⟩
    · exact ⟨fewer, less, .inr rest⟩
  · obtain ⟨fewer, next, less, rfl | rfl, rest⟩ := path.step fetched nofun
    · exact ⟨fewer, less, .inr rest⟩
    · exact ⟨fewer, less, .inl rest⟩

namespace Passes

theorem refl : Passes program text base slot pc pc fun start stop => stop = start :=
  fun steps position memory path =>
    ⟨steps, position, memory, Nat.le_refl _, rfl, .refl, path⟩

theorem imp (passes : Passes program text base slot pc stop matched)
    (weaker : ∀ start stop, matched start stop → others start stop) :
    Passes program text base slot pc stop others := by
  intro steps position memory path
  obtain ⟨fewer, after, kept, less, here, keeps, rest⟩ := passes steps position memory path
  exact ⟨fewer, after, kept, less, weaker _ _ here, keeps, rest⟩

theorem mono {most : Nat} (fewer : slot ≤ most)
    (passes : Passes program text base most pc stop matched) :
    Passes program text base slot pc stop matched := by
  intro steps position memory path
  obtain ⟨fewer, after, kept, less, here, keeps, rest⟩ := passes steps position memory path
  exact ⟨fewer, after, kept, less, here, keeps.mono ‹_›, rest⟩

theorem trans (first : Passes program text base slot pc middle matched)
    (second : Passes program text base slot middle stop others) :
    Passes program text base slot pc stop
      fun start stop => ∃ between, matched start between ∧ others between stop := by
  intro steps position memory path
  obtain ⟨fewer, between, kept, less, here, keeps, rest⟩ := first steps position memory path
  obtain ⟨least, after, later, lesser, next, keepsLater, rest⟩ := second fewer between kept rest
  exact ⟨least, after, later, Nat.le_trans lesser less, ⟨between, here, next⟩,
    keeps.trans keepsLater, rest⟩

/-- An instruction that always goes on at the next index. -/
theorem instruction {instruction : Instruction} (fetched : program[pc]? = some instruction)
    (unfinished : instruction ≠ .finish)
    (onward : ∀ position memory next, instruction.Leads text ⟨pc, position, memory⟩ next →
      next.pc = stop ∧ matched position next.position ∧ memory.Keeps base slot next.memory) :
    Passes program text base slot pc stop matched := by
  intro steps position memory path
  obtain ⟨fewer, ⟨nextPc, after, kept⟩, less, leads, rest⟩ := path.step fetched unfinished
  obtain ⟨rfl, here, keeps⟩ := onward position memory _ leads
  exact ⟨fewer, after, kept, Nat.le_of_lt less, here, keeps, rest⟩

/-- An instruction that consumes nothing, before code. -/
theorem after (first : Passes program text base slot pc middle fun start stop => stop = start)
    (rest : Passes program text base slot middle stop matched) :
    Passes program text base slot pc stop matched :=
  (first.trans rest).imp fun start stop ⟨between, same, here⟩ => by rwa [same] at here

/-- An instruction that consumes nothing, behind code. -/
theorem before (first : Passes program text base slot pc middle matched)
    (rest : Passes program text base slot middle stop fun start stop => stop = start) :
    Passes program text base slot pc stop matched :=
  (first.trans rest).imp fun start stop ⟨between, here, same⟩ => by rwa [same]

theorem jump (fetched : program[pc]? = some (.jump stop)) :
    Passes program text base slot pc stop fun start stop => stop = start :=
  instruction fetched nofun fun _ _ _ leads => by
    obtain rfl := leads
    exact ⟨rfl, rfl, .refl⟩

theorem save {place : Nat} (fetched : program[pc]? = some (.save place))
    (outside : place < base ∨ slot ≤ place) :
    Passes program text base slot pc (pc + 1) fun start stop => stop = start :=
  instruction fetched nofun fun _ _ _ leads => by
    obtain rfl := leads
    exact ⟨rfl, rfl, .store outside⟩

theorem atomic {instruction : Instruction}
    (either : instruction = .beginAtomic ∨ instruction = .endAtomic)
    (fetched : program[pc]? = some instruction) :
    Passes program text base slot pc (pc + 1) fun start stop => stop = start := by
  refine Passes.instruction fetched (by rcases either with rfl | rfl <;> nofun)
    fun position memory next leads => ?_
  rcases either with rfl | rfl
  · obtain ⟨_, rfl⟩ := leads
    exact ⟨rfl, rfl, fun _ _ _ => rfl⟩
  · obtain ⟨_, rfl⟩ := leads
    exact ⟨rfl, rfl, fun _ _ _ => rfl⟩

theorem fork {first second : Nat}
    (fetched : program[pc]? = some (.split first second) ∨
      program[pc]? = some (.split second first))
    (passesFirst : Passes program text base slot first stop matched)
    (passesSecond : Passes program text base slot second stop others) :
    Passes program text base slot pc stop
      fun start stop => matched start stop ∨ others start stop := by
  intro steps position memory path
  obtain ⟨fewer, less, rest | rest⟩ := path.fork fetched
  · obtain ⟨least, after, kept, lesser, here, keeps, rest⟩ :=
      passesFirst fewer position memory rest
    exact ⟨least, after, kept, by omega, .inl here, keeps, rest⟩
  · obtain ⟨least, after, kept, lesser, here, keeps, rest⟩ :=
      passesSecond fewer position memory rest
    exact ⟨least, after, kept, by omega, .inr here, keeps, rest⟩

/-! ## Loops -/

/-- A fork into a body that comes back to it, or out of the loop. -/
theorem star (fetched : program[pc]? = some (.split middle stop) ∨
      program[pc]? = some (.split stop middle))
    (body : Passes program text base slot middle pc matched) :
    Passes program text base slot pc stop
      fun start stop => ∃ count, Iterated matched count start stop := by
  -- the fork itself is a step of every round, so what is left of the path gets shorter
  intro steps
  induction steps using Nat.strongRecOn with
  | _ steps ih =>
      intro position memory path
      obtain ⟨fewer, less, rest | rest⟩ := path.fork fetched
      · obtain ⟨least, between, kept, lesser, here, keeps, rest⟩ :=
          body fewer position memory rest
        obtain ⟨last, after, later, few, ⟨count, further⟩, keepsLater, rest⟩ :=
          ih least (by omega) between kept rest
        exact ⟨last, after, later, by omega, ⟨count + 1, between, here, further⟩,
          keeps.trans keepsLater, rest⟩
      · exact ⟨fewer, position, memory, Nat.le_of_lt less, ⟨0, rfl⟩, .refl, rest⟩

/-- A turn of a loop that counts its iterations: it counts one more and enters the body, or leaves
the loop when there are enough. -/
def Turns (program : Array Instruction) (text : Subject) (base counter pc middle stop low : Nat)
    (high : Option Nat) : Prop :=
  ∀ steps position memory, Finishes program text steps ⟨pc, position, memory⟩ →
    ∃ fewer < steps, ∃ kept, memory.Keeps base counter kept ∧
      (high ≠ some (memory.count counter) ∧
          kept.count counter = memory.count counter + 1 ∧
          Finishes program text fewer ⟨middle, position, kept⟩ ∨
        (high = some (memory.count counter) ∨ low ≤ memory.count counter) ∧
          Finishes program text fewer ⟨stop, position, kept⟩)

variable {counter low : Nat} {high : Option Nat}

/-- A loop that counts leaves after a number of iterations that, with those counted before, lies
within the bounds. -/
theorem counted_from (bounds : ∀ most ∈ high, low ≤ most) (inside : base ≤ counter)
    (turns : Turns program text base counter pc middle stop low high)
    (body : Passes program text base (counter + 1) middle pc matched) (steps : Nat) :
    ∀ position memory, (∀ most ∈ high, memory.count counter ≤ most) →
      Finishes program text steps ⟨pc, position, memory⟩ →
      ∃ number fewer after kept, fewer ≤ steps ∧
        WithinBounds low high (memory.count counter + number) ∧
        Iterated matched number position after ∧ memory.Keeps base counter kept ∧
        Finishes program text fewer ⟨stop, after, kept⟩ := by
  induction steps using Nat.strongRecOn with
  | _ steps ih =>
      intro position memory allowed path
      obtain ⟨fewer, less, kept, keeps, ⟨more, counts, rest⟩ | ⟨enough, rest⟩⟩ :=
        turns steps position memory path
      · obtain ⟨least, between, later, lesser, here, keepsBody, rest⟩ :=
          body fewer position kept rest
        -- the body leaves the counter as it was
        have same : later.count counter = memory.count counter + 1 := by
          rw [← counts, Memory.count, keepsBody counter inside (Nat.lt_succ_self _)]
          rfl
        have stillAllowed : ∀ most ∈ high, later.count counter ≤ most := by
          intro most bound
          have before := allowed most bound
          have distinct : most ≠ memory.count counter := fun same => more (same ▸ bound)
          omega
        obtain ⟨number, last, after, final, few, within, further, keepsLater, rest⟩ :=
          ih least (by omega) between later stillAllowed rest
        refine ⟨number + 1, last, after, final, by omega, ?_, ⟨between, here, further⟩,
          (keeps.trans (keepsBody.mono (Nat.le_succ _))).trans keepsLater, rest⟩
        rw [same] at within
        rwa [Nat.add_comm number, ← Nat.add_assoc]
      · have least : low ≤ memory.count counter := by
          rcases enough with full | enough
          · exact bounds _ full
          · exact enough
        refine ⟨0, fewer, position, kept, Nat.le_of_lt less, ⟨least, fun most bound => ?_⟩, rfl,
          keeps, rest⟩
        have most := allowed most bound
        omega

/-- A loop that starts to count at zero. -/
theorem counted (bounds : ∀ most ∈ high, low ≤ most) (inside : base ≤ slot)
    (above : slot ≤ counter) (zero : program[pc]? = some (.zero counter))
    (turns : Turns program text base counter (pc + 1) middle stop low high)
    (body : Passes program text base (counter + 1) middle (pc + 1) matched) :
    Passes program text base slot pc stop fun start stop =>
      ∃ count, WithinBounds low high count ∧ Iterated matched count start stop := by
  intro steps position memory path
  obtain ⟨fewer, next, less, rfl, rest⟩ := path.step zero nofun
  have none : (memory.store counter (some 0)).count counter = 0 := Memory.count_store_self
  obtain ⟨number, last, after, kept, few, within, further, keeps, rest⟩ :=
    counted_from bounds (Nat.le_trans inside above) turns body fewer position
      (memory.store counter (some 0)) (fun most _ => by rw [none]; exact Nat.zero_le _) rest
  rw [none, Nat.zero_add] at within
  exact ⟨last, after, kept, by omega, ⟨number, within, further⟩,
    (Memory.Keeps.store (.inr above)).trans (keeps.mono above), rest⟩

theorem Turns.iterate {greedy : Bool}
    (fetched : program[pc]? = some (.iterate low high greedy stop counter)) :
    Turns program text base counter pc (pc + 1) stop low high := by
  intro steps position memory path
  obtain ⟨fewer, next, less, leads, rest⟩ := path.step fetched nofun
  rcases leads with ⟨full, rfl⟩ | ⟨more, rfl | ⟨enough, rfl⟩⟩
  · exact ⟨fewer, less, memory, .refl, .inr ⟨.inl full, rest⟩⟩
  · exact ⟨fewer, less, _, .store (.inr (Nat.le_refl _)),
      .inl ⟨more, Memory.count_store_self, rest⟩⟩
  · exact ⟨fewer, less, _, .store (.inr (Nat.le_refl _)), .inr ⟨.inr enough, rest⟩⟩

theorem Turns.iterateIdle {greedy : Bool}
    (fetched : program[pc]? = some (.iterateIdle low greedy stop counter (counter + 1))) :
    Turns program text base counter pc (pc + 1) stop low none := by
  intro steps position memory path
  obtain ⟨fewer, next, less, leads, rest⟩ := path.step fetched nofun
  -- the slot that marks the latest iteration stands above the counter
  have marks : ((memory.store counter (some (memory.count counter + 1))).store (counter + 1)
      (some position)).count counter = memory.count counter + 1 := by
    rw [Memory.count_store_of_ne (Nat.ne_of_lt (Nat.lt_succ_self _)), Memory.count_store_self]
  have keepsCount : memory.Keeps base counter
      (memory.store counter (some (memory.count counter + 1))) :=
    .store (.inr (Nat.le_refl _))
  have keepsMark := keepsCount.trans
    (@Memory.Keeps.store _ base counter (counter + 1) (some position) (.inr (Nat.le_succ _)))
  rcases leads with ⟨missing, rfl⟩ | ⟨enough, rfl | rfl⟩
  · exact ⟨fewer, less, _, keepsCount, .inl ⟨nofun, Memory.count_store_self, rest⟩⟩
  · exact ⟨fewer, less, _, keepsMark, .inl ⟨nofun, marks, rest⟩⟩
  · exact ⟨fewer, less, _, keepsMark, .inr ⟨.inr enough, rest⟩⟩

end Passes

end Passes

end AgentClassifier.Pattern
