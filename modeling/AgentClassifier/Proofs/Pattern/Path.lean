import Mathlib.Data.List.Basic
import AgentClassifier.Pattern.Machine

/-!
Paths through a program.

* `Instruction.Leads` : the places that an instruction can lead to, in whatever order they are
  tried.
* `Finishes` : a path of some length leads from a place to the end of the program.
* `Machine.step_leavesOpen` : a step leaves open only places that the instruction leads to and
  places that were put off before.
* `Machine.finishes_of_run` : a run that finds something started with a place on a path to the end.

The order of the places, the bounds on them and the stretches that are dropped decide which path is
taken; that there is one does not depend on them.
-/

namespace AgentClassifier.Pattern

/-! ## Steps -/

section Places

variable (here : Alternative)

/-- The place at the next instruction, at a given position. -/
def Alternative.moved (position : Nat) : Alternative := ⟨here.pc + 1, position, here.memory⟩

/-- The same position at another instruction. -/
def Alternative.jumped (pc : Nat) : Alternative := ⟨pc, here.position, here.memory⟩

/-- The same place with another memory. -/
def Alternative.remembering (memory : Memory) : Alternative := ⟨here.pc, here.position, memory⟩

end Places

/-- An instruction can lead from one place to another. -/
def Instruction.Leads (text : Subject) (here next : Alternative) : Instruction → Prop
  | .finish | .refuse => False
  | .anyChar => here.position < text.size ∧ next = here.moved (here.position + 1)
  | .anyButLineFeed =>
      ∃ c, text[here.position]? = some c ∧ c ≠ '\n' ∧ next = here.moved (here.position + 1)
  | .text chars =>
      Machine.textAt text here.position chars = true ∧
        next = here.moved (here.position + chars.length)
  | .check condition =>
      condition.holds text here.position = true ∧ next = here.moved here.position
  | .split first second => next = here.jumped first ∨ next = here.jumped second
  | .jump target => next = here.jumped target
  | .save slot =>
      next = (here.remembering (here.memory.store slot (some here.position))).moved here.position
  | .zero slot => next = (here.remembering (here.memory.store slot (some 0))).moved here.position
  | .restore slot => next = here.moved (here.memory.count slot)
  | .iterate low high _ after slot =>
      let count := here.memory.count slot
      let counted := here.remembering (here.memory.store slot (some (count + 1)))
      high = some count ∧ next = here.jumped after ∨
        high ≠ some count ∧
          (next = counted.moved here.position ∨ low ≤ count ∧ next = counted.jumped after)
  | .iterateIdle low _ after slot latest =>
      let count := here.memory.count slot
      let memory := here.memory.store slot (some (count + 1))
      let marked := here.remembering (memory.store latest (some here.position))
      count < low ∧ next = (here.remembering memory).moved here.position ∨
        low ≤ count ∧ (next = marked.moved here.position ∨ next = marked.jumped after)
  | .goBack count => count ≤ here.position ∧ next = here.moved (here.position - count)
  | .backref group =>
      ∃ start stop, here.memory.get? (2 * group) = some start ∧
        here.memory.get? (2 * group + 1) = some stop ∧
        Machine.textAt text here.position (Machine.between text start stop) = true ∧
        next = here.moved (here.position + (Machine.between text start stop).length)
  | .recorded group =>
      (here.memory.get? (2 * group)).isSome = true ∧ next = here.moved here.position
  | .beginAtomic | .endAtomic =>
      ∃ stretches,
        next = (here.remembering ⟨here.memory.slots, stretches⟩).moved here.position
  | .run expression groups =>
      ∃ reach, expression.matchAt? text here.position = some reach ∧
        next = (here.remembering (here.memory.recordAll reach.spans groups)).moved reach.stop
  | .searchStart => here.position = 0 ∧ next = here.moved here.position

/-- A path of a number of steps leads from a place to the end of the program. -/
def Finishes (program : Array Instruction) (text : Subject) : Nat → Alternative → Prop
  | 0, here => program[here.pc]? = some .finish
  | steps + 1, here => ∃ instruction next, program[here.pc]? = some instruction ∧
      instruction.Leads text here next ∧ Finishes program text steps next

/-- The current place. -/
def Machine.here (machine : Machine) : Alternative :=
  ⟨machine.pc, machine.position, machine.memory⟩

/-- What a step leaves open: places that the instruction leads to, and places put off before. -/
def Progress.LeavesOpen (text : Subject) (machine : Machine) (instruction : Instruction) :
    Progress → Prop
  | .continues after => ∀ place ∈ after.here :: after.alternatives,
      instruction.Leads text machine.here place ∨ place ∈ machine.alternatives
  | .fails after => ∀ place ∈ after.alternatives, place ∈ machine.alternatives
  | .finishes _ => instruction = .finish
  | .exhausts => True

namespace Machine

variable {program : Array Instruction} {text : Subject} {machine after : Machine}
  {instruction : Instruction} {place : Alternative}

/-- A step that puts nothing off leaves the next place open. -/
theorem leavesOpen_continues (leads : instruction.Leads text machine.here after.here)
    (fewer : ∀ place ∈ after.alternatives, place ∈ machine.alternatives) :
    (Progress.continues after).LeavesOpen text machine instruction :=
  List.forall_mem_cons.mpr ⟨.inl leads, fun place member => .inr (fewer place member)⟩

theorem leavesOpen_fails : (Progress.fails machine).LeavesOpen text machine instruction :=
  fun _ member => member

/-- A fork leaves both targets open; `forking` is the machine with the memory of the fork. -/
theorem leavesOpen_fork {forking : Machine} {first second : Nat}
    (same : forking.alternatives = machine.alternatives)
    (leadsFirst : instruction.Leads text machine.here (forking.here.jumped first))
    (leadsSecond : instruction.Leads text machine.here (forking.here.jumped second)) :
    (forking.fork first second).LeavesOpen text machine instruction := by
  unfold fork
  split
  · trivial
  · refine List.forall_mem_cons.mpr ⟨.inl leadsFirst, ?_⟩
    refine List.forall_mem_cons.mpr ⟨.inl leadsSecond, fun place member => ?_⟩
    exact .inr (same ▸ member)

/-- A step under a condition leaves the next place open where the condition holds. -/
theorem leavesOpen_guarded {condition : Prop} [Decidable condition]
    (same : after.alternatives = machine.alternatives)
    (leads : condition → instruction.Leads text machine.here after.here) :
    (if condition then .continues after else .fails machine : Progress).LeavesOpen text machine
      instruction := by
  split
  · next holds => exact leavesOpen_continues (leads holds) fun place member => same ▸ member
  · exact leavesOpen_fails

/-- A fork that prefers either target leaves both open. -/
theorem leavesOpen_preferring {forking : Machine} {greedy : Bool} {onward leave : Nat}
    (same : forking.alternatives = machine.alternatives)
    (leadsOnward : instruction.Leads text machine.here (forking.here.jumped onward))
    (leadsAway : instruction.Leads text machine.here (forking.here.jumped leave)) :
    (if greedy then forking.fork onward leave else forking.fork leave onward).LeavesOpen text
      machine instruction := by
  split
  · exact leavesOpen_fork same leadsOnward leadsAway
  · exact leavesOpen_fork same leadsAway leadsOnward

theorem mem_of_mem_dropThrough {pc : Nat} {alternatives : List Alternative}
    (member : place ∈ dropThrough pc alternatives) : place ∈ alternatives := by
  induction alternatives with
  | nil => exact member
  | cons first rest ih =>
      rw [dropThrough] at member
      split at member
      · exact List.mem_cons_of_mem _ member
      · exact List.mem_cons_of_mem _ (ih member)

theorem keep_here (count : Nat) : (machine.keep count).here = machine.here := by
  unfold keep
  split <;> rfl

theorem mem_of_mem_keep {count : Nat} (member : place ∈ (machine.keep count).alternatives) :
    place ∈ machine.alternatives := by
  unfold keep at member
  split at member
  · exact member
  · exact List.mem_of_mem_drop member

/-- A step leaves open only what the instruction leads to and what was put off before. -/
theorem step_leavesOpen :
    (machine.step text instruction).LeavesOpen text machine instruction := by
  have stay : ∀ place ∈ machine.alternatives, place ∈ machine.alternatives :=
    fun _ member => member
  cases instruction with
  | finish => rfl
  | anyChar => exact leavesOpen_guarded rfl fun bound => ⟨bound, rfl⟩
  | anyButLineFeed =>
      rw [step]
      split
      · next c present =>
          split
          · exact leavesOpen_fails
          · next other => exact leavesOpen_continues ⟨c, present, other, rfl⟩ stay
      · exact leavesOpen_fails
  | text chars => exact leavesOpen_guarded rfl fun isText => ⟨isText, rfl⟩
  | check condition => exact leavesOpen_guarded rfl fun holds => ⟨holds, rfl⟩
  | split first second => exact leavesOpen_fork rfl (.inl rfl) (.inr rfl)
  | jump target => exact leavesOpen_continues rfl stay
  | save slot => exact leavesOpen_continues rfl stay
  | zero slot => exact leavesOpen_continues rfl stay
  | restore slot => exact leavesOpen_continues rfl stay
  | iterate low high greedy after slot =>
      rw [step]
      dsimp only
      split
      · next full => exact leavesOpen_continues (.inl ⟨full, rfl⟩) stay
      · next more =>
          split
          · exact leavesOpen_continues (.inr ⟨more, .inl rfl⟩) stay
          · next enough =>
              have leave := Nat.le_of_not_lt enough
              exact leavesOpen_preferring rfl (.inr ⟨more, .inl rfl⟩)
                (.inr ⟨more, .inr ⟨leave, rfl⟩⟩)
  | iterateIdle low greedy after slot check =>
      rw [step]
      dsimp only
      split
      · exact leavesOpen_fails
      · split
        · next missing => exact leavesOpen_continues (.inl ⟨missing, rfl⟩) stay
        · next enough =>
            have leave := Nat.le_of_not_lt enough
            exact leavesOpen_preferring rfl (.inr ⟨leave, .inl rfl⟩) (.inr ⟨leave, .inr rfl⟩)
  | goBack count => exact leavesOpen_guarded rfl fun enough => ⟨enough, rfl⟩
  | refuse => exact fun _ member => mem_of_mem_dropThrough member
  | backref group =>
      rw [step]
      split
      · next start stop isStart isStop =>
          exact leavesOpen_guarded rfl fun isText => ⟨start, stop, isStart, isStop, isText, rfl⟩
      · exact leavesOpen_fails
  | recorded group => exact leavesOpen_guarded rfl fun isRecorded => ⟨isRecorded, rfl⟩
  | beginAtomic => exact leavesOpen_continues ⟨_, rfl⟩ stay
  | endAtomic =>
      rw [step]
      split
      · next none => exact leavesOpen_continues ⟨[], by rw [← none]; rfl⟩ stay
      · next count stretches some =>
          -- closing the stretch before dropping what was put off in it
          let closed : Machine := { machine with memory := { machine.memory with stretches } }
          refine leavesOpen_continues ⟨stretches, ?_⟩ fun _ member =>
            @mem_of_mem_keep closed _ count member
          have same := @keep_here closed count
          injection same with pc position memory
          show Alternative.mk _ _ _ = Alternative.mk _ _ _
          rw [pc, position, memory]
          rfl
  | run expression groups =>
      rw [step]
      split
      · next reach found => exact leavesOpen_continues ⟨reach, found, rfl⟩ stay
      · exact leavesOpen_fails
  | searchStart => exact leavesOpen_guarded rfl fun atStart => ⟨atStart, rfl⟩

/-! ## Runs -/

theorem places_of_resume {resumed : Machine} (some : machine.resume = some resumed) :
    resumed.here :: resumed.alternatives = machine.alternatives := by
  unfold resume at some
  split at some
  · cases some
  · next alternative rest alternatives =>
      cases some
      rw [alternatives]
      rfl

/-- A run that finds something started with a place on a path to the end of the program. -/
theorem finishes_of_run {fuel : Nat} {memory : Memory}
    (found : run program text fuel machine = .found memory) :
    ∃ place ∈ machine.here :: machine.alternatives, ∃ steps, Finishes program text steps place := by
  induction fuel generalizing machine with
  | zero => cases found
  | succ fuel ih =>
      rw [run] at found
      split at found
      · cases found
      · next instruction fetched =>
          have kept := @step_leavesOpen text machine instruction
          split at found
          · next after continues =>
              rw [continues] at kept
              obtain ⟨place, isOpen, steps, path⟩ := ih found
              rcases kept place isOpen with leads | member
              · exact ⟨_, List.mem_cons_self, steps + 1, instruction, place, fetched, leads, path⟩
              · exact ⟨place, List.mem_cons_of_mem _ member, steps, path⟩
          · next final finishes =>
              rw [finishes] at kept
              obtain rfl := kept
              exact ⟨_, List.mem_cons_self, 0, fetched⟩
          · cases found
          · next after fails =>
              rw [fails] at kept
              split at found
              · cases found
              · next resumed isResumed =>
                  split at found
                  · cases found
                  · obtain ⟨place, isOpen, steps, path⟩ := ih found
                    rw [places_of_resume isResumed] at isOpen
                    exact ⟨place, List.mem_cons_of_mem _ (kept place isOpen), steps, path⟩

end Machine

end AgentClassifier.Pattern
