import AgentClassifier.Pattern.Program

/-!
The backtracking machine that runs programs.

* `Machine` : the current place with the places put off, which are resumed latest first.
* `Machine.step` : one instruction.
* `Machine.run` : runs until the program finishes, until nothing is left to resume, or until too
  many places were resumed.

What is put off keeps the memory of its moment, so resuming undoes everything done since.
-/

namespace AgentClassifier.Pattern

/-- The memory of the machine. -/
structure Memory where
  /-- The stored positions and counts. -/
  slots : Array (Option Nat)
  /-- For each open atomic stretch, how many places were put off when it began. -/
  stretches : List Nat

namespace Memory

def get? (memory : Memory) (slot : Nat) : Option Nat := (memory.slots[slot]?).join

/-- Stores a value; the memory grows as needed. -/
def store (memory : Memory) (slot : Nat) (value : Option Nat) : Memory :=
  let slots :=
    if slot < memory.slots.size then memory.slots
    else memory.slots ++ Array.replicate (slot + 1 - memory.slots.size) none
  { memory with slots := slots.setIfInBounds slot value }

def count (memory : Memory) (slot : Nat) : Nat := (memory.get? slot).getD 0

/-- Stores what a regular expression recorded for the given groups. -/
def recordAll (memory : Memory) (spans : List Span) (groups : List Nat) : Memory :=
  groups.foldl (fun memory group =>
    match spans.find? fun span => span.group == group with
    | some span => (memory.store (2 * group) (some span.start)).store (2 * group + 1)
        (some span.stop)
    | none => (memory.store (2 * group) none).store (2 * group + 1) none) memory

end Memory

/-- A place put off. -/
structure Alternative where
  pc : Nat
  position : Nat
  memory : Memory

/-- The current place, and the places put off with the latest first. -/
structure Machine where
  pc : Nat
  position : Nat
  memory : Memory
  alternatives : List Alternative
  /-- The number of places put off. -/
  depth : Nat
  /-- How many places were resumed. -/
  resumed : Nat

/-- The result of a search: a match, none, or no answer within the limits. -/
inductive Outcome (α : Type)
  | found (value : α)
  | absent
  | exhausted
deriving DecidableEq, Repr

/-- The outcome with another value for what was found. -/
def Outcome.map {α β : Type} (f : α → β) : Outcome α → Outcome β
  | found value => found (f value)
  | absent => absent
  | exhausted => exhausted

/-- What one instruction leads to. -/
inductive Progress
  | continues (machine : Machine)
  | fails (machine : Machine)
  | finishes (memory : Memory)
  | exhausts

namespace Machine

/-- A search is given up after this many resumed places. -/
def maxResumed : Nat := 1000000

/-- A search is given up when this many places are put off. -/
def maxDepth : Nat := 1000000

/-- Goes on at another instruction. -/
def goto (machine : Machine) (pc : Nat) : Progress := .continues { machine with pc }

/-- Goes on at the next instruction. -/
def next (machine : Machine) : Progress := machine.goto (machine.pc + 1)

/-- Goes on at the next instruction from another position. -/
def moveTo (machine : Machine) (position : Nat) : Progress :=
  .continues { machine with pc := machine.pc + 1, position }

/-- Goes on at the next instruction with another memory. -/
def remember (machine : Machine) (memory : Memory) : Progress :=
  .continues { machine with pc := machine.pc + 1, memory }

/-- Goes on at `first`, and puts `second` off. -/
def fork (machine : Machine) (first second : Nat) : Progress :=
  if maxDepth ≤ machine.depth then .exhausts
  else .continues { machine with
    pc := first
    alternatives := ⟨second, machine.position, machine.memory⟩ :: machine.alternatives
    depth := machine.depth + 1 }

/-- Drops the latest places until `count` are left. -/
def keep (machine : Machine) (count : Nat) : Machine :=
  if machine.depth ≤ count then machine
  else { machine with
    alternatives := machine.alternatives.drop (machine.depth - count)
    depth := count }

/-- Whether the text has the given characters at a position. -/
def textAt (text : Subject) (position : Nat) : List Char → Bool
  | [] => true
  | c :: rest => text[position]? == some c && textAt text (position + 1) rest

/-- Drops the latest places up to and including the one that leads to `pc`. -/
def dropThrough (pc : Nat) : List Alternative → List Alternative
  | [] => []
  | alternative :: rest => if alternative.pc = pc then rest else dropThrough pc rest

/-- The characters between two positions. -/
def between (text : Subject) (start stop : Nat) : List Char :=
  (text.extract start stop).toList

/-- Runs one instruction. -/
def step (text : Subject) (machine : Machine) : Instruction → Progress
  | .finish => .finishes machine.memory
  | .anyChar =>
      if machine.position < text.size then machine.moveTo (machine.position + 1)
      else .fails machine
  | .anyButLineFeed =>
      match text[machine.position]? with
      | some c => if c = '\n' then .fails machine else machine.moveTo (machine.position + 1)
      | none => .fails machine
  | .text chars =>
      if textAt text machine.position chars then machine.moveTo (machine.position + chars.length)
      else .fails machine
  | .check condition =>
      if condition.holds text machine.position then machine.next else .fails machine
  | .split first second => machine.fork first second
  | .jump target => machine.goto target
  | .save slot => machine.remember (machine.memory.store slot (some machine.position))
  | .zero slot => machine.remember (machine.memory.store slot (some 0))
  | .restore slot => machine.moveTo (machine.memory.count slot)
  | .iterate low high greedy next slot =>
      let count := machine.memory.count slot
      if high = some count then machine.goto next
      else
        let machine := { machine with memory := machine.memory.store slot (some (count + 1)) }
        if count < low then machine.next
        else if greedy then machine.fork (machine.pc + 1) next
        else machine.fork next (machine.pc + 1)
  | .iterateIdle low greedy next slot check =>
      let count := machine.memory.count slot
      if low < count ∧ machine.memory.get? check = some machine.position then .fails machine
      else
        let memory := machine.memory.store slot (some (count + 1))
        if count < low then machine.remember memory
        else
          let machine := { machine with memory := memory.store check (some machine.position) }
          if greedy then machine.fork (machine.pc + 1) next
          else machine.fork next (machine.pc + 1)
  | .goBack count =>
      if count ≤ machine.position then machine.moveTo (machine.position - count)
      else .fails machine
  | .refuse =>
      let rest := dropThrough (machine.pc + 1) machine.alternatives
      .fails { machine with alternatives := rest, depth := rest.length }
  | .backref group =>
      match machine.memory.get? (2 * group), machine.memory.get? (2 * group + 1) with
      | some start, some stop =>
          let chars := between text start stop
          if textAt text machine.position chars then
            machine.moveTo (machine.position + chars.length)
          else .fails machine
      | _, _ => .fails machine
  | .recorded group =>
      if (machine.memory.get? (2 * group)).isSome then machine.next else .fails machine
  | .beginAtomic =>
      machine.remember
        { machine.memory with stretches := machine.depth :: machine.memory.stretches }
  | .endAtomic =>
      match machine.memory.stretches with
      | [] => machine.next
      | count :: stretches =>
          ({ machine with memory := { machine.memory with stretches } }.keep count).next
  | .run expression groups =>
      match expression.matchAt? text machine.position with
      | some reach =>
          .continues { machine with
            pc := machine.pc + 1
            position := reach.stop
            memory := machine.memory.recordAll reach.spans groups }
      | none => .fails machine
  | .searchStart => if machine.position = 0 then machine.next else .fails machine

/-- Resumes the place put off last. -/
def resume (machine : Machine) : Option Machine :=
  match machine.alternatives with
  | [] => none
  | alternative :: rest => some {
      pc := alternative.pc
      position := alternative.position
      memory := alternative.memory
      alternatives := rest
      depth := machine.depth - 1
      resumed := machine.resumed + 1 }

/-- Runs the program until it ends; `fuel` bounds the number of instructions. -/
def run (program : Array Instruction) (text : Subject) : Nat → Machine → Outcome Memory
  | 0, _ => .exhausted
  | fuel + 1, machine =>
      match program[machine.pc]? with
      | none => .absent
      | some instruction =>
          match machine.step text instruction with
          | .continues machine => run program text fuel machine
          | .finishes memory => .found memory
          | .exhausts => .exhausted
          | .fails machine =>
              match machine.resume with
              | none => .absent
              | some machine =>
                  if maxResumed < machine.resumed then .exhausted
                  else run program text fuel machine

/-- The machine before a search. -/
def start : Machine := ⟨0, 0, ⟨#[], []⟩, [], 0, 0⟩

/-- Runs a program on a text. A stretch without resumed places runs through no instruction more
often than there are positions, unless it counts iterations that consume nothing. -/
def search (program : Array Instruction) (text : Subject) : Outcome Memory :=
  run program text ((maxResumed + 1) * (program.size + 1) * (text.size + 2)) start

end Machine

end AgentClassifier.Pattern
