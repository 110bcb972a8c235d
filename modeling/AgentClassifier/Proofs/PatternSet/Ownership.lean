import AgentClassifier.Proofs.Matcher.Faults

/-!
Which entry of a set the literals belong to, and that every index leads to an element.

* `PatternSet.literalsOf` : the literals that lead to an entry.
* `PatternSet.Represents` : a set holds patterns in order, and leads each literal to the entry that
  it was taken from.
* `PatternSet.candidates?`, `PatternSet.findMapChecked?` : the candidates and the search, where an
  index that leads to no element is a failure.
* `buildBy_represents` : a set that was built represents its patterns; therefore nothing fails, and
  an entry is a candidate exactly when it is always tried or one of the literals that lead to it
  occurs.
-/

namespace AgentClassifier.PatternSet

variable {α β : Type}

/-! ## The lists of a set -/

/-- The literals that are looked for. -/
def sought (set : PatternSet α) : List (List Char) := set.literals.getD []

/-- The literals that lead to an entry, in order. -/
def literalsOf (set : PatternSet α) (index : Nat) : List (List Char) :=
  (set.sought.zip set.literalToEntry).filterMap fun (literal, owner) =>
    if owner = index then some literal else none

/-- The set holds the patterns in order, and leads each literal to the entry that it was taken
from. -/
structure Represents (set : PatternSet α) (specs : List (PatternSpec α)) : Prop where
  /-- Each entry is compiled from its pattern and has its data. -/
  entries : List.Forall₂ (fun spec entry =>
    Pattern.compile? spec.source spec.ignoreCase = some entry.pattern ∧ entry.data = spec.data)
    specs set.entries
  /-- The entries that are always tried are those without literals. -/
  always : set.always = specs.map fun spec => spec.literals.isEmpty
  /-- Each literal leads to an entry. -/
  owners : set.literalToEntry.length = set.sought.length
  ascending : set.literalToEntry.Pairwise (· ≤ ·)
  inside : ∀ owner ∈ set.literalToEntry, owner < set.entries.length
  /-- The literals that lead to an entry are those of its pattern. -/
  own : ∀ index spec, specs[index]? = some spec → set.literalsOf index = spec.literals
  /-- Nothing is looked for only if no pattern has literals. -/
  unsought : set.literals = none ↔ ∀ spec ∈ specs, spec.literals = []

/-! ## Checked indices -/

/-- Raises the flag of the entry that a hit leads to; both have to be there. -/
def mark? (literalToEntry : List Nat) (flags : List Bool) (hit : Nat) : Option (List Bool) := do
  let owner ← literalToEntry[hit]?
  if owner < flags.length then some (flags.set owner true) else none

/-- For each entry, whether it can match the text, if every hit leads to the flag of an entry. -/
def candidates? (set : PatternSet α) (search : LiteralSearch) (text : List Char) :
    Option (List Bool) :=
  match set.literals with
  | none => some set.always
  | some literals => (search literals text).foldlM (mark? set.literalToEntry) set.always

/-- The first answer of the candidates among entries, of which the first has the given index. Every
entry that is reached has to have a flag. -/
def firstAnswer? (answer? : PatternEntry α → Option β) (flags : List Bool) :
    (index : Nat) → List (PatternEntry α) → Option (Option β)
  | _, [] => some none
  | index, entry :: rest => do
      let isCandidate ← flags[index]?
      match if isCandidate then answer? entry else none with
      | some answer => some (some answer)
      | none => firstAnswer? answer? flags (index + 1) rest

/-- The search among the candidates, if every index leads to an element. -/
def findMapChecked? (search : LiteralSearch) (set : PatternSet α)
    (callback : α → Captures → Option β) (text : String) : Option (Option β) := do
  let flags ← set.candidates? search text.toList
  firstAnswer? (answer? callback text.toList.toArray) flags 0 set.entries

theorem length_mark {literalToEntry : List Nat} {flags : List Bool} {hit : Nat} :
    (mark literalToEntry flags hit).length = flags.length := by
  unfold mark
  split
  · exact List.length_set
  · rfl

theorem length_foldl_mark {literalToEntry hits : List Nat} {flags : List Bool} :
    (hits.foldl (mark literalToEntry) flags).length = flags.length := by
  induction hits generalizing flags with
  | nil => rfl
  | cons hit hits ih => rw [List.foldl_cons, ih, length_mark]

theorem mark?_eq {literalToEntry : List Nat} {flags : List Bool} {hit owner : Nat}
    (leads : literalToEntry[hit]? = some owner) (inside : owner < flags.length) :
    mark? literalToEntry flags hit = some (mark literalToEntry flags hit) := by
  simp [mark?, mark, leads, inside]

/-- Marking keeps the number of flags, so what leads to a flag at first does so in every step. -/
theorem foldlM_mark?_eq {literalToEntry hits : List Nat} {flags : List Bool}
    (lead : ∀ hit ∈ hits, ∃ owner, literalToEntry[hit]? = some owner ∧ owner < flags.length) :
    hits.foldlM (mark? literalToEntry) flags = some (hits.foldl (mark literalToEntry) flags) := by
  induction hits generalizing flags with
  | nil => rfl
  | cons hit hits ih =>
      obtain ⟨⟨owner, leads, inside⟩, others⟩ := List.forall_mem_cons.mp lead
      have further : ∀ hit' ∈ hits, ∃ owner, literalToEntry[hit']? = some owner ∧
          owner < (mark literalToEntry flags hit).length := by
        simpa only [length_mark] using others
      rw [List.foldlM_cons, mark?_eq leads inside, List.foldl_cons]
      exact ih further

theorem firstAnswer?_eq (answer? : PatternEntry α → Option β) {flags : List Bool}
    {entries : List (PatternEntry α)} {index : Nat}
    (enough : index + entries.length ≤ flags.length) :
    firstAnswer? answer? flags index entries =
      some ((entries.zip (flags.drop index)).findSome? fun (entry, isCandidate) =>
        if isCandidate then answer? entry else none) := by
  induction entries generalizing index with
  | nil => rfl
  | cons entry rest ih =>
      rw [List.length_cons] at enough
      have inside : index < flags.length := by omega
      have enough : index + 1 + rest.length ≤ flags.length := by omega
      have later := ih enough
      rw [List.drop_eq_getElem_cons inside, List.zip_cons_cons, List.findSome?_cons, firstAnswer?,
        List.getElem?_eq_getElem inside, Option.bind_eq_bind, Option.bind_some, later]
      dsimp only
      cases if flags[index] then answer? entry else none <;> rfl

/-! ## Assembled sets -/

section Assembled

variable {compiled : List (PatternEntry α × List (List Char))}

/-- For each literal the index of its entry, where the first entry has the given index. -/
def ownersFrom (first : Nat) (compiled : List (PatternEntry α × List (List Char))) : List Nat :=
  (compiled.zipIdx first).flatMap fun item => item.1.2.map fun _ => item.2

theorem ownersFrom_cons (first : Nat) (item : PatternEntry α × List (List Char)) :
    ownersFrom first (item :: compiled) =
      (item.2.map fun _ => first) ++ ownersFrom (first + 1) compiled := rfl

theorem length_ownersFrom (first : Nat) :
    (ownersFrom first compiled).length = (allLiterals compiled).length := by
  induction compiled generalizing first with
  | nil => rfl
  | cons item rest ih =>
      rw [ownersFrom_cons, List.length_append, List.length_map, ih, allLiterals, allLiterals,
        List.flatMap_cons, List.length_append]

theorem bounds_of_mem_ownersFrom {first owner : Nat} (member : owner ∈ ownersFrom first compiled) :
    first ≤ owner ∧ owner < first + compiled.length := by
  obtain ⟨⟨item, index⟩, place, member⟩ := List.mem_flatMap.mp member
  obtain ⟨_, _, rfl⟩ := List.mem_map.mp member
  obtain ⟨lower, upper, _⟩ := List.mem_zipIdx place
  exact ⟨lower, upper⟩

/-- The owners of an entry's literals come before those of all later entries. -/
theorem pairwise_ownersFrom (first : Nat) : (ownersFrom first compiled).Pairwise (· ≤ ·) := by
  induction compiled generalizing first with
  | nil => exact .nil
  | cons item rest ih =>
      rw [ownersFrom_cons, List.pairwise_append]
      refine ⟨?_, ih (first + 1), ?_⟩
      · exact List.pairwise_map.mpr (List.pairwise_of_forall fun _ _ => Nat.le_refl first)
      · intro owner isFirst later isLater
        obtain ⟨_, _, rfl⟩ := List.mem_map.mp isFirst
        have lower := (bounds_of_mem_ownersFrom isLater).1
        omega

theorem sought_assemble : (assemble compiled).sought = allLiterals compiled := by
  cases none : (allLiterals compiled).isEmpty with
  | true =>
      have noLiterals : (assemble compiled).literals = .none := if_pos none
      rw [sought, noLiterals, List.isEmpty_iff.mp none]
      rfl
  | false =>
      have someLiterals : (assemble compiled).literals = some (allLiterals compiled) :=
        if_neg (by rw [allLiterals] at none; simp [none])
      rw [sought, someLiterals]
      rfl

/-- Of blocks that are numbered in order, only the one with a number contributes to it. -/
theorem flatMap_owned (first index : Nat) :
    ((compiled.zipIdx first).flatMap fun item =>
        if item.2 = first + index then item.1.2 else []) =
      (compiled[index]?.map Prod.snd).getD [] := by
  induction compiled generalizing first index with
  | nil => rfl
  | cons item rest ih =>
      rw [List.zipIdx_cons, List.flatMap_cons]
      cases index with
      | zero =>
          have others : ((rest.zipIdx (first + 1)).flatMap fun item =>
              if item.2 = first + 0 then item.1.2 else []) = [] := by
            rw [List.flatMap_eq_nil_iff]
            rintro ⟨later, number⟩ place
            have lower := (List.mem_zipIdx place).1
            exact if_neg (by omega)
          rw [others, List.append_nil]
          exact if_pos rfl
      | succ index =>
          have later := ih (first + 1) index
          rw [if_neg (by omega), List.nil_append, List.getElem?_cons_succ, ← later]
          simp only [Nat.add_right_comm, Nat.add_assoc]

theorem literalsOf_assemble (index : Nat) :
    (assemble compiled).literalsOf index = (compiled[index]?.map Prod.snd).getD [] := by
  have paired := @zip_literalToEntry _ compiled 0
  have owned := @flatMap_owned _ compiled 0 index
  rw [Nat.zero_add] at owned
  rw [literalsOf, sought_assemble, ← owned]
  change ((allLiterals compiled).zip (ownersFrom 0 compiled)).filterMap _ = _
  rw [ownersFrom, paired, List.filterMap_flatMap]
  refine List.flatMap_congr fun item _ => ?_
  rw [List.filterMap_map]
  by_cases same : item.2 = index <;> simp [same]

variable {specs : List (PatternSpec α)}

theorem literals_of_compiled
    (done : List.Forall₂ (fun spec item => compileSpec spec = .ok item) specs compiled) :
    compiled.map Prod.snd = specs.map PatternSpec.literals := by
  induction done with
  | nil => rfl
  | cons first _ ih =>
      obtain ⟨pattern, _, rfl⟩ := compileSpec_eq_ok first
      rw [List.map_cons, List.map_cons, ih]

/-- A set that is assembled from compiled patterns represents them. -/
theorem represents_assemble
    (done : List.Forall₂ (fun spec item => compileSpec spec = .ok item) specs compiled) :
    (assemble compiled).Represents specs := by
  have literals := literals_of_compiled done
  constructor
  · refine List.forall₂_map_right_iff.mpr (done.imp fun spec item compiledSpec => ?_)
    obtain ⟨pattern, found, rfl⟩ := compileSpec_eq_ok compiledSpec
    exact ⟨found, rfl⟩
  · calc compiled.map (fun item => item.2.isEmpty)
        = (compiled.map Prod.snd).map List.isEmpty := by rw [List.map_map]; rfl
      _ = specs.map fun spec => spec.literals.isEmpty := by rw [literals, List.map_map]; rfl
  · rw [sought_assemble]
    exact length_ownersFrom 0
  · exact pairwise_ownersFrom 0
  · intro owner member
    have upper : owner < 0 + compiled.length := (bounds_of_mem_ownersFrom member).2
    rw [assemble, List.length_map]
    omega
  · intro index spec place
    rw [literalsOf_assemble, ← List.getElem?_map, literals, List.getElem?_map, place]
    rfl
  · have all : (assemble compiled).literals = none ↔ allLiterals compiled = [] := by
      simp [assemble, allLiterals]
    have none : allLiterals compiled = [] ↔ ∀ own ∈ compiled.map Prod.snd, own = [] := by
      rw [allLiterals, List.flatMap_eq_nil_iff, List.forall_mem_map]
    rw [all, none, literals, List.forall_mem_map]

end Assembled

/-! ## Sets that represent patterns -/

theorem mem_literalsOf {set : PatternSet α} {index : Nat} {literal : List Char} :
    literal ∈ set.literalsOf index ↔
      ∃ hit : Nat, set.sought[hit]? = some literal ∧ set.literalToEntry[hit]? = some index := by
  rw [literalsOf, List.mem_filterMap]
  constructor
  · rintro ⟨⟨other, owner⟩, paired, leads⟩
    obtain ⟨rfl, rfl⟩ : owner = index ∧ other = literal := by simpa using leads
    obtain ⟨hit, place⟩ := List.mem_iff_getElem?.mp paired
    exact ⟨hit, List.getElem?_zip_eq_some.mp place⟩
  · rintro ⟨hit, place⟩
    have paired : (literal, index) ∈ set.sought.zip set.literalToEntry :=
      List.mem_of_getElem? (List.getElem?_zip_eq_some.mpr place)
    exact ⟨(literal, index), paired, if_pos rfl⟩

section Search

variable {search : LiteralSearch}

/-- Where nothing is looked for, nothing is hit. -/
theorem IsExact.search_nil (exact : IsExact search) (text : List Char) : search [] text = [] := by
  rw [List.eq_nil_iff_forall_not_mem]
  intro hit isHit
  obtain ⟨_, place, _⟩ := (exact _ _ hit).mp isHit
  simp at place

theorem candidates_eq_foldl_sought (exact : IsExact search) (set : PatternSet α)
    (text : List Char) : set.candidates search text =
      (search set.sought text).foldl (mark set.literalToEntry) set.always := by
  unfold candidates sought
  cases set.literals with
  | none => rw [Option.getD_none, exact.search_nil]; rfl
  | some literals => rfl

namespace Represents

variable {set : PatternSet α} {specs : List (PatternSpec α)}

theorem length_always (represents : set.Represents specs) :
    set.always.length = set.entries.length := by
  rw [represents.always, List.length_map, represents.entries.length_eq]

/-- Every hit leads to an entry, and this one has a flag. -/
theorem leads_of_hit (represents : set.Represents specs) (exact : IsExact search)
    {text : List Char} {hit : Nat} (isHit : hit ∈ search set.sought text) :
    ∃ owner, set.literalToEntry[hit]? = some owner ∧ owner < set.always.length := by
  obtain ⟨literal, place, _⟩ := (exact _ _ hit).mp isHit
  have inside : hit < set.literalToEntry.length := by
    rw [represents.owners]
    exact (List.getElem?_eq_some_iff.mp place).1
  refine ⟨set.literalToEntry[hit], List.getElem?_eq_getElem inside, ?_⟩
  rw [represents.length_always]
  exact represents.inside _ (List.getElem_mem inside)

theorem candidates?_eq (represents : set.Represents specs) (exact : IsExact search)
    (text : List Char) :
    set.candidates? search text = some (set.candidates search text) := by
  have leads : ∀ hit ∈ search set.sought text, _ :=
    fun _ => represents.leads_of_hit exact
  unfold candidates? candidates
  unfold sought at leads
  cases literals : set.literals with
  | none => rfl
  | some literals' =>
      rw [literals] at leads
      exact foldlM_mark?_eq leads

theorem length_candidates (represents : set.Represents specs) (exact : IsExact search)
    (text : List Char) : (set.candidates search text).length = set.entries.length := by
  rw [candidates_eq_foldl_sought exact, length_foldl_mark, represents.length_always]

/-- An entry is a candidate exactly when it is always tried or a literal that leads to it occurs. -/
theorem candidates_iff (represents : set.Represents specs) (exact : IsExact search)
    (text : List Char) (index : Nat) :
    (set.candidates search text)[index]? = some true ↔
      set.always[index]? = some true ∨
        ∃ literal ∈ set.literalsOf index, OccursIn literal text := by
  have raised : ((search set.sought text).any fun hit =>
        set.literalToEntry[hit]? == some index) = true ↔
      ∃ literal ∈ set.literalsOf index, OccursIn literal text := by
    simp only [List.any_eq_true, beq_iff_eq, exact _ _ _, mem_literalsOf]
    constructor
    · rintro ⟨hit, ⟨literal, place, occurs⟩, leads⟩
      exact ⟨literal, ⟨hit, place, leads⟩, occurs⟩
    · rintro ⟨literal, ⟨hit, place, leads⟩, occurs⟩
      exact ⟨hit, ⟨literal, place, occurs⟩, leads⟩
  rw [candidates_eq_foldl_sought exact, getElem?_foldl_mark, ← raised]
  cases flag : set.always[index]? with
  | some flag => simp
  | none =>
      -- no literal leads beyond the last entry
      simp only [Option.map_none, reduceCtorEq, false_or, false_iff]
      intro up
      obtain ⟨literal, own, _⟩ := raised.mp up
      obtain ⟨hit, _, leads⟩ := mem_literalsOf.mp own
      have inside := represents.inside _ (List.mem_of_getElem? leads)
      rw [← represents.length_always] at inside
      exact absurd flag (by simp [inside])

theorem findMapChecked?_eq (represents : set.Represents specs) (exact : IsExact search)
    (callback : α → Captures → Option β) (text : String) :
    findMapChecked? search set callback text = some (set.findMapBy? search callback text) := by
  have enough : 0 + set.entries.length ≤ (set.candidates search text.toList).length :=
    Nat.le_of_eq ((Nat.zero_add _).trans (represents.length_candidates exact text.toList).symm)
  rw [findMapChecked?, represents.candidates?_eq exact, Option.bind_eq_bind, Option.bind_some,
    firstAnswer?_eq _ enough, List.drop_zero]
  rfl

end Represents

/-- A set that was built represents its patterns: it has an entry and a flag for each of them in
order, each literal leads to an entry, in ascending order, and those that lead to an entry are the
literals of its pattern. So no index leads outside of a list, whatever the text, and an entry is a
candidate exactly when it has no literals or when one of them occurs. -/
theorem buildBy_represents {traverse : Traverse} (faithful : IsFaithful traverse)
    (exact : IsExact search) {specs : List (PatternSpec α)} {set : PatternSet α}
    (built : buildBy traverse specs = .ok set) :
    set.Represents specs ∧ ∀ text : String,
      set.candidates? search text.toList = some (set.candidates search text.toList) ∧
      (set.candidates search text.toList).length = set.entries.length ∧
      (∀ index, (set.candidates search text.toList)[index]? = some true ↔
        set.always[index]? = some true ∨
          ∃ literal ∈ set.literalsOf index, OccursIn literal text.toList) ∧
      ∀ (β : Type) (callback : α → Captures → Option β),
        findMapChecked? search set callback text = some (set.findMapBy? search callback text) := by
  have represents : set.Represents specs := by
    unfold buildBy at built
    cases visited : traverse _ _ compileSpec specs with
    | error cause => simp [visited] at built
    | ok compiled =>
        rw [visited] at built
        cases built
        exact represents_assemble (faithful.ok_iff.mp visited)
  exact ⟨represents, fun text => ⟨represents.candidates?_eq exact _,
    represents.length_candidates exact _, represents.candidates_iff exact _,
    fun _ callback => represents.findMapChecked?_eq exact callback text⟩⟩

end Search

/-- A pattern with two literals, one without, and one that shares a literal with the first. -/
def sharing : List (PatternSpec String) :=
  [⟨"Opera|Safari", false, "first"⟩, ⟨".5", false, "five"⟩, ⟨"Safari", false, "again"⟩]

/-- Compiled from the end, the set leads both literals of the first pattern to the first entry and
the one of the last pattern to the last entry, past the entry without literals. -/
theorem literals_lead_past_unrestricted :
    ∃ set, buildBy fromEnd sharing = .ok set ∧ set.literalToEntry = [0, 0, 2] ∧
      set.Represents sharing ∧
      set.candidates? hits "my OPERA".toList = some [true, true, false] ∧
      findMapChecked? hits set (fun data _ => some data) "my Safari 5" = some (some "first") := by
  have evaluated : (buildBy fromEnd sharing).toOption.map (fun set =>
      (set.literalToEntry, set.candidates hits "my OPERA".toList,
        set.findMap? (fun data _ => some data) "my Safari 5")) =
      some ([0, 0, 2], [true, true, false], some "first") := by
    decide +kernel
  cases built : buildBy fromEnd sharing with
  | error cause => simp [built, Except.toOption] at evaluated
  | ok set =>
      rw [built] at evaluated
      obtain ⟨owners, candidates, first⟩ :
          set.literalToEntry = [0, 0, 2] ∧
          set.candidates hits "my OPERA".toList = [true, true, false] ∧
          set.findMapBy? hits (fun data _ => some data) "my Safari 5" = some "first" := by
        simpa only [Except.toOption, findMap?, Option.map_some, Option.some.injEq,
          Prod.mk.injEq] using evaluated
      obtain ⟨represents, checked⟩ := buildBy_represents fromEnd_isFaithful hits_isExact built
      refine ⟨set, rfl, owners, represents, ?_, ?_⟩
      · exact (checked "my OPERA").1.trans (congrArg some candidates)
      · exact ((checked "my Safari 5").2.2.2 String _).trans (congrArg some first)

end AgentClassifier.PatternSet
