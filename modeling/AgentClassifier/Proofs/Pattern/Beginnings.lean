import Mathlib.Data.String.Basic
import AgentClassifier.Pattern.Literals
import AgentClassifier.Proofs.Pattern.Language

/-!
Every match of an expression starts with one of its literals.

* `Literal.Starts`, `Beginnings.Cover` : a literal, and one of a choice of literals, starts a match.
* `Beginnings.Cover.followedBy`, `Beginnings.Cover.orElse`, `Beginnings.Cover.power` : what the
  operations on choices cover, however they cut the literals.
* `Extraction.Covers` : an expression covers its matches alone, behind others and beside others.
* `Regular.beginnings_cover` : the beginnings of an expression cover its matches.
* `leadingLiterals_spec` : the literals of a pattern come from its bare reading; they are as long
  as asked, and one of them stands where a match starts.
-/

namespace AgentClassifier.Pattern

variable {text : Subject} {position start middle stop : Nat}

/-! ## Texts -/

/-- The characters stand in the text from a position on. -/
def StandsAt (text : Subject) (chars : List Char) (position : Nat) : Prop :=
  chars <+: text.toList.drop position

namespace StandsAt

theorem nil : StandsAt text [] position := List.nil_prefix

theorem singleton {c : Char} (present : text[position]? = some c) :
    StandsAt text [c] position := by
  obtain ⟨bound, rfl⟩ := Array.getElem?_eq_some_iff.mp present
  rw [StandsAt, List.drop_eq_getElem_cons (by simpa using bound), Array.getElem_toList]
  exact List.prefix_append [_] _

theorem append {first second : List Char} (before : StandsAt text first position)
    (after : StandsAt text second (position + first.length)) :
    StandsAt text (first ++ second) position := by
  rw [StandsAt, ← List.drop_drop] at after
  rw [StandsAt, ← List.prefix_iff_eq_append.mp before]
  exact List.prefix_append_right_inj first |>.mpr after

end StandsAt

/-! ## Literals -/

namespace Literal

variable {literal other : Literal}

/-- The literal starts the match between two positions; an exact one is the whole match. -/
def Starts (text : Subject) (literal : Literal) (start stop : Nat) : Prop :=
  StandsAt text literal.chars start ∧
    (literal.exact = true → stop = start + literal.chars.length)

theorem starts_unit : unit.Starts text start start := ⟨.nil, fun _ => rfl⟩

theorem starts_char {c : Char} (present : text[position]? = some c) :
    (ofChars [c]).Starts text position (position + 1) :=
  ⟨.singleton present, fun _ => rfl⟩

/-- A literal that says less starts the match as well. -/
theorem Starts.weaken (here : literal.Starts text start stop)
    (initial : other.chars <+: literal.chars)
    (exact : other.exact = true → literal.exact = true ∧ other.chars = literal.chars) :
    other.Starts text start stop := by
  refine ⟨initial.trans here.1, fun isExact => ?_⟩
  obtain ⟨whole, same⟩ := exact isExact
  rw [same]
  exact here.2 whole

/-- An inexact literal starts every longer or shorter match from the same position. -/
theorem Starts.extend (here : literal.Starts text start stop) (inexact : literal.exact = false)
    (further : Nat) : literal.Starts text start further :=
  ⟨here.1, fun exact => by rw [inexact] at exact; cases exact⟩

theorem Starts.makeInexact (here : literal.Starts text start stop) (further : Nat) :
    literal.makeInexact.Starts text start further :=
  ⟨here.1, nofun⟩

theorem Starts.append (first : literal.Starts text start middle)
    (second : other.Starts text middle stop) : (literal.append other).Starts text start stop := by
  unfold Literal.append
  cases exact : literal.exact with
  | false => exact first.extend exact stop
  | true =>
      obtain rfl := first.2 exact
      refine ⟨first.1.append second.1, fun isExact => ?_⟩
      rw [second.2 isExact, if_pos rfl, List.length_append, Nat.add_assoc]

theorem firstBytes_initial (chars : List Char) (cut : List UInt8) (limit : Nat) :
    (firstBytes chars cut limit).1 <+: chars := by
  induction chars generalizing limit with
  | nil => exact List.prefix_rfl
  | cons c rest ih =>
      rw [firstBytes]
      split
      · exact (List.prefix_append_right_inj [c]).mpr (ih _)
      · exact List.nil_prefix

theorem Starts.keepFirst (here : literal.Starts text start stop) (limit : Nat) :
    (literal.keepFirst limit).Starts text start stop := by
  unfold Literal.keepFirst
  split
  · exact here
  · exact here.weaken (firstBytes_initial _ _ _) nofun

end Literal

/-! ## Choices of literals -/

namespace Beginnings

variable {beginnings first second done : Beginnings}

/-- One of the literals starts the match between two positions. -/
def Cover (text : Subject) (beginnings : Beginnings) (start stop : Nat) : Prop :=
  ∀ literals, beginnings = some literals → ∃ literal ∈ literals, literal.Starts text start stop

theorem cover_none : Cover text none start stop := nofun

theorem cover_some {literals : List Literal} :
    Cover text (some literals) start stop ↔
      ∃ literal ∈ literals, literal.Starts text start stop := by
  simp [Cover]

theorem cover_unit : Cover text unit start start :=
  cover_some.mpr ⟨Literal.unit, List.mem_singleton_self _, Literal.starts_unit⟩

/-- Joining neighbours of the same text keeps a literal that starts the match. -/
theorem starts_dedup {literals : List Literal}
    (here : ∃ literal ∈ literals, literal.Starts text start stop) :
    ∃ literal ∈ dedup literals, literal.Starts text start stop := by
  induction literals with
  | nil => exact here
  | cons first rest ih =>
      rw [List.exists_mem_cons_iff] at here
      have here := here.imp_right ih
      rw [dedup]
      cases later : dedup rest with
      | nil =>
          rw [later] at here
          rw [List.exists_mem_cons_iff]
          exact here
      | cons next others =>
          rw [later, List.exists_mem_cons_iff] at here
          dsimp only
          split
          · next same =>
              -- the joined literal is exact only if both were
              rw [List.exists_mem_cons_iff]
              rcases here with here | here | here
              · exact .inl (here.weaken List.prefix_rfl fun exact =>
                  ⟨(Bool.and_eq_true_iff.mp exact).1, rfl⟩)
              · exact .inl (here.weaken (same.1 ▸ List.prefix_rfl) fun exact =>
                  ⟨(Bool.and_eq_true_iff.mp exact).2, same.1⟩)
              · exact .inr here
          · rw [List.exists_mem_cons_iff, List.exists_mem_cons_iff]
            exact here

theorem starts_map {change : Literal → Literal} {literals : List Literal} {further : Nat}
    (keeps : ∀ literal : Literal, literal.Starts text start stop →
      (change literal).Starts text start further)
    (here : ∃ literal ∈ literals, literal.Starts text start stop) :
    ∃ literal ∈ literals.map change, literal.Starts text start further := by
  obtain ⟨literal, member, here⟩ := here
  exact ⟨change literal, List.mem_map_of_mem member, keeps literal here⟩

theorem Cover.map {change : Literal → Literal} {further : Nat}
    (covers : beginnings.Cover text start stop)
    (keeps : ∀ literal : Literal, literal.Starts text start stop →
      (change literal).Starts text start further) :
    Cover text (beginnings.map fun literals => literals.map change) start further := by
  cases beginnings with
  | none => exact cover_none
  | some literals => exact cover_some.mpr (starts_map keeps (cover_some.mp covers))

theorem Cover.makeInexact (covers : beginnings.Cover text start stop) (further : Nat) :
    Cover text beginnings.makeInexact start further :=
  covers.map fun _ here => here.makeInexact further

theorem Cover.keepFirst (covers : beginnings.Cover text start stop) (limit : Nat) :
    Cover text (beginnings.keepFirst limit) start stop :=
  covers.map fun _ here => here.keepFirst limit

/-- Beginnings that cannot be extended cover every longer or shorter match. -/
theorem Cover.of_inexact (covers : beginnings.Cover text start stop)
    (inexact : beginnings.isInexact = true) (further : Nat) :
    Cover text beginnings start further := by
  rintro literals rfl
  obtain ⟨literal, member, here⟩ := covers literals rfl
  have own : literal.exact = false := by simpa using List.all_eq_true.mp inexact literal member
  exact ⟨literal, member, here.extend own further⟩

theorem Cover.followedBy (before : first.Cover text start middle)
    (after : second.Cover text middle stop) :
    Cover text (first.followedBy second) start stop := by
  cases first with
  | none => exact cover_none
  | some firsts =>
      have here := cover_some.mp before
      have inexact : Cover text (if firsts.any fun literal => literal.byteSize == 0 then none
          else some (firsts.map Literal.makeInexact)) start stop := by
        split
        · exact cover_none
        · exact cover_some.mpr (starts_map (fun _ here => here.makeInexact stop) here)
      cases second with
      | none => exact inexact
      | some seconds =>
          rw [Beginnings.followedBy]
          split
          · exact inexact
          · refine Cover.keepFirst (cover_some.mpr (starts_dedup ?_)) _
            obtain ⟨literal, member, here⟩ := here
            obtain ⟨other, isNext, next⟩ := cover_some.mp after
            cases exact : literal.exact with
            | false =>
                refine ⟨literal, List.mem_flatMap.mpr ⟨literal, member, ?_⟩,
                  here.extend exact stop⟩
                rw [exact]
                exact List.mem_singleton_self _
            | true =>
                refine ⟨literal.append other, List.mem_flatMap.mpr ⟨literal, member, ?_⟩,
                  here.append next⟩
                rw [exact]
                exact List.mem_map_of_mem isNext

theorem Cover.extend (before : first.Cover text start middle)
    (after : second.Cover text middle stop) : Cover text (first.extend second) start stop := by
  unfold Beginnings.extend
  split
  · next inexact => exact before.of_inexact inexact stop
  · exact before.followedBy after

theorem Cover.orElse (covers : first.Cover text start stop ∨ second.Cover text start stop) :
    Cover text (first.orElse second) start stop := by
  cases first with
  | none => exact cover_none
  | some firsts =>
      cases second with
      | none => exact cover_none
      | some seconds =>
          rw [cover_some, cover_some] at covers
          rw [Beginnings.orElse]
          split
          · refine cover_some.mpr (starts_dedup ?_)
            simpa only [List.mem_append, or_and_right, exists_or] using covers
          · dsimp only
            split
            · refine cover_some.mpr (starts_dedup ?_)
              have shorten : ∀ literals : List Literal,
                  (∃ literal ∈ literals, literal.Starts text start stop) →
                  ∃ literal ∈ dedup (literals.map fun literal => literal.keepFirst 4),
                    literal.Starts text start stop :=
                fun _ here => starts_dedup (starts_map (fun _ here => here.keepFirst 4) here)
              simpa only [List.mem_append, or_and_right, exists_or] using
                covers.imp (shorten _) (shorten _)
            · exact cover_none

theorem Cover.power {once : Nat → Nat → Prop} {count : Nat}
    (covers : ∀ start stop, once start stop → beginnings.Cover text start stop)
    (before : done.Cover text start middle) (steps : Iterated once count middle stop) :
    Cover text (beginnings.power count done) start stop := by
  induction count generalizing done middle with
  | zero =>
      obtain rfl := steps
      exact before
  | succ count ih =>
      obtain ⟨next, step, rest⟩ := steps
      rw [Beginnings.power]
      split
      · next inexact => exact before.of_inexact inexact stop
      · exact ih (before.followedBy (covers middle next step)) rest

/-- What covers one iteration of a repetition gives what covers all of them. -/
theorem Cover.repeated {iteration : Nat → Nat → Prop} {once : Beginnings} {low count : Nat}
    {high : Option Nat} (greedy : Bool)
    (covers : ∀ start stop, iteration start stop → once.Cover text start stop)
    (within : WithinBounds low high count) (steps : Iterated iteration count start stop) :
    Cover text (once.repeated low high greedy) start stop := by
  unfold Beginnings.repeated
  split
  · have either : Cover text (if high = some 1 then once else once.makeInexact) start stop ∨
        Cover text unit start stop := by
      cases count with
      | zero =>
          obtain rfl := steps
          exact .inr cover_unit
      | succ count =>
          obtain ⟨middle, step, rest⟩ := steps
          refine .inl ?_
          split
          · next atMostOnce =>
              have few := within.2 1 atMostOnce
              obtain rfl : count = 0 := by omega
              obtain rfl := rest
              exact covers _ _ step
          · exact (covers _ _ step).makeInexact stop
    dsimp only
    split
    · exact .orElse either
    · exact .orElse either.symm
  · dsimp only
    split
    · next fixed =>
        have few := within.2 low fixed.1
        have least := within.1
        obtain rfl : count = min low maxUnrolled := by
          rw [Nat.min_eq_left fixed.2]
          omega
        exact .power covers cover_unit steps
    · obtain ⟨further, rfl⟩ : ∃ further, count = min low maxUnrolled + further :=
        Nat.exists_eq_add_of_le (Nat.le_trans (Nat.min_le_left _ _) within.1)
      obtain ⟨middle, first, _⟩ := steps.split
      exact Cover.makeInexact (.power covers cover_unit first) stop

theorem Cover.ofWord {chars : List Char} (here : (Literal.ofChars chars).Starts text start stop) :
    Cover text (ofWord chars) start stop :=
  cover_some.mpr ⟨_, List.mem_singleton_self _, here.keepFirst _⟩

theorem mem_toList_of_holds {chars : CharSet} {c : Char} (held : chars.Holds c) :
    c ∈ chars.toList := by
  obtain ⟨range, member, least, most⟩ := held
  refine List.mem_flatMap.mpr ⟨range, member, List.mem_map.mpr ⟨c.toNat - range.1, ?_, ?_⟩⟩
  · exact List.mem_range.mpr (by omega)
  · rw [Nat.add_sub_cancel' least, Char.ofNat_toNat]

theorem Cover.ofSet {chars : CharSet} {c : Char} (present : text[start]? = some c)
    (held : chars.Holds c) : Cover text (ofSet chars) start (start + 1) := by
  unfold Beginnings.ofSet
  split
  · exact cover_none
  · exact cover_some.mpr ⟨_, List.mem_map_of_mem (mem_toList_of_holds held),
      Literal.starts_char present⟩

end Beginnings

/-! ## Expressions -/

namespace Lead

variable {lead : Lead}

/-- What a sequence has led with so far covers a match: the earlier pieces cover it up to the
current one. -/
def Cover (text : Subject) (lead : Lead) (start stop : Nat) : Prop :=
  ∃ middle, lead.done.Cover text start middle ∧
    (Literal.ofChars lead.word.reverse).Starts text middle stop

theorem cover_start : Lead.start.Cover text start start :=
  ⟨start, Beginnings.cover_unit, Literal.starts_unit⟩

theorem Cover.beginnings (covers : lead.Cover text start stop) :
    lead.beginnings.Cover text start stop := by
  obtain ⟨done, word⟩ := lead
  obtain ⟨middle, before, here⟩ := covers
  cases word with
  | nil =>
      obtain rfl : stop = middle := here.2 rfl
      exact before
  | cons => exact before.extend (.ofWord here)

theorem Cover.behind {next : Beginnings} (before : lead.Cover text start middle)
    (after : next.Cover text middle stop) : (lead.behind next).Cover text start stop :=
  ⟨stop, before.beginnings.extend after, Literal.starts_unit⟩

theorem Cover.push {c : Char} (before : lead.Cover text start middle)
    (present : text[middle]? = some c) : (lead.push c).Cover text start (middle + 1) := by
  obtain ⟨first, before, here⟩ := before
  refine ⟨first, before, ?_⟩
  rw [Lead.push, List.reverse_cons]
  exact here.append (Literal.starts_char present)

end Lead

/-- An expression that has some matches covers them in all of its places. -/
structure Extraction.Covers (text : Subject) (matched : Nat → Nat → Prop)
    (extraction : Extraction) : Prop where
  alone : ∀ {start stop}, matched start stop → (extraction.alone ()).Cover text start stop
  behind : ∀ {lead : Lead} {start middle stop}, lead.Cover text start middle →
    matched middle stop → (extraction.behind lead).Cover text start stop
  beside : ∀ {done : Beginnings} {start stop},
    (done.Cover text start stop ∨ matched start stop) →
      (extraction.beside done).Cover text start stop

namespace Extraction.Covers

variable {matched : Nat → Nat → Prop} {alone : Unit → Beginnings}
  (own : ∀ start stop, matched start stop → (alone ()).Cover text start stop)
include own

theorem ofBeginnings : (Extraction.ofBeginnings alone).Covers text matched where
  alone here := own _ _ here
  behind before here := before.behind (own _ _ here)
  beside either := .orElse (either.imp_right (own _ _))

/-- An expression that is a part of a piece. -/
theorem ofBehind {further : Lead → Lead}
    (behind : ∀ {lead : Lead} {start middle stop}, lead.Cover text start middle →
      matched middle stop → (further lead).Cover text start stop) :
    Covers text matched { Extraction.ofBeginnings alone with behind := further } :=
  ⟨(ofBeginnings own).alone, behind, (ofBeginnings own).beside⟩

end Extraction.Covers

namespace Regular

theorem single_of_holds {chars : CharSet} {c d : Char} (single : chars.single? = some c)
    (held : chars.Holds d) : d = c := by
  obtain ⟨ranges⟩ := chars
  unfold CharSet.single? at single
  split at single
  · next low high same =>
      dsimp only at same
      subst same
      split at single
      · next equal =>
          obtain rfl := Option.some.inj single
          obtain ⟨range, member, least, most⟩ := held
          obtain rfl := List.mem_singleton.mp member
          obtain rfl : low = d.toNat := by omega
          exact (Char.ofNat_toNat d).symm
      · cases single
  · cases single

theorem extraction_covers (expression : Regular) :
    expression.extraction.Covers text fun start stop => expression.Matches text start stop := by
  induction expression with
  | empty =>
      refine .ofBehind ?_ ?_
      · rintro start _ rfl
        exact Beginnings.cover_unit
      · rintro lead start middle _ before rfl
        exact before
  | set chars =>
      rw [extraction]
      split
      · next c single =>
          have only : ∀ {start stop}, (set chars).Matches text start stop →
              text[start]? = some c ∧ stop = start + 1 := by
            rintro start stop ⟨d, present, held, rfl⟩
            obtain rfl := single_of_holds single held
            exact ⟨present, rfl⟩
          refine .ofBehind ?_ ?_
          · intro start stop here
            obtain ⟨present, rfl⟩ := only here
            exact .ofWord (Literal.starts_char present)
          · intro lead start middle stop before here
            obtain ⟨present, rfl⟩ := only here
            exact before.push present
      · refine .ofBeginnings ?_
        rintro start stop ⟨c, present, held, rfl⟩
        exact .ofSet present held
  | assertion condition =>
      refine .ofBeginnings ?_
      rintro start stop ⟨_, rfl⟩
      exact Beginnings.cover_unit
  | group index body ih => exact .ofBeginnings fun _ _ here => ih.alone here
  | seq first second ihFirst ihSecond =>
      have behind : ∀ {lead : Lead} {start middle stop}, lead.Cover text start middle →
          (seq first second).Matches text middle stop →
            (second.extraction.behind (first.extraction.behind lead)).Cover text start stop := by
        rintro lead start middle stop before ⟨next, here, after⟩
        exact ihSecond.behind (ihFirst.behind before here) after
      exact .ofBehind (fun _ _ here => (behind Lead.cover_start here).beginnings) behind
  | alt first second ihFirst ihSecond =>
      have beside : ∀ {done : Beginnings} {start stop},
          (done.Cover text start stop ∨ (alt first second).Matches text start stop) →
            (second.extraction.beside (first.extraction.beside done)).Cover text start stop := by
        rintro done start stop (before | here | here)
        · exact ihSecond.beside (.inl (ihFirst.beside (.inl before)))
        · exact ihSecond.beside (.inl (ihFirst.beside (.inr here)))
        · exact ihSecond.beside (.inr here)
      have covers : (Extraction.ofBeginnings fun _ =>
          second.extraction.beside (first.extraction.beside (some []))).Covers text
            fun start stop => (alt first second).Matches text start stop :=
        .ofBeginnings fun _ _ here => beside (.inr here)
      exact ⟨covers.alone, covers.behind, beside⟩
  | repetition low high greedy body ih =>
      refine .ofBeginnings ?_
      rintro start stop ⟨count, within, steps⟩
      exact .repeated greedy (fun _ _ here => ih.alone here) within steps

/-- Every match of an expression starts with one of its beginnings. -/
theorem beginnings_cover {expression : Regular} (here : expression.Matches text start stop) :
    expression.beginnings.Cover text start stop :=
  (extraction_covers expression).alone here

end Regular

/-! ## Patterns -/

theorem byteSize_of_uncut {literal : Literal} (uncut : literal.cut = []) :
    literal.byteSize = (String.ofList literal.chars).utf8ByteSize := by
  have total : ∀ (chars : List Char) (before : Nat),
      chars.foldl (fun total c => total + c.utf8Size) before = before + String.utf8Len chars := by
    intro chars
    induction chars with
    | nil => simp
    | cons c rest ih =>
        intro before
        rw [List.foldl_cons, ih, String.utf8Len_cons]
        omega
  rw [String.utf8ByteSize_ofList, Literal.byteSize, total, uncut, List.length_nil, Nat.zero_add]

/-- A pattern has literals only if its bare text is in regular notation. The literals are as long
as asked, and one of them stands where a match of the bare reading starts. -/
theorem leadingLiterals_spec {pattern : List Char} {ignoreCase : Bool} {minBytes : Nat}
    (some : leadingLiterals pattern ignoreCase minBytes ≠ []) :
    (∀ literal ∈ leadingLiterals pattern ignoreCase minBytes,
      minBytes ≤ (String.ofList literal).utf8ByteSize) ∧
    ∃ expression, Regular.read? ignoreCase pattern = .some expression ∧
      ∀ (text : Subject) (start stop : Nat), expression.Matches text start stop →
        ∃ literal ∈ leadingLiterals pattern ignoreCase minBytes, StandsAt text literal start := by
  unfold leadingLiterals at some ⊢
  cases read : (Regular.read? ignoreCase pattern).bind Regular.beginnings with
  | none => simp [read] at some
  | some literals =>
      simp only [read] at some ⊢
      split at some
      · next long =>
          rw [if_pos long]
          obtain ⟨expression, isRead, beginnings⟩ := Option.bind_eq_some_iff.mp read
          refine ⟨?_, expression, isRead, fun text start stop here => ?_⟩
          · intro chars member
            obtain ⟨literal, isLiteral, rfl⟩ := List.mem_map.mp member
            obtain ⟨uncut, enough⟩ :=
              Bool.and_eq_true_iff.mp (List.all_eq_true.mp long literal isLiteral)
            rw [← byteSize_of_uncut (List.isEmpty_iff.mp uncut)]
            exact of_decide_eq_true enough
          · obtain ⟨literal, isLiteral, starts⟩ :=
              Regular.beginnings_cover here literals beginnings
            exact ⟨literal.chars, List.mem_map_of_mem isLiteral, starts.1⟩
      · cases some rfl

end AgentClassifier.Pattern
