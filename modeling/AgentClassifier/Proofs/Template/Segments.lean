import Mathlib.Data.List.Chain
import Mathlib.Data.List.TakeWhile
import AgentClassifier.Proofs.Template

/-!
A template is expanded in one pass over its text.

* `Blank.Strips` : a text without the blanks at its ends; `Blank.strips_iff` : this is `Blank.trim`.
* `Template.IsCut` : segments that make a template up, with every reference seen as one.
* `Template.isCut_iff` : each template is cut in one way only.
* `Template.raw_append` : a template in two parts is expanded part by part, unless the seam runs
  through a reference.
* `Template.expand_one_pass` : the cut of a template, which no captured text changes, gives its value.
-/

namespace AgentClassifier

/-! ## Blank ends -/

namespace Blank

variable {text kept : List Char}

/-- A text is `kept` with blanks before and after it, and `kept` has none at its ends. -/
structure Strips (text kept : List Char) : Prop where
  around : ∃ before after, text = before ++ kept ++ after ∧
    (∀ c ∈ before, isBlank c = true) ∧ ∀ c ∈ after, isBlank c = true
  trimmed : IsTrimmed kept

theorem exists_trimStart (text : List Char) :
    ∃ before, text = before ++ trimStart text ∧ ∀ c ∈ before, isBlank c = true :=
  ⟨text.takeWhile isBlank, List.takeWhile_append_dropWhile.symm, fun _ => List.mem_takeWhile_imp⟩

theorem exists_trimEnd (text : List Char) :
    ∃ after, text = trimEnd text ++ after ∧ ∀ c ∈ after, isBlank c = true := by
  obtain ⟨dropped, split, blank⟩ := exists_trimStart text.reverse
  refine ⟨dropped.reverse, ?_, fun c member => blank c (List.mem_reverse.mp member)⟩
  rw [trimEnd, ← List.reverse_append, ← split, List.reverse_reverse]

theorem strips_trim (text : List Char) : Strips text (trim text) where
  around := by
    obtain ⟨before, splitStart, blankBefore⟩ := exists_trimStart text
    obtain ⟨after, splitEnd, blankAfter⟩ := exists_trimEnd (trimStart text)
    refine ⟨before, after, ?_, blankBefore, blankAfter⟩
    rw [List.append_assoc, trim, ← splitEnd, ← splitStart]
  trimmed := isTrimmed_trim text

theorem trimStart_append {before rest : List Char} (blank : ∀ c ∈ before, isBlank c = true)
    (first : ∀ c, rest.head? = some c → isBlank c = false) :
    trimStart (before ++ rest) = rest := by
  rw [trimStart, List.dropWhile_append_of_pos blank]
  cases rest with
  | nil => rfl
  | cons c rest =>
      rw [List.dropWhile_cons_of_neg]
      rw [first c rfl]
      exact Bool.false_ne_true

theorem trimEnd_append {rest after : List Char} (blank : ∀ c ∈ after, isBlank c = true)
    (last : ∀ c, rest.getLast? = some c → isBlank c = false) :
    trimEnd (rest ++ after) = rest := by
  rw [trimEnd, List.reverse_append, trimStart_append, List.reverse_reverse]
  · exact fun c member => blank c (List.mem_reverse.mp member)
  · rwa [List.head?_reverse]

/-- What is left of a text without its blank ends is determined by the text. -/
theorem strips_iff : Strips text kept ↔ trim text = kept := by
  constructor
  · rintro ⟨⟨before, after, rfl, blankBefore, blankAfter⟩, trimmed⟩
    cases kept with
    | nil =>
        -- nothing but blanks, so that the start already ends the text
        have blank : ∀ c ∈ before ++ after, isBlank c = true :=
          List.forall_mem_append.mpr ⟨blankBefore, blankAfter⟩
        have emptied : trimStart ((before ++ after) ++ []) = [] := trimStart_append blank nofun
        rw [List.append_nil] at emptied ⊢
        rw [trim, emptied]
        rfl
    | cons c rest =>
        have head : ∀ d, ((c :: rest) ++ after).head? = some d → isBlank d = false := trimmed.first
        rw [List.append_assoc, trim, trimStart_append blankBefore head,
          trimEnd_append blankAfter trimmed.last]
  · rintro rfl
    exact strips_trim text

theorem shows_of_strips (strips : Strips text kept) : Shows kept ↔ kept ≠ [] := by
  refine ⟨Shows.ne_nil, fun some => ?_⟩
  obtain ⟨c, rest, rfl⟩ := List.exists_cons_of_ne_nil some
  exact ⟨c, List.mem_cons_self, strips.trimmed.first c rfl⟩

end Blank

namespace Template

/-! ## Cuts -/

/-- How a segment is written. -/
def Segment.written : Segment → List Char
  | reference group => ['$', Nat.digitChar group]
  | char c => [c]

/-- Two segments can stand side by side: a dollar sign for itself has no digit behind it. -/
def Segment.Beside (segment next : Segment) : Prop :=
  segment = .char '$' → ∀ c, next = .char c → digit? c = none

/-- The segments make the template up, a reference has one digit, and no dollar sign with a digit
behind it is left to stand for itself. -/
structure IsCut (template : List Char) (pieces : List Segment) : Prop where
  written : pieces.flatMap Segment.written = template
  oneDigit : ∀ group, .reference group ∈ pieces → group < 10
  separate : pieces.IsChain Segment.Beside

/-- A digit is the character that its value is written with. -/
theorem digit?_eq_some_iff {c : Char} {group : Nat} :
    digit? c = some group ↔ group < 10 ∧ c = Nat.digitChar group := by
  have within : '0' ≤ c ∧ c ≤ '9' ↔ 48 ≤ c.toNat ∧ c.toNat ≤ 57 := Iff.rfl
  rw [digit?, Option.ite_none_right_eq_some, within, Option.some.injEq]
  change _ ∧ c.toNat - 48 = group ↔ _
  constructor
  · rintro ⟨bounds, rfl⟩
    have small : c.toNat - 48 < 10 := by omega
    refine ⟨small, Char.toNat_inj.mp ?_⟩
    rw [Nat.toNat_digitChar_of_lt_ten small]
    omega
  · rintro ⟨small, rfl⟩
    rw [Nat.toNat_digitChar_of_lt_ten small]
    omega

/-! ## The cut of a template -/

section Cut

variable {template rest first second : List Char} {pieces : List Segment} {c : Char}

theorem segments_reference {group : Nat} (isDigit : digit? c = some group) :
    segments ('$' :: c :: rest) = .reference group :: segments rest := by
  rw [segments, if_pos rfl, isDigit]

theorem segments_char (alone : c = '$' → ∀ next, rest.head? = some next → digit? next = none) :
    segments (c :: rest) = .char c :: segments rest := by
  cases rest with
  | nil => rfl
  | cons next rest =>
      rw [segments]
      split
      · next dollar => rw [alone dollar next rfl]
      · rfl

theorem segments_dollar {next : Char} (notDigit : digit? next = none) :
    segments ('$' :: next :: rest) = .char '$' :: segments (next :: rest) :=
  segments_char fun _ _ head => by rwa [← Option.some.inj head]

theorem segments_other (other : c ≠ '$') : segments (c :: rest) = .char c :: segments rest :=
  segments_char fun dollar => absurd dollar other

theorem written_segments (template : List Char) :
    (segments template).flatMap Segment.written = template := by
  induction template using segments.induct with
  | case1 => rfl
  | case2 c => rfl
  | case3 next rest group isDigit ih =>
      obtain ⟨_, rfl⟩ := digit?_eq_some_iff.mp isDigit
      rw [segments_reference isDigit, List.flatMap_cons, ih]
      rfl
  | case4 next rest notDigit ih =>
      rw [segments_dollar notDigit, List.flatMap_cons, ih]
      rfl
  | case5 c next rest other ih =>
      rw [segments_other other, List.flatMap_cons, ih]
      rfl

/-- A segment that is a character at the start of a cut is the first character of the template. -/
theorem head?_of_segments (char : (segments template).head? = some (.char c)) :
    template.head? = some c := by
  obtain ⟨others, split⟩ := List.head?_eq_some_iff.mp char
  rw [← written_segments template, split]
  rfl

theorem getLast?_of_segments (char : (segments template).getLast? = some (.char c)) :
    template.getLast? = some c := by
  obtain ⟨others, split⟩ := List.getLast?_eq_some_iff.mp char
  rw [← written_segments template, split, List.flatMap_append]
  exact List.getLast?_concat

theorem isCut_segments (template : List Char) : IsCut template (segments template) where
  written := written_segments template
  oneDigit := by
    induction template using segments.induct with
    | case1 => exact nofun
    | case2 c => simp [segments]
    | case3 next rest group isDigit ih =>
        rw [segments_reference isDigit]
        intro other member
        rcases List.mem_cons.mp member with same | later
        · cases same
          exact (digit?_eq_some_iff.mp isDigit).1
        · exact ih other later
    | case4 next rest notDigit ih =>
        rw [segments_dollar notDigit]
        simpa using ih
    | case5 c next rest other ih =>
        rw [segments_other other]
        simpa using ih
  separate := by
    induction template using segments.induct with
    | case1 => exact .nil
    | case2 c => exact .singleton _
    | case3 next rest group isDigit ih =>
        rw [segments_reference isDigit, List.isChain_cons]
        exact ⟨fun _ _ => nofun, ih⟩
    | case4 next rest notDigit ih =>
        rw [segments_dollar notDigit, List.isChain_cons]
        refine ⟨?_, ih⟩
        rintro _ first _ c rfl
        rwa [← Option.some.inj (head?_of_segments first)]
    | case5 c next rest other ih =>
        rw [segments_other other, List.isChain_cons]
        exact ⟨fun _ _ dollar => absurd (Segment.char.inj dollar) other, ih⟩

theorem segments_of_isCut (cut : IsCut template pieces) : segments template = pieces := by
  obtain ⟨rfl, oneDigit, separate⟩ := cut
  induction pieces with
  | nil => rfl
  | cons piece rest ih =>
      obtain ⟨beside, separate⟩ := List.isChain_cons.mp separate
      have later := ih (fun group member => oneDigit group (List.mem_cons_of_mem _ member)) separate
      rw [List.flatMap_cons]
      cases piece with
      | reference group =>
          have small := oneDigit group List.mem_cons_self
          exact (segments_reference (digit?_eq_some_iff.mpr ⟨small, rfl⟩)).trans
            (congrArg _ later)
      | char c =>
          refine (segments_char fun dollar next head => ?_).trans (congrArg _ later)
          -- the next segment is no digit, or a reference, which begins with a dollar sign
          cases rest with
          | nil => cases head
          | cons piece others =>
              cases piece with
              | reference group =>
                  obtain rfl := Option.some.inj head
                  rfl
              | char d =>
                  obtain rfl := Option.some.inj head
                  exact beside _ rfl (congrArg _ dollar) d rfl

/-- Each template is cut in one way only. -/
theorem isCut_iff : IsCut template pieces ↔ pieces = segments template := by
  constructor
  · exact fun cut => (segments_of_isCut cut).symm
  · rintro rfl
    exact isCut_segments template

/-! ## Expansion -/

/-- The seam between two parts of a template runs through a reference. -/
def SplitsReference (first second : List Char) : Prop :=
  first.getLast? = some '$' ∧ ∃ c group, second.head? = some c ∧ digit? c = some group

theorem segments_append (whole : ¬ SplitsReference first second) :
    segments (first ++ second) = segments first ++ segments second := by
  have cutFirst := isCut_segments first
  have cutSecond := isCut_segments second
  refine segments_of_isCut ⟨?_, fun group member => ?_, ?_⟩
  · rw [List.flatMap_append, cutFirst.written, cutSecond.written]
  · rcases List.mem_append.mp member with early | late
    · exact cutFirst.oneDigit group early
    · exact cutSecond.oneDigit group late
  · refine List.isChain_append.mpr ⟨cutFirst.separate, cutSecond.separate, ?_⟩
    rintro _ last _ head rfl c rfl
    cases isDigit : digit? c with
    | none => rfl
    | some group =>
        exact absurd ⟨getLast?_of_segments last, c, group, head?_of_segments head, isDigit⟩ whole

theorem raw_append (whole : ¬ SplitsReference first second) (captures : Captures) :
    raw (first ++ second) captures = raw first captures ++ raw second captures := by
  rw [raw, segments_append whole, List.flatMap_append]
  rfl

end Cut

variable {template value : String} {captures : Captures}

theorem expand_of_plain (plain : '$' ∉ template.toList) :
    expand template captures = some value ↔ value = template ∧ Blank.Shows template.toList := by
  dsimp only [expand]
  rw [if_neg (mt List.contains_iff_mem.mp plain), Option.map_eq_some_iff]
  constructor
  · rintro ⟨kept, unblank, rfl⟩
    obtain ⟨rfl, shows⟩ := Blank.unlessBlank_eq_some_iff.mp unblank
    exact ⟨rfl, shows⟩
  · rintro ⟨rfl, shows⟩
    exact ⟨_, Blank.unlessBlank_eq_some_iff.mpr ⟨rfl, shows⟩, rfl⟩

theorem expand_of_references (refers : '$' ∈ template.toList) :
    expand template captures = some value ↔
      value ≠ "" ∧ Blank.Strips (raw template.toList captures) value.toList := by
  have empty : value = "" ↔ value.toList = [] := String.toList_eq_nil_iff.symm
  dsimp only [expand]
  rw [if_pos (List.contains_iff_mem.mpr refers), Option.map_eq_some_iff, ne_eq, empty]
  constructor
  · rintro ⟨kept, unblank, rfl⟩
    obtain ⟨rfl, shows⟩ := Blank.unlessBlank_eq_some_iff.mp unblank
    rw [String.toList_ofList]
    exact ⟨shows.ne_nil, Blank.strips_trim _⟩
  · rintro ⟨some, strips⟩
    have same := Blank.strips_iff.mp strips
    exact ⟨value.toList, Blank.unlessBlank_eq_some_iff.mpr
      ⟨same, (Blank.shows_of_strips strips).mpr some⟩, String.ofList_toList⟩

/-- A template is cut in one way only, before anything is known of a match; its segments with the
text of the groups in place of the references are `raw`, which is expanded part by part. The value
is the template itself where it has no dollar sign, and `raw` without its blank ends where it has
one; a blank value is none. -/
theorem expand_one_pass (template : String) :
    ∃ pieces, (∀ others, IsCut template.toList others ↔ others = pieces) ∧ ∀ captures,
      raw template.toList captures = pieces.flatMap (Segment.text captures) ∧
      (∀ first second, template.toList = first ++ second → ¬ SplitsReference first second →
        raw template.toList captures = raw first captures ++ raw second captures) ∧
      ('$' ∉ template.toList → ∀ value, expand template captures = some value ↔
        value = template ∧ Blank.Shows template.toList) ∧
      ('$' ∈ template.toList → ∀ value, expand template captures = some value ↔
        value ≠ "" ∧ Blank.Strips (raw template.toList captures) value.toList) := by
  refine ⟨segments template.toList, fun others => isCut_iff, fun captures => ⟨rfl, ?_, ?_, ?_⟩⟩
  · intro first second split whole
    rw [split, raw_append whole]
  · exact fun plain value => expand_of_plain plain
  · exact fun refers value => expand_of_references refers

/-- A match whose first group recorded what looks like a template. -/
def dollarMatch : Captures where
  text := "<$2\\9>".toList.toArray
  span? group := if group = 1 then some (1, 5) else none

/-- Two dollar signs, two digits, a dollar sign at the end and blanks of two scripts around them. -/
def dollarTemplate : String := "\u00a0$$1 $12$\u3000"

theorem dollars_of_groups_stay :
    '$' ∈ dollarTemplate.toList ∧
      expand dollarTemplate dollarMatch = some "$$2\\9 $2\\92$" ∧
      ¬ SplitsReference "\u00a0$".toList "$1 $12$\u3000".toList ∧
      raw dollarTemplate.toList dollarMatch =
        raw "\u00a0$".toList dollarMatch ++ raw "$1 $12$\u3000".toList dollarMatch ∧
      '$' ∉ " plain ".toList ∧ expand " plain " dollarMatch = some " plain " := by
  have refers : '$' ∈ dollarTemplate.toList := by decide
  have plain : '$' ∉ " plain ".toList := by decide
  have whole : ¬ SplitsReference "\u00a0$".toList "$1 $12$\u3000".toList := by
    rintro ⟨_, c, group, head, isDigit⟩
    obtain rfl := Option.some.inj head
    cases isDigit
  obtain ⟨_, _, expanded⟩ := expand_one_pass dollarTemplate
  obtain ⟨_, byParts, _, referring⟩ := expanded dollarMatch
  obtain ⟨_, _, itself⟩ := expand_one_pass " plain "
  refine ⟨refers, (referring refers _).mpr ⟨by decide, Blank.strips_iff.mpr (by decide +kernel)⟩,
    whole, byParts _ _ rfl whole, plain, ?_⟩
  exact ((itself dollarMatch).2.2.1 plain _).mpr ⟨rfl, 'p', by decide, by decide +kernel⟩

end Template

end AgentClassifier
