import Mathlib.Data.List.Infix
import AgentClassifier.Template

/-!
The values that templates and groups resolve to.

* `Blank.Shows`, `Blank.IsTrimmed` : some character is not blank, and neither the first nor the last
  one is.
* `Template.shows_of_expand`, `Template.isTrimmed_of_expand` : the value of a template shows, and it
  is trimmed where the template has a dollar sign.
* `Captures.infix_of_group?` : the text of a group is a part of the text that was searched.
* `Pattern.text_of_search` : this is the text that the search was asked for.
-/

namespace AgentClassifier

/-! ## Blank text -/

namespace Blank

variable {text : List Char} {c : Char}

/-- Some character is not blank. -/
def Shows (text : List Char) : Prop := ∃ c ∈ text, isBlank c = false

/-- Neither the first nor the last character is blank. -/
structure IsTrimmed (text : List Char) : Prop where
  first : ∀ c, text.head? = some c → isBlank c = false
  last : ∀ c, text.getLast? = some c → isBlank c = false

theorem Shows.ne_nil (shows : Shows text) : text ≠ [] := by
  obtain ⟨c, member, _⟩ := shows
  exact List.ne_nil_of_mem member

theorem isBlank_of_head?_trimStart (first : (trimStart text).head? = some c) :
    isBlank c = false := by
  have stopped := List.head?_dropWhile_not isBlank text
  rw [trimStart] at first
  rw [first] at stopped
  exact stopped

theorem trimEnd_prefix (text : List Char) : trimEnd text <+: text := by
  rw [← List.reverse_suffix, trimEnd, List.reverse_reverse]
  exact List.dropWhile_suffix isBlank

theorem isTrimmed_trim (text : List Char) : IsTrimmed (trim text) where
  first c first := by
    -- what was dropped at the end was not at the start
    obtain ⟨dropped, split⟩ := trimEnd_prefix (trimStart text)
    refine @isBlank_of_head?_trimStart text c ?_
    rw [← split, ← trim, List.head?_append, first, Option.some_or]
  last c last := by
    rw [trim, trimEnd, List.getLast?_reverse] at last
    exact isBlank_of_head?_trimStart last

theorem unlessBlank_eq_some_iff {kept : List Char} :
    unlessBlank text = some kept ↔ text = kept ∧ Shows kept := by
  have shows_iff : Shows text ↔ ¬ text.all isBlank = true := by
    simp [Shows]
  unfold unlessBlank
  split
  · next blank =>
      simp only [reduceCtorEq, false_iff]
      rintro ⟨rfl, shows⟩
      exact shows_iff.mp shows blank
  · next visible =>
      rw [Option.some.injEq]
      constructor
      · rintro rfl
        exact ⟨rfl, shows_iff.mpr visible⟩
      · exact And.left

end Blank

/-! ## Templates -/

namespace Template

variable {template value : String} {captures : Captures}

theorem shows_of_expand (expanded : expand template captures = some value) :
    Blank.Shows value.toList := by
  -- both with a dollar sign and without one, the last thing is to drop a blank value
  dsimp only [expand] at expanded
  split at expanded
  · obtain ⟨kept, unblank, rfl⟩ := Option.map_eq_some_iff.mp expanded
    rw [String.toList_ofList]
    exact (Blank.unlessBlank_eq_some_iff.mp unblank).2
  · obtain ⟨kept, unblank, rfl⟩ := Option.map_eq_some_iff.mp expanded
    obtain ⟨rfl, shows⟩ := Blank.unlessBlank_eq_some_iff.mp unblank
    exact shows

theorem isTrimmed_of_expand (expanded : expand template captures = some value)
    (refers : '$' ∈ template.toList) : Blank.IsTrimmed value.toList := by
  dsimp only [expand] at expanded
  rw [if_pos (List.contains_iff_mem.mpr refers)] at expanded
  obtain ⟨kept, unblank, rfl⟩ := Option.map_eq_some_iff.mp expanded
  obtain ⟨rfl, _⟩ := Blank.unlessBlank_eq_some_iff.mp unblank
  rw [String.toList_ofList]
  exact Blank.isTrimmed_trim _

end Template

/-! ## Groups -/

namespace Captures

variable {captures : Captures} {group : Nat} {value : String}

/-- Whatever a group recorded, its text is a part of the text that was searched. -/
theorem infix_of_group? (recorded : captures.group? group = some value) :
    value.toList <:+: captures.text.toList := by
  obtain ⟨⟨start, stop⟩, _, rfl⟩ := Option.map_eq_some_iff.mp recorded
  rw [String.toList_ofList, Array.toList_extract, List.extract_eq_take_drop]
  exact (List.take_prefix _ _).isInfix.trans (List.drop_suffix start _).isInfix

theorem nonempty?_eq_some_iff :
    captures.nonempty? group = some value ↔ captures.group? group = some value ∧ value ≠ "" := by
  rw [nonempty?, Option.filter_eq_some_iff, bne_iff_ne]

end Captures

/-! ## Searches -/

namespace Pattern

theorem Outcome.map_eq_found_iff {α β : Type} {outcome : Outcome α} {f : α → β} {value : β} :
    outcome.map f = .found value ↔ ∃ found, outcome = .found found ∧ f found = value := by
  cases outcome <;> simp [Outcome.map]

variable {pattern : Pattern} {captures : Captures}

theorem text_of_searchIn {subject : Subject} (found : pattern.searchIn subject = .found captures) :
    captures.text = subject := by
  unfold searchIn at found
  split at found
  · split at found
    · cases found
      rfl
    · cases found
  · obtain ⟨memory, _, rfl⟩ := Outcome.map_eq_found_iff.mp found
    rfl

theorem text_of_search {text : String} (found : pattern.search text = .found captures) :
    captures.text.toList = text.toList := by
  rw [text_of_searchIn found]

end Pattern

end AgentClassifier
