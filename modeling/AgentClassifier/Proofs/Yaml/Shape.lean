import AgentClassifier.Proofs.Traversal
import AgentClassifier.Yaml.Shape
import Mathlib.Data.List.Perm.Basic

/-!
What the nodes of a document without anchors hold.

* `Node.HasText`, `Node.HasEntries`, `Node.HasItems` : texts, the entries of mappings and the items
  of sequences.
* `Scalar.SaysNull`, `Node.Tells` : the scalars that say that there is no text, and what a node
  tells where a text may be missing.
* `valuesUnder` : the values of the entries under a key; `Given` : what they give where there is at
  most one.
* `Node.IsRecord` : a mapping with texts as keys, and with what it has under given ones.
* `Anchors.fields?_eq_some_iff`, `AreFields.read?_eq_some_iff` : records are read so.
* `Restated` : entries in another order, or with unknown keys more or fewer; they make the same
  record.
-/

namespace AgentClassifier.Yaml

variable {node : Node}

/-! ## Scalars -/

/-- The node is a scalar with the text. -/
def Node.HasText (node : Node) (text : String) : Prop :=
  ∃ tag style, node = .scalar tag ⟨style, text⟩

/-- The scalar says that there is no value: a plain one does without a tag if it is empty or a word
for that, and with the tag of missing values if it is such a word. -/
def Scalar.SaysNull (tag : Option String) (scalar : Scalar) : Prop :=
  scalar.style = .plain ∧
    (tag = none ∧ (scalar.text = "" ∨ isNull scalar.text = true) ∨
      tag = some nullTag ∧ isNull scalar.text = true)

/-- The plain scalar has the tag of missing values, but is no word for them. -/
def Scalar.IsMistagged (tag : Option String) (scalar : Scalar) : Prop :=
  scalar.style = .plain ∧ tag = some nullTag ∧ ¬ isNull scalar.text = true

/-- The node tells a text, or that there is none. -/
inductive Node.Tells : Node → Option String → Prop
  | null {tag : Option String} {scalar : Scalar} :
      scalar.SaysNull tag → Tells (.scalar tag scalar) none
  | text {tag : Option String} {scalar : Scalar} :
      ¬ scalar.SaysNull tag → ¬ scalar.IsMistagged tag →
      Tells (.scalar tag scalar) (some scalar.text)

theorem Scalar.IsMistagged.not_saysNull {tag : Option String} {scalar : Scalar}
    (wrong : scalar.IsMistagged tag) : ¬ scalar.SaysNull tag := by
  obtain ⟨_, rfl, noWord⟩ := wrong
  rintro ⟨_, ⟨untagged, _⟩ | ⟨_, word⟩⟩
  · cases untagged
  · exact noWord word

theorem Anchors.text?_eq_some_iff {text : String} :
    Anchors.text? [] node = some text ↔ node.HasText text := by
  cases node with
  | scalar tag scalar =>
      obtain ⟨style, own⟩ := scalar
      simp [Anchors.text?, Anchors.scalar?, Anchors.follow?, Node.HasText]
  | _ => simp [Anchors.text?, Anchors.scalar?, Anchors.follow?, Node.HasText]

instance decidableSaysNull (tag : Option String) (scalar : Scalar) :
    Decidable (scalar.SaysNull tag) :=
  inferInstanceAs (Decidable (_ ∧ _))

instance decidableIsMistagged (tag : Option String) (scalar : Scalar) :
    Decidable (scalar.IsMistagged tag) :=
  inferInstanceAs (Decidable (_ ∧ _))

theorem Anchors.optionalText?_scalar (tag : Option String) (scalar : Scalar) :
    Anchors.optionalText? [] (.scalar tag scalar) =
      if scalar.SaysNull tag then some none
      else if scalar.IsMistagged tag then none else some (some scalar.text) := by
  unfold Scalar.SaysNull Scalar.IsMistagged
  by_cases plain : scalar.style = .plain
  · cases tag with
    | none =>
        by_cases null : scalar.text = "" ∨ isNull scalar.text = true
        · simp [Anchors.optionalText?, Anchors.scalar?, Anchors.follow?, plain, null]
        · simp [Anchors.optionalText?, Anchors.scalar?, Anchors.follow?, plain, null]
    | some tag =>
        by_cases isNullTag : tag = nullTag
        · by_cases null : isNull scalar.text = true
          · simp [Anchors.optionalText?, Anchors.scalar?, Anchors.follow?, plain, isNullTag, null]
          · simp [Anchors.optionalText?, Anchors.scalar?, Anchors.follow?, plain, isNullTag, null]
        · simp [Anchors.optionalText?, Anchors.scalar?, Anchors.follow?, plain, isNullTag]
  · simp [Anchors.optionalText?, Anchors.scalar?, Anchors.follow?, plain]

theorem Anchors.optionalText?_eq_some_iff {value : Option String} :
    Anchors.optionalText? [] node = some value ↔ node.Tells value := by
  cases node with
  | scalar tag scalar =>
      rw [Anchors.optionalText?_scalar]
      constructor
      · intro read
        split at read
        · next null =>
            obtain rfl := Option.some.inj read
            exact .null null
        · next shown =>
            split at read
            · cases read
            · next plain =>
                obtain rfl := Option.some.inj read
                exact .text shown plain
      · rintro (null | ⟨shown, plain⟩)
        · rw [if_pos null]
        · rw [if_neg shown, if_neg plain]
  | _ =>
      constructor
      · intro read
        cases read
      · intro tells
        cases tells

/-- The node is a scalar, and not one whose tag is wrong. -/
def Node.IsOptionalText (node : Node) : Prop :=
  ∃ tag scalar, node = .scalar tag scalar ∧ ¬ scalar.IsMistagged tag

theorem Node.exists_tells_iff : (∃ value, node.Tells value) ↔ node.IsOptionalText := by
  constructor
  · rintro ⟨_, null | ⟨_, plain⟩⟩
    · exact ⟨_, _, rfl, fun wrong => wrong.not_saysNull null⟩
    · exact ⟨_, _, rfl, plain⟩
  · rintro ⟨tag, scalar, rfl, plain⟩
    by_cases null : scalar.SaysNull tag
    · exact ⟨none, .null null⟩
    · exact ⟨some scalar.text, .text null plain⟩

/-! ## Collections -/

/-- The node is a mapping with the entries; a plain scalar without text is an empty one. -/
inductive Node.HasEntries : Node → List (Node × Node) → Prop
  | mapping {entries : List (Node × Node)} : HasEntries (.mapping entries) entries
  | nothing {tag : Option String} : HasEntries (.scalar tag Scalar.empty) []

/-- The node is a sequence with the items; a plain scalar without text is an empty one. -/
inductive Node.HasItems : Node → List Node → Prop
  | sequence {items : List Node} : HasItems (.sequence items) items
  | nothing {tag : Option String} : HasItems (.scalar tag Scalar.empty) []

theorem Scalar.isNothing_iff {scalar : Scalar} :
    scalar.isNothing = true ↔ scalar = Scalar.empty := by
  obtain ⟨style, text⟩ := scalar
  simp [Scalar.isNothing, Scalar.empty]

theorem Anchors.entries?_eq_some_iff {entries : List (Node × Node)} :
    Anchors.entries? [] node = some entries ↔ node.HasEntries entries := by
  constructor
  · intro read
    cases node with
    | mapping own =>
        obtain rfl : own = entries := Option.some.inj read
        exact .mapping
    | scalar tag scalar =>
        obtain ⟨nothing, empty⟩ := Option.ite_none_right_eq_some.mp read
        obtain rfl := Scalar.isNothing_iff.mp nothing
        obtain rfl := Option.some.inj empty
        exact .nothing
    | _ => cases read
  · rintro (_ | _)
    · rfl
    · rfl

theorem Anchors.items?_eq_some_iff {items : List Node} :
    Anchors.items? [] node = some items ↔ node.HasItems items := by
  constructor
  · intro read
    cases node with
    | sequence own =>
        obtain rfl : own = items := Option.some.inj read
        exact .sequence
    | scalar tag scalar =>
        obtain ⟨nothing, empty⟩ := Option.ite_none_right_eq_some.mp read
        obtain rfl := Scalar.isNothing_iff.mp nothing
        obtain rfl := Option.some.inj empty
        exact .nothing
    | _ => cases read
  · rintro (_ | _)
    · rfl
    · rfl

/-! ## Lists -/

/-- The node is a sequence, and its items are in order what the values are made of. -/
def Node.Lists {α : Type} (isItem : Node → α → Prop) (node : Node) (values : List α) : Prop :=
  ∃ items, node.HasItems items ∧ List.Forall₂ isItem items values

/-- The node is a sequence of readable items. -/
def Node.IsListOf (readable : Node → Prop) (node : Node) : Prop :=
  ∃ items, node.HasItems items ∧ ∀ item ∈ items, readable item

theorem Anchors.list?_eq_some_iff {α : Type} {read? : Node → Option α} {isItem : Node → α → Prop}
    (reads : ∀ item x, read? item = some x ↔ isItem item x) {values : List α} :
    Anchors.list? [] read? node = some values ↔ node.Lists isItem values := by
  simp only [Anchors.list?, bind, Option.bind_eq_some_iff, Anchors.items?_eq_some_iff,
    Traversal.mapM_eq_some_iff, reads, Node.Lists]

theorem Node.exists_lists_iff {α : Type} {isItem : Node → α → Prop} :
    (∃ values, node.Lists isItem values) ↔ node.IsListOf fun item => ∃ x, isItem item x := by
  simp only [Node.Lists, Node.IsListOf, ← Traversal.exists_forall₂_iff, ← exists_and_left]
  exact exists_comm

/-! ## Values under keys -/

/-- The values of the entries under a key, in order. -/
def valuesUnder (name : String) (entries : List (Node × Node)) : List Node :=
  entries.filterMap fun entry =>
    if Anchors.text? [] entry.1 = some name then some entry.2 else none

/-- An entry whose key is a text has its value under this text only. -/
theorem valuesUnder_cons {entry : Node × Node} {entries : List (Node × Node)} {text name : String}
    (hasText : entry.1.HasText text) :
    valuesUnder name (entry :: entries) =
      if text = name then entry.2 :: valuesUnder name entries else valuesUnder name entries := by
  have read := Anchors.text?_eq_some_iff.mpr hasText
  rw [valuesUnder, List.filterMap_cons, read]
  simp only [Option.some.injEq]
  split_ifs <;> rfl

theorem valuesUnder_append (name : String) (first second : List (Node × Node)) :
    valuesUnder name (first ++ second) = valuesUnder name first ++ valuesUnder name second :=
  List.filterMap_append

/-- What the values under a key give: nothing but what is there where they are missing, and what the
value tells where there is a single one. -/
inductive Given {α : Type} (missing : α) (tells : Node → α → Prop) : List Node → α → Prop
  | missing : Given missing tells [] missing
  | single {value : Node} {x : α} : tells value x → Given missing tells [value] x

/-- There is at most one value, and it can be read. -/
structure Once (readable : Node → Prop) (values : List Node) : Prop where
  length_le : values.length ≤ 1
  readable : ∀ value ∈ values, readable value

section Values

variable {α : Type} {missing : α} {tells : Node → α → Prop} {values : List Node} {x : α}

theorem exists_given_iff :
    (∃ x, Given missing tells values x) ↔ Once (fun value => ∃ x, tells value x) values := by
  constructor
  · rintro ⟨x, none | told⟩
    · exact ⟨Nat.zero_le 1, nofun⟩
    · exact ⟨Nat.le_refl 1, List.forall_mem_singleton.mpr ⟨x, told⟩⟩
  · rintro ⟨short, readable⟩
    match values, short with
    | [], _ => exact ⟨missing, .missing⟩
    | [value], _ =>
        obtain ⟨x, told⟩ := readable value (List.mem_singleton_self value)
        exact ⟨x, .single told⟩

/-- A text that may be missing is given if there is at most one value, and this is a scalar. -/
theorem exists_given_tells_iff :
    (∃ value, Given none Node.Tells values value) ↔ Once Node.IsOptionalText values := by
  simp only [exists_given_iff, Node.exists_tells_iff]

/-- The order of the values does not matter, as there are not two of them. -/
theorem Given.of_perm {others : List Node} (given : Given missing tells values x)
    (perm : values.Perm others) : Given missing tells others x := by
  cases given with
  | missing =>
      obtain rfl := List.nil_perm.mp perm
      exact .missing
  | single told =>
      obtain rfl := List.singleton_perm.mp perm
      exact .single told

/-- One value may stand for another one that tells the same. -/
theorem Given.replace {before after : List Node} {value other : Node}
    (given : Given missing tells (before ++ value :: after) x)
    (alike : tells value x → tells other x) :
    Given missing tells (before ++ other :: after) x := by
  generalize found : before ++ value :: after = values at given
  cases given with
  | missing => simp at found
  | single told =>
      obtain ⟨rfl, same⟩ | ⟨_, impossible⟩ := List.append_eq_singleton_iff.mp found
      · obtain ⟨rfl, rfl⟩ := List.cons.inj same
        exact .single (alike told)
      · cases impossible

theorem given_map_iff {β : Type} {isItem : Node → β → Prop} {f : α → β} {elements : List α} :
    Given [] (Node.Lists isItem) values (elements.map f) ↔
      Given [] (Node.Lists fun item element => isItem item (f element)) values elements := by
  constructor
  · intro given
    generalize mapped : elements.map f = images at given
    cases given with
    | missing =>
        obtain rfl := List.map_eq_nil_iff.mp mapped
        exact .missing
    | single lists =>
        obtain ⟨items, hasItems, related⟩ := lists
        rw [← mapped, List.forall₂_map_right_iff] at related
        exact .single ⟨items, hasItems, related⟩
  · rintro (_ | ⟨items, hasItems, related⟩)
    · exact .missing
    · exact .single ⟨items, hasItems, List.forall₂_map_right_iff.mpr related⟩

end Values

/-! ## Records -/

/-- The node is a mapping with the entries, and all their keys are texts. -/
structure Node.IsKeyed (node : Node) (own : List (Node × Node)) : Prop where
  entries : node.HasEntries own
  keys : ∀ entry ∈ own, ∃ name, entry.1.HasText name

/-- The node is a record: the values under each name give what belongs to the name. -/
def Node.IsRecord {α : Type} (missing : α) (tells : Node → α → Prop) (node : Node)
    (fields : List (String × α)) : Prop :=
  ∃ entries, node.IsKeyed entries ∧
    ∀ field ∈ fields, Given missing tells (valuesUnder field.1 entries) field.2

/-- The fields are those of the entries, in the same order. -/
def AreFields (entries : List (Node × Node)) (fields : Fields) : Prop :=
  List.Forall₂ (fun entry field => entry.1.HasText field.1 ∧ field.2 = entry.2) entries fields

theorem Anchors.fields?_eq_some_iff {fields : Fields} :
    Anchors.fields? [] node = some fields ↔
      ∃ entries, node.HasEntries entries ∧ AreFields entries fields := by
  simp only [Anchors.fields?, bind, Option.bind_eq_some_iff, Anchors.entries?_eq_some_iff,
    Traversal.mapM_eq_some_iff, AreFields]
  have alike : ∀ (entry : Node × Node) (field : String × Node),
      ((Anchors.text? [] entry.1).map fun name => (name, entry.2)) = some field ↔
        entry.1.HasText field.1 ∧ field.2 = entry.2 := by
    rintro ⟨key, value⟩ ⟨name, own⟩
    simp only [Option.map_eq_some_iff, Anchors.text?_eq_some_iff, Prod.mk.injEq]
    constructor
    · rintro ⟨_, hasText, rfl, rfl⟩
      exact ⟨hasText, rfl⟩
    · rintro ⟨hasText, rfl⟩
      exact ⟨name, hasText, rfl, rfl⟩
  simp only [alike]

/-- The fields of a record are there if all keys are texts. -/
theorem exists_areFields_iff {entries : List (Node × Node)} :
    (∃ fields, AreFields entries fields) ↔ ∀ entry ∈ entries, ∃ name, entry.1.HasText name := by
  simp only [AreFields, Traversal.exists_forall₂_iff, Prod.exists, exists_eq_right]

theorem AreFields.values {entries : List (Node × Node)} {fields : Fields}
    (areFields : AreFields entries fields) (name : String) :
    (fields.filter fun field => field.1 == name).map Prod.snd = valuesUnder name entries := by
  induction areFields with
  | nil => rfl
  | @cons entry field entries fields first _ ih =>
      obtain ⟨hasText, same⟩ := first
      rw [valuesUnder_cons hasText, List.filter_cons, ← ih, ← same]
      by_cases under : field.1 = name
      · rw [if_pos (beq_iff_eq.mpr under), if_pos under, List.map_cons]
      · rw [if_neg (mt beq_iff_eq.mp under), if_neg under]

theorem AreFields.read?_eq_some_iff {entries : List (Node × Node)} {fields : Fields} {name : String}
    {α : Type} {missing x : α} {read? : Node → Option α} {tells : Node → α → Prop}
    (areFields : AreFields entries fields) (reads : ∀ node x, read? node = some x ↔ tells node x) :
    fields.read? name missing read? = some x ↔
      Given missing tells (valuesUnder name entries) x := by
  rw [← areFields.values name, Fields.read?]
  generalize (fields.filter fun field => field.1 == name) = found
  rcases found with _ | ⟨field, _ | ⟨other, rest⟩⟩
  · rw [Option.some.injEq]
    constructor
    · rintro rfl
      exact .missing
    · rintro ⟨⟩
      rfl
  · rw [reads]
    constructor
    · exact .single
    · rintro (_ | told)
      exact told
  · constructor
    · intro read
      cases read
    · intro given
      cases given

/-! ## Records written in another way -/

/-- The entries are written in another order, or one more or fewer of them has a scalar under a key
that is none of the known ones. -/
inductive Restated (known : List String) : List (Node × Node) → List (Node × Node) → Prop
  | permuted {first second : List (Node × Node)} : first.Perm second → Restated known first second
  | added {before after : List (Node × Node)} {key : Node} {name : String} {tag : Option String}
      {scalar : Scalar} : key.HasText name → name ∉ known →
      Restated known (before ++ after) (before ++ (key, .scalar tag scalar) :: after)
  | removed {before after : List (Node × Node)} {key : Node} {name : String} {tag : Option String}
      {scalar : Scalar} : key.HasText name → name ∉ known →
      Restated known (before ++ (key, .scalar tag scalar) :: after) (before ++ after)

namespace Restated

variable {known : List String} {first second : List (Node × Node)}

theorem symm (restated : Restated known first second) : Restated known second first := by
  cases restated with
  | permuted perm => exact .permuted perm.symm
  | added hasText unknown => exact .removed hasText unknown
  | removed hasText unknown => exact .added hasText unknown

/-- The values under a known key stay, up to their order. -/
theorem valuesUnder_perm (restated : Restated known first second) {name : String}
    (isKnown : name ∈ known) : (valuesUnder name first).Perm (valuesUnder name second) := by
  have unchanged {before after : List (Node × Node)} {key value : Node} {other : String}
      (hasText : key.HasText other) (unknown : other ∉ known) :
      valuesUnder name (before ++ (key, value) :: after) = valuesUnder name (before ++ after) := by
    have foreign : other ≠ name := fun same => unknown (same ▸ isKnown)
    rw [valuesUnder_append, valuesUnder_append, valuesUnder_cons hasText, if_neg foreign]
  cases restated with
  | permuted perm => exact perm.filterMap _
  | added hasText unknown => rw [unchanged hasText unknown]
  | removed hasText unknown => rw [unchanged hasText unknown]

theorem isKeyed (restated : Restated known first second)
    (keyed : (Node.mapping first).IsKeyed first) : (Node.mapping second).IsKeyed second := by
  refine ⟨.mapping, ?_⟩
  obtain ⟨_, keys⟩ := keyed
  cases restated with
  | permuted perm => exact fun entry member => keys entry (perm.mem_iff.mpr member)
  | added hasText _ =>
      simp only [List.forall_mem_append, List.forall_mem_cons] at keys ⊢
      exact ⟨keys.1, ⟨_, hasText⟩, keys.2⟩
  | removed _ _ =>
      simp only [List.forall_mem_append, List.forall_mem_cons] at keys ⊢
      exact ⟨keys.1, keys.2.2⟩

theorem isRecord {α : Type} {missing : α} {tells : Node → α → Prop} {fields : List (String × α)}
    (restated : Restated known first second) (within : ∀ field ∈ fields, field.1 ∈ known)
    (isRecord : (Node.mapping first).IsRecord missing tells fields) :
    (Node.mapping second).IsRecord missing tells fields := by
  obtain ⟨_, ⟨⟨⟩, keys⟩, gives⟩ := isRecord
  refine ⟨second, restated.isKeyed ⟨.mapping, keys⟩, fun field member => ?_⟩
  exact (gives field member).of_perm (restated.valuesUnder_perm (within field member))

end Restated

end AgentClassifier.Yaml
