import AgentClassifier.Proofs.Yaml.Shape
import AgentClassifier.Rules.Reader
import Mathlib.Data.List.Forall2
import Mathlib.Logic.Relation

/-!
Which table a document without anchors holds.

* `IsRule` : a record with the fields of a rule under their keys; `ReadsRules` : the readers of the
  three kinds of rules read such records.
* `RuleTable.IsWrittenIn` : a record with the lists of a table, a rule for each item in order.
* `RuleTable.IsReadableIn` : what a document needs for that; no field and no list has to be there.
* `RuleTable.Restates` : entries in another order, or with other keys more or fewer, in a table or
  in one of its rules; `RuleTable.Repeats` : a key twice.
* `ofText_follows_records` : the table that is read is the one that is written, however its records
  are stated, and a key that comes twice is an error.
-/

namespace AgentClassifier

open Yaml

/-! ## Rules -/

/-- The fields of a rule under the keys that they have in documents. -/
def UserAgentRule.written (rule : UserAgentRule) : List (String × Option String) :=
  [("regex", rule.regex), ("family_replacement", rule.family), ("v1_replacement", rule.major),
    ("v2_replacement", rule.minor)]

def OsRule.written (rule : OsRule) : List (String × Option String) :=
  [("regex", rule.regex), ("os_replacement", rule.family), ("os_v1_replacement", rule.major),
    ("os_v2_replacement", rule.minor), ("os_v3_replacement", rule.patch)]

def DeviceRule.written (rule : DeviceRule) : List (String × Option String) :=
  [("regex", rule.regex), ("regex_flag", rule.flag), ("device_replacement", rule.family),
    ("brand_replacement", rule.brand), ("model_replacement", rule.model)]

/-- A reader of rules reads records: a rule is written under the keys in their order, whatever its
fields are. -/
structure ReadsRules {ρ : Type} (ofNode? : Node → Option ρ)
    (written : ρ → List (String × Option String)) (keys : List String) : Prop where
  reads {node : Node} {rule : ρ} : ofNode? node = some rule ↔
    ∃ own, Anchors.fields? [] node = some own ∧ ∀ field ∈ written rule,
      own.read? field.1 none (Anchors.optionalText? []) = some field.2
  map_fst (rule : ρ) : (written rule).map Prod.fst = keys
  complete (value : String → Option String) :
    ∃ rule, written rule = keys.map fun key => (key, value key)

/-- What is found under a key is what was read for it, however often the key is there. -/
theorem lookup_of_mapM_eq_some {α : Type} {read? : String → Option α} {keys : List String}
    {values : List (String × α)}
    (read : keys.mapM (fun key => (read? key).map fun value => (key, value)) = some values)
    {key : String} (member : key ∈ keys) :
    ∃ value, read? key = some value ∧ values.lookup key = some value := by
  induction Traversal.mapM_eq_some_iff.mp read with
  | nil => cases member
  | @cons first _ _ _ isRead others ih =>
      obtain ⟨value, isValue, rfl⟩ := Option.map_eq_some_iff.mp isRead
      by_cases same : key = first
      · exact ⟨value, same ▸ isValue, by rw [same, List.lookup_cons_self]⟩
      · obtain ⟨value, isValue, found⟩ :=
          ih (Traversal.mapM_eq_some_iff.mpr others) (List.mem_of_ne_of_mem same member)
        exact ⟨value, isValue, by rw [List.lookup_cons, beq_false_of_ne same]; exact found⟩

/-- A rule that is made of the texts under its keys is read as the record that it is written as. -/
theorem ReadsRules.of_record {ρ : Type} {ofFields : (String → Option String) → ρ}
    {written : ρ → List (String × Option String)} {keys : List String}
    (written_ofFields : ∀ field, written (ofFields field) = keys.map fun key => (key, field key))
    (ofFields_written : ∀ rule, ofFields (fun key => ((written rule).lookup key).join) = rule) :
    ReadsRules (Anchors.record? [] keys ofFields) written keys := by
  have map_fst (rule : ρ) : (written rule).map Prod.fst = keys := by
    rw [← ofFields_written rule, written_ofFields, List.map_map]
    exact List.map_id keys
  refine ⟨fun {node rule} => ?_, map_fst, fun value => ⟨ofFields value, written_ofFields value⟩⟩
  constructor
  · intro isRead
    obtain ⟨own, isOwn, isRead⟩ := Option.bind_eq_some_iff.mp isRead
    obtain ⟨texts, areTexts, made⟩ := Option.bind_eq_some_iff.mp isRead
    obtain rfl := Option.some.inj made
    refine ⟨own, isOwn, ?_⟩
    rw [written_ofFields, List.forall_mem_map]
    intro key isKey
    obtain ⟨text, isText, found⟩ := lookup_of_mapM_eq_some areTexts isKey
    rw [found, isText, Option.join_some]
  · rintro ⟨own, isOwn, reads⟩
    -- the texts that are read are the fields of the rule
    have areTexts : (keys.mapM fun key =>
        (own.read? key none (Anchors.optionalText? [])).map fun text => (key, text)) =
          some (written rule) := by
      rw [← map_fst rule, Traversal.mapM_eq_some_iff, List.forall₂_map_left_iff, List.forall₂_same]
      intro field member
      rw [reads field member, Option.map_some]
    refine Option.bind_eq_some_iff.mpr ⟨own, isOwn, ?_⟩
    refine Option.bind_eq_some_iff.mpr ⟨written rule, areTexts, ?_⟩
    exact congrArg some (ofFields_written rule)

theorem UserAgentRule.readsRules :
    ReadsRules (UserAgentRule.ofNode? []) UserAgentRule.written UserAgentRule.keys :=
  .of_record (fun _ => rfl) fun _ => rfl

theorem OsRule.readsRules : ReadsRules (OsRule.ofNode? []) OsRule.written OsRule.keys :=
  .of_record (fun _ => rfl) fun _ => rfl

theorem DeviceRule.readsRules :
    ReadsRules (DeviceRule.ofNode? []) DeviceRule.written DeviceRule.keys :=
  .of_record (fun _ => rfl) fun _ => rfl

/-- The node is a record with the fields of a rule: a field is the text under its key, and there is
none where the key is missing or its scalar says so. -/
def IsRule (node : Node) (fields : List (String × Option String)) : Prop :=
  node.IsRecord none Node.Tells fields

/-- A rule can be read from the node: no key of a field comes twice, and its value is a scalar. No
field has to be there. -/
def IsReadableRule (keys : List String) (node : Node) : Prop :=
  ∃ entries, node.IsKeyed entries ∧ ∀ key ∈ keys,
    Once Node.IsOptionalText (valuesUnder key entries)

namespace ReadsRules

variable {ρ : Type} {ofNode? : Node → Option ρ} {written : ρ → List (String × Option String)}
  {keys : List String} {node : Node} {rule : ρ}

theorem ofNode?_eq_some_iff (reader : ReadsRules ofNode? written keys) :
    ofNode? node = some rule ↔ IsRule node (written rule) := by
  rw [reader.reads]
  constructor
  · rintro ⟨own, isOwn, reads⟩
    obtain ⟨entries, hasEntries, areFields⟩ := Anchors.fields?_eq_some_iff.mp isOwn
    refine ⟨entries, ⟨hasEntries, exists_areFields_iff.mp ⟨own, areFields⟩⟩, ?_⟩
    intro field member
    exact (areFields.read?_eq_some_iff fun _ _ => Anchors.optionalText?_eq_some_iff).mp
      (reads field member)
  · rintro ⟨entries, ⟨hasEntries, keyed⟩, gives⟩
    obtain ⟨own, areFields⟩ := exists_areFields_iff.mpr keyed
    refine ⟨own, Anchors.fields?_eq_some_iff.mpr ⟨entries, hasEntries, areFields⟩, ?_⟩
    intro field member
    exact (areFields.read?_eq_some_iff fun _ _ => Anchors.optionalText?_eq_some_iff).mpr
      (gives field member)

theorem exists_isRule_iff (reader : ReadsRules ofNode? written keys) :
    (∃ rule, IsRule node (written rule)) ↔ IsReadableRule keys node := by
  constructor
  · rintro ⟨rule, entries, keyed, gives⟩
    refine ⟨entries, keyed, fun key isKey => ?_⟩
    rw [← reader.map_fst rule] at isKey
    obtain ⟨field, member, rfl⟩ := List.mem_map.mp isKey
    exact exists_given_tells_iff.mp ⟨field.2, gives field member⟩
  · rintro ⟨entries, keyed, readable⟩
    have given : ∀ key, ∃ value, key ∈ keys →
        Given none Node.Tells (valuesUnder key entries) value := by
      intro key
      by_cases isKey : key ∈ keys
      · obtain ⟨value, given⟩ := exists_given_tells_iff.mpr (readable key isKey)
        exact ⟨value, fun _ => given⟩
      · exact ⟨none, fun member => absurd member isKey⟩
    choose value given using given
    obtain ⟨rule, same⟩ := reader.complete value
    refine ⟨rule, entries, keyed, ?_⟩
    rw [same, List.forall_mem_map]
    exact given

/-- A list of rules, which may be missing. -/
theorem read?_list?_eq_some_iff (reader : ReadsRules ofNode? written keys)
    {entries : List (Node × Node)} {own : Fields} (areFields : AreFields entries own)
    {name : String} {rules : List ρ} :
    own.read? name [] (Anchors.list? [] ofNode?) = some rules ↔
      Given [] (Node.Lists IsRule) (valuesUnder name entries) (rules.map written) := by
  rw [given_map_iff]
  exact areFields.read?_eq_some_iff fun _ _ =>
    Anchors.list?_eq_some_iff fun _ _ => reader.ofNode?_eq_some_iff

theorem exists_given_lists_iff (reader : ReadsRules ofNode? written keys) {values : List Node} :
    (∃ rules : List ρ, Given [] (Node.Lists IsRule) values (rules.map written)) ↔
      Once (Node.IsListOf (IsReadableRule keys)) values := by
  simp only [given_map_iff, exists_given_iff, Node.exists_lists_iff, reader.exists_isRule_iff]

end ReadsRules

/-! ## Tables -/

namespace RuleTable

/-- The lists of a table under the keys that they have in documents. -/
def written (table : RuleTable) : List (String × List (List (String × Option String))) :=
  [("user_agent_parsers", table.userAgents.map UserAgentRule.written),
    ("os_parsers", table.systems.map OsRule.written),
    ("device_parsers", table.devices.map DeviceRule.written)]

/-- The keys of the lists, each with the keys of its rules. -/
def keys : List (String × List String) :=
  [("user_agent_parsers", UserAgentRule.keys), ("os_parsers", OsRule.keys),
    ("device_parsers", DeviceRule.keys)]

/-- The node is a record with the lists of a table: a list has a rule for each item of the sequence
under its key, in the same order, and none where the key is missing. -/
def IsWrittenIn (table : RuleTable) (root : Node) : Prop :=
  root.IsRecord [] (Node.Lists IsRule) table.written

/-- A table can be read from the node: no key of a list comes twice, and its value is a sequence of
records from which rules can be read. No list has to be there. -/
def IsReadableIn (root : Node) : Prop :=
  ∃ entries, root.IsKeyed entries ∧ ∀ list ∈ keys,
    Once (Node.IsListOf (IsReadableRule list.2)) (valuesUnder list.1 entries)

variable {root : Node} {table : RuleTable}

theorem ofDocument?_eq_some_iff :
    ofDocument? ⟨root, []⟩ = some table ↔ table.IsWrittenIn root := by
  obtain ⟨userAgents, systems, devices⟩ := table
  simp only [ofDocument?, bind, pure, Option.bind_eq_some_iff, Option.some.injEq,
    RuleTable.mk.injEq, IsWrittenIn, Node.IsRecord, written, List.forall_mem_cons]
  constructor
  · rintro ⟨own, isOwn, _, first, _, second, _, third, rfl, rfl, rfl⟩
    obtain ⟨entries, hasEntries, areFields⟩ := Anchors.fields?_eq_some_iff.mp isOwn
    exact ⟨entries, ⟨hasEntries, exists_areFields_iff.mp ⟨own, areFields⟩⟩,
      (UserAgentRule.readsRules.read?_list?_eq_some_iff areFields).mp first,
      (OsRule.readsRules.read?_list?_eq_some_iff areFields).mp second,
      (DeviceRule.readsRules.read?_list?_eq_some_iff areFields).mp third, nofun⟩
  · rintro ⟨entries, ⟨hasEntries, keyed⟩, first, second, third, _⟩
    obtain ⟨own, areFields⟩ := exists_areFields_iff.mpr keyed
    exact ⟨own, Anchors.fields?_eq_some_iff.mpr ⟨entries, hasEntries, areFields⟩,
      _, (UserAgentRule.readsRules.read?_list?_eq_some_iff areFields).mpr first,
      _, (OsRule.readsRules.read?_list?_eq_some_iff areFields).mpr second,
      _, (DeviceRule.readsRules.read?_list?_eq_some_iff areFields).mpr third, rfl, rfl, rfl⟩

theorem exists_isWrittenIn_iff :
    (∃ table : RuleTable, table.IsWrittenIn root) ↔ IsReadableIn root := by
  simp only [IsReadableIn, keys, List.forall_mem_cons,
    ← UserAgentRule.readsRules.exists_given_lists_iff, ← OsRule.readsRules.exists_given_lists_iff,
    ← DeviceRule.readsRules.exists_given_lists_iff]
  constructor
  · rintro ⟨⟨userAgents, systems, devices⟩, entries, keyed, gives⟩
    simp only [written, List.forall_mem_cons] at gives
    obtain ⟨first, second, third, _⟩ := gives
    exact ⟨entries, keyed, ⟨userAgents, first⟩, ⟨systems, second⟩, ⟨devices, third⟩, nofun⟩
  · rintro ⟨entries, keyed, ⟨userAgents, first⟩, ⟨systems, second⟩, ⟨devices, third⟩, _⟩
    refine ⟨⟨userAgents, systems, devices⟩, entries, keyed, ?_⟩
    simp only [written, List.forall_mem_cons]
    exact ⟨first, second, third, nofun⟩

/-! ## Tables written in another way -/

/-- The entries of a table, or those of one of its rules, are written in another way. -/
inductive Restates : Node → Node → Prop
  | table {first second : List (Node × Node)} : Restated (keys.map Prod.fst) first second →
      Restates (.mapping first) (.mapping second)
  | rule {before after : List (Node × Node)} {key : Node} {name : String}
      {ruleKeys : List String} {earlier later : List Node} {first second : List (Node × Node)} :
      key.HasText name → (name, ruleKeys) ∈ keys → Restated ruleKeys first second →
      Restates
        (.mapping (before ++ (key, .sequence (earlier ++ .mapping first :: later)) :: after))
        (.mapping (before ++ (key, .sequence (earlier ++ .mapping second :: later)) :: after))

/-- A key of a list comes twice in a table, or a key of a field in one of its rules. -/
inductive Repeats : Node → Prop
  | table {entries : List (Node × Node)} {name : String} : name ∈ keys.map Prod.fst →
      2 ≤ (valuesUnder name entries).length → Repeats (.mapping entries)
  | rule {entries own : List (Node × Node)} {name key : String} {ruleKeys : List String}
      {items : List Node} : (name, ruleKeys) ∈ keys → .sequence items ∈ valuesUnder name entries →
      .mapping own ∈ items → key ∈ ruleKeys → 2 ≤ (valuesUnder key own).length →
      Repeats (.mapping entries)

theorem map_fst_of_mem_written {list : String × List (List (String × Option String))}
    {ruleKeys : List String} (member : list ∈ table.written) (isKey : (list.1, ruleKeys) ∈ keys) :
    ∀ fields ∈ list.2, fields.map Prod.fst = ruleKeys := by
  simp only [written, List.mem_cons, List.not_mem_nil, or_false] at member
  rcases member with rfl | rfl | rfl
  · obtain rfl : ruleKeys = UserAgentRule.keys := by simpa [keys] using isKey
    exact List.forall_mem_map.mpr fun rule _ => UserAgentRule.readsRules.map_fst rule
  · obtain rfl : ruleKeys = OsRule.keys := by simpa [keys] using isKey
    exact List.forall_mem_map.mpr fun rule _ => OsRule.readsRules.map_fst rule
  · obtain rfl : ruleKeys = DeviceRule.keys := by simpa [keys] using isKey
    exact List.forall_mem_map.mpr fun rule _ => DeviceRule.readsRules.map_fst rule

theorem map_fst_written (table : RuleTable) : table.written.map Prod.fst = keys.map Prod.fst := rfl

namespace Restates

variable {changed : Node}

theorem symm (restates : Restates root changed) : Restates changed root := by
  cases restates with
  | table restated => exact .table restated.symm
  | rule hasText isKey restated => exact .rule hasText isKey restated.symm

theorem isWrittenIn (restates : Restates root changed) (isWritten : table.IsWrittenIn root) :
    table.IsWrittenIn changed := by
  cases restates with
  | table restated =>
      refine restated.isRecord (fun list member => ?_) isWritten
      rw [← map_fst_written table]
      exact List.mem_map_of_mem member
  | @rule before after key name ruleKeys earlier later first second hasText isKey restated =>
      obtain ⟨_, ⟨⟨⟩, keyed⟩, gives⟩ := isWritten
      refine ⟨_, ⟨.mapping, ?_⟩, fun list member => ?_⟩
      · simp only [List.forall_mem_append, List.forall_mem_cons] at keyed ⊢
        exact keyed
      · have given := gives list member
        rw [valuesUnder_append, valuesUnder_cons hasText] at given ⊢
        by_cases same : name = list.1
        · rw [if_pos same] at given ⊢
          refine given.replace ?_
          rintro ⟨_, ⟨⟩, related⟩
          -- the rule that is restated is still written with the same keys
          refine ⟨_, .sequence, Traversal.forall₂_replace related fun fields isOne isRule => ?_⟩
          have within : fields.map Prod.fst = ruleKeys :=
            map_fst_of_mem_written member (same ▸ isKey) fields isOne
          refine restated.isRecord (fun field isField => ?_) isRule
          rw [← within]
          exact List.mem_map_of_mem isField
        · rw [if_neg same] at given ⊢
          exact given

theorem isWrittenIn_congr (restates : Relation.ReflTransGen Restates root changed) :
    table.IsWrittenIn root ↔ table.IsWrittenIn changed := by
  induction restates with
  | refl => exact Iff.rfl
  | tail _ step ih => exact ih.trans ⟨step.isWrittenIn, step.symm.isWrittenIn⟩

end Restates

theorem Repeats.not_isReadableIn (repeats : Repeats root) : ¬ IsReadableIn root := by
  rintro ⟨_, keyed, readable⟩
  cases repeats with
  | table isKey twice =>
      obtain ⟨⟨⟩, _⟩ := keyed
      obtain ⟨list, member, rfl⟩ := List.mem_map.mp isKey
      exact absurd (readable list member).length_le (Nat.not_le.mpr twice)
  | rule isKey isValue isItem isField twice =>
      obtain ⟨⟨⟩, _⟩ := keyed
      obtain ⟨_, ⟨⟩, items⟩ := (readable _ isKey).readable _ isValue
      obtain ⟨_, ⟨⟨⟩, _⟩, fields⟩ := items _ isItem
      exact absurd (fields _ isField).length_le (Nat.not_le.mpr twice)

/-! ## Texts -/

variable {text : String}

theorem ofText_eq_ok_iff (document : Document.ofText? text = some ⟨root, []⟩) :
    ofText text = .ok table ↔ table.IsWrittenIn root := by
  rw [← ofDocument?_eq_some_iff, ofText, document, Option.bind_some]
  cases ofDocument? ⟨root, []⟩ with
  | none => simp
  | some other => simp

theorem ofText_eq_error {cause : BuildError} (failed : ofText text = .error cause) :
    cause = .document := by
  unfold ofText at failed
  split at failed
  · cases failed
  · exact (Except.error.inj failed).symm

theorem fromUTF8?_toUTF8 (text : String) : String.fromUTF8? text.toUTF8 = some text :=
  dif_pos text.isValidUTF8

theorem ofBytes_toUTF8 (text : String) : ofBytes text.toUTF8 = ofText text := by
  rw [ofBytes, fromUTF8?_toUTF8]

theorem ofFile_toUTF8 (text : String) : ofFile (some text.toUTF8) = ofText text := by
  rw [ofFile]
  simp only [fromUTF8?_toUTF8]

theorem ofText_eq_of_iff {other : String}
    (alike : ∀ table, ofText text = .ok table ↔ ofText other = .ok table) :
    ofText other = ofText text := by
  cases outcome : ofText text with
  | ok table => exact (alike table).mp outcome
  | error cause =>
      cases outcome' : ofText other with
      | ok table =>
          have same := (alike table).mpr outcome'
          rw [outcome] at same
          cases same
      | error cause' => rw [ofText_eq_error outcome, ofText_eq_error outcome']

end RuleTable

/-- A text that is one document without anchors is read, from memory, from bytes or from a file, as
the table that is written in it: each list has a rule for each item of the sequence under its key,
in the order of the items, and is empty where the key is missing; a field of a rule is the text
under its key, and is missing where the key is or where its scalar says so. Nothing has to be there
for that. The order of keys, and scalars under other keys, never change the outcome; a key that
comes twice is always an error. -/
theorem ofText_follows_records {text : String} {root : Node}
    (document : Document.ofText? text = some ⟨root, []⟩) :
    (∀ table, RuleTable.ofText text = .ok table ↔ table.IsWrittenIn root) ∧
      ((∃ table, RuleTable.ofText text = .ok table) ↔ RuleTable.IsReadableIn root) ∧
      (∀ other changed, Document.ofText? other = some ⟨changed, []⟩ →
        Relation.ReflTransGen RuleTable.Restates root changed →
          RuleTable.ofText other = RuleTable.ofText text) ∧
      (RuleTable.Repeats root → RuleTable.ofText text = .error .document) ∧
      RuleTable.ofBytes text.toUTF8 = RuleTable.ofText text ∧
      RuleTable.ofFile (some text.toUTF8) = RuleTable.ofText text := by
  have ok_iff (table : RuleTable) : RuleTable.ofText text = .ok table ↔ table.IsWrittenIn root :=
    RuleTable.ofText_eq_ok_iff document
  have exists_ok_iff :
      (∃ table, RuleTable.ofText text = .ok table) ↔ RuleTable.IsReadableIn root := by
    simp only [ok_iff, RuleTable.exists_isWrittenIn_iff]
  refine ⟨ok_iff, exists_ok_iff, ?_, ?_, RuleTable.ofBytes_toUTF8 text,
    RuleTable.ofFile_toUTF8 text⟩
  · intro other changed otherDocument restates
    refine RuleTable.ofText_eq_of_iff fun table => ?_
    rw [ok_iff, RuleTable.ofText_eq_ok_iff otherDocument]
    exact RuleTable.Restates.isWrittenIn_congr restates
  · intro repeats
    cases outcome : RuleTable.ofText text with
    | ok table => exact absurd (exists_ok_iff.mp ⟨table, outcome⟩) repeats.not_isReadableIn
    | error cause => rw [RuleTable.ofText_eq_error outcome]

/-- A plain scalar without a tag. -/
def Yaml.Node.plain (text : String) : Node := .scalar none ⟨.plain, text⟩

/-- A rule without a pattern and with a note, before one with a pattern. -/
def notedSystems : String :=
  "os_parsers:\n- os_replacement: x\n  note: 1\n- regex: a\n  os_v1_replacement: ~\n"

def notedRoot : Node :=
  .mapping [(.plain "os_parsers", .sequence [
    .mapping [(.plain "os_replacement", .plain "x"), (.plain "note", .plain "1")],
    .mapping [(.plain "regex", .plain "a"), (.plain "os_v1_replacement", .plain "~")]])]

/-- The same rules without the note, and the keys of the second one in another order. -/
def reorderedSystems : String :=
  "os_parsers:\n- os_replacement: x\n- os_v1_replacement: ~\n  regex: a\n"

def reorderedRoot : Node :=
  .mapping [(.plain "os_parsers", .sequence [
    .mapping [(.plain "os_replacement", .plain "x")],
    .mapping [(.plain "os_v1_replacement", .plain "~"), (.plain "regex", .plain "a")]])]

/-- A rule with two patterns. -/
def repeatedRegex : String := "os_parsers:\n- regex: a\n  regex: b\n"

/-- The tokens of rules for operating systems, each with plain texts under plain keys. -/
def systemTokens (rules : List (List (String × String))) : List Token :=
  let plain (text : String) : Token := .scalar ⟨.plain, text⟩
  let rule (fields : List (String × String)) : List Token :=
    fields.flatMap fun field => [.key, plain field.1, .value, plain field.2]
  [.blockMappingStart, .key, plain "os_parsers", .value] ++
    (rules.flatMap fun fields => [.blockEntry, .blockMappingStart] ++ rule fields ++ [.blockEnd]) ++
    [.blockEnd, .streamEnd]

theorem ofText?_of_systemTokens {text : String} {rules : List (List (String × String))}
    {document : Document} (scanned : Token.ofText? text = some (systemTokens rules))
    (composed : Document.ofTokens? (systemTokens rules) = some document) :
    Document.ofText? text = some document := by
  rw [Document.ofText?, scanned]
  exact composed

theorem restates_notedRoot : Relation.ReflTransGen RuleTable.Restates notedRoot reorderedRoot := by
  have isText (text : String) : (Node.plain text).HasText text := ⟨none, .plain, rfl⟩
  have isKey : ("os_parsers", OsRule.keys) ∈ RuleTable.keys := by decide
  have withoutNote : Restated OsRule.keys
      [(.plain "os_replacement", .plain "x"), (.plain "note", .plain "1")]
      [(.plain "os_replacement", .plain "x")] :=
    @Restated.removed _ [_] [] _ "note" none ⟨.plain, "1"⟩ (isText "note") (by decide)
  have swapped : Restated OsRule.keys
      [(.plain "regex", .plain "a"), (.plain "os_v1_replacement", .plain "~")]
      [(.plain "os_v1_replacement", .plain "~"), (.plain "regex", .plain "a")] :=
    .permuted (.swap _ _ [])
  have first := @RuleTable.Restates.rule [] [] _ _ _ []
    [.mapping [(.plain "regex", .plain "a"), (.plain "os_v1_replacement", .plain "~")]] _ _
    (isText "os_parsers") isKey withoutNote
  have second := @RuleTable.Restates.rule [] [] _ _ _
    [.mapping [(.plain "os_replacement", .plain "x")]] [] _ _ (isText "os_parsers") isKey swapped
  exact .tail (.single first) second

/-- The rule without a pattern is loaded in its place, and neither the order of keys nor the note
matters; the rule with two patterns is not loaded. -/
theorem systems_in_other_order :
    RuleTable.ofText notedSystems = .ok
      ⟨[], [⟨none, some "x", none, none, none⟩, ⟨some "a", none, none, none, none⟩], []⟩ ∧
    RuleTable.ofText reorderedSystems = RuleTable.ofText notedSystems ∧
    RuleTable.ofText repeatedRegex = .error .document := by
  have noted : Document.ofText? notedSystems = some ⟨notedRoot, []⟩ :=
    @ofText?_of_systemTokens _ [[("os_replacement", "x"), ("note", "1")],
      [("regex", "a"), ("os_v1_replacement", "~")]] _ (by decide +kernel) rfl
  have reordered : Document.ofText? reorderedSystems = some ⟨reorderedRoot, []⟩ :=
    @ofText?_of_systemTokens _ [[("os_replacement", "x")],
      [("os_v1_replacement", "~"), ("regex", "a")]] _ (by decide +kernel) rfl
  have repeated : Document.ofText? repeatedRegex = some ⟨.mapping [(.plain "os_parsers", .sequence
      [.mapping [(.plain "regex", .plain "a"), (.plain "regex", .plain "b")]])], []⟩ :=
    @ofText?_of_systemTokens _ [[("regex", "a"), ("regex", "b")]] _ (by decide +kernel) rfl
  obtain ⟨ok_iff, _, restated, _⟩ := ofText_follows_records noted
  refine ⟨?_, restated _ _ reordered restates_notedRoot, ?_⟩
  · rw [ok_iff, ← RuleTable.ofDocument?_eq_some_iff]
    rfl
  · obtain ⟨_, _, _, rejected, _⟩ := ofText_follows_records repeated
    have isKey : ("os_parsers", OsRule.keys) ∈ RuleTable.keys := by decide
    exact rejected (.rule isKey List.mem_cons_self List.mem_cons_self
      (show "regex" ∈ OsRule.keys by decide) (Nat.le_refl 2))

end AgentClassifier
