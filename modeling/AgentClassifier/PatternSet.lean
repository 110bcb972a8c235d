import AgentClassifier.Error
import AgentClassifier.Pattern

/-!
Ordered sets of patterns with data, and the search for the first one that answers.

* `PatternSet.build` : compiles the patterns and collects the literals their matches start with.
* `PatternSet.buildBy` : the same where several patterns are compiled at once.
* `PatternSet.hits` : the literals that occur in a text, up to ASCII case.
* `PatternSet.candidates` : which entries can match a text. An entry with literals can match only
  where one of them occurs; an entry without literals always can.
* `PatternSet.findMap?` : the first answer among the candidates.
-/

namespace AgentClassifier

/-- A pattern that is not compiled yet, with data. -/
structure PatternSpec (α : Type) where
  source : String
  ignoreCase : Bool
  data : α

/-- A compiled pattern with data. -/
structure PatternEntry (α : Type) where
  pattern : Pattern
  data : α

/-! ## Literals -/

/-- The lower-case form of an ASCII letter; every other character stays. -/
def foldAscii (c : Char) : Char := if 'A' ≤ c ∧ c ≤ 'Z' then Char.ofNat (c.toNat + 32) else c

/-- Whether a text starts with a literal, up to ASCII case. -/
def startsWithFolded : (literal text : List Char) → Bool
  | [], _ => true
  | _ :: _, [] => false
  | l :: literal, c :: text => foldAscii l == foldAscii c && startsWithFolded literal text

/-- Whether a literal occurs in a text, up to ASCII case. -/
def occursFolded (literal : List Char) : List Char → Bool
  | [] => literal.isEmpty
  | c :: rest => startsWithFolded literal (c :: rest) || occursFolded literal rest

/-! ## Sets of patterns -/

/-- Patterns in order, with the literals of all of them in one list. -/
structure PatternSet (α : Type) where
  entries : List (PatternEntry α)
  /-- For each entry, whether it has no literals and is always tried. -/
  always : List Bool
  /-- The literals of all entries, unless there are none. -/
  literals : Option (List (List Char))
  /-- For each literal, the index of its entry. -/
  literalToEntry : List Nat

namespace PatternSet

/-- Literals of fewer bytes are not worth looking for. -/
def minLiteralBytes : Nat := 3

/-- Compiles a pattern and collects its literals. -/
def compileSpec {α : Type} (spec : PatternSpec α) :
    Except BuildError (PatternEntry α × List (List Char)) :=
  match Pattern.compile? spec.source spec.ignoreCase with
  | some pattern =>
      .ok (⟨pattern, spec.data⟩,
        Pattern.leadingLiterals spec.source.toList spec.ignoreCase minLiteralBytes)
  | none => .error (.pattern spec.source)

/-- The set of compiled patterns with the given literals. -/
def assemble {α : Type} (compiled : List (PatternEntry α × List (List Char))) : PatternSet α :=
  let literals := compiled.flatMap fun item => item.2
  { entries := compiled.map fun item => item.1
    always := compiled.map fun item => item.2.isEmpty
    literals := if literals.isEmpty then none else some literals
    literalToEntry := compiled.zipIdx.flatMap fun (item, index) => item.2.map fun _ => index }

/-- A way to take a step that can fail for every element of a list: one after the other, or several
at once. -/
abbrev Traverse :=
  (α β : Type) → (α → Except BuildError β) → List α → Except BuildError (List β)

/-- Takes the steps one after the other; the first failure is the error. -/
def inOrder : Traverse := fun _ _ step items => items.mapM step

/-- Compiles the patterns, in whatever way all of them are visited. -/
def buildBy {α : Type} (traverse : Traverse) (specs : List (PatternSpec α)) :
    Except BuildError (PatternSet α) :=
  match traverse _ _ compileSpec specs with
  | .ok compiled => .ok (assemble compiled)
  | .error error => .error error

/-- Compiles the patterns in order; the first that does not compile is the error. -/
def build {α : Type} (specs : List (PatternSpec α)) : Except BuildError (PatternSet α) :=
  buildBy inOrder specs

/-- A search for literals: the indices of those that occur in a text, up to ASCII case. -/
abbrev LiteralSearch := (literals : List (List Char)) → (text : List Char) → List Nat

/-- The search that looks for one literal after the other. -/
def hits : LiteralSearch := fun literals text =>
  literals.zipIdx.filterMap fun (literal, index) =>
    if occursFolded literal text then some index else none

/-- The flags after a hit: the flag of the entry that the literal belongs to is raised. -/
def mark (literalToEntry : List Nat) (flags : List Bool) (hit : Nat) : List Bool :=
  match literalToEntry[hit]? with
  | some entry => flags.set entry true
  | none => flags

/-- For each entry, whether it can match the text. -/
def candidates {α : Type} (set : PatternSet α) (search : LiteralSearch) (text : List Char) :
    List Bool :=
  match set.literals with
  | none => set.always
  | some literals => (search literals text).foldl (mark set.literalToEntry) set.always

/-- The answer of a callback on the match of an entry, if the entry matches. A search that was
given up counts as no match. -/
def answer? {α β : Type} (callback : α → Captures → Option β) (text : Pattern.Subject)
    (entry : PatternEntry α) : Option β :=
  match entry.pattern.searchIn text with
  | .found captures => callback entry.data captures
  | .absent | .exhausted => none

/-- The first answer among the entries that can match, as far as a search for literals tells. -/
def findMapBy? {α β : Type} (search : LiteralSearch) (set : PatternSet α)
    (callback : α → Captures → Option β) (text : String) : Option β :=
  let chars := text.toList
  let subject := chars.toArray
  (set.entries.zip (set.candidates search chars)).findSome? fun (entry, isCandidate) =>
    if isCandidate then answer? callback subject entry else none

/-- The first answer among the entries that can match. -/
def findMap? {α β : Type} (set : PatternSet α) (callback : α → Captures → Option β)
    (text : String) : Option β :=
  set.findMapBy? hits callback text

end PatternSet

end AgentClassifier
