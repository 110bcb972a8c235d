import AgentClassifier.Labelled
import AgentClassifier.Yaml.Node
import AgentClassifier.Yaml.Token

/-!
Documents made of tokens.

* `Source` : the tokens that are left, with the tag handles and anchors known so far.
* `node` and its companions : the grammar of nodes.
* `Document.ofText?` : the one document of a text; a text without a document is an empty scalar.
-/

namespace AgentClassifier.Yaml

/-- The state of composing. -/
structure Source where
  tokens : List Token
  /-- What the handles of tags stand for. -/
  handles : Labelled String
  /-- The numbers of the anchors in use. -/
  numbers : Labelled Nat
  anchors : Anchors

/-- A step that may read tokens, or fail. -/
abbrev Composing (α : Type) := StateT Source Option α

namespace Composing

/-- The next token. -/
def peek : Composing Token := do
  match (← get).tokens.head? with
  | some token => return token
  | none => failure

def advance : Composing Unit := modify fun source => { source with tokens := source.tokens.tail }

/-- Reads the token if it is next. -/
def next (token : Token) : Composing Bool := do
  if (← peek) = token then
    advance
    return true
  return false

/-- Reads the token, which has to be next. -/
def expect (token : Token) : Composing Unit := do
  if !(← next token) then failure

/-- Whether the next token is one of these. -/
def sees (tokens : List Token) : Composing Bool := do return tokens.contains (← peek)

/-! ## Anchors and tags -/

/-- The number of an anchor, which has to be in use. -/
def numberOf (name : String) : Composing Nat := do
  match (← get).numbers.lookup name with
  | some number => return number
  | none => failure

/-- Begins a node with an anchor; the answer is its place among the anchors. An anchor gets the
number of names that are in use before. -/
def beginAnchored (name : String) : Composing Nat := do
  let source ← get
  let number := source.numbers.length
  set { source with
    numbers := source.numbers.insert name number
    anchors := source.anchors ++ [(number, Node.alias number)] }
  return source.anchors.length

/-- Ends the node that has the given place among the anchors. -/
def endAnchored (place : Nat) (node : Node) : Composing Unit :=
  modify fun source =>
    { source with
      anchors := source.anchors.modify place fun anchored => (anchored.1, node) }

/-- The tag in full. -/
def resolveTag (tag : TagText) : Composing String := do
  if tag.handle.isEmpty then return tag.suffix
  match (← get).handles.lookup tag.handle with
  | some text => return text ++ tag.suffix
  | none => failure

/-- Reads an anchor if it is next. -/
def anchor? : Composing (Option String) := do
  match ← peek with
  | .anchor name =>
      advance
      return some name
  | _ => return none

/-- Reads a tag if it is next. -/
def tag? : Composing (Option String) := do
  match ← peek with
  | .tag tag =>
      advance
      return some (← resolveTag tag)
  | _ => return none

/-- Reads an anchor and a tag, of which each may be missing, in any order. -/
def properties : Composing (Option String × Option String) := do
  match ← anchor? with
  | some name => return (some name, ← tag?)
  | none =>
      let tag ← tag?
      return (← if tag.isSome then anchor? else pure none, tag)

/-! ## Nodes -/

/-- The tokens before which a key or value of a block is empty. -/
def blockStops : List Token := [.key, .value, .blockEnd]

/-- The tokens before which a pair in brackets has no key. -/
def pairStops : List Token := [.value, .flowEntry, .flowSequenceEnd]

mutual

/-- Reads a node. Blocks are allowed only if `inBlock` is set, and sequences without indentation
of their own only if `indentless` is. The numbers limit the depth and length of collections. -/
def node : Nat → (inBlock indentless : Bool) → Composing Node
  | 0, _, _ => failure
  | fuel + 1, inBlock, indentless => do
      match ← peek with
      | .alias name =>
          advance
          return .alias (← numberOf name)
      | _ =>
          let (anchor, tag) ← properties
          let place ← anchor.mapM beginAnchored
          let node ← content fuel inBlock indentless (anchor.isSome || tag.isSome) tag
          if let some place := place then endAnchored place node
          return node

/-- Reads a node after its properties; with properties it may be empty. -/
def content : Nat → (inBlock indentless marked : Bool) → Option String → Composing Node
  | 0, _, _, _, _ => failure
  | fuel + 1, inBlock, indentless, marked, tag => do
      let empty : Composing Node :=
        if marked then return .scalar tag Scalar.empty else failure
      match ← peek with
      | .scalar scalar =>
          advance
          return .scalar tag scalar
      | .flowSequenceStart =>
          advance
          return .sequence (← flowItems fuel true)
      | .flowMappingStart =>
          advance
          return .mapping (← flowEntries fuel true)
      | .blockSequenceStart =>
          if !inBlock then empty
          else
            advance
            return .sequence (← blockItems fuel)
      | .blockMappingStart =>
          if !inBlock then empty
          else
            advance
            return .mapping (← blockEntries fuel)
      | .blockEntry =>
          if !indentless then empty else return .sequence (← indentlessItems fuel)
      | _ => empty

/-- Reads the items of a block up to its end. -/
def blockItems : Nat → Composing (List Node)
  | 0 => failure
  | fuel + 1 => do
      if ← next .blockEnd then return []
      expect .blockEntry
      let item ← if ← sees [.blockEntry, .blockEnd] then pure Node.empty else node fuel true false
      return item :: (← blockItems fuel)

/-- Reads items as long as there are any. -/
def indentlessItems : Nat → Composing (List Node)
  | 0 => failure
  | fuel + 1 => do
      if !(← next .blockEntry) then return []
      let item ← if ← sees (.blockEntry :: blockStops) then pure Node.empty
        else node fuel true false
      return item :: (← indentlessItems fuel)

/-- Reads the entries of a block up to its end. -/
def blockEntries : Nat → Composing (List (Node × Node))
  | 0 => failure
  | fuel + 1 => do
      if ← next .blockEnd then return []
      expect .key
      let key ← if ← sees blockStops then pure Node.empty else node fuel true true
      let value ← if !(← next .value) then pure Node.empty
        else if ← sees blockStops then pure Node.empty
        else node fuel true true
      return (key, value) :: (← blockEntries fuel)

/-- Reads the items in brackets. -/
def flowItems : Nat → (first : Bool) → Composing (List Node)
  | 0, _ => failure
  | fuel + 1, first => do
      if ← next .flowSequenceEnd then return []
      if !first then expect .flowEntry
      if ← next .flowSequenceEnd then return []
      if ← next .key then
        let pair ← flowPair fuel
        return .mapping [pair] :: (← flowItems fuel false)
      else
        let item ← node fuel false false
        return item :: (← flowItems fuel false)

/-- Reads a pair in brackets. The token before which the key is missing is read with it. -/
def flowPair : Nat → Composing (Node × Node)
  | 0 => failure
  | fuel + 1 => do
      let key ← if ← sees pairStops then
          advance
          pure Node.empty
        else node fuel false false
      let value ← if !(← next .value) then pure Node.empty
        else if ← sees [.flowEntry, .flowSequenceEnd] then pure Node.empty
        else node fuel false false
      return (key, value)

/-- Reads the entries in braces. A key without indicator that has no colon has no value. -/
def flowEntries : Nat → (first : Bool) → Composing (List (Node × Node))
  | 0, _ => failure
  | fuel + 1, first => do
      if ← next .flowMappingEnd then return []
      if !first then expect .flowEntry
      if ← next .flowMappingEnd then return []
      if ← next .key then
        let key ← if ← sees [.value, .flowEntry, .flowMappingEnd] then pure Node.empty
          else node fuel false false
        let value ← if !(← next .value) then pure Node.empty
          else if ← sees [.flowEntry, .flowMappingEnd] then pure Node.empty
          else node fuel false false
        return (key, value) :: (← flowEntries fuel false)
      else
        let key ← node fuel false false
        return (key, Node.empty) :: (← flowEntries fuel false)

end

/-! ## Documents -/

/-- The handles that every document knows. -/
def standardHandles : Labelled String := [("!", "!"), ("!!", "tag:yaml.org,2002:")]

/-- Reads directives: at most one version, which has to be known, and each handle once.
`handles` are those read so far. -/
def directives : (bound : List Token) → (versioned : Bool) → (handles : Labelled String) →
    Composing (Labelled String)
  | [], _, _ => failure
  | _ :: bound, versioned, handles => do
      match ← peek with
      | .versionDirective major minor =>
          if versioned || major != 1 || !(minor == 1 || minor == 2) then failure
          advance
          directives bound true handles
      | .tagDirective tag =>
          if (handles.lookup tag.handle).isSome then failure
          advance
          directives bound versioned (handles ++ [(tag.handle, tag.suffix)])
      | _ => return handles

/-- Whether a token ends a document without content. -/
def endsDocument : Token → Bool
  | .versionDirective .. | .tagDirective .. | .documentStart | .documentEnd | .streamEnd => true
  | _ => false

/-- Reads the marks of the document's end, after which nothing may come. -/
def endOfText : (bound : List Token) → Composing Unit
  | [] => failure
  | _ :: bound => do
      if ← next .documentEnd then endOfText bound
      else expect .streamEnd

/-- Reads the node of the only document. -/
def root : Composing Node := do
  let tokens := (← get).tokens
  let fuel := 3 * tokens.length + 3
  match ← peek with
  | .streamEnd => return Node.empty
  | .versionDirective .. | .tagDirective .. | .documentStart =>
      let handles ← directives tokens false []
      modify fun source => { source with handles := handles ++ standardHandles }
      expect .documentStart
      if endsDocument (← peek) then return Node.empty else node fuel true false
  | _ => node fuel true false

end Composing

/-- The document that tokens make up. -/
def Document.ofTokens? (tokens : List Token) : Option Document := do
  let composing : Composing Node := do
    let root ← Composing.root
    Composing.endOfText tokens
    return root
  let (root, source) ← composing.run ⟨tokens, Composing.standardHandles, [], []⟩
  return ⟨root, source.anchors⟩

/-- The document of a text. -/
def Document.ofText? (text : String) : Option Document := do
  Document.ofTokens? (← Token.ofText? text)

end AgentClassifier.Yaml
