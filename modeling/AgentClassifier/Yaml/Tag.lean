import AgentClassifier.CharSet
import AgentClassifier.Yaml.Cursor

/-!
Tags as they are written: a handle that stands for a beginning, and the rest.

* `TagText` : the two parts of a tag.
* `Cursor.tag?` : reads a tag.
* `Cursor.tagDirective?` : reads what a handle stands for.
-/

namespace AgentClassifier.Yaml

/-- A tag in two parts. The handle is empty if the suffix is the whole tag. -/
structure TagText where
  handle : String
  suffix : String
deriving DecidableEq, Repr, Inhabited

/-- Whether the character may stand in a tag. The indicators of collections may only where
`closed` tells that the end of the tag is marked. -/
def isTagChar (closed : Bool) (c : Char) : Bool :=
  isNameChar c || ";/?:@&=+$.%!~*'()".toList.contains c || (closed && ",[]".toList.contains c)

/-- Reads a byte in its escaped form. -/
def Cursor.byte? (cursor : Cursor) : Option (Nat × Cursor) :=
  match cursor.rest with
  | '%' :: high :: low :: _ => do
      let high ← CharSet.hexDigit? high
      let low ← CharSet.hexDigit? low
      return (high * 16 + low, cursor.skip 3)
  | _ => none

/-- The number of bytes that follow a first byte, and the part of the code point in that one. -/
def leadingByte? (byte : Nat) : Option (Nat × Nat) :=
  if byte < 0x80 then some (0, byte)
  else if 0xC0 ≤ byte ∧ byte < 0xE0 then some (1, byte % 0x20)
  else if 0xE0 ≤ byte ∧ byte < 0xF0 then some (2, byte % 0x10)
  else if 0xF0 ≤ byte ∧ byte < 0xF8 then some (3, byte % 0x8)
  else none

/-- Reads the bytes that follow a first byte. -/
def Cursor.followingBytes? : (count : Nat) → (code : Nat) → Cursor → Option (Nat × Cursor)
  | 0, code, cursor => some (code, cursor)
  | count + 1, code, cursor => do
      let (byte, cursor) ← cursor.byte?
      if byte / 0x40 ≠ 2 then none
      followingBytes? count (code * 0x40 + byte % 0x40) cursor

/-- Reads a character whose bytes are escaped. -/
def Cursor.escapedChar? (cursor : Cursor) : Option (Char × Cursor) := do
  let (byte, cursor) ← cursor.byte?
  let (count, code) ← leadingByte? byte
  let (code, cursor) ← cursor.followingBytes? count code
  return (Char.ofNat code, cursor)

/-- Reads characters of a tag; those of `bound` limit their number. -/
def Cursor.tagCharsWithin (closed : Bool) :
    (bound : List Char) → Cursor → Option (List Char × Cursor)
  | [], cursor => some ([], cursor)
  | _ :: bound, cursor => do
      match cursor.peek? with
      | none => return ([], cursor)
      | some c =>
          if !isTagChar closed c then return ([], cursor)
          let (c, cursor) ← if c == '%' then cursor.escapedChar? else some (c, cursor.skip 1)
          let (text, cursor) ← tagCharsWithin closed bound cursor
          return (c :: text, cursor)

/-- Reads all characters of a tag that follow. -/
def Cursor.tagChars? (closed : Bool) (cursor : Cursor) : Option (List Char × Cursor) :=
  cursor.tagCharsWithin closed cursor.rest

/-- Reads the characters of a tag, of which there has to be one. -/
def Cursor.someTagChars? (closed : Bool) (cursor : Cursor) : Option (List Char × Cursor) := do
  let (text, cursor) ← cursor.tagChars? closed
  if text.isEmpty then none
  return (text, cursor)

/-- Reads an exclamation mark, a name, and another mark if there is one. -/
def Cursor.handle? (cursor : Cursor) : Option (List Char × Cursor) :=
  if cursor.sees '!' then
    let (name, cursor) := (cursor.skip 1).span isNameChar
    if cursor.sees '!' then some ('!' :: name ++ ['!'], cursor.skip 1)
    else some ('!' :: name, cursor)
  else none

/-- Whether the text is a handle with two marks. -/
def isNamedHandle (text : List Char) : Bool := 2 ≤ text.length && text.getLast? == some '!'

/-- Reads a tag: a whole one in angle brackets, a handle with a suffix, or a suffix after a
single mark. -/
def Cursor.tagText? (cursor : Cursor) : Option (TagText × Cursor) := do
  if (cursor.skip 1).sees '<' then
    let (text, cursor) ← (cursor.skip 2).someTagChars? true
    if !cursor.sees '>' then none
    return (⟨"", String.ofList text⟩, cursor.skip 1)
  else
    let (handle, cursor) ← cursor.handle?
    if isNamedHandle handle then
      let (suffix, cursor) ← cursor.someTagChars? false
      return (⟨String.ofList handle, String.ofList suffix⟩, cursor)
    else
      let (more, cursor) ← cursor.tagChars? false
      let suffix := handle.drop 1 ++ more
      if suffix.isEmpty then return (⟨"", "!"⟩, cursor)
      else return (⟨"!", String.ofList suffix⟩, cursor)

/-- Reads a tag, which has to end a word; in a collection a comma may follow. -/
def Cursor.tag? (inFlow : Bool) (cursor : Cursor) : Option (TagText × Cursor) := do
  let (tag, cursor) ← cursor.tagText?
  if endsWord cursor.rest || (inFlow && cursor.sees ',') then return (tag, cursor) else none

/-- Reads a handle and the beginning that it stands for. -/
def Cursor.tagDirective? (cursor : Cursor) : Option (TagText × Cursor) := do
  let (handle, cursor) ← cursor.skipBlanks.handle?
  if !(isNamedHandle handle || handle == ['!']) then none
  if !cursor.rest.head?.any isBlank then none
  let (text, cursor) ← cursor.skipBlanks.someTagChars? true
  if !endsWord cursor.rest then none
  return (⟨String.ofList handle, String.ofList text⟩, cursor)

end AgentClassifier.Yaml
