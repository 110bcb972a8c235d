import AgentClassifier.CharSet.Property

/-!
Texts in double quotes, as error messages show them.

* `Quoted.quote` : the quoted form of a text.

A quote and a backslash get a backslash. What cannot be printed on its own is written by its code:
controls, unassigned characters, blanks other than the space, and marks that attach to the
character before them.
-/

namespace AgentClassifier.Quoted

/-- The characters that are not printed as they are. -/
def hidden : CharSet :=
  (CharSet.categoryUnion ["cc", "cf", "co", "cn", "zl", "zp", "zs"]).sdiff (CharSet.range 0x20 0x20)

/-- The code of a character in braces. -/
def codeForm (c : Char) : List Char :=
  ['\\', 'u', '\x7b'] ++ Nat.toDigits 16 c.toNat ++ ['\x7d']

/-- The quoted form of a character. -/
def quoteChar (c : Char) : List Char :=
  match c with
  | '\x00' => ['\\', '0']
  | '\t' => ['\\', 't']
  | '\r' => ['\\', 'r']
  | '\n' => ['\\', 'n']
  | '"' => ['\\', '"']
  | '\\' => ['\\', '\\']
  | c =>
      if CharSet.graphemeExtenders.contains c || hidden.contains c then codeForm c else [c]

/-- The text in double quotes. -/
def quote (text : String) : String :=
  String.ofList (['"'] ++ text.toList.flatMap quoteChar ++ ['"'])

end AgentClassifier.Quoted
