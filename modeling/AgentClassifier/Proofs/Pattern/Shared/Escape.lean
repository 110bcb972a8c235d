import Mathlib.Data.List.Basic
import Mathlib.Data.Nat.Init
import AgentClassifier.Proofs.Pattern.Shared

/-!
Escapes that both notations share.

* `Escape.readEscape_text` : an escape takes its own text and no more, and what it stands for
  depends on the case mode only.
* `Escape.escapeInClass_text`, `Escape.exists_coded` : in the class that an extended one is turned
  into, an escape stands for the same.
* `readEscape_condition` : the escape of a condition, whatever follows it.
-/

namespace AgentClassifier.Pattern

theorem Mode.applyTo_congr {mode mode' : Mode} (same : mode.ignoreCase = mode'.ignoreCase) :
    mode.applyTo = mode'.applyTo := by
  unfold applyTo
  rw [same]

namespace Shared

/-! ## Codes -/

theorem untilBrace_append {inside : List Char} (noBrace : '\x7d' ∉ inside) (rest : List Char) :
    untilBrace? (inside ++ '\x7d' :: rest) = some (inside, rest) := by
  induction inside with
  | nil => rfl
  | cons c inside ih =>
      rw [List.mem_cons, not_or] at noBrace
      rw [List.cons_append, untilBrace?, if_neg (Ne.symm noBrace.1), ih noBrace.2]
      rfl

theorem hexDigit_digitChar : ∀ digit < 16, CharSet.hexDigit? (Nat.digitChar digit) = some digit := by
  decide

theorem hexValue_append {digits : List Char} {c : Char} {value digit : Nat}
    (before : hexValue? digits = some value) (last : CharSet.hexDigit? c = some digit) :
    hexValue? (digits ++ [c]) = some (value * 16 + digit) := by
  rw [hexValue?] at before ⊢
  rw [List.foldl_append, before, List.foldl_cons, List.foldl_nil, last]

/-- The hexadecimal digits of a number have its value. -/
theorem hexValue_toDigits (number : Nat) : hexValue? (Nat.toDigits 16 number) = some number := by
  induction number using Nat.strongRecOn with
  | ind number ih =>
      by_cases small : number < 16
      · rw [Nat.toDigits_of_lt_base small, hexValue?, List.foldl_cons, List.foldl_nil,
          hexDigit_digitChar number small]
        exact congrArg some (Nat.zero_add number)
      · have large : 16 ≤ number := Nat.le_of_not_lt small
        rw [Nat.toDigits_of_base_le (by decide) large,
          hexValue_append (ih _ (Nat.div_lt_self (by omega) (by decide)))
            (hexDigit_digitChar _ (Nat.mod_lt _ (by decide)))]
        exact congrArg some (Nat.div_add_mod' number 16)

theorem hexDigit_of_mem_toDigits {number : Nat} {c : Char} (member : c ∈ Nat.toDigits 16 number) :
    (CharSet.hexDigit? c).isSome = true := by
  induction number using Nat.strongRecOn with
  | ind number ih =>
      by_cases small : number < 16
      · rw [Nat.toDigits_of_lt_base small, List.mem_singleton] at member
        rw [member, hexDigit_digitChar number small]
        rfl
      · rw [Nat.toDigits_of_base_le (by decide) (Nat.le_of_not_lt small), List.mem_append,
          List.mem_singleton] at member
        rcases member with earlier | rfl
        · exact ih _ (Nat.div_lt_self (by omega) (by decide)) earlier
        · rw [hexDigit_digitChar _ (Nat.mod_lt _ (by decide))]
          rfl

theorem not_mem_of_areHex {digits : List Char} {c : Char} (none : CharSet.hexDigit? c = none)
    (areHex : ∀ c ∈ digits, (CharSet.hexDigit? c).isSome = true) : c ∉ digits := by
  intro member
  have digit := areHex c member
  rw [none] at digit
  cases digit

/-- A character is the one with its code point. -/
theorem charOfCode_toNat (c : Char) : charOfCode? c.toNat = some c := by
  have valid : c.toNat < 0xD800 ∨ (0xDFFF < c.toNat ∧ c.toNat ≤ maxCodePoint) := by
    rcases c.valid with low | ⟨above, high⟩
    · exact .inl low
    · exact .inr ⟨above, Nat.le_of_lt_succ high⟩
  rw [charOfCode?, if_pos valid, Char.ofNat_toNat]

theorem readHex_braced {digits : List Char} {c : Char} (count : Nat) (notEmpty : digits ≠ [])
    (noBrace : '\x7d' ∉ digits) (stands : (hexValue? digits).bind charOfCode? = some c)
    (rest : List Char) :
    readHex count ('\x7b' :: (digits ++ '\x7d' :: rest)) = some (.literal c, rest) := by
  obtain ⟨value, isValue, isChar⟩ := Option.bind_eq_some_iff.mp stands
  simp [readHex, untilBrace_append noBrace, notEmpty, isValue, isChar]

/-- The code of a character stands for the character. -/
theorem readEscape_codeText (c : Char) : ∃ more, codeText c = '\\' :: more ∧
    ∀ mode rest, readEscape mode (more ++ rest) = some (.literal c, rest) := by
  refine ⟨'x' :: '\x7b' :: (Nat.toDigits 16 c.toNat ++ ['\x7d']), rfl, fun mode rest => ?_⟩
  have noBrace : '\x7d' ∉ Nat.toDigits 16 c.toNat :=
    not_mem_of_areHex (by decide) fun _ => hexDigit_of_mem_toDigits
  show readHex 2 ('\x7b' :: ((Nat.toDigits 16 c.toNat ++ ['\x7d']) ++ rest)) = _
  rw [List.append_assoc]
  refine readHex_braced 2 Nat.toDigits_ne_nil noBrace ?_ rest
  rw [hexValue_toDigits, Option.bind_some, charOfCode_toNat]

namespace Code

variable (code : Code)

theorem noBrace : '\x7d' ∉ code.digits := not_mem_of_areHex (by decide) code.areHex

theorem take_digits (unbraced : code.braced = false) (rest : List Char) :
    (code.digits ++ rest).take code.size.digits = code.digits ∧
      (code.digits ++ rest).drop code.size.digits = rest := by
  have long := code.long
  rw [unbraced, if_neg Bool.false_ne_true] at long
  exact ⟨List.take_left' long, List.drop_left' long⟩

theorem readHex_text (rest : List Char) :
    readHex code.size.digits ((if code.braced then '\x7b' :: (code.digits ++ ['\x7d'])
      else code.digits) ++ rest) = some (.literal code.char, rest) := by
  cases braced : code.braced with
  | true =>
      rw [if_pos rfl, List.cons_append, List.append_assoc]
      exact readHex_braced _ code.notEmpty code.noBrace code.stands rest
  | false =>
      rw [if_neg Bool.false_ne_true]
      obtain ⟨taken, dropped⟩ := code.take_digits braced rest
      have long := code.long
      rw [braced, if_neg Bool.false_ne_true] at long
      obtain ⟨value, isValue, isChar⟩ := Option.bind_eq_some_iff.mp code.stands
      unfold readHex
      split
      · next inner begins =>
          -- a hexadecimal digit is no brace
          cases digits : code.digits with
          | nil => exact absurd digits code.notEmpty
          | cons digit others =>
              rw [digits] at begins
              have isDigit := code.areHex digit (digits ▸ List.mem_cons_self)
              rw [(List.cons.inj begins).1] at isDigit
              cases isDigit
      · simp [taken, dropped, long, isValue, isChar]

theorem readCode_text (rest : List Char) :
    readCode code.size.digits ((if code.braced then '\x7b' :: (code.digits ++ ['\x7d'])
      else code.digits) ++ rest) = some (code.char, rest) := by
  obtain ⟨value, isValue, isChar⟩ := Option.bind_eq_some_iff.mp code.stands
  have long := code.long
  cases braced : code.braced with
  | true =>
      rw [braced, if_pos rfl] at long
      have notHex : ¬(∀ c ∈ ('\x7b' :: (code.digits ++ '\x7d' :: rest)).take code.size.digits,
          (CharSet.hexDigit? c).isSome = true) := by
        intro areHex
        cases size : code.size <;> rw [size] at areHex <;>
          exact absurd (areHex '\x7b' List.mem_cons_self) (by decide)
      rw [if_pos rfl, List.cons_append, List.append_assoc]
      unfold readCode
      dsimp only
      rw [if_neg (by rw [List.all_eq_true]; exact fun both => notHex both.2)]
      simp [untilBrace_append code.noBrace, code.notEmpty, Nat.not_lt.mpr long, isValue, isChar]
  | false =>
      rw [braced, if_neg Bool.false_ne_true] at long
      obtain ⟨taken, dropped⟩ := code.take_digits braced rest
      rw [if_neg Bool.false_ne_true]
      unfold readCode
      dsimp only
      rw [taken, dropped, if_pos ⟨long, List.all_eq_true.mpr code.areHex⟩]
      simp [isValue, isChar]

theorem readEscape_text (mode : Mode) (rest : List Char) :
    readEscape mode (code.text ++ rest) = some (.literal code.char, rest) := by
  rw [← code.readHex_text rest, text, List.cons_append]
  cases code.size <;> rfl

theorem escapeInClass_text (rest : List Char) :
    escapeInClass (code.text ++ rest) = some (codeText code.char, rest) := by
  have read : escapeInClass (code.text ++ rest) = (readCode code.size.digits
      ((if code.braced then '\x7b' :: (code.digits ++ ['\x7d']) else code.digits) ++ rest)).map
        fun found => (codeText found.1, found.2) := by
    rw [text, List.cons_append]
    cases code.size <;> rfl
  rw [read, code.readCode_text]
  rfl

end Code

/-! ## Signs and properties -/

/-- The escape of a sign stands for the sign. -/
theorem readEscape_sign {c : Char} (ascii : c.toNat < 0x80) (notLetter : isAsciiLetter c = false)
    (notDigit : isAsciiDigit c = false) (notLess : c ≠ '<') (notGreater : c ≠ '>') (mode : Mode)
    (text : List Char) : readEscape mode (c :: text) = some (.literal c, text) := by
  unfold readEscape
  dsimp only
  split
  · rfl
  · split
    case h_22 => exact absurd rfl notLess
    case h_23 => exact absurd rfl notGreater
    case h_24 => rw [if_pos ⟨ascii, by rw [notLetter]; rfl, by rw [notDigit]; rfl⟩]
    all_goals exact absurd notLetter (by decide)

theorem exists_primitive_of_isEscape {c : Char} (escape : isEscape c = true) :
    ∃ primitive, ∀ mode text, readEscape mode (c :: text) = some (primitive, text) := by
  rw [isEscape, Bool.or_eq_true] at escape
  rcases escape with letter | sign
  · have member : c ∈ ['a', 'f', 'n', 'r', 't', 'v', 'd', 'D', 's', 'S', 'w', 'W'] :=
      List.contains_iff_mem.mp letter
    simp only [List.mem_cons, List.not_mem_nil, or_false] at member
    rcases member with rfl | rfl | rfl | rfl | rfl | rfl | rfl | rfl | rfl | rfl | rfl | rfl <;>
      exact ⟨_, fun _ _ => rfl⟩
  · simp only [Bool.and_eq_true, decide_eq_true_eq, Bool.not_eq_true', bne_iff_ne] at sign
    obtain ⟨⟨⟨⟨ascii, notLetter⟩, notDigit⟩, notLess⟩, notGreater⟩ := sign
    exact ⟨_, readEscape_sign ascii notLetter notDigit notLess notGreater⟩

/-- The escape of a condition takes its own character alone and means the same wherever it
stands. -/
theorem readEscape_condition {mode : Mode} {c : Char} {text rest : List Char}
    {primitive : Primitive} (condition : isCondition c = true)
    (read : readEscape mode (c :: text) = some (primitive, rest)) :
    rest = text ∧ ∀ mode, readEscape mode [c] = some (primitive, []) := by
  have member : c ∈ ['A', 'z', 'b', 'B', '<', '>'] := List.contains_iff_mem.mp condition
  simp only [List.mem_cons, List.not_mem_nil, or_false] at member
  rcases member with rfl | rfl | rfl | rfl | rfl | rfl
  case inr.inr.inl =>
    -- a brace after a word boundary is refused
    replace read : (if text.head? = some '\x7b' then none
        else some (.assertion .wordBoundary, text)) = some (primitive, rest) := read
    split at read
    · cases read
    · obtain ⟨rfl, rfl⟩ := Prod.mk.inj (Option.some.inj read)
      exact ⟨rfl, fun _ => rfl⟩
  all_goals
    obtain ⟨rfl, rfl⟩ := Prod.mk.inj (Option.some.inj read)
    exact ⟨rfl, fun _ => rfl⟩

theorem readProperty_text (name : PropertyName) (negated : Bool) (mode : Mode) (rest : List Char) :
    readProperty mode negated (name.text ++ rest) =
      (readProperty mode.inClass negated name.text).map fun read => (read.1, rest) := by
  have same : mode.inClass.applyTo = mode.applyTo := Mode.applyTo_congr rfl
  cases name with
  | letter c notEscape notBrace =>
      have read : ∀ mode rest, readProperty mode negated (c :: rest) =
          (CharSet.named? [c]).map fun chars => (.chars (mode.applyTo negated chars), rest) := by
        intro mode rest
        rw [readProperty, if_neg notEscape]
        exact notBrace
      rw [PropertyName.text, List.singleton_append, read, read, same, Option.map_map]
      rfl
  | braced name inside =>
      have read : ∀ mode rest, readProperty mode negated ('\x7b' :: (name ++ '\x7d' :: rest)) =
          (propertySet? name).map fun found =>
            (.chars (mode.applyTo (negated != found.2) found.1), rest) := by
        intro mode rest
        simp only [readProperty, untilBrace_append inside, Option.bind_eq_bind, Option.bind_some]
        cases propertySet? name <;> rfl
      rw [PropertyName.text, List.cons_append, List.append_assoc, List.singleton_append, read, read,
        same, Option.map_map]
      rfl

theorem readPropertyText_text (name : PropertyName) (rest : List Char) :
    readPropertyText (name.text ++ rest) = some (name.text, rest) := by
  cases name with
  | letter c notEscape notBrace =>
      rw [PropertyName.text, List.singleton_append, readPropertyText]
      exact notBrace
  | braced name inside =>
      rw [PropertyName.text, List.cons_append, List.append_assoc, List.singleton_append,
        readPropertyText, untilBrace_append inside]
      rfl

theorem foldCase_code : ∀ code < 128, isAsciiLetter (Char.ofNat code) = false →
    (CharSet.singleton (Char.ofNat code)).foldCase = CharSet.singleton (Char.ofNat code) := by
  decide

/-- A character without case under the mode. -/
theorem charSet_of_notLetter {c : Char} (ascii : c.toNat < 0x80)
    (notLetter : isAsciiLetter c = false) (mode : Mode) :
    mode.charSet c = CharSet.singleton c := by
  have folded := foldCase_code c.toNat ascii
  rw [Char.ofNat_toNat] at folded
  rw [Mode.charSet, Mode.applyTo, folded notLetter, ite_self]
  rfl

/-- What the escape of a shared character means if it stands for no set: a character without case.
In a class it is turned into a code. -/
structure Escapes (c d : Char) : Prop where
  ascii : d.toNat < 0x80
  notLetter : isAsciiLetter d = false
  escaped : ∀ inClass, escapedChar? inClass c = some d
  inClass : ∀ rest, escapeInClass (c :: rest) = some (codeText d, rest)
  read : ∀ mode text, readEscape mode (c :: text) = some (.literal d, text)

theorem escapes_sign {c : Char} (ascii : c.toNat < 0x80) (notLetter : isAsciiLetter c = false)
    (notDigit : isAsciiDigit c = false) (notLess : c ≠ '<') (notGreater : c ≠ '>') :
    Escapes c c := by
  have same : ∀ inClass, escapedChar? inClass c = some c := by
    intro inClass
    unfold escapedChar?
    split
    case h_9 => rw [if_pos (by rw [notLetter]; rfl)]
    all_goals exact absurd notLetter (by decide)
  refine ⟨ascii, notLetter, same, fun rest => ?_,
    readEscape_sign ascii notLetter notDigit notLess notGreater⟩
  have unlike : ∀ d, isAsciiLetter d = true → c ≠ d := by
    rintro _ letter rfl
    rw [notLetter] at letter
    cases letter
  have letters : "dDsSwW".toList.all isAsciiLetter = true := by decide
  have notSet : ¬"dDsSwW".toList.contains c = true := fun found =>
    unlike c (List.all_eq_true.mp letters c (List.contains_iff_mem.mp found)) rfl
  unfold escapeInClass
  dsimp only
  rw [if_neg (Bool.eq_false_iff.mp notDigit), if_neg notSet,
    if_neg (not_or.mpr ⟨unlike _ rfl, unlike _ rfl⟩), if_neg (unlike _ rfl),
    if_neg (unlike _ rfl), if_neg (unlike _ rfl),
    if_neg (not_or.mpr ⟨unlike _ rfl, unlike _ rfl⟩), same]
  rfl

theorem set_or_escapes {c : Char} (escape : isEscape c = true) :
    "dDsSwW".toList.contains c = true ∨ ∃ d, Escapes c d := by
  rcases Bool.or_eq_true_iff.mp escape with letter | sign
  · have member : c ∈ ['a', 'f', 'n', 'r', 't', 'v', 'd', 'D', 's', 'S', 'w', 'W'] :=
      List.contains_iff_mem.mp letter
    simp only [List.mem_cons, List.not_mem_nil, or_false] at member
    rcases member with rfl | rfl | rfl | rfl | rfl | rfl | rfl | rfl | rfl | rfl | rfl | rfl
    iterate 6
      exact .inr ⟨_, by decide, by decide, fun _ => rfl, fun _ => rfl, fun _ _ => rfl⟩
    all_goals exact .inl rfl
  · simp only [Bool.and_eq_true, decide_eq_true_eq, Bool.not_eq_true', bne_iff_ne] at sign
    obtain ⟨⟨⟨⟨ascii, notLetter⟩, notDigit⟩, notLess⟩, notGreater⟩ := sign
    exact .inr ⟨c, escapes_sign ascii notLetter notDigit notLess notGreater⟩

/-! ## Escapes -/

namespace Escape

/-- A text takes itself alone and stands for what the case mode says. -/
theorem primitive_of_takes {escape : Escape} {meaning : Bool → Option Primitive}
    (takes : ∀ mode rest, readEscape mode (escape.text ++ rest) =
      (meaning mode.ignoreCase).map fun primitive => (primitive, rest)) (ignoreCase : Bool) :
    escape.primitive? ignoreCase = meaning ignoreCase := by
  have alone := takes { Mode.initial with ignoreCase } []
  rw [List.append_nil] at alone
  rw [primitive?, alone, Option.map_map]
  exact Option.map_id'

/-- An escape takes its own text alone. -/
theorem readEscape_text (escape : Escape) (mode : Mode) (rest : List Char) :
    readEscape mode (escape.text ++ rest) =
      (escape.primitive? mode.ignoreCase).map fun primitive => (primitive, rest) := by
  suffices takes : ∃ meaning : Bool → Option Primitive, ∀ mode rest,
      readEscape mode (escape.text ++ rest) =
        (meaning mode.ignoreCase).map fun primitive => (primitive, rest) by
    obtain ⟨meaning, takes⟩ := takes
    rw [primitive_of_takes takes, takes]
  cases escape with
  | sign c isEscape =>
      obtain ⟨primitive, same⟩ := exists_primitive_of_isEscape isEscape
      exact ⟨fun _ => some primitive, fun mode rest => same mode rest⟩
  | code number => exact ⟨fun _ => some (.literal number.char), number.readEscape_text⟩
  | property negated name =>
      refine ⟨fun ignoreCase => (readProperty { Mode.initial with ignoreCase } negated
        name.text).map (·.1), fun mode rest => ?_⟩
      have read : readEscape mode ((property negated name).text ++ rest) =
          readProperty mode negated (name.text ++ rest) := by cases negated <;> rfl
      rw [read, readProperty_text, Option.map_map]
      rfl

theorem primitive_sign {c : Char} {isEscape : isEscape c = true} {primitive : Primitive}
    (same : ∀ mode text, readEscape mode (c :: text) = some (primitive, text)) (ignoreCase : Bool) :
    (sign c isEscape).primitive? ignoreCase = some primitive := by
  rw [primitive?, text, same]
  rfl

theorem primitive_code (number : Code) (ignoreCase : Bool) :
    (code number).primitive? ignoreCase = some (.literal number.char) := by
  have read := number.readEscape_text { Mode.initial with ignoreCase } []
  rw [List.append_nil] at read
  rw [primitive?, text, read]
  rfl

/-- In a class, an escape in extended notation is turned into one in regular notation. -/
theorem escapeInClass_text (escape : Escape) (rest : List Char) :
    escapeInClass (escape.text ++ rest) = some (escape.coded, rest) := by
  cases escape with
  | sign c isEscape =>
      by_cases set : "dDsSwW".toList.contains c = true
      · have member : c ∈ ['d', 'D', 's', 'S', 'w', 'W'] := List.contains_iff_mem.mp set
        simp only [List.mem_cons, List.not_mem_nil, or_false] at member
        rcases member with rfl | rfl | rfl | rfl | rfl | rfl <;> rfl
      · obtain ⟨d, escapes⟩ := (set_or_escapes isEscape).resolve_left set
        rw [coded, if_neg set, escapes.escaped]
        exact escapes.inClass rest
  | code number => exact number.escapeInClass_text rest
  | property negated name =>
      have read : escapeInClass ((property negated name).text ++ rest) =
          (readPropertyText (name.text ++ rest)).map fun found =>
            ('\\' :: (if negated then 'P' else 'p') :: found.1, found.2) := by
        cases negated <;> rfl
      rw [read, readPropertyText_text]
      rfl

/-- What an escape is turned into stands for the same. -/
theorem exists_coded (escape : Escape) : ∃ more, escape.coded = '\\' :: more ∧ ∀ mode rest,
    readEscape mode (more ++ rest) =
      (escape.primitive? mode.ignoreCase).map fun primitive => (primitive, rest) := by
  cases escape with
  | sign c isEscape =>
      by_cases set : "dDsSwW".toList.contains c = true
      · exact ⟨[c], if_pos set, readEscape_text (sign c isEscape)⟩
      · obtain ⟨d, escapes⟩ := (set_or_escapes isEscape).resolve_left set
        obtain ⟨more, written, read⟩ := readEscape_codeText d
        refine ⟨more, ?_, fun mode rest => ?_⟩
        · rw [coded, if_neg set, escapes.escaped]
          exact written
        · rw [read, primitive_sign escapes.read]
          rfl
  | code number =>
      obtain ⟨more, written, read⟩ := readEscape_codeText number.char
      exact ⟨more, written, fun mode rest => by rw [read, primitive_code]; rfl⟩
  | property negated name => exact ⟨_, rfl, readEscape_text (property negated name)⟩

end Escape

end Shared

end AgentClassifier.Pattern
