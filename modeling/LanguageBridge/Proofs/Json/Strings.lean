import LanguageBridge.Json.Reader
import LanguageBridge.Json.Writer
import LanguageBridge.Proofs.Text.Decoding

set_option autoImplicit false

/-! # Strings in JSON texts

A character can be written in several ways between the quotes of a JSON string (`Spelling`). The
reader takes all of them: what spells a text is read as that text (`readString_of_spelled`), and
what the writer makes of a text spells it (`spelled_escape`).

On top of this are the two shapes of text that hold one string under one name: a literal, and an
object with a single member. `Reads` says what a text is read as when more may follow it.
-/

namespace LanguageBridge.Json

/-! ## Spellings -/

/-- The ways to write a character between the quotes of a string. -/
inductive Spelling : Char → List Char → Prop where
  /-- The character itself. -/
  | plain {c : Char} (quote : c ≠ '"') (backslash : c ≠ '\\') (control : ¬c < ' ') : Spelling c [c]
  /-- A backslash and a letter. -/
  | short {c e : Char} (stands : shortEscape? e = some c) : Spelling c ['\\', e]
  /-- Four hexadecimal digits. -/
  | unit {c w x y z : Char} (digits : hexUnit? w x y z = some c.toNat) :
      Spelling c ['\\', 'u', w, x, y, z]
  /-- A surrogate pair, each half with four hexadecimal digits. -/
  | pair {c w x y z w' x' y' z' : Char} {high low : Nat} (first : hexUnit? w x y z = some high)
      (second : hexUnit? w' x' y' z' = some low) (isHigh : isHighSurrogate high = true)
      (isLow : isLowSurrogate low = true)
      (value : c.toNat = (high - 0xD800) * 0x400 + (low - 0xDC00) + 0x10000) :
      Spelling c ['\\', 'u', w, x, y, z, '\\', 'u', w', x', y', z']

/-- The ways to write a list of characters between the quotes of a string. -/
inductive Spelled : List Char → List Char → Prop where
  | nil : Spelled [] []
  | cons {c : Char} {form : List Char} {cs forms : List Char} (head : Spelling c form)
      (tail : Spelled cs forms) : Spelled (c :: cs) (form ++ forms)

theorem Spelling.length_pos {c : Char} {form : List Char} (h : Spelling c form) :
    0 < form.length := by
  cases h <;> exact Nat.succ_pos _

theorem Spelled.length_le {cs forms : List Char} (h : Spelled cs forms) :
    cs.length ≤ forms.length := by
  induction h with
  | nil => exact Nat.le_refl 0
  | cons head _ ih =>
      have hpos := head.length_pos
      rw [List.length_cons, List.length_append]
      omega

/-! ## Reading strings -/

theorem byteSize_cons (c : Char) (s : List Char) : byteSize (c :: s) = c.utf8Size + byteSize s :=
  rfl

theorem readHexUnit_of_digits {w x y z : Char} {n : Nat} (h : hexUnit? w x y z = some n)
    (rest : List Char) : readHexUnit (w :: x :: y :: z :: rest) = .ok (n, rest) := by
  have hw := w.utf8Size_pos
  have hx := x.utf8Size_pos
  have hy := y.utf8Size_pos
  have hz := z.utf8Size_pos
  have hsize : ¬byteSize ((w :: x :: y :: z :: rest).take 4) < 4 := by
    simp only [List.take_succ_cons, List.take_zero, byteSize_cons]
    omega
  rw [readHexUnit, if_neg hsize]
  simp only [h]

/-- No character lies among the surrogates. -/
theorem not_surrogate (c : Char) :
    isLowSurrogate c.toNat = false ∧ isHighSurrogate c.toNat = false := by
  have hvalid : c.toNat < 0xD800 ∨ 0xDFFF < c.toNat ∧ c.toNat < 0x110000 := c.valid
  simp only [isLowSurrogate, isHighSurrogate, Bool.and_eq_false_iff, decide_eq_false_iff_not]
  omega

theorem readUnicodeEscape_unit {c w x y z : Char} (h : hexUnit? w x y z = some c.toNat)
    (rest : List Char) : readUnicodeEscape (w :: x :: y :: z :: rest) = .ok (c, rest) := by
  obtain ⟨hlow, hhigh⟩ := not_surrogate c
  rw [readUnicodeEscape, readHexUnit_of_digits h]
  simp only [bind, Except.bind, hlow, hhigh, Bool.false_eq_true, if_false, Char.ofNat_toNat]
  rfl

theorem readUnicodeEscape_pair {c w x y z w' x' y' z' : Char} {high low : Nat}
    (first : hexUnit? w x y z = some high) (second : hexUnit? w' x' y' z' = some low)
    (isHigh : isHighSurrogate high = true) (isLow : isLowSurrogate low = true)
    (value : c.toNat = (high - 0xD800) * 0x400 + (low - 0xDC00) + 0x10000) (rest : List Char) :
    readUnicodeEscape (w :: x :: y :: z :: '\\' :: 'u' :: w' :: x' :: y' :: z' :: rest)
      = .ok (c, rest) := by
  have hjoin : joinPair high low = c := by rw [joinPair, ← value, Char.ofNat_toNat]
  -- A first half is below every second half.
  have hnotLow : isLowSurrogate high = false := by
    simp only [isHighSurrogate, isLowSurrogate, Bool.and_eq_true, decide_eq_true_eq,
      Bool.and_eq_false_iff, decide_eq_false_iff_not] at isHigh ⊢
    omega
  rw [readUnicodeEscape, readHexUnit_of_digits first]
  simp only [bind, Except.bind, hnotLow, isHigh, Bool.false_eq_true, if_false, if_true, readPair,
    readHexUnit_of_digits second, isLow, hjoin]
  rfl

theorem readChars_escape {c : Char} {n : Nat} {text s cs rest : List Char}
    (h : readEscape text = .ok (c, s)) (hs : readChars n s = .ok (cs, rest)) :
    readChars (n + 1) ('\\' :: text) = .ok (c :: cs, rest) := by
  rw [readChars, if_neg (by decide), if_pos rfl, h]
  simp only [bind, Except.bind, hs]
  rfl

theorem readEscape_short {c e : Char} (h : shortEscape? e = some c) (rest : List Char) :
    readEscape (e :: rest) = .ok (c, rest) := by
  simp only [readEscape, h]

theorem readEscape_unicode (text : List Char) : readEscape ('u' :: text) = readUnicodeEscape text :=
  rfl

/-- One spelled character is read as that character. -/
theorem readChars_spelling {c : Char} {form : List Char} (h : Spelling c form) {n : Nat}
    {s cs rest : List Char} (hs : readChars n s = .ok (cs, rest)) :
    readChars (n + 1) (form ++ s) = .ok (c :: cs, rest) := by
  cases h with
  | plain quote backslash control =>
      rw [List.singleton_append, readChars, if_neg quote, if_neg backslash, if_neg control, hs]
      rfl
  | short stands =>
      exact readChars_escape (readEscape_short stands s) hs
  | unit digits =>
      refine readChars_escape ?_ hs
      exact (readEscape_unicode _).trans (readUnicodeEscape_unit digits s)
  | pair first second isHigh isLow value =>
      refine readChars_escape ?_ hs
      exact (readEscape_unicode _).trans
        (readUnicodeEscape_pair first second isHigh isLow value s)

theorem readChars_of_spelled {cs forms : List Char} (h : Spelled cs forms) {n : Nat}
    (hn : cs.length < n) (rest : List Char) :
    readChars n (forms ++ '"' :: rest) = .ok (cs, rest) := by
  -- On the spelled characters: each takes one step, so the bound counts characters, not forms.
  induction h generalizing n with
  | nil =>
      obtain ⟨m, rfl⟩ := Nat.exists_eq_add_of_lt hn
      rfl
  | cons head _ ih =>
      rw [List.length_cons] at hn
      obtain ⟨m, rfl⟩ := Nat.exists_eq_add_of_lt hn
      rw [List.append_assoc]
      exact readChars_spelling head (ih (by omega))

/-- **Strings are read as they are spelled**, up to the closing quote. -/
theorem readString_of_spelled {s : String} {forms : List Char} (h : Spelled s.toList forms)
    (rest : List Char) : readString (forms ++ '"' :: rest) = .ok (s, rest) := by
  have hle := h.length_le
  have hfuel : s.toList.length < (forms ++ '"' :: rest).length + 1 := by
    rw [List.length_append]
    omega
  rw [readString, readChars_of_spelled h hfuel]
  simp only [bind, Except.bind, String.ofList_toList]
  rfl

/-! ## What the writer makes -/

theorem hexValue?_hexDigit {n : Nat} (h : n < 16) : Text.hexValue? (Text.hexDigit n) = some n := by
  have hall : ∀ n < 16, Text.hexValue? (Text.hexDigit n) = some n := by decide
  exact hall n h

theorem spelling_escapeChar (c : Char) : Spelling c (escapeChar c) := by
  unfold escapeChar
  split
  case h_8 hquote hbackslash _ _ _ _ _ =>
    split
    case isTrue hcontrol =>
      have hlt : c.toNat < 32 := hcontrol
      have hdigits : hexUnit? '0' '0' (Text.hexDigit (c.toNat / 16)) (Text.hexDigit (c.toNat % 16))
          = some c.toNat := by
        have hzero : Text.hexValue? '0' = some 0 := rfl
        have hhigh : c.toNat / 16 < 16 := by omega
        have hlow : c.toNat % 16 < 16 := by omega
        have hsum : ((0 * 16 + 0) * 16 + c.toNat / 16) * 16 + c.toNat % 16 = c.toNat := by omega
        simp only [hexUnit?, hzero, hexValue?_hexDigit hhigh, hexValue?_hexDigit hlow, hsum, bind,
          Option.bind, pure]
      exact .unit hdigits
    case isFalse hcontrol => exact .plain hquote hbackslash hcontrol
  all_goals exact .short rfl

/-- The writer's form of a text spells it. -/
theorem spelled_escape (cs : List Char) : Spelled cs (cs.flatMap escapeChar) := by
  induction cs with
  | nil => exact .nil
  | cons c cs ih =>
      rw [List.flatMap_cons]
      exact .cons (spelling_escapeChar c) ih

/-! ## Literals and objects with one member -/

/-- The string literal with the given characters between its quotes. -/
def literal (forms : List Char) : List Char := '"' :: (forms ++ ['"'])

/-- The text of an object with one member: the characters of its name and the text of its
value. -/
def single (name value : List Char) : List Char :=
  '\x7b' :: (literal name ++ ':' :: ' ' :: (value ++ ['\x7d']))

/-- Whatever follows, the text is read as the value when things may nest so deep. -/
def Reads (depth : Nat) (text : List Char) (value : Json) : Prop :=
  ∀ rest, readValue ofMembers depth (text ++ rest) = .ok (value, rest)

theorem readWith_literal {s : String} {forms : List Char} (h : Spelled s.toList forms)
    (collect : Members → Json) (inner : Option ItemReader) (rest : List Char) :
    readWith collect inner (literal forms ++ rest) = .ok (string s, rest) := by
  have hread := readString_of_spelled h rest
  have hskip : skipBlanks ('"' :: (forms ++ '"' :: rest)) = '"' :: (forms ++ '"' :: rest) := rfl
  rw [literal, List.cons_append, List.append_assoc, List.singleton_append, readWith, hskip]
  simp only [hread, bind, Except.bind]
  rfl

/-- A literal nests nothing, so it is read at every depth. -/
theorem reads_literal {s : String} {forms : List Char} (h : Spelled s.toList forms)
    (depth : Nat) : Reads depth (literal forms) (string s) := by
  intro rest
  cases depth with
  | zero => exact readWith_literal h _ _ rest
  | succ depth => exact readWith_literal h _ _ rest

theorem readMember_of_spelled {name : String} {forms text rest : List Char} {value : Json}
    {item : ItemReader} (h : Spelled name.toList forms) (hitem : item text = .ok (value, rest)) :
    readMember item (literal forms ++ ':' :: text) = .ok ((name, value), rest) := by
  have hread := readString_of_spelled h (':' :: text)
  have hskip : skipBlanks (':' :: text) = ':' :: text := rfl
  rw [literal, List.cons_append, List.append_assoc, List.singleton_append, readMember]
  simp only [hread, bind, Except.bind, hskip, hitem]
  rfl

/-- The last member of an object ends with the object's closing brace. -/
theorem readMembers_last {item : ItemReader} {s rest : List Char} {m : String × Json} {n : Nat}
    (h : readMember item s = .ok (m, '\x7d' :: rest)) :
    readMembers item (n + 1) s = .ok ([m], rest) := by
  have hskip : skipBlanks ('\x7d' :: rest) = '\x7d' :: rest := rfl
  rw [readMembers, h]
  simp only [bind, Except.bind, hskip]
  rfl

/-- An object whose text starts with a literal is what its members are collected to. -/
theorem readObject_of_members {collect : Members → Json} {item : ItemReader}
    {text rest : List Char} {ms : Members}
    (h : readMembers item (text.length + 1) ('"' :: text) = .ok (ms, rest)) :
    readObject collect item ('"' :: text) = .ok (collect ms, rest) := by
  have hskip : skipBlanks ('"' :: text) = '"' :: text := rfl
  rw [readObject, hskip]
  show (readMembers item (text.length + 1) ('"' :: text)).bind _ = _
  rw [h]
  rfl

/-- An object with one member is one level deeper than the member's value. -/
theorem reads_single {name : String} {forms text : List Char} {value : Json} {depth : Nat}
    (h : Spelled name.toList forms) (hvalue : Reads depth text value) :
    Reads (depth + 1) (single forms text) (object [(name, value)]) := by
  intro rest
  have hblank : readValue ofMembers depth (' ' :: (text ++ '\x7d' :: rest))
      = .ok (value, '\x7d' :: rest) := by
    rw [← hvalue]
    cases depth <;> rfl
  have hobject : readObject ofMembers (readValue ofMembers depth)
        (literal forms ++ ':' :: ' ' :: (text ++ '\x7d' :: rest))
      = .ok (object [(name, value)], rest) :=
    readObject_of_members (readMembers_last (readMember_of_spelled h hblank))
  have htext : single forms text ++ rest
      = '\x7b' :: (literal forms ++ ':' :: ' ' :: (text ++ '\x7d' :: rest)) := by
    simp only [single, List.cons_append, List.append_assoc, List.nil_append]
  rw [htext, readValue]
  exact hobject

/-- A text that is read as a value at full depth is a JSON text of that value. -/
theorem ofText_of_reads {text : List Char} {value : Json} (h : Reads maxDepth text value) :
    ofText (String.ofList text) = .ok value := by
  have hread : readValue ofMembers maxDepth text = .ok (value, []) := by
    have hnil := h []
    rwa [List.append_nil] at hnil
  have hwhole : ofChars text = .ok value := by
    rw [ofChars, readWhole, hread]
    rfl
  rw [ofText, String.toList_ofList, hwhole]

end LanguageBridge.Json
