import LanguageBridge.Text.Bytes

set_option autoImplicit false

/-! # Decoded text spells its bytes

If a byte sequence can be decoded, it is the UTF-8 form of the text that comes out
(`eq_utf8Bytes_of_decode?`). The reader keeps only some bits and bounds of a character that it has
begun; `Started` ties these to the bytes that have been read, and says that every code point within
the bounds begins with these bytes.
-/

namespace LanguageBridge.Text

/-! ## The forms of characters -/

/-- What the bytes before the last `k` ones spell of a code point: each byte spells six bits. -/
def leading : Nat → Nat → Nat
  | 0, n => n
  | k + 1, n => leading k n / 64

/-- The last `k` bytes of a code point that takes more than one byte. -/
def tails : Nat → Nat → Bytes
  | 0, _ => []
  | k + 1, n => UInt8.ofNat (leading k n % 64 + 0x80) :: tails k n

theorem toNat_ofNat_of_valid {n : Nat} (h : n < 0xD800 ∨ 0xDFFF < n ∧ n < 0x110000) :
    (Char.ofNat n).val.toNat = n := by
  have hvalid : n.isValidChar := h
  rw [Char.ofNat, dif_pos hvalid]
  rfl

theorem utf8EncodeChar_one {n : Nat} (h : n < 0x80) :
    String.utf8EncodeChar (Char.ofNat n) = [UInt8.ofNat n] := by
  rw [String.utf8EncodeChar, toNat_ofNat_of_valid (Or.inl (by omega))]
  exact if_pos (by omega)

theorem utf8EncodeChar_two {n : Nat} (hlow : 0x80 ≤ n) (hhigh : n < 0x800) :
    String.utf8EncodeChar (Char.ofNat n) = UInt8.ofNat (n / 64 + 0xC0) :: tails 1 n := by
  rw [String.utf8EncodeChar, toNat_ofNat_of_valid (Or.inl (by omega))]
  rw [if_neg (by omega), if_pos (by omega), show n / 64 % 0x20 = n / 64 by omega]
  simp [tails, leading]

theorem utf8EncodeChar_three {n : Nat} (hlow : 0x800 ≤ n) (hhigh : n < 0x10000)
    (hvalid : n < 0xD800 ∨ 0xDFFF < n) :
    String.utf8EncodeChar (Char.ofNat n) = UInt8.ofNat (n / 4096 + 0xE0) :: tails 2 n := by
  rw [String.utf8EncodeChar, toNat_ofNat_of_valid (by omega)]
  rw [if_neg (by omega), if_neg (by omega), if_pos (by omega),
    show n / 4096 % 0x10 = n / 4096 by omega]
  simp [tails, leading]

theorem utf8EncodeChar_four {n : Nat} (hlow : 0x10000 ≤ n) (hhigh : n < 0x110000) :
    String.utf8EncodeChar (Char.ofNat n) = UInt8.ofNat (n / 262144 + 0xF0) :: tails 3 n := by
  rw [String.utf8EncodeChar, toNat_ofNat_of_valid (by omega)]
  rw [if_neg (by omega), if_neg (by omega), if_neg (by omega),
    show n / 262144 % 0x08 = n / 262144 by omega]
  simp [tails, leading, Nat.div_div_eq_div_mul]

namespace Scan

/-! ## Characters that have begun -/

/-- What the reader keeps of a character fits the bytes that it has read of it: every code point
within the bounds has a form that begins with these bytes. -/
structure Started (read : Bytes) (p : Scan) : Prop where
  waits : p.missing ≠ 0
  low : 0x80 ≤ p.low.toNat
  high : p.high.toNat ≤ 0xBF
  spells : ∀ n, leading p.missing n = p.bits →
    p.low.toNat ≤ leading (p.missing - 1) n % 64 + 0x80 →
    leading (p.missing - 1) n % 64 + 0x80 ≤ p.high.toNat →
    String.utf8EncodeChar (Char.ofNat n) = read ++ tails p.missing n

theorem ofNat_eq (b : UInt8) {n : Nat} (h : n = b.toNat) : UInt8.ofNat n = b := by
  rw [h, UInt8.ofNat_toNat]

theorem started_two {b : UInt8} (hlow : 0xC2 ≤ b.toNat) (hhigh : b.toNat < 0xE0) :
    Started [b] ⟨b.toNat - 0xC0, 1, 0x80, 0xBF⟩ where
  waits := Nat.one_ne_zero
  low := Nat.le_refl _
  high := Nat.le_refl _
  spells n hn _ _ := by
    simp only [leading] at hn
    rw [utf8EncodeChar_two (by omega) (by omega), ofNat_eq b (by omega)]
    rfl

/-- The first byte of three: the bounds of the second one exclude overlong forms and surrogates. -/
theorem started_three {b low high : UInt8} (hlow : 0xE0 ≤ b.toNat) (hhigh : b.toNat < 0xF0)
    (hoverlong : b.toNat = 0xE0 → 0xA0 ≤ low.toNat)
    (hsurrogate : b.toNat = 0xED → high.toNat ≤ 0x9F)
    (hfrom : 0x80 ≤ low.toNat) (hto : high.toNat ≤ 0xBF) :
    Started [b] ⟨b.toNat - 0xE0, 2, low, high⟩ where
  waits := Nat.succ_ne_zero 1
  low := hfrom
  high := hto
  spells n hn hbelow habove := by
    simp only [leading, Nat.add_one_sub_one] at hn hbelow habove
    rw [utf8EncodeChar_three (by omega) (by omega) (by omega), ofNat_eq b (by omega)]
    rfl

/-- The first byte of four: the bounds of the second one exclude overlong forms and what is above
the last code point. -/
theorem started_four {b low high : UInt8} (hlow : 0xF0 ≤ b.toNat) (hhigh : b.toNat < 0xF5)
    (hoverlong : b.toNat = 0xF0 → 0x90 ≤ low.toNat) (hlast : b.toNat = 0xF4 → high.toNat ≤ 0x8F)
    (hfrom : 0x80 ≤ low.toNat) (hto : high.toNat ≤ 0xBF) :
    Started [b] ⟨b.toNat - 0xF0, 3, low, high⟩ where
  waits := Nat.succ_ne_zero 2
  low := hfrom
  high := hto
  spells n hn hbelow habove := by
    simp only [leading, Nat.reduceSub] at hn hbelow habove
    rw [utf8EncodeChar_four (by omega) (by omega), ofNat_eq b (by omega)]
    rfl

/-- A first byte that is a character. -/
theorem first_inl {b : UInt8} {c : Char} (h : first b = some (.inl c)) :
    String.utf8EncodeChar c = [b] := by
  simp only [first, UInt8.lt_iff_toNat_lt] at h
  split at h
  case isTrue hlt =>
    rw [← Sum.inl.inj (Option.some.inj h), utf8EncodeChar_one hlt, UInt8.ofNat_toNat]
  case isFalse =>
    repeat' split at h
    all_goals cases h

/-- A first byte that begins a character. -/
theorem started_first {b : UInt8} {p : Scan} (h : first b = some (.inr p)) : Started [b] p := by
  have heq : ∀ n : UInt8, b.toNat = n.toNat → b = n := fun n => UInt8.toNat_inj.mp
  simp only [first, UInt8.lt_iff_toNat_lt] at h
  split at h
  · cases h
  split at h
  · cases h
  next htwo =>
  split at h
  · next hthree =>
    rw [← Sum.inr.inj (Option.some.inj h)]
    exact started_two (Nat.le_of_not_lt htwo) hthree
  next hthree =>
  split at h
  · next hfour =>
    rw [← Sum.inr.inj (Option.some.inj h)]
    exact started_three (Nat.le_of_not_lt hthree) hfour
      (fun h => by rw [if_pos (heq 0xE0 h)]; decide) (fun h => by rw [if_pos (heq 0xED h)]; decide)
      (by split <;> decide) (by split <;> decide)
  next hfour =>
  split at h
  · next hfive =>
    rw [← Sum.inr.inj (Option.some.inj h)]
    exact started_four (Nat.le_of_not_lt hfour) hfive
      (fun h => by rw [if_pos (heq 0xF0 h)]; decide) (fun h => by rw [if_pos (heq 0xF4 h)]; decide)
      (by split <;> decide) (by split <;> decide)
  · cases h

/-- The code points that go on with one more byte. -/
theorem Started.spells_more {read : Bytes} {bits k : Nat} {low high b : UInt8}
    (h : Started read ⟨bits, k + 1, low, high⟩) (hlow : low.toNat ≤ b.toNat)
    (hhigh : b.toNat ≤ high.toNat) {n : Nat} (hn : leading k n = bits * 64 + (b.toNat - 0x80)) :
    String.utf8EncodeChar (Char.ofNat n) = read ++ [b] ++ tails k n := by
  have hfrom : 0x80 ≤ low.toNat := h.low
  have hto : high.toNat ≤ 0xBF := h.high
  have hhead : leading k n % 64 + 0x80 = b.toNat := by omega
  have hbits : leading (k + 1) n = bits := by
    rw [leading]
    omega
  have hspells := h.spells n hbits
  simp only [Nat.add_one_sub_one, hhead] at hspells
  rw [hspells hlow hhigh, tails, hhead, UInt8.ofNat_toNat, List.append_assoc, List.singleton_append]

/-- One more byte ends a character that has begun. -/
theorem push_inl {read : Bytes} {p : Scan} {b : UInt8} {c : Char} (h : Started read p)
    (hb : p.accepts b = true) (hpush : p.push b = .inl c) :
    String.utf8EncodeChar c = read ++ [b] := by
  obtain ⟨bits, missing, low, high⟩ := p
  obtain ⟨k, rfl⟩ := Nat.exists_eq_succ_of_ne_zero h.waits
  simp only [accepts, Bool.and_eq_true, decide_eq_true_eq, UInt8.le_iff_toNat_le] at hb
  simp only [push] at hpush
  split at hpush
  case isTrue hlast =>
    obtain rfl : k = 0 := Nat.le_zero.mp (Nat.le_of_succ_le_succ hlast)
    rw [← Sum.inl.inj hpush]
    exact (h.spells_more hb.1 hb.2 rfl).trans (List.append_nil _)
  case isFalse => cases hpush

/-- One more byte continues a character that has begun. -/
theorem started_push {read : Bytes} {p q : Scan} {b : UInt8} (h : Started read p)
    (hb : p.accepts b = true) (hpush : p.push b = .inr q) : Started (read ++ [b]) q := by
  obtain ⟨bits, missing, low, high⟩ := p
  obtain ⟨k, rfl⟩ := Nat.exists_eq_succ_of_ne_zero h.waits
  simp only [accepts, Bool.and_eq_true, decide_eq_true_eq, UInt8.le_iff_toNat_le] at hb
  simp only [push] at hpush
  split at hpush
  case isTrue => cases hpush
  case isFalse hmore =>
    rw [← Sum.inr.inj hpush]
    exact ⟨by dsimp only; omega, Nat.le_refl _, Nat.le_refl _,
      fun n hn _ _ => h.spells_more hb.1 hb.2 hn⟩

/-! ## Whole texts -/

/-- The pieces of a text are all characters. -/
def AllChars (parts : List (Option Char)) (cs : List Char) : Prop := parts.mapM id = some cs

theorem allChars_nil {cs : List Char} : AllChars [] cs ↔ cs = [] := by
  simp [AllChars, eq_comm]

theorem allChars_cons {part : Option Char} {parts : List (Option Char)} {cs : List Char} :
    AllChars (part :: parts) cs ↔
      ∃ c more, part = some c ∧ AllChars parts more ∧ cs = c :: more := by
  cases part <;> simp [AllChars, Option.bind_eq_some_iff, @eq_comm _ cs]

/-- What is read without damage spells the bytes, those of a begun character included. -/
theorem spells_pieces (bs : Bytes) :
    (∀ cs, AllChars (pieces none bs) cs → bs = cs.flatMap String.utf8EncodeChar) ∧
    (∀ read p cs, Started read p → AllChars (pieces (some p) bs) cs →
      read ++ bs = cs.flatMap String.utf8EncodeChar) := by
  induction bs with
  | nil =>
      constructor
      · intro cs h
        rw [pieces] at h
        rw [allChars_nil.mp h]
        rfl
      · intro read p cs _ h
        rw [pieces] at h
        obtain ⟨c, more, hnone, -⟩ := allChars_cons.mp h
        cases hnone
  | cons b rest ih =>
      have hstart : ∀ cs, AllChars (pieces.start b rest) cs →
          b :: rest = cs.flatMap String.utf8EncodeChar := by
        intro cs h
        rw [pieces.start] at h
        split at h
        case h_1 c hfirst =>
          obtain ⟨_, more, hc, hmore, rfl⟩ := allChars_cons.mp h
          rw [List.flatMap_cons, ← Option.some.inj hc, first_inl hfirst, ← ih.1 more hmore]
          rfl
        case h_2 p hfirst => exact ih.2 [b] p cs (started_first hfirst) h
        case h_3 =>
          obtain ⟨c, more, hnone, -⟩ := allChars_cons.mp h
          cases hnone
      refine ⟨fun cs h => hstart cs (by rwa [pieces] at h), fun read p cs hp h => ?_⟩
      rw [pieces] at h
      split at h
      case isTrue haccepts =>
        split at h
        case h_1 c hpush =>
          obtain ⟨_, more, hc, hmore, rfl⟩ := allChars_cons.mp h
          rw [List.flatMap_cons, ← Option.some.inj hc, push_inl hp haccepts hpush,
            ← ih.1 more hmore, List.append_assoc]
          rfl
        case h_2 q hpush =>
          rw [← ih.2 (read ++ [b]) q cs (started_push hp haccepts hpush) h, List.append_assoc]
          rfl
      case isFalse =>
        obtain ⟨c, more, hnone, -⟩ := allChars_cons.mp h
        cases hnone

/-- An ASCII character is a byte that is complete in itself. -/
theorem first_ascii {c : Char} (h : c.toNat < 0x80) :
    first (UInt8.ofNat c.toNat) = some (.inl c) := by
  have hbyte : (UInt8.ofNat c.toNat).toNat = c.toNat := by
    rw [UInt8.toNat_ofNat']
    omega
  have hlt : UInt8.ofNat c.toNat < 0x80 := by
    rw [UInt8.lt_iff_toNat_lt, hbyte]
    exact h
  rw [first, if_pos hlt, hbyte, Char.ofNat_toNat]

theorem allChars_pieces_ascii {cs : List Char} (h : ∀ c ∈ cs, c.toNat < 0x80) :
    AllChars (pieces none (cs.flatMap String.utf8EncodeChar)) cs := by
  induction cs with
  | nil =>
      rw [List.flatMap_nil, pieces]
      exact allChars_nil.mpr rfl
  | cons c more ih =>
      obtain ⟨hc, hmore⟩ := List.forall_mem_cons.mp h
      have hbytes := utf8EncodeChar_one hc
      rw [Char.ofNat_toNat] at hbytes
      rw [List.flatMap_cons, hbytes, List.singleton_append, pieces, pieces.start, first_ascii hc]
      exact allChars_cons.mpr ⟨c, more, rfl, ih hmore, rfl⟩

end Scan

/-- ASCII text is decoded from its bytes. -/
theorem decode?_utf8Bytes_of_ascii {s : String} (h : ∀ c ∈ s.toList, c.toNat < 0x80) :
    decode? (utf8Bytes s) = some s := by
  have hchars : (Scan.pieces none (utf8Bytes s)).mapM id = some s.toList :=
    Scan.allChars_pieces_ascii h
  rw [decode?, hchars, Option.map_some, String.ofList_toList]

/-- **Decoded text spells its bytes.** -/
theorem eq_utf8Bytes_of_decode? {bs : Bytes} {s : String} (h : decode? bs = some s) :
    bs = utf8Bytes s := by
  obtain ⟨cs, hcs, rfl⟩ := Option.map_eq_some_iff.mp h
  rw [utf8Bytes, String.toList_ofList]
  exact (Scan.spells_pieces bs).1 cs hcs

end LanguageBridge.Text
