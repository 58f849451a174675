import LanguageBridge.Proofs.Json.Strings

set_option autoImplicit false

/-! # Objects in JSON texts

What the writer makes of an object is read as that object, if what it makes of the members' values
is read as these (`reads_object`). The reader sorts the members as it collects them, and of several
with one name it takes the last.

A written string is also one line: the control characters are escaped, and all others stand for
themselves (`unbroken_writeString`). So is an object whose values are.
-/

namespace LanguageBridge.Json

variable {members : Members} {item : ItemReader}

/-! ## Reading what was written -/

/-- A written string is read as that string. -/
theorem reads_string (s : String) (depth : Nat) : Reads depth (write (.string s)) (.string s) := by
  rw [write]
  exact reads_literal (spelled_escape s.toList) depth

/-- What is written behind the value of a member: the end of the object, or its other members. -/
def writeFurther : Members → List Char
  | [] => ['\x7d']
  | more => ',' :: writeMembers more

theorem writeMembers_cons (m : String × Json) (more : Members) :
    writeMembers (m :: more)
      = literal (m.1.toList.flatMap escapeChar) ++ ':' :: (write m.2 ++ writeFurther more) := by
  cases more with
  | nil => rfl
  | cons m' more => rfl

theorem length_le_writeMembers (members : Members) :
    members.length ≤ (writeMembers members).length := by
  induction members with
  | nil => exact Nat.zero_le _
  | cons m more ih =>
      have hfurther : more.length ≤ (writeFurther more).length := by
        cases more with
        | nil => exact Nat.zero_le _
        | cons m' more => exact Nat.le_succ_of_le ih
      rw [writeMembers_cons]
      simp only [List.length_append, List.length_cons]
      omega

/-- After a comma the members go on. -/
theorem readMembers_more {s text rest : List Char} {m : String × Json} {ms : Members} {n : Nat}
    (h : readMember item s = .ok (m, ',' :: '"' :: text))
    (hmore : readMembers item n ('"' :: text) = .ok (ms, rest)) :
    readMembers item (n + 1) s = .ok (m :: ms, rest) := by
  have hcomma : skipBlanks (',' :: '"' :: text) = ',' :: '"' :: text := rfl
  have hquote : skipBlanks ('"' :: text) = '"' :: text := rfl
  rw [readMembers, h]
  simp only [bind, Except.bind, hcomma, hquote]
  split
  case h_1 heq => cases heq
  case h_2 heq => cases heq
  case h_3 => rw [hmore]; rfl

/-- Written members are read, whatever follows the closing brace. The bound counts members. -/
theorem readMembers_write (hne : members ≠ [])
    (hitem : ∀ m ∈ members, ∀ rest, item (write m.2 ++ rest) = .ok (m.2, rest)) {n : Nat}
    (hn : members.length ≤ n) (rest : List Char) :
    readMembers item n (writeMembers members ++ rest) = .ok (members, rest) := by
  induction members generalizing n with
  | nil => exact absurd rfl hne
  | cons m more ih =>
      obtain ⟨hhead, htail⟩ := List.forall_mem_cons.mp hitem
      rw [List.length_cons] at hn
      obtain ⟨bound, rfl⟩ := Nat.exists_eq_add_of_le' (Nat.le_trans (Nat.le_add_left 1 _) hn)
      have hmember : readMember item (writeMembers (m :: more) ++ rest)
          = .ok (m, writeFurther more ++ rest) := by
        rw [writeMembers_cons, List.append_assoc, List.cons_append, List.append_assoc]
        exact readMember_of_spelled (spelled_escape m.1.toList) (hhead _)
      cases more with
      | nil => exact readMembers_last hmember
      | cons m' further =>
          have hmore := ih (List.cons_ne_nil _ _) htail (Nat.le_of_succ_le_succ hn)
          have hfurther : writeFurther (m' :: further) = ',' :: writeMembers (m' :: further) := rfl
          rw [hfurther] at hmember
          rw [writeMembers_cons m' further] at hmore hmember
          exact readMembers_more hmember hmore

/-- **Written objects are read**, one level deeper than the values in them. -/
theorem reads_object {depth : Nat} (h : ∀ m ∈ members, Reads depth (write m.2) m.2) :
    Reads (depth + 1) (write (.object members)) (ofMembers members) := by
  intro rest
  rw [write, List.cons_append, readValue]
  show readObject ofMembers (readValue ofMembers depth) (writeMembers members ++ rest) = _
  cases members with
  | nil => rfl
  | cons m more =>
      have hle := length_le_writeMembers (m :: more)
      have hread : readMembers (readValue ofMembers depth)
          (writeMembers (m :: more) ++ rest).length (writeMembers (m :: more) ++ rest)
          = .ok (m :: more, rest) := by
        refine readMembers_write (List.cons_ne_nil _ _) h ?_ rest
        rw [List.length_append]
        omega
      rw [writeMembers_cons] at hread ⊢
      exact readObject_of_members hread

/-! ## One line -/

/-- There are no control characters in a text, so that it is one line. -/
def Unbroken (text : List Char) : Prop := ∀ c ∈ text, ' ' ≤ c

instance (text : List Char) : Decidable (Unbroken text) :=
  List.decidableBAll (' ' ≤ ·) text

theorem Unbroken.append {text more : List Char} (h : Unbroken text) (h' : Unbroken more) :
    Unbroken (text ++ more) :=
  fun c hc => (List.mem_append.mp hc).elim (h c) (h' c)

theorem Unbroken.cons {c : Char} {text : List Char} (hc : ' ' ≤ c) (h : Unbroken text) :
    Unbroken (c :: text) :=
  List.forall_mem_cons.mpr ⟨hc, h⟩

theorem le_hexDigit {n : Nat} (h : n < 16) : ' ' ≤ Text.hexDigit n := by
  have hall : ∀ n < 16, ' ' ≤ Text.hexDigit n := by decide
  exact hall n h

theorem unbroken_escapeChar (c : Char) : Unbroken (escapeChar c) := by
  unfold escapeChar
  split
  case h_8 =>
    split
    case isTrue hcontrol =>
      have hlt : c.toNat < 32 := hcontrol
      have hhigh := le_hexDigit (n := c.toNat / 16) (by omega)
      have hlow := le_hexDigit (n := c.toNat % 16) (by omega)
      have hstart : Unbroken ['\\', 'u', '0', '0'] := by decide
      exact hstart.append (.cons hhigh (.cons hlow nofun))
    case isFalse hcontrol => exact .cons (Char.not_lt.mp hcontrol) nofun
  all_goals decide

/-- A written string has no control characters. -/
theorem unbroken_writeString (s : String) : Unbroken (writeString s) := by
  refine Unbroken.append (.cons (by decide) ?_) (by decide)
  intro c hc
  obtain ⟨d, -, hd⟩ := List.mem_flatMap.mp hc
  exact unbroken_escapeChar d c hd

theorem unbroken_writeMembers (h : ∀ m ∈ members, Unbroken (write m.2)) :
    Unbroken (writeMembers members) := by
  induction members with
  | nil => exact .cons (by decide) nofun
  | cons m more ih =>
      obtain ⟨hhead, htail⟩ := List.forall_mem_cons.mp h
      have hfurther : Unbroken (writeFurther more) := by
        cases more with
        | nil => exact .cons (by decide) nofun
        | cons m' more => exact .cons (by decide) (ih htail)
      rw [writeMembers_cons]
      exact (unbroken_writeString m.1).append (.cons (by decide) (hhead.append hfurther))

theorem unbroken_object (h : ∀ m ∈ members, Unbroken (write m.2)) :
    Unbroken (write (.object members)) := by
  rw [write]
  exact .cons (by decide) (unbroken_writeMembers h)

end LanguageBridge.Json
