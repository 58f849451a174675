import LanguageBridge.Glob.Union

set_option autoImplicit false

/-! # What a glob means

`Glob.Reads` says which bytes a token stands for, and `Glob.ReadsAll` which paths a glob stands for:
those that can be cut into pieces, one for each token. The matcher never cuts a path. It keeps one
truth value for each place in the path, and each token turns the values for what follows it into
its own.

The two agree (`isMatch_iff`). `Tells P path places` says that the values are those of `P` on the
rest of the path from each place on; it is kept by every token (`tells_token`), by induction on
tokens, globs and alternatives together.
-/

namespace LanguageBridge.Glob

/-! ## Meaning -/

mutual

/-- The bytes that a token stands for. -/
def Reads : GlobToken → Bytes → Prop
  | .literal c, s => s = String.utf8EncodeChar c
  | .anyByte, s => ∃ b, s = [b]
  | .anyBytes, _ => True
  | .anyAbove, s => s = [] ∨ ∃ a, s = a ++ [slash]
  | .anyBelow, s => ∃ a, s = slash :: a
  | .anyBetween, s => s = [slash] ∨ ∃ a, s = slash :: (a ++ [slash])
  | .byteClass negated ranges, s => ∃ b, s = [b] ∧ inClass negated ranges b = true
  | .oneOf branches, s => if allVoid branches then s = [] else ReadsOne branches s

/-- The bytes that the tokens of a glob stand for, one after the other. -/
def ReadsAll : List GlobToken → Bytes → Prop
  | [], s => s = []
  | t :: rest, s => ∃ a b, s = a ++ b ∧ Reads t a ∧ ReadsAll rest b

/-- The bytes that one of several alternatives stands for; an empty one is no alternative. -/
def ReadsOne : List (List GlobToken) → Bytes → Prop
  | [], _ => False
  | g :: rest, s => isVoidGlob g = false ∧ ReadsAll g s ∨ ReadsOne rest s

end

/-- Bytes of the first kind, then bytes of the second kind. -/
def Then (L P : Bytes → Prop) (s : Bytes) : Prop := ∃ a b, s = a ++ b ∧ L a ∧ P b

/-- Characters that stand for themselves stand for their bytes. -/
theorem readsAll_text (cs : List Char) (s : Bytes) :
    ReadsAll (cs.map .literal) s ↔ s = cs.flatMap String.utf8EncodeChar := by
  induction cs generalizing s with
  | nil => exact Iff.rfl
  | cons c rest ih =>
      constructor
      · rintro ⟨a, b, rfl, rfl, hb⟩
        rw [(ih b).mp hb]
        rfl
      · rintro rfl
        exact ⟨_, _, rfl, rfl, (ih _).mpr rfl⟩

/-- One of several alternatives. -/
theorem readsOne_iff (branches : List Glob) (s : Bytes) :
    ReadsOne branches s ↔ ∃ g ∈ branches, isVoidGlob g = false ∧ ReadsAll g s := by
  induction branches with
  | nil => simp [ReadsOne]
  | cons g rest ih => simp [ReadsOne, ih]

/-! ## The values at the places of a path -/

/-- The values at the places of a path are those of `P`, each for the rest of the path. -/
def Tells (P : Bytes → Prop) : Bytes → Places → Prop
  | [], places => ∃ here, places = [here] ∧ (here = true ↔ P [])
  | b :: path, places => ∃ here after, places = here :: after ∧ (here = true ↔ P (b :: path)) ∧
      Tells P path after

variable {P Q : Bytes → Prop} {path : Bytes} {places after : Places}

theorem Tells.first (h : Tells P path places) : first places = true ↔ P path := by
  cases path with
  | nil =>
      obtain ⟨here, rfl, hhere⟩ := h
      exact hhere
  | cons b path =>
      obtain ⟨here, after, rfl, hhere, -⟩ := h
      exact hhere

theorem Tells.congr (h : Tells P path places) (hPQ : ∀ s, P s ↔ Q s) : Tells Q path places := by
  rw [show P = Q from funext fun s => propext (hPQ s)] at h
  exact h

theorem tells_atEnd (path : Bytes) : Tells (· = []) path (atEnd path) := by
  induction path with
  | nil => exact ⟨true, rfl, by simp⟩
  | cons b path ih => exact ⟨false, atEnd path, rfl, by simp, ih⟩

theorem Tells.nowhere (h : Tells P path after) :
    Tells (fun _ => False) path (after.map fun _ => false) := by
  induction path generalizing after with
  | nil =>
      obtain ⟨here, rfl, -⟩ := h
      exact ⟨false, rfl, by simp⟩
  | cons b path ih =>
      obtain ⟨here, after, rfl, -, hafter⟩ := h
      exact ⟨false, _, rfl, by simp, ih hafter⟩

theorem Tells.either {a b : Places} (ha : Tells P path a) (hb : Tells Q path b) :
    Tells (fun s => P s ∨ Q s) path (either a b) := by
  induction path generalizing a b with
  | nil =>
      obtain ⟨here, rfl, hhere⟩ := ha
      obtain ⟨there, rfl, hthere⟩ := hb
      exact ⟨here || there, rfl, by rw [Bool.or_eq_true, hhere, hthere]⟩
  | cons c path ih =>
      obtain ⟨here, a, rfl, hhere, ha⟩ := ha
      obtain ⟨there, b, rfl, hthere, hb⟩ := hb
      exact ⟨here || there, _, rfl, by rw [Bool.or_eq_true, hhere, hthere], ih ha hb⟩

theorem Tells.oneByte (h : Tells P path after) (p : UInt8 → Bool) :
    Tells (Then (fun a => ∃ b, a = [b] ∧ p b = true) P) path (oneByte p path after) := by
  induction path generalizing after with
  | nil =>
      obtain ⟨here, rfl, -⟩ := h
      refine ⟨false, rfl, ?_⟩
      simp [Then]
  | cons b path ih =>
      obtain ⟨here, after, rfl, -, hafter⟩ := h
      refine ⟨p b && Glob.first after, Glob.oneByte p path after, rfl, ?_, ih hafter⟩
      rw [Bool.and_eq_true, hafter.first]
      constructor
      · rintro ⟨hb, hpath⟩
        exact ⟨[b], path, rfl, ⟨b, rfl, hb⟩, hpath⟩
      · rintro ⟨_, rest, heq, ⟨c, rfl, hc⟩, hrest⟩
        cases heq
        exact ⟨hc, hrest⟩

theorem Tells.anyThen (h : Tells P path after) :
    Tells (Then (fun _ => True) P) path (anyThen after) := by
  induction path generalizing after with
  | nil =>
      obtain ⟨here, rfl, hhere⟩ := h
      refine ⟨here || Glob.first [], rfl, ?_⟩
      rw [Bool.or_eq_true, hhere]
      constructor
      · rintro (hP | hfalse)
        · exact ⟨[], [], rfl, trivial, hP⟩
        · cases hfalse
      · rintro ⟨a, rest, heq, -, hrest⟩
        rw [(List.append_eq_nil_iff.mp heq.symm).2] at hrest
        exact Or.inl hrest
  | cons b path ih =>
      obtain ⟨here, after, rfl, hhere, hafter⟩ := h
      refine ⟨here || Glob.first (Glob.anyThen after), Glob.anyThen after, rfl, ?_, ih hafter⟩
      rw [Bool.or_eq_true, hhere, (ih hafter).first]
      -- The bytes passed over are none, or they begin with the first one.
      constructor
      · rintro (hP | ⟨a, rest, rfl, -, hrest⟩)
        · exact ⟨[], b :: path, rfl, trivial, hP⟩
        · exact ⟨b :: a, rest, rfl, trivial, hrest⟩
      · rintro ⟨a, rest, heq, -, hrest⟩
        cases a with
        | nil =>
            rw [List.nil_append] at heq
            rw [heq]
            exact Or.inl hrest
        | cons c a =>
            cases heq
            exact Or.inr ⟨a, rest, rfl, trivial, hrest⟩

theorem Tells.slashThen (h : Tells P path after) :
    Tells (Then (· = [slash]) P) path (slashThen path after) := by
  refine (h.oneByte (· == slash)).congr fun s => ?_
  constructor
  · rintro ⟨_, rest, rfl, ⟨b, rfl, hb⟩, hrest⟩
    exact ⟨[b], rest, rfl, by rw [eq_of_beq hb], hrest⟩
  · rintro ⟨_, rest, rfl, rfl, hrest⟩
    exact ⟨[slash], rest, rfl, ⟨slash, rfl, rfl⟩, hrest⟩

theorem Tells.bytesThen (h : Tells P path after) (bytes : Bytes) :
    Tells (Then (· = bytes) P) path (bytesThen path bytes after) := by
  induction bytes with
  | nil =>
      refine h.congr fun s => ?_
      constructor
      · intro hs
        exact ⟨[], s, rfl, rfl, hs⟩
      · rintro ⟨_, rest, rfl, rfl, hrest⟩
        exact hrest
  | cons b bytes ih =>
      refine (ih.oneByte (· == b)).congr fun s => ?_
      constructor
      · rintro ⟨_, _, rfl, ⟨c, rfl, hc⟩, a, rest, rfl, ha, hrest⟩
        exact ⟨b :: a, rest, by rw [eq_of_beq hc]; rfl, by rw [ha], hrest⟩
      · rintro ⟨_, rest, rfl, rfl, hrest⟩
        exact ⟨[b], bytes ++ rest, rfl, ⟨b, rfl, beq_self_eq_true b⟩, bytes, rest, rfl, rfl, hrest⟩

/-! ## The matcher -/

/-- Any bytes up to a separator, then the rest. -/
theorem then_above (P : Bytes → Prop) (s : Bytes) :
    (P s ∨ Then (fun _ => True) (Then (· = [slash]) P) s) ↔ Then (Reads .anyAbove) P s := by
  constructor
  · rintro (hs | ⟨a, _, rfl, -, _, rest, rfl, rfl, hrest⟩)
    · exact ⟨[], s, rfl, Or.inl rfl, hs⟩
    · exact ⟨a ++ [slash], rest, by simp, Or.inr ⟨a, rfl⟩, hrest⟩
  · rintro ⟨_, rest, rfl, rfl | ⟨a, rfl⟩, hrest⟩
    · exact Or.inl hrest
    · exact Or.inr ⟨a, slash :: rest, by simp, trivial, [slash], rest, rfl, rfl, hrest⟩

theorem then_below (P : Bytes → Prop) (s : Bytes) :
    Then (· = [slash]) (Then (fun _ => True) P) s ↔ Then (Reads .anyBelow) P s := by
  constructor
  · rintro ⟨_, _, rfl, rfl, a, rest, rfl, -, hrest⟩
    exact ⟨slash :: a, rest, rfl, ⟨a, rfl⟩, hrest⟩
  · rintro ⟨_, rest, rfl, ⟨a, rfl⟩, hrest⟩
    exact ⟨[slash], a ++ rest, rfl, rfl, a, rest, rfl, trivial, hrest⟩

theorem then_between (P : Bytes → Prop) (s : Bytes) :
    Then (· = [slash]) (Then (Reads .anyAbove) P) s ↔ Then (Reads .anyBetween) P s := by
  constructor
  · rintro ⟨_, _, rfl, rfl, _, rest, rfl, rfl | ⟨a, rfl⟩, hrest⟩
    · exact ⟨[slash], rest, rfl, Or.inl rfl, hrest⟩
    · exact ⟨slash :: (a ++ [slash]), rest, by simp, Or.inr ⟨a, rfl⟩, hrest⟩
  · rintro ⟨_, rest, rfl, rfl | ⟨a, rfl⟩, hrest⟩
    · exact ⟨[slash], rest, rfl, rfl, [], rest, rfl, Or.inl rfl, hrest⟩
    · exact ⟨[slash], (a ++ [slash]) ++ rest, by simp, rfl, a ++ [slash], rest, rfl,
        Or.inr ⟨a, rfl⟩, hrest⟩

mutual

/-- A token turns the values for what follows it into those for itself and what follows. -/
theorem tells_token {P : Bytes → Prop} {path : Bytes} {after : Places} (h : Tells P path after) :
    ∀ t : GlobToken, Tells (Then (Reads t) P) path (tokenThen path t after)
  | .literal c => h.bytesThen (String.utf8EncodeChar c)
  | .anyByte => by
      refine (h.oneByte fun _ => true).congr fun s => ?_
      simp only [Then, Reads, and_true]
  | .anyBytes => h.anyThen
  | .anyAbove => (h.either h.slashThen.anyThen).congr (then_above P)
  | .anyBelow => h.anyThen.slashThen.congr (then_below P)
  | .anyBetween =>
      (((h.either h.slashThen.anyThen).congr (then_above P)).slashThen).congr (then_between P)
  | .byteClass negated ranges => h.oneByte (inClass negated ranges)
  | .oneOf branches => by
      rw [tokenThen]
      split
      case isTrue hvoid =>
        refine h.congr fun s => ?_
        simp only [Then, Reads, hvoid, if_true]
        constructor
        · intro hs
          exact ⟨[], s, rfl, rfl, hs⟩
        · rintro ⟨_, rest, rfl, rfl, hrest⟩
          exact hrest
      case isFalse hvoid =>
        refine (tells_branches h branches).congr fun s => ?_
        simp only [Then, Reads, hvoid, if_false, Bool.false_eq_true]

/-- So do the tokens of a glob. -/
theorem tells_glob {P : Bytes → Prop} {path : Bytes} {after : Places} (h : Tells P path after) :
    ∀ g : List GlobToken, Tells (Then (ReadsAll g) P) path (globThen path g after)
  | [] => by
      refine h.congr fun s => ?_
      constructor
      · intro hs
        exact ⟨[], s, rfl, rfl, hs⟩
      · rintro ⟨_, rest, rfl, rfl, hrest⟩
        exact hrest
  | t :: rest => by
      refine (tells_token (tells_glob h rest) t).congr fun s => ?_
      constructor
      · rintro ⟨a, _, rfl, ha, b, c, rfl, hb, hc⟩
        exact ⟨a ++ b, c, (List.append_assoc a b c).symm, ⟨a, b, rfl, ha, hb⟩, hc⟩
      · rintro ⟨_, c, rfl, ⟨a, b, rfl, ha, hb⟩, hc⟩
        exact ⟨a, b ++ c, List.append_assoc a b c, ha, b, c, rfl, hb, hc⟩

/-- So do alternatives. -/
theorem tells_branches {P : Bytes → Prop} {path : Bytes} {after : Places} (h : Tells P path after) :
    ∀ bs : List (List GlobToken), Tells (Then (ReadsOne bs) P) path (branchesThen path bs after)
  | [] => by
      refine h.nowhere.congr fun s => ?_
      simp [Then, ReadsOne]
  | g :: rest => by
      rw [branchesThen]
      split
      case isTrue hvoid =>
        refine (tells_branches h rest).congr fun s => ?_
        simp only [Then, ReadsOne, hvoid, Bool.true_eq_false, false_and, false_or]
      case isFalse hvoid =>
        refine ((tells_glob h g).either (tells_branches h rest)).congr fun s => ?_
        simp only [Then, ReadsOne, hvoid, true_and]
        constructor
        · rintro (⟨a, b, rfl, ha, hb⟩ | ⟨a, b, rfl, ha, hb⟩)
          · exact ⟨a, b, rfl, Or.inl ha, hb⟩
          · exact ⟨a, b, rfl, Or.inr ha, hb⟩
        · rintro ⟨a, b, rfl, ha | ha, hb⟩
          · exact Or.inl ⟨a, b, rfl, ha, hb⟩
          · exact Or.inr ⟨a, b, rfl, ha, hb⟩

end

/-- **The matcher matches what the glob means.** A glob that is nothing but `**` matches every
path. -/
theorem isMatch_iff (tokens : Glob) (path : Bytes) :
    isMatch tokens path = true ↔ tokens = [.anyAbove] ∨ ReadsAll tokens path := by
  have hmatch : first (globThen path tokens (atEnd path)) = true ↔ ReadsAll tokens path := by
    rw [(tells_glob (tells_atEnd path) tokens).first]
    constructor
    · rintro ⟨a, _, rfl, ha, rfl⟩
      rw [List.append_nil]
      exact ha
    · intro hpath
      exact ⟨path, [], (List.append_nil path).symm, hpath, rfl⟩
  unfold isMatch
  split
  case h_1 => simp
  case h_2 hne =>
    rw [hmatch]
    constructor
    · exact Or.inr
    · rintro (rfl | hpath)
      · exact absurd rfl hne
      · exact hpath

end LanguageBridge.Glob
