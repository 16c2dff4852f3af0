import AppletPage.Text.Encoding

/-! Texts in which every surrogate is one of a pair. Where the bytes of a text may hold others, the
text is modelled if they do not: it is read unit for unit then, and no replacement character stands
for a unit. -/

namespace AppletPage.Text.Encoding

def isPaired : List Nat → Bool
  | first :: second :: rest =>
      if isHighSurrogate first then isLowSurrogate second && isPaired rest
      else !isLowSurrogate first && isPaired (second :: rest)
  | [unit] => !isHighSurrogate unit && !isLowSurrogate unit
  | [] => true

/-- Only units of two bytes make pairs. -/
def holdsPairs (encoding : Encoding) (bytes : Bytes) : Bool :=
  match encoding with
  | .utf8 => withoutSurrogates bytes = bytes
  | .utf16 bigEndian => (units16 bigEndian bytes).all isPaired
  | .utf32 bigEndian =>
      (units32 bigEndian bytes).all fun units =>
        units.all fun unit => !isHighSurrogate unit && !isLowSurrogate unit

def unitsOf (c : Char) : List Nat :=
  if c.toNat < 0x10000 then [c.toNat]
  else [0xd800 + (c.toNat - 0x10000) / 0x400, 0xdc00 + (c.toNat - 0x10000) % 0x400]

theorem isHighSurrogate_iff {unit : Nat} :
    isHighSurrogate unit = true ↔ 0xd800 ≤ unit ∧ unit < 0xdc00 := by
  rw [isHighSurrogate, Bool.and_eq_true, decide_eq_true_eq, decide_eq_true_eq]

theorem isLowSurrogate_iff {unit : Nat} :
    isLowSurrogate unit = true ↔ 0xdc00 ≤ unit ∧ unit < 0xe000 := by
  rw [isLowSurrogate, Bool.and_eq_true, decide_eq_true_eq, decide_eq_true_eq]

theorem isPaired_pair {high : Nat} (first : isHighSurrogate high = true) (low : Nat)
    (rest : List Nat) :
    isPaired (high :: low :: rest) = (isLowSurrogate low && isPaired rest) := by
  rw [isPaired, if_pos first]

theorem isPaired_cons {unit : Nat} (single : isHighSurrogate unit = false) (rest : List Nat) :
    isPaired (unit :: rest) = (!isLowSurrogate unit && isPaired rest) := by
  cases rest with
  | nil => rw [isPaired, isPaired, single, Bool.not_false, Bool.true_and, Bool.and_true]
  | cons next rest => rw [isPaired, single, if_neg Bool.false_ne_true]

theorem toNat_ofNat_of_isValidChar {code : Nat} (valid : code.isValidChar) :
    (Char.ofNat code).toNat = code := by
  rw [Char.ofNat, dif_pos valid]
  rfl

theorem unitsOf_joinSurrogates {high low : Nat} (first : isHighSurrogate high = true)
    (second : isLowSurrogate low = true) : unitsOf (joinSurrogates high low) = [high, low] := by
  rw [isHighSurrogate_iff] at first
  rw [isLowSurrogate_iff] at second
  have code : (joinSurrogates high low).toNat =
      0x10000 + (high - 0xd800) * 0x400 + (low - 0xdc00) :=
    toNat_ofNat_of_isValidChar (.inr ⟨by omega, by omega⟩)
  have upper : 0xd800 + (0x10000 + (high - 0xd800) * 0x400 + (low - 0xdc00) - 0x10000) / 0x400 =
      high := by omega
  have lower : 0xdc00 + (0x10000 + (high - 0xd800) * 0x400 + (low - 0xdc00) - 0x10000) % 0x400 =
      low := by omega
  rw [unitsOf, code, if_neg (by omega), upper, lower]

theorem unitsOf_loneUnit {unit : Nat} (small : unit < 0x10000)
    (noHigh : isHighSurrogate unit = false) (noLow : isLowSurrogate unit = false) :
    unitsOf (loneUnit unit) = [unit] := by
  rw [loneUnit, noHigh, noLow, Bool.or_false, if_neg Bool.false_ne_true]
  rw [← Bool.not_eq_true, isHighSurrogate_iff] at noHigh
  rw [← Bool.not_eq_true, isLowSurrogate_iff] at noLow
  have code : (Char.ofNat unit).toNat = unit :=
    toNat_ofNat_of_isValidChar (by rw [Nat.isValidChar]; omega)
  rw [unitsOf, code, if_pos small]

/-- A unit that begins no pair is that of a character, where every surrogate is one of a pair. -/
theorem single_of_isPaired {unit : Nat} {rest : List Nat} (small : unit < 0x10000)
    (noHigh : isHighSurrogate unit = false) (paired : isPaired (unit :: rest) = true) :
    unitsOf (loneUnit unit) = [unit] ∧ isPaired rest = true := by
  rw [isPaired_cons noHigh, Bool.and_eq_true, Bool.not_eq_true'] at paired
  exact ⟨unitsOf_loneUnit small noHigh paired.1, paired.2⟩

theorem isPaired_unitsOf_append (c : Char) (rest : List Nat) :
    isPaired (unitsOf c ++ rest) = isPaired rest := by
  have valid : c.toNat < 0xd800 ∨ 0xdfff < c.toNat ∧ c.toNat < 0x110000 := c.valid
  rw [unitsOf]
  split
  · have noHigh : isHighSurrogate c.toNat = false := by
      rw [← Bool.not_eq_true, isHighSurrogate_iff]
      omega
    have noLow : isLowSurrogate c.toNat = false := by
      rw [← Bool.not_eq_true, isLowSurrogate_iff]
      omega
    rw [List.singleton_append, isPaired_cons noHigh, noLow, Bool.not_false, Bool.true_and]
  · have first : isHighSurrogate (0xd800 + (c.toNat - 0x10000) / 0x400) = true := by
      rw [isHighSurrogate_iff]
      omega
    have second : isLowSurrogate (0xdc00 + (c.toNat - 0x10000) % 0x400) = true := by
      rw [isLowSurrogate_iff]
      omega
    rw [List.cons_append, List.singleton_append, isPaired_pair first, second, Bool.true_and]

theorem isPaired_high_unitsOf {high : Nat} (first : isHighSurrogate high = true) (c : Char)
    (rest : List Nat) : isPaired (high :: (unitsOf c ++ rest)) = false := by
  have valid : c.toNat < 0xd800 ∨ 0xdfff < c.toNat ∧ c.toNat < 0x110000 := c.valid
  rw [unitsOf]
  split
  · have noLow : isLowSurrogate c.toNat = false := by
      rw [← Bool.not_eq_true, isLowSurrogate_iff]
      omega
    rw [List.singleton_append, isPaired_pair first, noLow, Bool.false_and]
  · have noLow : isLowSurrogate (0xd800 + (c.toNat - 0x10000) / 0x400) = false := by
      rw [← Bool.not_eq_true, isLowSurrogate_iff]
      omega
    rw [List.cons_append, isPaired_pair first, noLow, Bool.false_and]

/-- Units of which each surrogate is one of a pair are those of the characters that are read. -/
theorem flatMap_unitsOf_charsOfUnits16 {units : List Nat}
    (small : ∀ unit ∈ units, unit < 0x10000) (paired : isPaired units = true) :
    (charsOfUnits16 units).flatMap unitsOf = units := by
  induction units using charsOfUnits16.induct with
  | case1 => rfl
  | case2 unit =>
      rw [isPaired, Bool.and_eq_true, Bool.not_eq_true', Bool.not_eq_true'] at paired
      rw [charsOfUnits16, List.flatMap_singleton,
        unitsOf_loneUnit (small unit List.mem_cons_self) paired.1 paired.2]
  | case3 unit next rest pair ih =>
      obtain ⟨first, second⟩ := Bool.and_eq_true_iff.mp pair
      rw [isPaired_pair first, second, Bool.true_and] at paired
      rw [charsOfUnits16, if_pos pair, List.flatMap_cons, unitsOf_joinSurrogates first second,
        ih (fun unit member => small unit (by simp [member])) paired]
      rfl
  | case4 unit next rest noPair ih =>
      have noHigh : isHighSurrogate unit = false := by
        refine Bool.eq_false_iff.mpr fun high => noPair ?_
        rw [isPaired_pair high, Bool.and_eq_true] at paired
        rw [high, paired.1, Bool.true_and]
      obtain ⟨single, paired⟩ := single_of_isPaired (small unit List.mem_cons_self) noHigh paired
      rw [charsOfUnits16, if_neg noPair, List.flatMap_cons, single,
        ih (fun unit member => small unit (List.mem_cons_of_mem _ member)) paired]
      rfl

end AppletPage.Text.Encoding
