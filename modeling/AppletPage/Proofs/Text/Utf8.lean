import AppletPage.Text.Utf8

/-! Reading back what was written as bytes: the bytes of a text form the characters of the text and
nothing else. -/

namespace AppletPage.Text.Utf8

theorem toNat_ofNat_of_lt {n : Nat} (h : n < 0x100) : (UInt8.ofNat n).toNat = n := by
  rw [UInt8.toNat_ofNat']
  exact Nat.mod_eq_of_lt h

theorem toNat_tailByte (value : Nat) : (tailByte value).toNat = 0x80 + value % 0x40 :=
  toNat_ofNat_of_lt (by omega)

theorem toNat_bounds (c : Char) :
    c.toNat < 0xd800 ∨ 0xdfff < c.toNat ∧ c.toNat < 0x110000 := c.valid

/-! The bytes that begin a character of several. -/

theorem begin_two (offset : Nat) {value : Nat} (low : 2 ≤ value) (high : value < 0x20) :
    begin offset (UInt8.ofNat (0xc0 + value)) =
      ([], some { taken := [UInt8.ofNat (0xc0 + value)], owed := 1, value }) := by
  have number : (UInt8.ofNat (0xc0 + value)).toNat = 0xc0 + value :=
    toNat_ofNat_of_lt (by omega)
  simp only [begin, number]
  rw [if_neg (by omega), if_neg (by omega), if_pos (by omega), Nat.add_sub_cancel_left]

theorem begin_three (offset : Nat) {value : Nat} (high : value < 0x10) :
    begin offset (UInt8.ofNat (0xe0 + value)) =
      ([], some
        { taken := [UInt8.ofNat (0xe0 + value)], owed := 2, value
          low := if value = 0 then 0xa0 else 0x80
          high := if value = 0xd then 0x9f else 0xbf }) := by
  have number : (UInt8.ofNat (0xe0 + value)).toNat = 0xe0 + value :=
    toNat_ofNat_of_lt (by omega)
  simp only [begin, number]
  rw [if_neg (by omega), if_neg (by omega), if_neg (by omega)]
  by_cases zero : value = 0
  · subst zero
    rfl
  · by_cases surrogate : value = 0xd
    · subst surrogate
      rfl
    · rw [if_neg (by omega), if_neg (by omega), if_pos (by omega), if_neg zero,
        if_neg surrogate, Nat.add_sub_cancel_left]

theorem begin_four (offset : Nat) {value : Nat} (high : value < 5) :
    begin offset (UInt8.ofNat (0xf0 + value)) =
      ([], some
        { taken := [UInt8.ofNat (0xf0 + value)], owed := 3, value
          low := if value = 0 then 0x90 else 0x80
          high := if value = 4 then 0x8f else 0xbf }) := by
  have cases : value = 0 ∨ value = 1 ∨ value = 2 ∨ value = 3 ∨ value = 4 := by omega
  rcases cases with rfl | rfl | rfl | rfl | rfl <;> rfl

/-! The bytes that go on with it. -/

namespace Pending

theorem step_tail (pending : Pending) (offset value : Nat)
    (low : pending.low ≤ 0x80 + value % 0x40) (high : 0x80 + value % 0x40 ≤ pending.high)
    (owed : pending.owed ≠ 1) :
    pending.step offset (tailByte value) =
      ([], some
        { taken := tailByte value :: pending.taken, owed := pending.owed - 1
          value := pending.value * 0x40 + value % 0x40 }) := by
  simp only [step, toNat_tailByte]
  rw [if_pos ⟨low, high⟩, if_neg owed, Nat.add_sub_cancel_left]

theorem step_lastTail (pending : Pending) (offset value : Nat)
    (low : pending.low ≤ 0x80 + value % 0x40) (high : 0x80 + value % 0x40 ≤ pending.high)
    (owed : pending.owed = 1) :
    pending.step offset (tailByte value) =
      ([.char (Char.ofNat (pending.value * 0x40 + value % 0x40))], none) := by
  simp only [step, toNat_tailByte]
  rw [if_pos ⟨low, high⟩, if_pos owed, Nat.add_sub_cancel_left]

end Pending

theorem piecesFrom_none (offset : Nat) (byte : UInt8) (rest : Bytes) :
    piecesFrom offset none (byte :: rest) =
      (begin offset byte).1 ++ piecesFrom (offset + 1) (begin offset byte).2 rest := rfl

theorem piecesFrom_some (offset : Nat) (pending : Pending) (byte : UInt8) (rest : Bytes) :
    piecesFrom offset (some pending) (byte :: rest) =
      (pending.step offset byte).1
        ++ piecesFrom (offset + 1) (pending.step offset byte).2 rest := rfl

theorem piecesFrom_encodeChar (offset : Nat) (c : Char) (rest : Bytes) :
    piecesFrom offset none (encodeChar c ++ rest) =
      .char c :: piecesFrom (offset + (encodeChar c).length) none rest := by
  have bounds := toNat_bounds c
  unfold encodeChar
  -- One case for each number of bytes that a character has.
  by_cases one : c.toNat < 0x80
  · have number : (UInt8.ofNat c.toNat).toNat = c.toNat := toNat_ofNat_of_lt (by omega)
    simp only [one, if_true, List.singleton_append, List.length_singleton, piecesFrom_none]
    simp [begin, number, one]
  · by_cases two : c.toNat < 0x800
    · simp only [one, two, if_true, if_false, List.cons_append, List.nil_append,
        List.length_cons, List.length_nil, piecesFrom_none]
      rw [begin_two offset (by omega) (by omega), piecesFrom_some,
        Pending.step_lastTail _ _ _ (by simp) (by simp; omega) rfl]
      have number : c.toNat / 0x40 * 0x40 + c.toNat % 0x40 = c.toNat := by omega
      simp [number, Nat.add_assoc]
    · by_cases three : c.toNat < 0x10000
      · simp only [one, two, three, if_true, if_false, List.cons_append, List.nil_append,
          List.length_cons, List.length_nil, piecesFrom_none]
        rw [begin_three offset (by omega), piecesFrom_some,
          Pending.step_tail _ _ _ (by dsimp only; split <;> omega)
            (by dsimp only; split <;> omega) (by simp),
          piecesFrom_some, Pending.step_lastTail _ _ _ (by simp) (by simp; omega) rfl]
        have number :
            (c.toNat / 0x1000 * 0x40 + c.toNat / 0x40 % 0x40) * 0x40 + c.toNat % 0x40 =
              c.toNat := by omega
        simp [number, Nat.add_assoc]
      · simp only [one, two, three, if_false, List.cons_append, List.nil_append,
          List.length_cons, List.length_nil, piecesFrom_none]
        rw [begin_four offset (by omega), piecesFrom_some,
          Pending.step_tail _ _ _ (by dsimp only; split <;> omega)
            (by dsimp only; split <;> omega) (by simp),
          piecesFrom_some, Pending.step_tail _ _ _ (by simp) (by simp; omega) (by simp),
          piecesFrom_some, Pending.step_lastTail _ _ _ (by simp) (by simp; omega) rfl]
        have number :
            ((c.toNat / 0x40000 * 0x40 + c.toNat / 0x1000 % 0x40) * 0x40
                + c.toNat / 0x40 % 0x40) * 0x40 + c.toNat % 0x40 = c.toNat := by omega
        simp [number, Nat.add_assoc]

theorem piecesFrom_encodeChars (offset : Nat) (text : List Char) :
    piecesFrom offset none (encodeChars text) = text.map .char := by
  induction text generalizing offset with
  | nil => rfl
  | cons c rest ih =>
      simp only [encodeChars, List.flatMap_cons, List.map_cons] at ih ⊢
      rw [piecesFrom_encodeChar, ih]

theorem pieces_encodeChars (text : List Char) :
    pieces (encodeChars text) = text.map .char :=
  piecesFrom_encodeChars 0 text

theorem charsOfPieces_map_char (text : List Char) :
    charsOfPieces (text.map .char) = .ok text := by
  induction text with
  | nil => rfl
  | cons c rest ih => simp only [List.map_cons, charsOfPieces, ih]

theorem decodeChars_encode (text : String) : decodeChars (encode text) = .ok text.toList := by
  rw [decodeChars, encode, pieces_encodeChars, charsOfPieces_map_char]

theorem decodeLossy_encodeChars (text : List Char) :
    decodeLossy (encodeChars text) = String.ofList text := by
  rw [decodeLossy, pieces_encodeChars, List.map_map]
  exact congrArg String.ofList (List.map_id text)

end AppletPage.Text.Utf8
