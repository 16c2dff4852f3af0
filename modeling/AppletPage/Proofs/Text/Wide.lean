import AppletPage.Proofs.Text.Utf8
import AppletPage.Text.Wide

/-! Texts of characters alone are those that can be encoded, and their bytes tell them apart. -/

namespace AppletPage.Text.Wide

@[simp] theorem ofChars_nil : ofChars [] = [] := rfl

@[simp] theorem ofChars_cons (c : Char) (text : List Char) :
    ofChars (c :: text) = .char c :: ofChars text := rfl

@[simp] theorem ofChars_append (a b : List Char) : ofChars (a ++ b) = ofChars a ++ ofChars b :=
  List.map_append

@[simp] theorem isScalar_ofChars (text : List Char) : isScalar (ofChars text) = true :=
  List.all_eq_true.mpr fun point member => by
    obtain ⟨c, -, rfl⟩ := List.mem_map.mp member
    rfl

@[simp] theorem isScalar_append (a b : Wide) :
    isScalar (a ++ b) = (a.isScalar && b.isScalar) :=
  List.all_append

@[simp] theorem chars_ofChars (text : List Char) : chars (ofChars text) = text := by
  induction text with
  | nil => rfl
  | cons c rest ih => rw [ofChars_cons, chars, ih]

@[simp] theorem ofChars_inj {a b : List Char} : ofChars a = ofChars b ↔ a = b :=
  ⟨fun same => by simpa using congrArg chars same, congrArg ofChars⟩

theorem ofChars_chars {text : Wide} (scalar : text.isScalar = true) :
    ofChars text.chars = text := by
  induction text with
  | nil => rfl
  | cons point rest ih =>
      obtain ⟨first, others⟩ := Bool.and_eq_true_iff.mp scalar
      cases point with
      | char c => rw [chars, ofChars_cons, ih others]
      | surrogate index => cases first

theorem isScalar_iff {text : Wide} : text.isScalar = true ↔ ∃ chars, ofChars chars = text :=
  ⟨fun scalar => ⟨text.chars, ofChars_chars scalar⟩, by rintro ⟨chars, rfl⟩; simp⟩

/-! Texts with their characters written as others. -/

section Rewrite

variable (f : Char → List Char)

@[simp] theorem rewritePoint_char (c : Char) : rewritePoint f (.char c) = ofChars (f c) := rfl

@[simp] theorem rewritePoint_surrogate (index : Fin 0x800) :
    rewritePoint f (.surrogate index) = [.surrogate index] := rfl

theorem rewrite_cons (point : Point) (rest : Wide) :
    rewrite f (point :: rest) = rewritePoint f point ++ rewrite f rest := rfl

theorem rewrite_ofChars (text : List Char) :
    rewrite f (ofChars text) = ofChars (text.flatMap f) := by
  induction text with
  | nil => rfl
  | cons c rest ih =>
      rw [ofChars_cons, rewrite_cons, rewritePoint_char, ih, List.flatMap_cons, ofChars_append]

theorem isScalar_rewrite (text : Wide) : (rewrite f text).isScalar = text.isScalar := by
  induction text with
  | nil => rfl
  | cons point rest ih =>
      rw [rewrite_cons, isScalar_append, ih]
      cases point with
      | char c => rw [rewritePoint_char, isScalar_ofChars]; rfl
      | surrogate index => rfl

end Rewrite

/-! Bytes. -/

theorem encodeFrom_ofChars (place : Nat) (text : List Char) :
    encodeFrom place (ofChars text) = .ok (Utf8.encodeChars text) := by
  induction text generalizing place with
  | nil => rfl
  | cons c rest ih => rw [ofChars_cons, encodeFrom, ih]; rfl

theorem isScalar_of_encodeFrom {place : Nat} {text : Wide} {bytes : Bytes}
    (encoded : encodeFrom place text = .ok bytes) : text.isScalar = true := by
  induction text generalizing place bytes with
  | nil => rfl
  | cons point rest ih =>
      cases point with
      | surrogate index => cases encoded
      | char c =>
          rw [encodeFrom] at encoded
          cases others : encodeFrom (place + 1) rest with
          | error error => rw [others] at encoded; cases encoded
          | ok bytes => exact Bool.and_eq_true_iff.mpr ⟨rfl, ih others⟩

/-- A text has bytes just if it is made of characters alone: those of its characters. -/
theorem encode_eq_ok_iff {text : Wide} {bytes : Bytes} :
    text.encode = .ok bytes ↔ ∃ chars, ofChars chars = text ∧ Utf8.encodeChars chars = bytes := by
  constructor
  · intro encoded
    obtain ⟨chars, rfl⟩ := isScalar_iff.mp (isScalar_of_encodeFrom encoded)
    rw [encode, encodeFrom_ofChars] at encoded
    exact ⟨chars, rfl, Except.ok.inj encoded⟩
  · rintro ⟨chars, rfl, rfl⟩
    exact encodeFrom_ofChars 0 chars

theorem exists_encode_iff {text : Wide} :
    (∃ bytes, text.encode = .ok bytes) ↔ text.isScalar = true := by
  rw [isScalar_iff]
  constructor
  · rintro ⟨bytes, encoded⟩
    obtain ⟨chars, same, -⟩ := encode_eq_ok_iff.mp encoded
    exact ⟨chars, same⟩
  · rintro ⟨chars, rfl⟩
    exact ⟨_, encodeFrom_ofChars 0 chars⟩

theorem encode_inj {a b : Wide} {bytes more : Bytes} (first : a.encode = .ok bytes)
    (second : b.encode = .ok more) : bytes = more ↔ a = b := by
  obtain ⟨text, rfl, rfl⟩ := encode_eq_ok_iff.mp first
  obtain ⟨other, rfl, rfl⟩ := encode_eq_ok_iff.mp second
  rw [ofChars_inj]
  refine ⟨fun same => ?_, congrArg Utf8.encodeChars⟩
  have read := Utf8.decodeChars_encode (String.ofList text)
  have more := Utf8.decodeChars_encode (String.ofList other)
  rw [Utf8.encode, String.toList_ofList] at read more
  rw [same, more] at read
  exact (Except.ok.inj read).symm

end AppletPage.Text.Wide
