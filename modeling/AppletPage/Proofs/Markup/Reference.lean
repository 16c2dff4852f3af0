import AppletPage.Markup.Escape
import AppletPage.Markup.Reference

/-! Escaped text read back: escaping leaves no bracket and no quotation mark, and reading the
references of an escaped text gives the text, whatever references it seemed to hold itself. -/

namespace AppletPage.Markup

def isEscaped (c : Char) : Bool := c = '<' || c = '>' || c = '"' || c = '\''

theorem isEscaped_escapeChar (c : Char) : (escapeChar c).all (!isEscaped ·) = true := by
  unfold escapeChar
  split
  · rfl
  · split
    · rfl
    · split
      · rfl
      · split
        · rfl
        · split
          · rfl
          · simp_all [isEscaped]

theorem isEscaped_of_mem_escape {text : List Char} {c : Char} (member : c ∈ escape text) :
    isEscaped c = false := by
  obtain ⟨original, _, inside⟩ := List.mem_flatMap.mp member
  have none := List.all_eq_true.mp (isEscaped_escapeChar original) c inside
  simpa using none

theorem ne_of_mem_escape {text : List Char} {c mark : Char} (member : c ∈ escape text)
    (escaped : isEscaped mark = true) : c ≠ mark := by
  rintro rfl
  rw [isEscaped_of_mem_escape member] at escaped
  cases escaped

namespace Reference

theorem decodeAfter_eq_drop (skip : Nat) (text : List Char) :
    decodeAfter skip text = decodeAfter 0 (text.drop skip) := by
  induction text generalizing skip with
  | nil => cases skip <;> rfl
  | cons c rest ih =>
      cases skip with
      | zero => rfl
      | succ skip => simpa only [decodeAfter, List.drop_succ_cons] using ih skip

theorem decodeAfter_reference (written : List Char) {reference : Reference}
    {chars rest : List Char}
    (found : scan? (written ++ rest) = some (reference, written.length))
    (known : reference.chars = .ok chars) :
    decodeAfter 0 ('&' :: written ++ rest) =
      (decodeAfter 0 rest).map (chars ++ ·) := by
  have skipped : decodeAfter written.length (written ++ rest) = decodeAfter 0 rest := by
    rw [decodeAfter_eq_drop, List.drop_left]
  simp only [List.cons_append, decodeAfter, if_true, found, known, skipped]
  cases decodeAfter 0 rest <;> rfl

theorem decodeAfter_plain {c : Char} (plain : c ≠ '&') (rest : List Char) :
    decodeAfter 0 (c :: rest) = (decodeAfter 0 rest).map (c :: ·) := by
  simp only [decodeAfter, if_neg plain]
  cases decodeAfter 0 rest <;> rfl

theorem decodeAfter_escapeChar (c : Char) (rest : List Char) :
    decodeAfter 0 (escapeChar c ++ rest) = (decodeAfter 0 rest).map (c :: ·) := by
  unfold escapeChar
  split
  · subst c
    exact decodeAfter_reference "amp;".toList rfl rfl
  · next plain =>
    split
    · subst c
      exact decodeAfter_reference "lt;".toList rfl rfl
    · split
      · subst c
        exact decodeAfter_reference "gt;".toList rfl rfl
      · split
        · subst c
          exact decodeAfter_reference "#34;".toList rfl rfl
        · split
          · subst c
            exact decodeAfter_reference "#39;".toList rfl rfl
          · exact decodeAfter_plain plain rest

/-- An escaped text reads back as the text, also in front of other text. -/
theorem decode_escape_append (text rest : List Char) :
    decode (escape text ++ rest) = (decode rest).map (text ++ ·) := by
  induction text with
  | nil => cases hrest : decode rest <;> simp [hrest, Except.map]
  | cons c others ih =>
      simp only [decode] at ih ⊢
      rw [escape_cons, List.append_assoc, decodeAfter_escapeChar, ih]
      cases decodeAfter 0 rest <;> rfl

theorem decode_escape (text : List Char) : decode (escape text) = .ok text := by
  have whole := decode_escape_append text []
  rw [List.append_nil] at whole
  rw [whole]
  simp [decode, decodeAfter, Except.map]

end Reference

end AppletPage.Markup
