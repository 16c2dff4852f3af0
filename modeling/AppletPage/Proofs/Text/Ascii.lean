import AppletPage.Text.Ascii
import AppletPage.Text.Blank
import AppletPage.Text.Lower

/-! Texts in ASCII characters: which of them are blank, and their small letters. -/

namespace AppletPage.Text

theorem le_iff_toNat_le (a b : Char) : a ≤ b ↔ a.toNat ≤ b.toNat := Iff.rfl

theorem isBlank_of_visible {c : Char} (low : 0x20 < c.toNat) (high : c.toNat < 0x85) :
    isBlank c = false := by
  simp only [isBlank, inRanges, blankRanges, List.any_cons, List.any_nil, Bool.or_false,
    Bool.or_eq_false_iff, Bool.and_eq_false_iff, decide_eq_false_iff_not]
  omega

theorem toNat_of_isLetter {c : Char} (h : isLetter c = true) :
    0x61 ≤ c.toNat ∧ c.toNat ≤ 0x7a ∨ 0x41 ≤ c.toNat ∧ c.toNat ≤ 0x5a := by
  simpa only [isLetter, Bool.or_eq_true, Bool.and_eq_true, decide_eq_true_eq,
    le_iff_toNat_le, Char.reduceToNat] using h

theorem toNat_of_isDigit {c : Char} (h : isDigit c = true) :
    0x30 ≤ c.toNat ∧ c.toNat ≤ 0x39 := by
  simpa only [isDigit, Bool.and_eq_true, decide_eq_true_eq, le_iff_toNat_le,
    Char.reduceToNat] using h

theorem isBlank_of_isLetter {c : Char} (h : isLetter c = true) : isBlank c = false := by
  have bounds := toNat_of_isLetter h
  exact isBlank_of_visible (by omega) (by omega)

theorem isBlank_of_isDigit {c : Char} (h : isDigit c = true) : isBlank c = false := by
  have bounds := toNat_of_isDigit h
  exact isBlank_of_visible (by omega) (by omega)

theorem ascii_of_all {text : String} (h : text.toList.all (fun c => c.toNat < 0x80) = true) :
    ∀ c ∈ text.toList, c.toNat < 0x80 := fun c member =>
  of_decide_eq_true (List.all_eq_true.mp h c member)

theorem lowerChar_of_ascii {c : Char} (h : c.toNat < 0x80) : lowerChar c = [c.toLower] := by
  rw [lowerChar, if_pos h]

theorem lowerFrom_ascii_append (before : List Char) {text : List Char}
    (h : ∀ c ∈ text, c.toNat < 0x80) (rest : List Char) :
    lowerFrom before (text ++ rest) =
      text.map Char.toLower ++ lowerFrom (text.reverse ++ before) rest := by
  induction text generalizing before with
  | nil => rfl
  | cons c others ih =>
      have ascii : c.toNat < 0x80 := h c List.mem_cons_self
      rw [List.cons_append, lowerFrom, if_neg (by omega), lowerChar_of_ascii ascii,
        ih _ fun other member => h other (List.mem_cons_of_mem c member)]
      simp only [List.map_cons, List.reverse_cons, List.append_assoc, List.cons_append,
        List.nil_append]

theorem lower_of_ascii {text : String} (h : ∀ c ∈ text.toList, c.toNat < 0x80) :
    lower text = String.ofList (text.toList.map Char.toLower) := by
  have folded := lowerFrom_ascii_append [] h []
  rw [List.append_nil, lowerFrom, List.append_nil] at folded
  rw [lower, folded]

theorem isPrefixOf_lower_append {text : String} (h : ∀ c ∈ text.toList, c.toNat < 0x80)
    (small : text.toList.map Char.toLower = text.toList) (rest : String) :
    text.toList.isPrefixOf (lower (text ++ rest)).toList = true := by
  rw [lower, String.toList_ofList, String.toList_append, lowerFrom_ascii_append [] h, small]
  exact List.isPrefixOf_iff_prefix.mpr (List.prefix_append _ _)

theorem eq_lineEnd_of_toLower {c : Char} (ascii : c.toNat < 0x80) (h : c.toLower = '\n') :
    c = '\n' := by
  have codes : ∀ n < 0x80, (Char.ofNat n).toLower = '\n' → Char.ofNat n = '\n' := by decide
  have given := codes c.toNat ascii
  rw [Char.ofNat_toNat] at given
  exact given h

theorem lineEnd_mem_lower {text : String} (h : ∀ c ∈ text.toList, c.toNat < 0x80) :
    '\n' ∈ (lower text).toList ↔ '\n' ∈ text.toList := by
  rw [lower_of_ascii h, String.toList_ofList, List.mem_map]
  constructor
  · rintro ⟨c, member, small⟩
    rwa [eq_lineEnd_of_toLower (h c member) small] at member
  · exact fun member => ⟨'\n', member, rfl⟩

end AppletPage.Text
