import AppletPage.Json.Printer
import AppletPage.Json.Reader
import AppletPage.Proofs.Text.Blank
import Mathlib.Tactic.SplitIfs

/-! Strings and integers, read back as they were written. -/

namespace AppletPage.Json

open Text

/-! Characters of strings. -/

theorem hexValue?_hexDigit : ∀ value < 16, hexValue? (hexDigit value) = some value := by decide

theorem unit?_hexDigits {unit : Nat} (small : unit < 0x10000) :
    ∃ a b c d, hexDigits 4 unit = [a, b, c, d] ∧ unit? a b c d = some unit := by
  refine ⟨hexDigit (unit / 16 / 16 / 16 % 16), hexDigit (unit / 16 / 16 % 16),
    hexDigit (unit / 16 % 16), hexDigit (unit % 16), rfl, ?_⟩
  simp only [unit?, hexValue?_hexDigit _ (Nat.mod_lt _ (by decide : 0 < 16)), Option.bind_eq_bind,
    Option.bind_some, Option.pure_def, Option.some.injEq]
  omega

theorem stringBody_unitEscape {unit : Nat} (small : unit < 0x10000)
    (single : Encoding.isHighSurrogate unit = false) (opening : List Char) {rest : List Char}
    (more : rest ≠ []) :
    stringBody opening (unitEscape unit ++ rest) =
      prepend (Encoding.loneUnit unit) (stringBody opening rest) := by
  obtain ⟨a, b, c, d, digits, read⟩ := unit?_hexDigits small
  rw [unitEscape, digits]
  simp only [List.cons_append, List.nil_append]
  conv => lhs; unfold stringBody
  split
  · next given => cases given
  · next given => cases given
  · next given =>
    cases given
    simp only [read, single, Bool.false_and, Bool.false_eq_true, if_false]
  · next given =>
    cases given
    simp only [read, List.isEmpty_eq_false_iff.mpr more, Bool.false_eq_true, if_false]
  · next strays given =>
    cases given
    exact (strays _ _ _ _ _ rfl).elim
  · next given => cases given
  · next noUnit given =>
    cases given
    exact (noUnit rfl).elim
  · next noEscape given =>
    cases given
    exact (noEscape _ _ rfl rfl).elim

theorem stringBody_pair {high low : Nat} (smallHigh : high < 0x10000) (smallLow : low < 0x10000)
    (first : Encoding.isHighSurrogate high = true) (second : Encoding.isLowSurrogate low = true)
    (opening : List Char) {rest : List Char} (more : rest ≠ []) :
    stringBody opening (unitEscape high ++ unitEscape low ++ rest) =
      prepend (Encoding.joinSurrogates high low) (stringBody opening rest) := by
  obtain ⟨a, b, c, d, digits, read⟩ := unit?_hexDigits smallHigh
  obtain ⟨e, f, g, h, others, readLow⟩ := unit?_hexDigits smallLow
  rw [unitEscape, digits, unitEscape, others]
  simp only [List.cons_append, List.nil_append]
  rw [stringBody]
  simp only [read, readLow, first, second, List.isEmpty_eq_false_iff.mpr more, Bool.not_false,
    Bool.and_self, if_true]

theorem stringBody_plain {c : Char} (noMark : c ≠ '"') (noEscape : c ≠ '\\')
    (visible : 0x20 ≤ c.toNat) (opening rest : List Char) :
    stringBody opening (c :: rest) = prepend c (stringBody opening rest) := by
  conv => lhs; unfold stringBody
  split
  · next given => cases given
  · next given => cases given; exact absurd rfl noMark
  · next given => cases given; exact absurd rfl noEscape
  · next given => cases given; exact absurd rfl noEscape
  · next given => cases given; exact absurd rfl noEscape
  · next given => cases given; exact absurd rfl noEscape
  · next given => cases given; exact absurd rfl noEscape
  · next given =>
    cases given
    rw [if_neg (by omega)]

theorem stringBody_escapeByNumber (c : Char) (opening : List Char) {rest : List Char}
    (more : rest ≠ []) :
    stringBody opening (escapeByNumber c ++ rest) = prepend c (stringBody opening rest) := by
  have valid : c.toNat < 0xd800 ∨ 0xdfff < c.toNat ∧ c.toNat < 0x110000 := c.valid
  rw [escapeByNumber]
  split
  · next small =>
    have single : Encoding.isHighSurrogate c.toNat = false := by
      rw [Encoding.isHighSurrogate]
      simp only [Bool.and_eq_false_iff, decide_eq_false_iff_not]
      omega
    have noLow : Encoding.isLowSurrogate c.toNat = false := by
      rw [Encoding.isLowSurrogate]
      simp only [Bool.and_eq_false_iff, decide_eq_false_iff_not]
      omega
    rw [stringBody_unitEscape small single opening more, Encoding.loneUnit, single, noLow,
      Bool.or_false, if_neg Bool.false_ne_true, Char.ofNat_toNat]
  · next large =>
    have first : Encoding.isHighSurrogate (0xd800 + (c.toNat - 0x10000) / 0x400) = true := by
      rw [Encoding.isHighSurrogate]
      simp only [Bool.and_eq_true, decide_eq_true_eq]
      omega
    have second : Encoding.isLowSurrogate (0xdc00 + (c.toNat - 0x10000) % 0x400) = true := by
      rw [Encoding.isLowSurrogate]
      simp only [Bool.and_eq_true, decide_eq_true_eq]
      omega
    have number : 0x10000 + (0xd800 + (c.toNat - 0x10000) / 0x400 - 0xd800) * 0x400
        + (0xdc00 + (c.toNat - 0x10000) % 0x400 - 0xdc00) = c.toNat := by omega
    rw [stringBody_pair (by omega) (by omega) first second opening more, Encoding.joinSurrogates,
      number, Char.ofNat_toNat]

theorem stringBody_escapeChar (asciiOnly : Bool) (c : Char) (opening : List Char)
    {rest : List Char} (more : rest ≠ []) :
    stringBody opening (escapeChar asciiOnly c ++ rest) = prepend c (stringBody opening rest) := by
  unfold escapeChar
  split_ifs with mark backslash lineEnd returned tabulator backspace formFeed byNumber
  · subst mark; rfl
  · subst backslash; rfl
  · subst lineEnd; rfl
  · subst returned; rfl
  · subst tabulator; rfl
  · subst backspace; rfl
  · subst formFeed; rfl
  · exact stringBody_escapeByNumber c opening more
  · simp only [Bool.or_eq_true, decide_eq_true_eq, not_or, Nat.not_lt] at byNumber
    exact stringBody_plain mark backslash byNumber.1 opening rest

theorem stringBody_written (asciiOnly : Bool) (opening text rest : List Char) :
    stringBody opening (text.flatMap (escapeChar asciiOnly) ++ '"' :: rest) = .ok (text, rest) := by
  induction text with
  | nil =>
      rw [List.flatMap_nil, List.nil_append, stringBody]
  | cons c others ih =>
      rw [List.flatMap_cons, List.append_assoc, stringBody_escapeChar asciiOnly c opening
        (List.append_ne_nil_of_right_ne_nil _ (List.cons_ne_nil _ _)), ih, prepend]

/-! Integers. -/

def continuesNumber (c : Char) : Bool := isDigit c || c = '.' || c = 'e' || c = 'E'

def EndsNumber (rest : List Char) : Prop :=
  ∀ c others, rest = c :: others → continuesNumber c = false

theorem toDigits_head {n : Nat} (positive : 0 < n) :
    ∃ c digits, Nat.toDigits 10 n = c :: digits ∧ c ≠ '0' := by
  induction n using Nat.strongRecOn with
  | ind n ih =>
      by_cases small : n < 10
      · have nonzero : ∀ value < 10, 0 < value → Nat.digitChar value ≠ '0' := by decide
        exact ⟨n.digitChar, [], Nat.toDigits_of_lt_base small, nonzero n small positive⟩
      · obtain ⟨c, digits, shape, nonzero⟩ := ih (n / 10) (by omega) (by omega)
        refine ⟨c, digits ++ [(n % 10).digitChar], ?_, nonzero⟩
        rw [Nat.toDigits_of_base_le (by decide) (by omega), shape, List.cons_append]

theorem takeWhile_digits {digits rest : List Char} (all : ∀ c ∈ digits, isDigit c = true)
    (ends : EndsNumber rest) :
    (digits ++ rest).takeWhile isDigit = digits ∧ (digits ++ rest).dropWhile isDigit = rest := by
  rw [List.takeWhile_append_of_pos all, List.dropWhile_append_of_pos all]
  cases rest with
  | nil => exact ⟨List.append_nil digits, rfl⟩
  | cons c others =>
      have stops : isDigit c = false := by
        have ended := ends c others rfl
        simp only [continuesNumber, Bool.or_eq_false_iff] at ended
        exact ended.1.1.1
      rw [List.takeWhile_cons, List.dropWhile_cons, stops]
      exact ⟨List.append_nil digits, rfl⟩

theorem numberFrom_ended {negative : Bool} {digits rest : List Char} (ends : EndsNumber rest)
    (fits : digits.length ≤ digitLimit) :
    numberFrom negative digits rest =
      .ok (.integer (if negative then -(natOfDigits digits : Int) else natOfDigits digits),
        rest) := by
  have noFraction : fraction rest = ([], rest) := by
    unfold fraction
    split
    · next others => exact absurd (ends '.' others rfl) (by decide)
    · rfl
  have noPower : power? rest = none := by
    unfold power?
    split
    · next c others =>
      have ended := ends c others rfl
      simp only [continuesNumber, Bool.or_eq_false_iff, decide_eq_false_iff_not] at ended
      rw [if_neg (not_or.mpr ⟨ended.1.2, ended.2⟩)]
    · rfl
  rw [numberFrom, noFraction]
  simp only [noPower, List.isEmpty_nil, if_true, if_neg (Nat.not_lt.mpr fits)]

theorem number_toDigits (n : Nat) (start : List Char) (negative : Bool) {rest : List Char}
    (ends : EndsNumber rest) (fits : (Nat.toDigits 10 n).length ≤ digitLimit) :
    number start negative (Nat.toDigits 10 n ++ rest) =
      .ok (.integer (if negative then -(n : Int) else n), rest) := by
  have read : numberFrom negative (Nat.toDigits 10 n) rest = _ := numberFrom_ended ends fits
  rw [natOfDigits_toDigits] at read
  rcases Nat.eq_zero_or_pos n with rfl | positive
  · exact read
  · obtain ⟨c, digits, shape, nonzero⟩ := toDigits_head positive
    have all (d : Char) (member : d ∈ c :: digits) : isDigit d = true :=
      isDigit_of_mem_toDigits (shape ▸ member)
    have parts := takeWhile_digits (fun d member => all d (List.mem_cons_of_mem c member)) ends
    rw [shape] at read ⊢
    rw [List.cons_append]
    unfold number
    split
    · next given => cases given; exact absurd rfl nonzero
    · next given =>
      cases given
      rw [if_pos (all c List.mem_cons_self), parts.1, parts.2, read]
    · next given => cases given

end AppletPage.Json
