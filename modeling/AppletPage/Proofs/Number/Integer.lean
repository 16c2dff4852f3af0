import AppletPage.Number.Integer
import AppletPage.Proofs.Text.Ascii

/-! Which texts hold an integer, and which integer that is. -/

namespace AppletPage.Number

open Text

/-- A blank that may stand around a number: any but the information separators. -/
def isAround (c : Char) : Bool := isAsciiBlank c || (0x80 ≤ c.toNat && isBlank c)

/-- Digits of any script, of these values, with at most one low line between two of them. -/
inductive Digits : List Char → List Nat → Prop where
  | last {c : Char} {value : Nat} (digit : digitValue? c = some value) : Digits [c] [value]
  | next {c : Char} {value : Nat} {rest : List Char} {values : List Nat}
      (digit : digitValue? c = some value) (more : Digits rest values) :
      Digits (c :: rest) (value :: values)
  | lowLine {c : Char} {value : Nat} {rest : List Char} {values : List Nat}
      (digit : digitValue? c = some value) (more : Digits rest values) :
      Digits (c :: '_' :: rest) (value :: values)

inductive Sign : List Char → Int → Prop where
  | none : Sign [] 1
  | plus : Sign ['+'] 1
  | minus : Sign ['-'] (-1)

def decimal (values : List Nat) : Nat := values.foldl (fun number value => 10 * number + value) 0

/-- A text that holds an integer: a sign and digits, of which there are not too many, between
blanks. -/
inductive Denotes (text : String) : Int → Prop where
  | intro {before sign body after : List Char} {factor : Int} {values : List Nat}
      (written : text.toList = before ++ (sign ++ (body ++ after)))
      (front : ∀ c ∈ before, isAround c = true) (signed : Sign sign factor)
      (digits : Digits body values) (few : values.length ≤ Json.digitLimit)
      (back : ∀ c ∈ after, isAround c = true) : Denotes text (factor * decimal values)

/-! Plain forms of characters. -/

def plainChar (c : Char) : Char :=
  if c.toNat < 0x80 then c
  else if isBlank c then ' '
  else
    match digitValue? c with
    | some value => Char.ofNat (0x30 + value)
    | none => c

theorem plainForm_eq (text : List Char) : plainForm text = text.map plainChar := rfl

theorem plainChar_of_ascii {c : Char} (ascii : c.toNat < 0x80) : plainChar c = c := if_pos ascii

theorem digitValue?_of_ascii {c : Char} (ascii : c.toNat < 0x80) :
    digitValue? c = if isDigit c then some (digit c) else none := by
  have codes : ∀ n < 0x80, digitValue? (Char.ofNat n) =
      if isDigit (Char.ofNat n) then some (digit (Char.ofNat n)) else none := by decide
  have given := codes c.toNat ascii
  rwa [Char.ofNat_toNat] at given

theorem digitValue?_of_isBlank {c : Char} (blank : isBlank c = true) : digitValue? c = none := by
  obtain ⟨range, inBlanks, low, high⟩ := inRanges_iff.mp blank
  have apart : ∀ range ∈ blankRanges, ∀ start ∈ zeroDigits,
      range.2 < start ∨ start + 9 < range.1 := by decide
  rw [digitValue?, Option.map_eq_none_iff, List.find?_eq_none]
  intro start inZeros within
  simp only [Bool.and_eq_true, decide_eq_true_eq] at within
  have := apart range inBlanks start inZeros
  omega

theorem plainChar_cases {c : Char} (beyond : ¬ c.toNat < 0x80) :
    isBlank c = true ∧ plainChar c = ' ' ∨
      (∃ value < 10, isBlank c = false ∧ digitValue? c = some value ∧
        plainChar c = Char.ofNat (0x30 + value)) ∨
      isBlank c = false ∧ digitValue? c = none ∧ plainChar c = c := by
  rw [plainChar, if_neg beyond]
  cases blank : isBlank c with
  | true => exact .inl ⟨rfl, rfl⟩
  | false =>
      cases valued : digitValue? c with
      | none => exact .inr (.inr ⟨rfl, rfl, rfl⟩)
      | some value =>
          exact .inr (.inl ⟨value, digitValue?_lt_ten valued, rfl, rfl, rfl⟩)

theorem plain_digit : ∀ value < 10, isDigit (Char.ofNat (0x30 + value)) = true ∧
    digit (Char.ofNat (0x30 + value)) = value ∧
    isAsciiBlank (Char.ofNat (0x30 + value)) = false := by
  decide

theorem plain_of_beyond {c : Char} (beyond : ¬ c.toNat < 0x80) :
    isDigit c = false ∧ isAsciiBlank c = false := by
  constructor
  · refine Bool.eq_false_iff.mpr fun digit => ?_
    have bounds := toNat_of_isDigit digit
    omega
  · refine Bool.eq_false_iff.mpr fun blank => ?_
    simp only [isAsciiBlank, Bool.or_eq_true, Bool.and_eq_true, decide_eq_true_eq,
      le_iff_toNat_le] at blank
    rcases blank with ⟨-, high⟩ | rfl
    · have last : '\x0d'.toNat = 0x0d := by decide
      omega
    · exact beyond (by decide)

theorem isAsciiBlank_plainChar (c : Char) : isAsciiBlank (plainChar c) = isAround c := by
  rw [isAround]
  by_cases ascii : c.toNat < 0x80
  · have low : decide (0x80 ≤ c.toNat) = false := decide_eq_false (Nat.not_le.mpr ascii)
    rw [plainChar_of_ascii ascii, low, Bool.false_and, Bool.or_false]
  · have high : decide (0x80 ≤ c.toNat) = true := decide_eq_true (Nat.not_lt.mp ascii)
    rw [high, Bool.true_and, (plain_of_beyond ascii).2, Bool.false_or]
    rcases plainChar_cases ascii with ⟨blank, plain⟩ | ⟨value, small, blank, -, plain⟩ |
      ⟨blank, -, plain⟩
    · rw [plain, blank]
      decide
    · rw [plain, blank]
      exact (plain_digit value small).2.2
    · rw [plain, blank]
      exact (plain_of_beyond ascii).2

/-- The digits are the characters whose plain forms are digits of ASCII, of the same values. -/
theorem digitValue?_eq (c : Char) :
    digitValue? c = if isDigit (plainChar c) then some (digit (plainChar c)) else none := by
  by_cases ascii : c.toNat < 0x80
  · rw [plainChar_of_ascii ascii]
    exact digitValue?_of_ascii ascii
  · rcases plainChar_cases ascii with ⟨blank, plain⟩ | ⟨value, small, -, valued, plain⟩ |
      ⟨-, none, plain⟩
    · rw [plain, digitValue?_of_isBlank blank]
      decide
    · obtain ⟨isDigit, same, -⟩ := plain_digit value small
      rw [plain, valued, isDigit, same]
      rfl
    · rw [plain, none, (plain_of_beyond ascii).1]
      rfl

theorem isDigit_plainChar {c : Char} {value : Nat} (valued : digitValue? c = some value) :
    isDigit (plainChar c) = true ∧ digit (plainChar c) = value := by
  rw [digitValue?_eq] at valued
  split at valued
  · next isDigit => exact ⟨isDigit, Option.some.inj valued⟩
  · cases valued

theorem plainChar_eq_iff {c mark : Char} (ascii : mark.toNat < 0x80)
    (noBlank : isAsciiBlank mark = false) (noDigit : isDigit mark = false) :
    plainChar c = mark ↔ c = mark := by
  constructor
  · intro same
    by_cases low : c.toNat < 0x80
    · rwa [plainChar_of_ascii low] at same
    · rcases plainChar_cases low with ⟨-, plain⟩ | ⟨value, small, -, -, plain⟩ | ⟨-, -, plain⟩
      · rw [← same, plain] at noBlank
        cases noBlank
      · rw [← same, plain, (plain_digit value small).1] at noDigit
        cases noDigit
      · rwa [plain] at same
  · rintro rfl
    exact plainChar_of_ascii ascii

theorem plainChar_eq_lowLine_iff {c : Char} : plainChar c = '_' ↔ c = '_' :=
  plainChar_eq_iff (by decide) (by decide) (by decide)

theorem plainChar_eq_minus_iff {c : Char} : plainChar c = '-' ↔ c = '-' :=
  plainChar_eq_iff (by decide) (by decide) (by decide)

theorem plainChar_eq_plus_iff {c : Char} : plainChar c = '+' ↔ c = '+' :=
  plainChar_eq_iff (by decide) (by decide) (by decide)

/-! Digits and low lines. -/

variable {text sign body after scanned : List Char} {values : List Nat} {previous : Char}
  {factor : Int}

theorem Digits.exists_cons (digits : Digits body values) :
    ∃ c rest value others, body = c :: rest ∧ values = value :: others ∧
      digitValue? c = some value := by
  cases digits with
  | last valued => exact ⟨_, _, _, _, rfl, rfl, valued⟩
  | next valued more => exact ⟨_, _, _, _, rfl, rfl, valued⟩
  | lowLine valued more => exact ⟨_, _, _, _, rfl, rfl, valued⟩

theorem isAsciiBlank_of_isDigit {c : Char} (isDigit : isDigit c = true) :
    isAsciiBlank c = false := by
  have bounds := toNat_of_isDigit isDigit
  refine Bool.eq_false_iff.mpr fun blank => ?_
  simp only [isAsciiBlank, Bool.or_eq_true, Bool.and_eq_true, decide_eq_true_eq,
    le_iff_toNat_le] at blank
  rcases blank with ⟨-, high⟩ | rfl
  · have last : '\x0d'.toNat = 0x0d := by decide
    omega
  · cases isDigit

/-- What may stand behind a digit: nothing, more digits, or a low line and more digits. -/
def Behind (body : List Char) (values : List Nat) : Prop :=
  body = [] ∧ values = [] ∨ Digits body values ∨ ∃ more, body = '_' :: more ∧ Digits more values

theorem Behind.digits {c : Char} {value : Nat} (behind : Behind body values)
    (digit : digitValue? c = some value) : Digits (c :: body) (value :: values) := by
  rcases behind with ⟨rfl, rfl⟩ | more | ⟨more, rfl, digits⟩
  · exact .last digit
  · exact .next digit more
  · exact .lowLine digit digits

/-- If every low line stands between two digits, what has been scanned is digits, or what may stand
behind the one before. -/
theorem digits_of_scanDigits {rest : List Char}
    (done : scanDigits previous (text.map plainChar) = (scanned, true, rest)) :
    ∃ body after, text = body ++ after ∧ rest = after.map plainChar ∧
      Behind body (scanned.map digit) ∧ (previous = '_' → Digits body (scanned.map digit)) := by
  induction text generalizing previous scanned with
  | nil =>
      rw [List.map_nil, scanDigits, Prod.mk.injEq, Prod.mk.injEq, decide_eq_true_eq] at done
      obtain ⟨rfl, apart, rfl⟩ := done
      exact ⟨[], [], rfl, rfl, .inl ⟨rfl, rfl⟩, fun same => absurd same apart⟩
  | cons c others ih =>
      rw [List.map_cons, scanDigits] at done
      split at done
      · next isDigit =>
        have valued : digitValue? c = some (digit (plainChar c)) := by
          rw [digitValue?_eq, if_pos isDigit]
        rw [Prod.mk.injEq, Prod.mk.injEq] at done
        obtain ⟨rfl, spaced, left⟩ := done
        obtain ⟨body, after, rfl, rest, behind, -⟩ :=
          @ih _ (plainChar c) (Prod.ext rfl (Prod.ext spaced left))
        have digits := behind.digits valued
        exact ⟨c :: body, after, rfl, rest, .inr (.inl digits), fun _ => digits⟩
      · split at done
        · next lowLine =>
          rw [lowLine, Prod.mk.injEq, Prod.mk.injEq, Bool.and_eq_true, decide_eq_true_eq] at done
          obtain ⟨rfl, ⟨spaced, apart⟩, left⟩ := done
          obtain ⟨body, after, rfl, rest, -, digits⟩ :=
            @ih _ '_' (Prod.ext rfl (Prod.ext spaced left))
          rw [plainChar_eq_lowLine_iff.mp lowLine]
          exact ⟨'_' :: body, after, rfl, rest, .inr (.inr ⟨body, rfl, digits rfl⟩),
            fun same => absurd same apart⟩
        · rw [Prod.mk.injEq, Prod.mk.injEq, decide_eq_true_eq] at done
          obtain ⟨rfl, apart, rfl⟩ := done
          exact ⟨[], c :: others, rfl, rfl, .inl ⟨rfl, rfl⟩, fun same => absurd same apart⟩

theorem scanDigits_of_digits (digits : Digits body values)
    (ends : ∀ previous, scanDigits previous (after.map plainChar) =
      ([], decide (previous ≠ '_'), after.map plainChar)) (previous : Char) :
    ∃ scanned, scanDigits previous ((body ++ after).map plainChar) =
        (scanned, true, after.map plainChar) ∧ scanned.map digit = values := by
  have first {c : Char} {value : Nat} (valued : digitValue? c = some value)
      (previous : Char) (rest : List Char) :
      scanDigits previous (plainChar c :: rest) =
        (plainChar c :: (scanDigits (plainChar c) rest).1, (scanDigits (plainChar c) rest).2) := by
    rw [scanDigits, if_pos (isDigit_plainChar valued).1]
  have noLowLine {c : Char} {value : Nat} (valued : digitValue? c = some value) :
      plainChar c ≠ '_' := by
    intro same
    have isDigit := (isDigit_plainChar valued).1
    rw [same] at isDigit
    cases isDigit
  induction digits generalizing previous with
  | @last c value valued =>
      refine ⟨[plainChar c], ?_, by rw [List.map_singleton, (isDigit_plainChar valued).2]⟩
      rw [List.singleton_append, List.map_cons, first valued, ends,
        decide_eq_true (noLowLine valued)]
  | @next c value rest values valued more ih =>
      obtain ⟨scanned, done, same⟩ := ih (plainChar c)
      refine ⟨plainChar c :: scanned, ?_, ?_⟩
      · rw [List.cons_append, List.map_cons, first valued, done]
      · rw [List.map_cons, same, (isDigit_plainChar valued).2]
  | @lowLine c value rest values valued more ih =>
      obtain ⟨scanned, done, same⟩ := ih '_'
      have line (previous : Char) (rest : List Char) : scanDigits previous ('_' :: rest) =
          ((scanDigits '_' rest).1, (scanDigits '_' rest).2.1 && previous ≠ '_',
            (scanDigits '_' rest).2.2) := by
        rw [scanDigits, if_neg (by decide), if_pos rfl]
      refine ⟨plainChar c :: scanned, ?_, ?_⟩
      · rw [List.cons_append, List.cons_append, List.map_cons, List.map_cons,
          plainChar_eq_lowLine_iff.mpr rfl, first valued, line, done,
          decide_eq_true (noLowLine valued)]
        rfl
      · rw [List.map_cons, same, (isDigit_plainChar valued).2]

theorem scanDigits_of_around (blank : ∀ c ∈ after, isAround c = true) (previous : Char) :
    scanDigits previous (after.map plainChar) =
      ([], decide (previous ≠ '_'), after.map plainChar) := by
  cases after with
  | nil => rfl
  | cons c rest =>
      have around := blank c List.mem_cons_self
      rw [← isAsciiBlank_plainChar] at around
      rw [List.map_cons, scanDigits, if_neg, if_neg]
      · intro same
        rw [same] at around
        cases around
      · intro isDigit
        rw [isAsciiBlank_of_isDigit isDigit] at around
        cases around

/-! The whole text. -/

theorem natOfDigits_eq (digits : List Char) :
    natOfDigits digits = decimal (digits.map digit) := by
  rw [natOfDigits, decimal, List.foldl_map]

theorem signedValue_eq (negative : Bool) (digits : List Char) :
    (if negative then -(natOfDigits digits : Int) else natOfDigits digits) =
      (if negative then -1 else 1) * decimal (digits.map digit) := by
  rw [natOfDigits_eq]
  cases negative with
  | false => exact (Int.one_mul _).symm
  | true => exact (Int.neg_one_mul _).symm

theorem exists_signed (chars : List Char) :
    ∃ sign body negative, chars = sign ++ body ∧
      signed (chars.map plainChar) = (negative, body.map plainChar) ∧
      Sign sign (if negative then -1 else 1) := by
  cases chars with
  | nil => exact ⟨[], [], false, rfl, rfl, .none⟩
  | cons c rest =>
      by_cases minus : c = '-'
      · subst minus
        exact ⟨['-'], rest, true, rfl, rfl, .minus⟩
      by_cases plus : c = '+'
      · subst plus
        exact ⟨['+'], rest, false, rfl, rfl, .plus⟩
      refine ⟨[], c :: rest, false, rfl, ?_, .none⟩
      rw [List.map_cons, signed]
      · intro other same
        exact minus (plainChar_eq_minus_iff.mp (List.cons.inj same).1)
      · intro other same
        exact plus (plainChar_eq_plus_iff.mp (List.cons.inj same).1)

theorem dropWhile_plainForm (text : List Char) :
    (plainForm text).dropWhile isAsciiBlank = (text.dropWhile isAround).map plainChar := by
  have same : isAsciiBlank ∘ plainChar = isAround := funext isAsciiBlank_plainChar
  rw [plainForm_eq, List.dropWhile_map, same]

theorem denotes_of_integerOfText {text : String} {number : Int}
    (read : integerOfText text = .ok number) : Denotes text number := by
  obtain ⟨sign, chars, negative, rest, signs, factor⟩ :=
    exists_signed (text.toList.dropWhile isAround)
  unfold integerOfText at read
  rw [dropWhile_plainForm, signs] at read
  dsimp only at read
  cases done : scanDigits '_' (chars.map plainChar) with
  | mk scanned others =>
      obtain ⟨spaced, left⟩ := others
      rw [done] at read
      dsimp only at read
      split at read
      · cases read
      · next usable =>
        simp only [Bool.or_eq_true, not_or, Bool.not_eq_true, Bool.not_eq_false'] at usable
        split at read
        · cases read
        · next few =>
          split at read
          · cases read
          · next blank =>
            rw [usable.2] at done
            obtain ⟨body, after, rfl, rfl, -, whole⟩ := digits_of_scanDigits done
            have written : text.toList =
                text.toList.takeWhile isAround ++ (sign ++ (body ++ after)) := by
              rw [← rest, List.takeWhile_append_dropWhile]
            cases read
            rw [signedValue_eq]
            refine .intro written (List.all_eq_true.mp List.all_takeWhile) factor (whole rfl) ?_ ?_
            · rw [List.length_map]
              exact Nat.not_lt.mp few
            · intro c member
              simp only [Bool.not_eq_true', Bool.not_eq_false, List.all_map, List.all_eq_true]
                at blank
              rw [← isAsciiBlank_plainChar]
              exact blank c member

theorem exists_head_of_digits (signed : Sign sign factor) (digits : Digits body values)
    (after : List Char) :
    ∃ c rest, sign ++ (body ++ after) = c :: rest ∧ isAround c = false := by
  cases signed with
  | plus => exact ⟨'+', body ++ after, rfl, by decide⟩
  | minus => exact ⟨'-', body ++ after, rfl, by decide⟩
  | none =>
      obtain ⟨c, rest, value, others, rfl, rfl, valued⟩ := digits.exists_cons
      refine ⟨c, rest ++ after, rfl, ?_⟩
      rw [← isAsciiBlank_plainChar]
      exact isAsciiBlank_of_isDigit (isDigit_plainChar valued).1

theorem signed_of_sign (signed : Sign sign factor) (digits : Digits body values)
    (after : List Char) :
    ∃ negative, Number.signed ((sign ++ (body ++ after)).map plainChar) =
      (negative, (body ++ after).map plainChar) ∧ factor = if negative then -1 else 1 := by
  cases signed with
  | plus => exact ⟨false, rfl, rfl⟩
  | minus => exact ⟨true, rfl, rfl⟩
  | none =>
      obtain ⟨c, rest, value, others, rfl, rfl, valued⟩ := digits.exists_cons
      have isDigit := (isDigit_plainChar valued).1
      refine ⟨false, ?_, rfl⟩
      rw [List.nil_append, List.cons_append, List.map_cons, Number.signed]
      · intro other same
        rw [(List.cons.inj same).1] at isDigit
        cases isDigit
      · intro other same
        rw [(List.cons.inj same).1] at isDigit
        cases isDigit

theorem integerOfText_of_denotes {text : String} {number : Int}
    (denotes : Denotes text number) : integerOfText text = .ok number := by
  cases denotes with
  | @intro before sign body after factor values written front signs digits few back =>
      obtain ⟨negative, unsigned, rfl⟩ := signed_of_sign signs digits after
      obtain ⟨scanned, done, rfl⟩ :=
        scanDigits_of_digits digits (scanDigits_of_around back) '_'
      obtain ⟨c, rest, start, visible⟩ := exists_head_of_digits signs digits after
      have stripped : text.toList.dropWhile isAround = sign ++ (body ++ after) := by
        rw [written, List.dropWhile_append_of_pos front, start, List.dropWhile_cons, visible,
          if_neg Bool.false_ne_true]
      have nonempty : scanned.isEmpty = false := by
        obtain ⟨_, _, _, _, -, same, -⟩ := digits.exists_cons
        rw [← List.isEmpty_map (f := digit), same]
        rfl
      have blank : (after.map plainChar).all isAsciiBlank = true := by
        simp only [List.all_map, List.all_eq_true]
        intro c member
        exact (isAsciiBlank_plainChar c).trans (back c member)
      rw [List.length_map] at few
      rw [integerOfText, dropWhile_plainForm, stripped, unsigned]
      dsimp only
      rw [done]
      dsimp only
      rw [nonempty, blank, if_neg (by decide), if_neg (Nat.not_lt.mpr few), if_neg (by decide),
        signedValue_eq]

/-- A text is read as an integer exactly if it holds that integer. -/
theorem integerOfText_eq_ok_iff {text : String} {number : Int} :
    integerOfText text = .ok number ↔ Denotes text number :=
  ⟨denotes_of_integerOfText, integerOfText_of_denotes⟩

theorem Denotes.unique {text : String} {a b : Int} (first : Denotes text a)
    (second : Denotes text b) : a = b :=
  Except.ok.inj ((integerOfText_of_denotes first).symm.trans (integerOfText_of_denotes second))

end AppletPage.Number
