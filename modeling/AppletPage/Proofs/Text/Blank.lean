import AppletPage.Proofs.Text.Ascii
import AppletPage.Text.Split

/-! Texts without blanks, and the digits of numbers among them. -/

namespace AppletPage.Text

theorem dropWhile_of_kept {drop : Char → Bool} {text : List Char}
    (kept : ∀ c ∈ text, drop c = false) : text.dropWhile drop = text := by
  cases text with
  | nil => rfl
  | cons c rest => rw [List.dropWhile_cons, kept c List.mem_cons_self, if_neg Bool.false_ne_true]

theorem trimBy_of_kept {drop : Char → Bool} {text : List Char}
    (kept : ∀ c ∈ text, drop c = false) : trimBy drop text = text := by
  rw [trimBy, dropWhile_of_kept kept,
    dropWhile_of_kept fun c member => kept c (List.mem_reverse.mp member), List.reverse_reverse]

theorem toList_trim (text : String) : (trim text).toList = trimBy isBlank text.toList :=
  String.toList_ofList

theorem kept_of_trimBy {drop : Char → Bool} {text : List Char} {last : Char}
    (trimmed : trimBy drop (text ++ [last]) = text ++ [last]) : drop last = false := by
  have reversed := congrArg List.reverse trimmed
  rw [trimBy, List.reverse_reverse, List.reverse_append, List.reverse_singleton,
    List.singleton_append] at reversed
  have head := List.head?_dropWhile_not drop ((text ++ [last]).dropWhile drop).reverse
  rw [reversed] at head
  exact head

theorem withoutLineEnd_cases (text : List Char) :
    withoutLineEnd text = text ∨ text = withoutLineEnd text ++ ['\n'] := by
  rw [withoutLineEnd]
  split
  · next rest ends =>
    have parts := congrArg List.reverse ends
    rw [List.reverse_reverse, List.reverse_cons] at parts
    exact .inr parts
  · exact .inl rfl

theorem withoutLineEnd_append (text : List Char) : withoutLineEnd (text ++ ['\n']) = text := by
  rw [withoutLineEnd, List.reverse_append, List.reverse_singleton, List.singleton_append]
  exact List.reverse_reverse text

theorem withoutLineEnd_of_not_mem {text : List Char} (none : '\n' ∉ text) :
    withoutLineEnd text = text := by
  rcases withoutLineEnd_cases text with whole | ends
  · exact whole
  · rw [ends] at none
    exact absurd (List.mem_append_right _ List.mem_cons_self) none

theorem isDigit_of_mem_toDigits {c : Char} {n : Nat} (h : c ∈ Nat.toDigits 10 n) :
    isDigit c = true := by
  have digit := Nat.isDigit_of_mem_toDigits (by decide) (by decide) h
  simp only [isDigit, Char.isDigit, Bool.and_eq_true, decide_eq_true_eq] at digit ⊢
  exact digit

theorem natOfDigits_toDigits (n : Nat) : natOfDigits (Nat.toDigits 10 n) = n :=
  Nat.ofDigitChars_ten_toDigits

theorem toList_toString (n : Nat) : (toString n).toList = Nat.toDigits 10 n := by
  rw [Nat.toString_eq_repr, Nat.toList_repr]

theorem trimBy_toDigits (n : Nat) : trimBy isBlank (Nat.toDigits 10 n) = Nat.toDigits 10 n :=
  trimBy_of_kept fun _ member => isBlank_of_isDigit (isDigit_of_mem_toDigits member)

end AppletPage.Text
