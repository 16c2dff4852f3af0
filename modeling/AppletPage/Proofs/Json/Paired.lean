import AppletPage.Json.Reader
import AppletPage.Proofs.Text.Paired
import Mathlib.Tactic.SplitIfs

/-! JSON text in which every surrogate is one of a pair. Its strings are read unit for unit, so that
nothing is lost to the replacement character. -/

namespace AppletPage.Json

open Text

/-- The units of a text, and of what is escaped in it. -/
def units : List Char → List Nat
  | '\\' :: 'u' :: a :: b :: c :: d :: rest =>
      match unit? a b c d with
      | some unit => unit :: units rest
      | none => units rest
  | '\\' :: c :: rest => Encoding.unitsOf ((simpleEscape? c).getD c) ++ units rest
  | c :: rest => Encoding.unitsOf c ++ units rest
  | [] => []

def isPaired (text : String) : Bool := Encoding.isPaired (units text.toList)

theorem hexValue?_lt {c : Char} {value : Nat} (read : hexValue? c = some value) : value < 16 := by
  have bounded {low high : Char} (within : low ≤ c ∧ c ≤ high) : c.toNat ≤ high.toNat := within.2
  unfold hexValue? at read
  split_ifs at read with digit small capital
  · have := bounded digit
    cases read
    exact Nat.lt_of_le_of_lt (Nat.sub_le_sub_right this _) (by decide)
  · have := bounded small
    cases read
    exact Nat.lt_of_le_of_lt (Nat.add_le_add_right (Nat.sub_le_sub_right this _) _) (by decide)
  · have := bounded capital
    cases read
    exact Nat.lt_of_le_of_lt (Nat.add_le_add_right (Nat.sub_le_sub_right this _) _) (by decide)

theorem unit?_lt {a b c d : Char} {unit : Nat} (read : unit? a b c d = some unit) :
    unit < 0x10000 := by
  obtain ⟨first, readFirst, read⟩ := Option.bind_eq_some_iff.mp read
  obtain ⟨second, readSecond, read⟩ := Option.bind_eq_some_iff.mp read
  obtain ⟨third, readThird, read⟩ := Option.bind_eq_some_iff.mp read
  obtain ⟨fourth, readFourth, read⟩ := Option.bind_eq_some_iff.mp read
  have first := hexValue?_lt readFirst
  have second := hexValue?_lt readSecond
  have third := hexValue?_lt readThird
  have fourth := hexValue?_lt readFourth
  cases read
  omega

theorem prepend_eq_ok {c : Char} {scanned : Except Stop (List Char × List Char)}
    {text rest : List Char} (read : prepend c scanned = .ok (text, rest)) :
    ∃ tail, scanned = .ok (tail, rest) ∧ text = c :: tail := by
  cases scanned with
  | error stop => cases read
  | ok pair =>
      cases read
      exact ⟨_, rfl, rfl⟩

theorem units_escape {a b c d : Char} {unit : Nat} (read : unit? a b c d = some unit)
    (rest : List Char) : units ('\\' :: 'u' :: a :: b :: c :: d :: rest) = unit :: units rest := by
  rw [units, read]

theorem units_simpleEscape {c escaped : Char} {rest : List Char}
    (found : simpleEscape? c = some escaped)
    (noNumber : ∀ a b d e more, c = 'u' → rest = a :: b :: d :: e :: more → False) :
    units ('\\' :: c :: rest) = Encoding.unitsOf escaped ++ units rest := by
  rw [units, found, Option.getD_some]
  exact noNumber

theorem units_plain {c : Char} (plain : c ≠ '\\') (rest : List Char) :
    units (c :: rest) = Encoding.unitsOf c ++ units rest := by
  rw [units]
  · exact fun _ _ _ _ _ escape => absurd escape plain
  · exact fun _ _ escape => absurd escape plain

theorem exists_units {text : List Char} (more : text ≠ [])
    (noEscape : ∀ a b c d rest, text = '\\' :: 'u' :: a :: b :: c :: d :: rest → False) :
    ∃ c rest, units text = Encoding.unitsOf c ++ rest := by
  unfold units
  split
  · exact (noEscape _ _ _ _ _ rfl).elim
  · exact ⟨_, _, rfl⟩
  · exact ⟨_, _, rfl⟩
  · exact absurd rfl more

theorem stringBody_escape_end (opening : List Char) (a b c d : Char)
    (read : List Char × List Char) :
    stringBody opening ['\\', 'u', a, b, c, d] ≠ .ok read := by
  intro done
  rw [stringBody] at done
  cases found : unit? a b c d with
  | none => rw [found] at done; cases done
  | some unit => rw [found] at done; cases done
  all_goals exact nofun

/-- A string is read unit for unit where every surrogate is one of a pair. -/
theorem units_stringBody {opening text chars rest : List Char}
    (read : stringBody opening text = .ok (chars, rest))
    (paired : Encoding.isPaired (units text) = true) :
    units text = chars.flatMap Encoding.unitsOf ++ units ('"' :: rest) := by
  fun_induction stringBody opening text generalizing chars rest with
  | case2 behind => cases read; rfl
  | case5 a b c d e f g h behind high found pair low foundLow second ih =>
      obtain ⟨tail, scanned, rfl⟩ := prepend_eq_ok read
      have first := (Bool.and_eq_true_iff.mp pair).1
      rw [units_escape found, units_escape foundLow, Encoding.isPaired_pair first, second,
        Bool.true_and] at paired
      rw [units_escape found, units_escape foundLow, ih scanned paired, List.flatMap_cons,
        Encoding.unitsOf_joinSurrogates first second]
      rfl
  | case6 a b c d e f g h behind high found pair low foundLow noLow ih =>
      have first := (Bool.and_eq_true_iff.mp pair).1
      rw [units_escape found, units_escape foundLow, Encoding.isPaired_pair first,
        Bool.eq_false_iff.mpr noLow] at paired
      cases paired
  | case7 a b c d e f g h behind unit found noPair ih =>
      obtain ⟨tail, scanned, rfl⟩ := prepend_eq_ok read
      have noHigh : Encoding.isHighSurrogate unit = false := by
        refine Bool.eq_false_iff.mpr fun high => noPair ?_
        rw [high, Bool.true_and, Bool.not_eq_true', List.isEmpty_eq_false_iff]
        rintro rfl
        exact stringBody_escape_end _ _ _ _ _ _ scanned
      rw [units_escape found] at paired ⊢
      obtain ⟨single, paired⟩ := Encoding.single_of_isPaired (unit?_lt found) noHigh paired
      rw [ih scanned paired, List.flatMap_cons, single]
      rfl
  | case10 a b c d behind noEscape unit found more ih =>
      obtain ⟨tail, scanned, rfl⟩ := prepend_eq_ok read
      rw [units_escape found] at paired ⊢
      have noHigh : Encoding.isHighSurrogate unit = false := by
        refine Bool.eq_false_iff.mpr fun high => ?_
        obtain ⟨c, rest, start⟩ := exists_units (fun empty => more (by rw [empty]; rfl)) noEscape
        rw [start, Encoding.isPaired_high_unitsOf high] at paired
        cases paired
      obtain ⟨single, paired⟩ := Encoding.single_of_isPaired (unit?_lt found) noHigh paired
      rw [ih scanned paired, List.flatMap_cons, single]
      rfl
  | case13 c behind _ noNumber _ escaped found ih =>
      obtain ⟨tail, scanned, rfl⟩ := prepend_eq_ok read
      rw [units_simpleEscape found noNumber, Encoding.isPaired_unitsOf_append] at paired
      rw [units_simpleEscape found noNumber, ih scanned paired, List.flatMap_cons,
        List.append_assoc]
  | case16 c behind _ _ _ _ noLast noEscape _ ih =>
      obtain ⟨tail, scanned, rfl⟩ := prepend_eq_ok read
      have plain : c ≠ '\\' := by
        intro escape
        cases behind with
        | nil => exact noLast escape rfl
        | cons next behind => exact noEscape next behind escape rfl
      rw [units_plain plain, Encoding.isPaired_unitsOf_append] at paired
      rw [units_plain plain, ih scanned paired, List.flatMap_cons, List.append_assoc]
  | _ => cases read

example : isPaired "\"\\ud83d\\ude00\"" = true := by decide

example : isPaired "\"\\ude00\\ud83d\"" = false := by decide

end AppletPage.Json
