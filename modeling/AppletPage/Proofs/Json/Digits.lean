import AppletPage.Json.Reader
import AppletPage.Proofs.Text.Blank

/-! Values that have been read hold no integers of more digits than are read. -/

namespace AppletPage

namespace Text

theorem digit_lt_ten {c : Char} (digit : isDigit c = true) : Text.digit c < 10 := by
  simp only [isDigit, Bool.and_eq_true, decide_eq_true_eq, Char.le_def, UInt32.le_iff_toNat_le]
    at digit
  have last : c.toNat ≤ '9'.toNat := digit.2
  have bound : '9'.toNat < '0'.toNat + 10 := by decide
  rw [Text.digit]
  omega

theorem foldl_digits_lt {digits : List Char} (all : ∀ c ∈ digits, isDigit c = true) (before : Nat) :
    digits.foldl (fun value c => 10 * value + digit c) before <
      (before + 1) * Nat.pow 10 digits.length := by
  induction digits generalizing before with
  | nil => simp
  | cons c rest ih =>
      have small := digit_lt_ten (all c List.mem_cons_self)
      calc (c :: rest).foldl (fun value c => 10 * value + digit c) before
        _ < (10 * before + digit c + 1) * Nat.pow 10 rest.length :=
            ih (fun d member => all d (List.mem_cons_of_mem c member)) _
        _ ≤ (before + 1) * 10 * Nat.pow 10 rest.length := Nat.mul_le_mul_right _ (by omega)
        _ = (before + 1) * (Nat.pow 10 rest.length * 10) := by
            rw [Nat.mul_assoc, Nat.mul_comm 10]
        _ = (before + 1) * Nat.pow 10 (c :: rest).length := rfl

theorem natOfDigits_lt {digits : List Char} (all : ∀ c ∈ digits, isDigit c = true) :
    natOfDigits digits < Nat.pow 10 digits.length := by
  have bound := foldl_digits_lt all 0
  rwa [Nat.zero_add, Nat.one_mul] at bound

theorem lt_pow_of_le {value count limit : Nat} (below : value < Nat.pow 10 count)
    (within : count ≤ limit) : value < Nat.pow 10 limit :=
  Nat.lt_of_lt_of_le below (Nat.pow_le_pow_right (by decide) within)

theorem length_toDigits_le {value limit : Nat} (positive : 0 < limit)
    (below : value < Nat.pow 10 limit) : (Nat.toDigits 10 value).length ≤ limit :=
  (Nat.length_toDigits_le_iff (by decide) positive).mpr below

theorem lt_length_toDigits_pow {limit : Nat} (positive : 0 < limit) :
    limit < (Nat.toDigits 10 (Nat.pow 10 limit)).length := by
  rw [← Nat.not_le, Nat.length_toDigits_le_iff (by decide) positive]
  exact Nat.lt_irrefl _

end Text

namespace Json

open Number Text

/-- No integer in a value has more digits than are read. -/
inductive Short : Json → Prop where
  | null : Short .null
  | bool (value : Bool) : Short (.bool value)
  | integer {value : Int} (fits : value.natAbs < Nat.pow 10 digitLimit) : Short (.integer value)
  | real (value : Binary64) : Short (.real value)
  | string (value : String) : Short (.string value)
  | array {items : List Json} (each : ∀ item ∈ items, Short item) : Short (.array items)
  | object {fields : List (String × Json)} (each : ∀ entry ∈ fields, Short entry.2) :
      Short (.object fields)

/-! Numbers. -/

theorem short_numberFrom {negative : Bool} {whole rest left : List Char} {given : Json}
    (digits : ∀ c ∈ whole, isDigit c = true)
    (read : numberFrom negative whole rest = .ok (given, left)) : Short given := by
  unfold numberFrom at read
  split at read
  · next places left' split =>
    cases power : power? left' with
    | none =>
        simp only [power] at read
        split at read
        · split at read
          · cases read
          · next fits =>
            cases read
            have bound : natOfDigits whole < Nat.pow 10 digitLimit :=
              lt_pow_of_le (natOfDigits_lt digits) (Nat.not_lt.mp fits)
            refine .integer ?_
            cases negative with
            | false => exact bound
            | true => exact (Int.natAbs_neg _).symm ▸ bound
        · cases read
          exact .real _
    | some found =>
        simp only [power] at read
        cases read
        exact .real _

theorem short_number {start text left : List Char} {negative : Bool} {given : Json}
    (read : number start negative text = .ok (given, left)) : Short given := by
  unfold number at read
  split at read
  · exact short_numberFrom (List.forall_mem_singleton.mpr rfl) read
  · next c rest _ =>
    split at read
    · next digit =>
      exact short_numberFrom
        (List.forall_mem_cons.mpr ⟨digit, List.all_eq_true.mp List.all_takeWhile⟩) read
    · cases read
  · cases read

theorem short_atom {text left : List Char} {given : Json} (read : atom text = .ok (given, left)) :
    Short given := by
  unfold atom at read
  split at read
  · split at read
    · cases read; exact .string _
    · cases read
  · cases read; exact .null
  · cases read; exact .bool true
  · cases read; exact .bool false
  · cases read; exact .real _
  · cases read; exact .real _
  · cases read; exact .real _
  · exact short_number read
  · exact short_number read

/-! Values, by the fuel. -/

section

variable (fuel : Nat)

def ShortValues : Prop :=
  ∀ {room : Nat} {text left : List Char} {given : Json},
    value fuel room text = .ok (given, left) → Short given

def ShortItems : Prop :=
  ∀ {room : Nat} {text left : List Char} {given : List Json},
    items fuel room text = .ok (given, left) → ∀ item ∈ given, Short item

def ShortFields : Prop :=
  ∀ {room : Nat} {text left : List Char} {given : List (String × Json)},
    fields fuel room text = .ok (given, left) → ∀ entry ∈ given, Short entry.2

end

variable {fuel : Nat}

theorem bind_eq_ok {α β : Type} {scan : Except Stop α} {next : α → Except Stop β} {result : β}
    (done : scan >>= next = .ok result) : ∃ found, scan = .ok found ∧ next found = .ok result := by
  cases scan with
  | error stop => cases done
  | ok found => exact ⟨found, rfl, done⟩

theorem shortValues_succ (shortItems : ShortItems fuel) (shortFields : ShortFields fuel) :
    ShortValues (fuel + 1) := by
  intro room text left given read
  unfold value at read
  split at read
  · split at read
    · cases read
    · split at read
      · cases read
        exact .array nofun
      · obtain ⟨found, itemsRead, done⟩ := bind_eq_ok read
        cases done
        exact .array (shortItems itemsRead)
  · split at read
    · cases read
    · split at read
      · cases read
        exact .object nofun
      · obtain ⟨found, fieldsRead, done⟩ := bind_eq_ok read
        cases done
        exact .object (Mapping.forall_ofList (shortFields fieldsRead))
  · exact short_atom read

theorem shortItems_succ (shortValues : ShortValues fuel) (shortItems : ShortItems fuel) :
    ShortItems (fuel + 1) := by
  intro room text left given read
  unfold items at read
  obtain ⟨⟨item, rest⟩, itemRead, read⟩ := bind_eq_ok read
  have first := shortValues itemRead
  dsimp only at read
  split at read
  · cases read
    exact List.forall_mem_singleton.mpr first
  · obtain ⟨others, othersRead, done⟩ := bind_eq_ok read
    cases done
    exact List.forall_mem_cons.mpr ⟨first, shortItems othersRead⟩
  · cases read

theorem shortFields_succ (shortValues : ShortValues fuel) (shortFields : ShortFields fuel) :
    ShortFields (fuel + 1) := by
  intro room text left given read
  unfold fields at read
  split at read
  · obtain ⟨⟨name, rest⟩, -, read⟩ := bind_eq_ok read
    dsimp only at read
    split at read
    · obtain ⟨⟨field, rest'⟩, fieldRead, read⟩ := bind_eq_ok read
      have first := shortValues fieldRead
      dsimp only at read
      split at read
      · cases read
        exact List.forall_mem_singleton.mpr first
      · obtain ⟨others, othersRead, done⟩ := bind_eq_ok read
        cases done
        exact List.forall_mem_cons.mpr ⟨first, shortFields othersRead⟩
      · cases read
    · cases read
  · cases read

theorem short_scans (fuel : Nat) : ShortValues fuel ∧ ShortItems fuel ∧ ShortFields fuel := by
  induction fuel with
  | zero =>
      refine ⟨?_, ?_, ?_⟩ <;> intro room text left given read <;> cases read
  | succ fuel ih =>
      obtain ⟨values, items, fields⟩ := ih
      exact ⟨shortValues_succ items fields, shortItems_succ values items,
        shortFields_succ values fields⟩

theorem short_of_whole {room : Nat} {text : List Char} {given : Json}
    (read : whole room text = .ok given) : Short given := by
  obtain ⟨⟨found, rest⟩, valueRead, read⟩ := bind_eq_ok read
  have short := (short_scans _).1 valueRead
  dsimp only at read
  split at read
  · cases read
    exact short
  · cases read

theorem short_of_read {text : String} {given : Json} (read : Json.read text = .ok given) :
    Short given := by
  have decoded (done : readDecoded text = .ok given) : Short given := by
    rw [readDecoded] at done
    cases scanned : whole depthLimit text.toList with
    | error stop => rw [scanned] at done; cases done
    | ok found =>
        rw [scanned] at done
        cases done
        exact short_of_whole scanned
  unfold Json.read at read
  split at read
  · split at read
    · cases read
    · exact decoded read
  · exact decoded read

end Json

end AppletPage
