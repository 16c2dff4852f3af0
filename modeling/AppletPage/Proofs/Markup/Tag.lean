import AppletPage.Markup.Construct
import AppletPage.Proofs.Markup.Reference

/-! Start tags as a document writes them, and that reading finds in them what was written. -/

namespace AppletPage.Markup

open Text

def isSpacing (c : Char) : Bool := isBlank c && !Tag.isNameChar c

theorem isBlank_of_isSpacing {c : Char} (h : isSpacing c = true) : isBlank c = true := by
  simp only [isSpacing, Bool.and_eq_true] at h
  exact h.1

/-- An attribute as it is written: blanks, a name, and a value between quotation marks. -/
structure WrittenAttribute where
  gap : List Char
  name : List Char
  value : List Char
  gap_ne_nil : gap ≠ [] := by decide
  gap_blank : gap.all isSpacing = true := by decide
  name_ne_nil : name ≠ [] := by decide
  name_plain : name.all Attribute.inName = true := by decide

namespace WrittenAttribute

def body (written : WrittenAttribute) : List Char :=
  written.name ++ '=' :: '"' :: escape written.value ++ ['"']

def chars (written : WrittenAttribute) : List Char := written.gap ++ written.body

def raw (written : WrittenAttribute) : RawAttribute :=
  (written.name, some (escape written.value))

end WrittenAttribute

def tagEnd (selfClosing : Bool) : List Char := if selfClosing then ['/', '>'] else ['>']

namespace Attribute

theorem beginsName_of_inName {c : Char} (h : inName c = true) : beginsName c = true := by
  simp only [inName, beginsName, Bool.not_eq_true', Bool.or_eq_false_iff] at h ⊢
  exact ⟨h.1.1, h.2⟩

theorem mayFollow_of_isBlank {c : Char} (h : isBlank c = true) : mayFollow c = true := by
  simp [mayFollow, h]

theorem quoted?_escape (value rest : List Char) :
    quoted? '"' (escape value ++ '"' :: rest) = some (escape value, rest) := by
  have passed : ∀ c ∈ escape value, decide (c ≠ '"') = true := fun c member =>
    decide_eq_true (ne_of_mem_escape member rfl)
  simp only [quoted?, List.dropWhile_append_of_pos passed, List.takeWhile_append_of_pos passed]
  simp

theorem value?_escape (value rest : List Char) :
    value? ('=' :: '"' :: escape value ++ '"' :: rest) = some (escape value, rest) := by
  have found := quoted?_escape value rest
  have equals : isBlank '=' = false := rfl
  have mark : isBlank '"' = false := rfl
  simp [value?, valueFrom, equals, mark, found]

theorem separators_tagEnd (selfClosing : Bool) (rest : List Char) :
    separators (tagEnd selfClosing ++ rest) = ([], tagEnd selfClosing ++ rest) := by
  cases selfClosing <;> rfl

theorem exists_body_eq_cons (written : WrittenAttribute) :
    ∃ c rest, written.body = c :: rest ∧ isBlank c = false ∧ c ≠ '/' ∧ c ≠ '>' := by
  obtain ⟨c, others, shape⟩ := List.exists_cons_of_ne_nil written.name_ne_nil
  have plain := written.name_plain
  simp only [shape, List.all_cons, Bool.and_eq_true, inName, Bool.not_eq_true',
    Bool.or_eq_false_iff, decide_eq_false_iff_not] at plain
  exact ⟨c, others ++ '=' :: '"' :: escape written.value ++ ['"'],
    by simp [WrittenAttribute.body, shape], plain.1.1.1.1, plain.1.1.1.2, plain.1.2⟩

theorem separators_body (written : WrittenAttribute) (rest : List Char) :
    separators (written.body ++ rest) = ([], written.body ++ rest) := by
  obtain ⟨c, others, shape, blank, slash, _⟩ := exists_body_eq_cons written
  rw [shape, List.cons_append, separators]
  · simp [blank, slash]
  · rintro _ rfl
    exact absurd rfl slash

theorem separators_gap {gap : List Char} (blank : gap.all isSpacing = true) {text : List Char}
    (stops : separators text = ([], text)) : separators (gap ++ text) = (gap, text) := by
  induction gap with
  | nil => exact stops
  | cons c others ih =>
      simp only [List.all_cons, Bool.and_eq_true] at blank
      rw [List.cons_append, separators]
      · simp [isBlank_of_isSpacing blank.1, ih blank.2]
      · rintro _ rfl
        cases blank.1

theorem lastRead_append (previous : Char) (read rest : List Char) :
    lastRead previous (read ++ rest) rest = read.getLast?.getD previous := by
  simp [lastRead]

theorem scan_tagEnd (fuel : Nat) (previous : Char) (selfClosing : Bool) (rest : List Char) :
    scan fuel previous (tagEnd selfClosing ++ rest) = ([], tagEnd selfClosing ++ rest) := by
  cases fuel with
  | zero => rfl
  | succ fuel =>
      cases selfClosing
      · simp [tagEnd, scan, beginsName]
      · simp [tagEnd, scan, beginsName]

theorem takeWhile_name (written : WrittenAttribute) {c : Char} {others : List Char}
    (shape : written.name = c :: others) (rest : List Char) :
    (others ++ '=' :: rest).takeWhile inName = others ∧
      (others ++ '=' :: rest).dropWhile inName = '=' :: rest := by
  have plain := written.name_plain
  rw [shape, List.all_cons, Bool.and_eq_true] at plain
  have inside : ∀ x ∈ others, inName x = true := List.all_eq_true.mp plain.2
  have outside : inName '=' = false := rfl
  constructor
  · simp [List.takeWhile_append_of_pos inside, outside]
  · simp [List.dropWhile_append_of_pos inside, outside]

theorem scan_body {previous : Char} (follows : mayFollow previous = true)
    (written : WrittenAttribute) (gap rest : List Char)
    (separated : separators (gap ++ rest) = (gap, rest)) (fuel : Nat) :
    scan (fuel + 1) previous (written.body ++ gap ++ rest) =
      (written.raw :: (scan fuel (gap.getLast?.getD '"') rest).1,
        (scan fuel (gap.getLast?.getD '"') rest).2) := by
  obtain ⟨c, others, shape⟩ := List.exists_cons_of_ne_nil written.name_ne_nil
  have plain := written.name_plain
  rw [shape, List.all_cons, Bool.and_eq_true] at plain
  have begins : beginsName c = true := beginsName_of_inName plain.1
  obtain ⟨taken, left⟩ :=
    takeWhile_name written shape ('"' :: escape written.value ++ '"' :: (gap ++ rest))
  have found := value?_escape written.value (gap ++ rest)
  have last :
      lastRead c (c :: (others ++ '=' :: '"' :: escape written.value ++ '"' :: (gap ++ rest)))
        rest = gap.getLast?.getD '"' := by
    have read := lastRead_append c
      (c :: (others ++ '=' :: '"' :: escape written.value ++ '"' :: gap)) rest
    simp only [List.cons_append, List.append_assoc] at read ⊢
    rw [read]
    simp [List.getLast?_cons, List.getLast?_append]
  simp only [WrittenAttribute.body, WrittenAttribute.raw, shape, List.cons_append,
    List.append_assoc, List.nil_append] at taken left found last ⊢
  simp only [scan, follows, begins, taken, left, found, separated, last, Bool.and_self, if_true]

theorem length_le_flatMap_chars (written : List WrittenAttribute) :
    written.length ≤ (written.flatMap WrittenAttribute.chars).length := by
  induction written with
  | nil => exact Nat.le_refl 0
  | cons first others ih =>
      simp only [List.flatMap_cons, List.length_append, List.length_cons,
        WrittenAttribute.chars, WrittenAttribute.body]
      omega

theorem mayFollow_getLast? {gap : List Char} (nonempty : gap ≠ [])
    (blank : gap.all isSpacing = true) (usual : Char) :
    mayFollow (gap.getLast?.getD usual) = true := by
  rw [List.getLast?_eq_some_getLast nonempty]
  apply mayFollow_of_isBlank
  exact isBlank_of_isSpacing (List.all_eq_true.mp blank _ (List.getLast_mem nonempty))

theorem scan_written {fuel : Nat} {previous : Char} (follows : mayFollow previous = true)
    (written : WrittenAttribute) (others : List WrittenAttribute) (enough : others.length < fuel)
    {trail : List Char} (blank : trail.all isSpacing = true) (selfClosing : Bool)
    (rest : List Char) :
    scan fuel previous
        (written.body ++ (others.flatMap WrittenAttribute.chars
          ++ (trail ++ (tagEnd selfClosing ++ rest)))) =
      ((written :: others).map WrittenAttribute.raw, tagEnd selfClosing ++ rest) := by
  obtain ⟨fuel, rfl⟩ : ∃ less, fuel = less + 1 := ⟨fuel - 1, by omega⟩
  -- Each attribute takes one unit of fuel, and leaves a gap behind which the next may begin.
  induction others generalizing fuel previous written with
  | nil =>
      rw [List.flatMap_nil, List.nil_append, ← List.append_assoc,
        scan_body follows written trail (tagEnd selfClosing ++ rest)
          (separators_gap blank (separators_tagEnd selfClosing rest)), scan_tagEnd]
      rfl
  | cons next others ih =>
      obtain ⟨fuel, rfl⟩ : ∃ less, fuel = less + 1 :=
        ⟨fuel - 1, by simp only [List.length_cons] at enough; omega⟩
      have tail := ih (mayFollow_getLast? next.gap_ne_nil next.gap_blank '"') next fuel
        (by simp only [List.length_cons] at enough; omega)
      have separated := separators_gap next.gap_blank (separators_body next
        (others.flatMap WrittenAttribute.chars ++ (trail ++ (tagEnd selfClosing ++ rest))))
      have read := scan_body follows written _ _ separated (fuel + 1)
      rw [tail] at read
      simpa only [List.flatMap_cons, WrittenAttribute.chars, List.append_assoc,
        List.map_cons] using read

end Attribute

/-- The name of a tag in letters, of an element that may hold markup. -/
structure TagName where
  chars : List Char
  ne_nil : chars ≠ [] := by decide
  letters : chars.all isLetter = true := by decide
  markup : lower (String.ofList chars) ∉ Construct.rawNames := by decide

def TagName.text (name : TagName) : String := lower (String.ofList name.chars)

/-- A start tag as it is written, with blanks before its end or none. -/
structure WrittenTag where
  name : TagName
  attributes : List WrittenAttribute := []
  trail : List Char := []
  selfClosing : Bool := false
  trail_blank : trail.all isSpacing = true := by decide

namespace WrittenTag

def body (written : WrittenTag) : List Char :=
  written.name.chars ++ written.attributes.flatMap WrittenAttribute.chars
    ++ (written.trail ++ tagEnd written.selfClosing)

def chars (written : WrittenTag) : List Char := '<' :: written.body

def tag (written : WrittenTag) : Tag where
  name := written.name.text
  attributes := written.attributes.map fun attr =>
    (lower (String.ofList attr.name), some (String.ofList attr.value))
  selfClosing := written.selfClosing

end WrittenTag

namespace Tag

theorem isNameChar_of_isLetter {c : Char} (h : isLetter c = true) : isNameChar c = true := by
  simp only [isNameChar, Bool.not_eq_true', Bool.or_eq_false_iff, decide_eq_false_iff_not]
  refine ⟨⟨⟨⟨⟨⟨⟨?_, ?_⟩, ?_⟩, ?_⟩, ?_⟩, ?_⟩, ?_⟩, ?_⟩ <;> (rintro rfl; cases h)

theorem takeWhile_name (name : TagName) {c : Char} (stops : isNameChar c = false)
    (rest : List Char) :
    (name.chars ++ c :: rest).takeWhile isNameChar = name.chars ∧
      (name.chars ++ c :: rest).dropWhile isNameChar = c :: rest := by
  have inside : ∀ x ∈ name.chars, isNameChar x = true := fun x member =>
    isNameChar_of_isLetter (List.all_eq_true.mp name.letters x member)
  constructor
  · simp [List.takeWhile_append_of_pos inside, stops]
  · simp [List.dropWhile_append_of_pos inside, stops]

theorem ending_tagEnd (selfClosing : Bool) (rest : List Char) :
    ending (tagEnd selfClosing ++ rest) = .complete selfClosing rest := by
  cases selfClosing <;> rfl

theorem scan_gap (name : TagName) {gap : List Char} (nonempty : gap ≠ [])
    (spacing : gap.all isSpacing = true) {c : Char} (blank : isBlank c = false)
    (slash : c ≠ '/') (bracket : c ≠ '>') (tail : List Char) :
    ∃ previous, Attribute.mayFollow previous = true ∧
      scan (name.chars ++ (gap ++ c :: tail)) =
        (name.chars, (Attribute.scan (c :: tail).length previous (c :: tail)).1,
          ending (Attribute.scan (c :: tail).length previous (c :: tail)).2) := by
  refine ⟨(name.chars ++ gap).getLast?.getD ' ', ?_, ?_⟩
  · rw [List.getLast?_append, List.getLast?_eq_some_getLast nonempty, Option.some_or]
    have last := List.all_eq_true.mp spacing _ (List.getLast_mem nonempty)
    exact Attribute.mayFollow_of_isBlank (isBlank_of_isSpacing last)
  · obtain ⟨g, others, shape⟩ := List.exists_cons_of_ne_nil nonempty
    have stops : isNameChar g = false := by
      rw [shape, List.all_cons, Bool.and_eq_true, isSpacing, Bool.and_eq_true] at spacing
      simpa using spacing.1.2
    obtain ⟨taken, left⟩ := takeWhile_name name stops (others ++ c :: tail)
    have inGap : ∀ x ∈ gap, (isBlank x || decide (x = '/')) = true := fun x member => by
      rw [isBlank_of_isSpacing (List.all_eq_true.mp spacing x member), Bool.true_or]
    have gapEnd : (isBlank c || decide (c = '/')) = false := by simp [blank, slash]
    have gapTaken :
        (gap ++ c :: tail).takeWhile (fun x => isBlank x || decide (x = '/')) = gap := by
      simp [List.takeWhile_append_of_pos inGap, gapEnd]
    have gapLeft :
        (gap ++ c :: tail).dropWhile (fun x => isBlank x || decide (x = '/')) = c :: tail := by
      simp [List.dropWhile_append_of_pos inGap, gapEnd]
    rw [← List.cons_append, ← shape] at taken left
    simp only [scan, taken, left, gapTaken, gapLeft]
    split
    · next same =>
        rw [List.cons.injEq] at same
        exact absurd same.1 bracket
    · rfl

theorem scan_trail (name : TagName) {trail : List Char} (blank : trail.all isSpacing = true)
    (selfClosing : Bool) (rest : List Char) :
    scan (name.chars ++ (trail ++ (tagEnd selfClosing ++ rest))) =
      (name.chars, [], .complete selfClosing rest) := by
  obtain ⟨c, tail, shape, stops⟩ : ∃ c tail,
      trail ++ (tagEnd selfClosing ++ rest) = c :: tail ∧ isNameChar c = false := by
    cases trail with
    | nil => cases selfClosing <;> exact ⟨_, _, rfl, rfl⟩
    | cons c others =>
        rw [List.all_cons, Bool.and_eq_true, isSpacing, Bool.and_eq_true] at blank
        exact ⟨c, _, rfl, by simpa using blank.1.2⟩
  have spacing : ∀ x ∈ trail, isBlank x = true := fun x member =>
    isBlank_of_isSpacing (List.all_eq_true.mp blank x member)
  have inGap : ∀ x ∈ trail, (isBlank x || decide (x = '/')) = true := fun x member => by
    rw [spacing x member, Bool.true_or]
  have closes : isBlank '>' = false := rfl
  obtain ⟨taken, left⟩ := takeWhile_name name stops tail
  rw [← shape] at taken left
  simp only [scan, taken, left, List.takeWhile_append_of_pos inGap,
    List.dropWhile_append_of_pos inGap]
  cases selfClosing with
  | true => simp [tagEnd, closes]
  | false =>
      have unslashed : trail.getLast? ≠ some '/' := fun last => by
        cases spacing '/' (List.mem_of_getLast? last)
      simp [tagEnd, closes, unslashed]

/-- Reading a start tag finds its name, its attributes, and how it ends. -/
theorem scan_written (written : WrittenTag) (rest : List Char) :
    scan (written.body ++ rest) =
      (written.name.chars, written.attributes.map WrittenAttribute.raw,
        .complete written.selfClosing rest) := by
  cases attributes : written.attributes with
  | nil =>
      simp only [WrittenTag.body, attributes, List.flatMap_nil, List.append_nil,
        List.append_assoc, List.map_nil]
      exact scan_trail written.name written.trail_blank written.selfClosing rest
  | cons first others =>
      obtain ⟨c, body, shape, blank, slash, bracket⟩ := Attribute.exists_body_eq_cons first
      obtain ⟨previous, follows, read⟩ :=
        scan_gap written.name first.gap_ne_nil first.gap_blank blank slash bracket
          (body ++ (others.flatMap WrittenAttribute.chars
            ++ (written.trail ++ (tagEnd written.selfClosing ++ rest))))
      rw [← List.cons_append, ← shape] at read
      have enough : others.length < (first.body ++ (others.flatMap WrittenAttribute.chars
          ++ (written.trail ++ (tagEnd written.selfClosing ++ rest)))).length := by
        have := Attribute.length_le_flatMap_chars others
        simp only [shape, List.length_append, List.length_cons]
        omega
      rw [Attribute.scan_written follows first others enough written.trail_blank,
        ending_tagEnd] at read
      rw [← read]
      simp [WrittenTag.body, attributes, WrittenAttribute.chars]

theorem decodeAttributes_written (written : List WrittenAttribute) :
    decodeAttributes (written.map WrittenAttribute.raw) =
      .ok (written.map fun attr =>
        (lower (String.ofList attr.name), some (String.ofList attr.value))) := by
  induction written with
  | nil => rfl
  | cons first others ih =>
      simp only [List.map_cons, WrittenAttribute.raw, decodeAttributes,
        Reference.decode_escape] at ih ⊢
      rw [ih]
      rfl

end Tag

end AppletPage.Markup
