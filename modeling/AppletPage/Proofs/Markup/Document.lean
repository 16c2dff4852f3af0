import AppletPage.Proofs.Markup.Tag
import AppletPage.Proofs.Text.Ascii

/-! Documents written part by part. Reading finds the tags of the parts, one after another, and
nothing of what stands between them. -/

namespace AppletPage.Markup

open Text

/-- A text that ends the comment in which it stands: two hyphens and a closing bracket, with blanks
between them or none. -/
def ClosesComment (content : List Char) : Prop :=
  ∃ before blanks after, blanks.all isBlank = true ∧
    content = before ++ '-' :: '-' :: blanks ++ '>' :: after

/-- A part of a document: escaped text, a declaration, a comment, or a tag. -/
inductive Part where
  | text (content : List Char)
  | declaration (first : Char) (rest : List Char)
      (letter : isLetter first = true := by decide)
      (inside : rest.all (· ≠ '>') = true := by decide)
  | comment (content : List Char) (unclosed : ¬ ClosesComment content)
  | startTag (tag : WrittenTag)
  | endTag (name : TagName) (trail : List Char := [])
      (blank : trail.all isBlank = true := by decide)

namespace Part

def chars : Part → List Char
  | text content => escape content
  | declaration first rest _ _ => '<' :: '!' :: first :: rest ++ ['>']
  | comment content _ => '<' :: '!' :: '-' :: '-' :: content ++ ['-', '-', '>']
  | startTag tag => tag.chars
  | endTag name trail _ => '<' :: '/' :: name.chars ++ trail ++ ['>']

def construct? : Part → Option Construct
  | text _ | declaration .. | comment .. => none
  | startTag tag => some (.startTag tag.tag)
  | endTag name .. => some (.endTag name.text)

end Part

namespace Construct

def tags (constructs : List Construct) : List Construct := constructs.filter (· ≠ other)

def tagsOf (document : List Char) : Except MarkupError (List Construct) :=
  (list document).map tags

theorem listAfter_eq_drop (skip : Nat) (text : List Char) :
    listAfter skip text = listAfter 0 (text.drop skip) := by
  induction text generalizing skip with
  | nil => cases skip <;> rfl
  | cons c rest ih =>
      cases skip with
      | zero => rfl
      | succ skip => simpa only [listAfter, List.drop_succ_cons] using ih skip

theorem list_of_step (c : Char) (read next : List Char) {construct : Construct}
    (h : step (c :: (read ++ next)) = .ok (construct, next)) :
    list (c :: (read ++ next)) = (list next).map (construct :: ·) := by
  have skipped : listAfter ((read ++ next).length - next.length) (read ++ next) =
      listAfter 0 next := by
    rw [listAfter_eq_drop, List.length_append, Nat.add_sub_cancel, List.drop_left]
  simp only [list, listAfter, h, skipped]
  cases listAfter 0 next <;> rfl

theorem list_of_step_error {c : Char} {rest : List Char} {error : MarkupError}
    (h : step (c :: rest) = .error error) : list (c :: rest) = .error error := by
  simp only [list, listAfter, h]

theorem tagsOf_of_step (c : Char) (read next : List Char) {construct : Construct}
    (h : step (c :: (read ++ next)) = .ok (construct, next)) :
    tagsOf (c :: (read ++ next)) = (tagsOf next).map (tags [construct] ++ ·) := by
  rw [tagsOf, tagsOf, list_of_step c read next h]
  cases list next with
  | error => rfl
  | ok constructs =>
      simp only [Except.map, Except.ok.injEq]
      exact List.filter_append [construct] constructs

/-! Text. -/

theorem step_text {c : Char} (plain : c ≠ '<') (rest : List Char) :
    step (c :: rest) =
      passText ((c :: rest).takeWhile (· ≠ '<')) ((c :: rest).dropWhile (· ≠ '<')) := by
  unfold step
  split <;> first | rfl | simp_all

theorem tagsOf_text {c : Char} (plain : c ≠ '<') (rest : List Char) :
    tagsOf (c :: rest) =
      match Reference.decode ((c :: rest).takeWhile (· ≠ '<')) with
      | .ok _ => tagsOf ((c :: rest).dropWhile (· ≠ '<'))
      | .error error => .error (.longReference error.digits) := by
  have stepped := step_text plain rest
  have split : rest.takeWhile (· ≠ '<') ++ rest.dropWhile (· ≠ '<') = rest :=
    List.takeWhile_append_dropWhile
  have dropped : (c :: rest).dropWhile (· ≠ '<') = rest.dropWhile (· ≠ '<') := by
    simp [plain]
  rw [dropped] at stepped ⊢
  cases decoded : Reference.decode ((c :: rest).takeWhile (· ≠ '<')) with
  | ok content =>
      rw [passText, decoded, pass] at stepped
      rw [← split] at stepped
      have read := tagsOf_of_step c (rest.takeWhile (· ≠ '<')) (rest.dropWhile (· ≠ '<'))
        (stepped.trans (by rw [split]))
      rw [split] at read
      rw [read]
      cases tagsOf (rest.dropWhile (· ≠ '<')) <;> rfl
  | error error =>
      rw [passText, decoded] at stepped
      rw [tagsOf, list_of_step_error stepped]
      rfl

/-- Escaped text has no tags, whatever stands behind it. -/
theorem tagsOf_escape (text rest : List Char) : tagsOf (escape text ++ rest) = tagsOf rest := by
  cases shape : escape text with
  | nil => rfl
  | cons c others =>
      have plain : c ≠ '<' := ne_of_mem_escape (by rw [shape]; exact List.mem_cons_self) rfl
      have passed : ∀ x ∈ escape text, decide (x ≠ '<') = true := fun x member =>
        decide_eq_true (ne_of_mem_escape member rfl)
      rw [List.cons_append, tagsOf_text plain, ← List.cons_append, ← shape,
        List.takeWhile_append_of_pos passed, List.dropWhile_append_of_pos passed,
        Reference.decode_escape_append]
      -- Other text behind it is read in one piece with it, so its references still count.
      cases rest with
      | nil => rfl
      | cons next rest =>
          by_cases bracket : next = '<'
          · subst next
            rfl
          · rw [tagsOf_text bracket]
            cases Reference.decode ((next :: rest).takeWhile (· ≠ '<')) <;> rfl

/-! Declarations. -/

theorem after?_append {text : List Char} (inside : text.all (· ≠ '>') = true)
    (rest : List Char) : after? '>' (text ++ '>' :: rest) = some rest := by
  have passed : ∀ x ∈ text, decide (x ≠ '>') = true := List.all_eq_true.mp inside
  simp only [after?, List.dropWhile_append_of_pos passed]
  simp

theorem tagsOf_declaration {first : Char} {body : List Char} (letter : isLetter first = true)
    (inside : body.all (· ≠ '>') = true) (rest : List Char) :
    tagsOf ('<' :: '!' :: first :: body ++ '>' :: rest) = tagsOf rest := by
  have hyphen : first ≠ '-' := by rintro rfl; cases letter
  have opening : first ≠ '[' := by rintro rfl; cases letter
  have closing : first ≠ '>' := by rintro rfl; cases letter
  have found : after? '>' (first :: body ++ '>' :: rest) = some rest :=
    after?_append (by rw [List.all_cons, inside, decide_eq_true closing]; rfl) rest
  have stepped : step ('<' :: ('!' :: first :: body ++ ['>'] ++ rest)) = .ok (other, rest) := by
    simp only [List.cons_append, List.append_assoc, List.nil_append] at found ⊢
    simp [step, hyphen, opening, found, passTo, pass]
  have read := tagsOf_of_step '<' ('!' :: first :: body ++ ['>']) rest stepped
  simp only [List.cons_append, List.append_assoc, List.nil_append] at read ⊢
  rw [read]
  cases tagsOf rest <;> rfl

/-! Comments. -/

theorem marksEnd?_append_hyphen {text : List Char}
    (none : ∀ blanks after, blanks.all isBlank = true → text ≠ blanks ++ '>' :: after)
    (rest : List Char) : marksEnd? ['>'] (text ++ '-' :: rest) = Option.none := by
  induction text with
  | nil => rfl
  | cons c others ih =>
      cases blank : isBlank c with
      | true =>
          have shorter := ih fun blanks after all same =>
            none (c :: blanks) after (by rw [List.all_cons, blank, all]; rfl)
              (by rw [same, List.cons_append])
          rw [marksEnd?] at shorter ⊢
          rwa [List.cons_append, List.dropWhile_cons_of_pos blank]
      | false =>
          have apart : c ≠ '>' := fun bracket => none [] others rfl (by rw [bracket]; rfl)
          rw [marksEnd?, List.cons_append, List.dropWhile_cons_of_neg (by simp [blank])]
          simp only [if_neg apart]

theorem closesComment_cons {c : Char} {content : List Char} (closes : ClosesComment content) :
    ClosesComment (c :: content) := by
  obtain ⟨before, blanks, after, blank, rfl⟩ := closes
  exact ⟨c :: before, blanks, after, blank, rfl⟩

theorem commentEnd?_written {content : List Char} (unclosed : ¬ ClosesComment content)
    (rest : List Char) : commentEnd? (content ++ '-' :: '-' :: '>' :: rest) = some rest := by
  rw [commentEnd?]
  induction content with
  | nil => rfl
  | cons c others ih =>
      have later := ih fun closes => unclosed (closesComment_cons closes)
      -- The end is found behind the first character, as nothing ends at that character itself.
      suffices early : (if ['-', '-'].isPrefixOf (c :: (others ++ '-' :: '-' :: '>' :: rest)) then
          marksEnd? ['>'] ((others ++ '-' :: '-' :: '>' :: rest).drop 1) else none) = none by
        rw [List.cons_append, closing?, List.length_cons, List.length_singleton,
          List.drop_succ_cons, early]
        exact later
      split
      · next hyphens =>
        cases others with
        | nil => rfl
        | cons d more =>
            simp only [List.cons_append, List.isPrefixOf, Bool.and_eq_true, beq_iff_eq,
              and_true] at hyphens
            obtain ⟨rfl, rfl⟩ := hyphens
            exact marksEnd?_append_hyphen (fun blanks after blank same =>
              unclosed ⟨[], blanks, after, blank, by rw [same]; rfl⟩) _
      · rfl

theorem tagsOf_comment {content : List Char} (unclosed : ¬ ClosesComment content)
    (rest : List Char) :
    tagsOf ('<' :: '!' :: '-' :: '-' :: content ++ '-' :: '-' :: '>' :: rest) = tagsOf rest := by
  have stepped : step ('<' :: ('!' :: '-' :: '-' :: content ++ ['-', '-', '>'] ++ rest)) =
      .ok (other, rest) := by
    simp only [List.cons_append, List.append_assoc, List.nil_append, step, passTo,
      commentEnd?_written unclosed, pass]
  have read := tagsOf_of_step '<' ('!' :: '-' :: '-' :: content ++ ['-', '-', '>']) rest stepped
  simp only [List.cons_append, List.append_assoc, List.nil_append] at read ⊢
  rw [read]
  cases tagsOf rest <;> rfl

/-! Tags. -/

theorem step_letter {c : Char} (letter : isLetter c = true) (rest : List Char) :
    step ('<' :: c :: rest) = startTagFrom ('<' :: c :: rest) (c :: rest) := by
  have slash : c ≠ '/' := by rintro rfl; cases letter
  have bang : c ≠ '!' := by rintro rfl; cases letter
  have question : c ≠ '?' := by rintro rfl; cases letter
  unfold step
  split <;> simp_all

theorem startTagFrom_written (text : List Char) (written : WrittenTag) (rest : List Char) :
    startTagFrom text (written.body ++ rest) = .ok (startTag written.tag, rest) := by
  have markup : lower (String.ofList written.name.chars) ∉ rawNames := written.name.markup
  simp only [startTagFrom, Tag.scan_written, Tag.decodeAttributes_written]
  simp [markup, WrittenTag.tag, TagName.text]

theorem tagsOf_startTag (written : WrittenTag) (rest : List Char) :
    tagsOf (written.chars ++ rest) = (tagsOf rest).map (startTag written.tag :: ·) := by
  obtain ⟨c, others, shape⟩ := List.exists_cons_of_ne_nil written.name.ne_nil
  have letter : isLetter c = true :=
    List.all_eq_true.mp written.name.letters c (by rw [shape]; exact List.mem_cons_self)
  obtain ⟨body, bodyShape⟩ : ∃ body, written.body = c :: body := by
    simp [WrittenTag.body, shape]
  have stepped : step ('<' :: (written.body ++ rest)) = .ok (startTag written.tag, rest) := by
    rw [bodyShape, List.cons_append, step_letter letter, ← List.cons_append, ← bodyShape,
      startTagFrom_written]
  have read := tagsOf_of_step '<' written.body rest stepped
  rw [WrittenTag.chars, List.cons_append, read]
  cases tagsOf rest <;> rfl

theorem inEndName_of_isBlank {c : Char} (blank : isBlank c = true) :
    (inSectionName c || decide (c = ':')) = false := by
  have letter : isLetter c = false := Bool.eq_false_iff.mpr fun given => by
    rw [isBlank_of_isLetter given] at blank
    cases blank
  have digit : isDigit c = false := Bool.eq_false_iff.mpr fun given => by
    rw [isBlank_of_isDigit given] at blank
    cases blank
  simp only [inSectionName, letter, digit, Bool.false_or, Bool.or_eq_false_iff,
    decide_eq_false_iff_not]
  refine ⟨⟨⟨?_, ?_⟩, ?_⟩, ?_⟩ <;> (rintro rfl; cases blank)

theorem endName?_written (name : TagName) {trail : List Char}
    (blank : trail.all isBlank = true) (rest : List Char) :
    endName? (name.chars ++ (trail ++ '>' :: rest)) = some name.chars := by
  obtain ⟨c, others, shape⟩ := List.exists_cons_of_ne_nil name.ne_nil
  have letters := List.all_eq_true.mp name.letters
  have letter : isLetter c = true := letters c (by rw [shape]; exact List.mem_cons_self)
  have unblank : isBlank c = false := isBlank_of_isLetter letter
  have inside : ∀ x ∈ name.chars, (inSectionName x || decide (x = ':')) = true :=
    fun x member => by simp [inSectionName, letters x member]
  obtain ⟨d, tail, behind, outside⟩ : ∃ d tail, trail ++ '>' :: rest = d :: tail ∧
      (inSectionName d || decide (d = ':')) = false := by
    cases trail with
    | nil => exact ⟨_, _, rfl, rfl⟩
    | cons d more =>
        rw [List.all_cons, Bool.and_eq_true] at blank
        exact ⟨d, _, rfl, inEndName_of_isBlank blank.1⟩
  have closed : marksEnd? ['>'] (trail ++ '>' :: rest) = some rest := by
    have closing : isBlank '>' = false := rfl
    simp [marksEnd?, List.dropWhile_append_of_pos (List.all_eq_true.mp blank), closing]
  have start (text : List Char) : (name.chars ++ text).dropWhile isBlank = name.chars ++ text := by
    simp [shape, unblank]
  have plain : plainEndName? (name.chars ++ (trail ++ '>' :: rest)) = some name.chars := by
    rw [behind] at closed ⊢
    simp only [plainEndName?, start, List.takeWhile_append_of_pos inside,
      List.dropWhile_append_of_pos inside, List.takeWhile_cons, List.dropWhile_cons, outside]
    simp [shape, letter, closed]
  simp only [endName?, plain]

theorem tagsOf_endTag (name : TagName) {trail : List Char} (blank : trail.all isBlank = true)
    (rest : List Char) :
    tagsOf ('<' :: '/' :: name.chars ++ trail ++ '>' :: rest) =
      (tagsOf rest).map (endTag name.text :: ·) := by
  have closing : (name.chars ++ trail).all (· ≠ '>') = true := by
    refine List.all_eq_true.mpr fun c member => decide_eq_true ?_
    rintro rfl
    rcases List.mem_append.mp member with member | member
    · cases List.all_eq_true.mp name.letters _ member
    · cases List.all_eq_true.mp blank _ member
  have found := after?_append closing rest
  have named := endName?_written name blank rest
  have stepped : step ('<' :: ('/' :: name.chars ++ trail ++ ['>'] ++ rest)) =
      .ok (endTag name.text, rest) := by
    simp only [List.cons_append, List.append_assoc, List.nil_append] at found named ⊢
    simp [step, endTagFrom, found, named, TagName.text]
  have read := tagsOf_of_step '<' ('/' :: name.chars ++ trail ++ ['>']) rest stepped
  simp only [List.cons_append, List.append_assoc, List.nil_append] at read ⊢
  rw [read]
  cases tagsOf rest <;> rfl

/-! Whole documents. -/

theorem tagsOf_part (part : Part) (rest : List Char) :
    tagsOf (part.chars ++ rest) = (tagsOf rest).map (part.construct?.toList ++ ·) := by
  have unchanged : ∀ found : Except MarkupError (List Construct),
      found = found.map ([] ++ ·) := fun found => by cases found <;> rfl
  cases part with
  | text content =>
      rw [Part.chars, tagsOf_escape]
      exact unchanged _
  | declaration first body letter inside =>
      rw [Part.chars, List.append_assoc]
      exact (tagsOf_declaration letter inside rest).trans (unchanged _)
  | comment content unclosed =>
      rw [Part.chars, List.append_assoc]
      exact (tagsOf_comment unclosed rest).trans (unchanged _)
  | startTag tag => exact tagsOf_startTag tag rest
  | endTag name trail blank =>
      rw [Part.chars, List.append_assoc]
      exact tagsOf_endTag name blank rest

/-- The tags of a document are those of its parts. -/
theorem tagsOf_parts (parts : List Part) :
    tagsOf (parts.flatMap Part.chars) = .ok (parts.filterMap Part.construct?) := by
  induction parts with
  | nil => rfl
  | cons part rest ih =>
      rw [List.flatMap_cons, tagsOf_part, ih, List.filterMap_cons]
      cases part.construct? <;> rfl

end Construct

end AppletPage.Markup
