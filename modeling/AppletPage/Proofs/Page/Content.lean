import AppletPage.Proofs.Markup.Reference
import AppletPage.Proofs.Page.Wide
import Mathlib

/-! What a document tells of its page: two documents are the same exactly if all that they show of
their pages is, and their marks tell nothing but the number of parameters. -/

namespace AppletPage.WidePage

open Markup Text

/-! Escaped texts end where a mark follows them. -/

def isMark : Point → Bool
  | .char c => isEscaped c
  | .surrogate _ => false

theorem isMark_of_mem_escaped {text : Wide} {point : Point} (member : point ∈ escaped text) :
    isMark point = false := by
  obtain ⟨original, -, inside⟩ := List.mem_flatMap.mp member
  cases original with
  | surrogate index => cases List.mem_singleton.mp inside; rfl
  | char c =>
      obtain ⟨written, found, rfl⟩ := List.mem_map.mp inside
      have none := List.all_eq_true.mp (isEscaped_escapeChar c) written found
      rw [Bool.not_eq_true'] at none
      exact none

/-- No reference is the beginning of another, nor of a character that is written as it is. -/
theorem escapePoint_append_inj {p q : Point} {rest more : Wide} :
    Wide.rewritePoint escapeChar p ++ rest = Wide.rewritePoint escapeChar q ++ more ↔
      p = q ∧ rest = more := by
  refine ⟨fun same => ?_, by rintro ⟨rfl, rfl⟩; rfl⟩
  cases p with
  | surrogate index =>
      cases q with
      | surrogate other => simpa using same
      | char d =>
          rw [Wide.rewritePoint_char, Wide.rewritePoint_surrogate, escapeChar] at same
          split_ifs at same <;> simp at same
  | char c =>
      cases q with
      | surrogate other =>
          rw [Wide.rewritePoint_char, Wide.rewritePoint_surrogate, escapeChar] at same
          split_ifs at same <;> simp at same
      | char d =>
          rw [Wide.rewritePoint_char, Wide.rewritePoint_char, escapeChar, escapeChar] at same
          split_ifs at same <;> simp at same <;> grind

theorem escapePoint_ne_nil (point : Point) : Wide.rewritePoint escapeChar point ≠ [] := by
  cases point with
  | surrogate index => exact List.cons_ne_nil _ _
  | char c =>
      rw [Wide.rewritePoint_char, escapeChar]
      split_ifs <;> exact List.cons_ne_nil _ _

theorem escaped_injective : Function.Injective escaped := by
  intro text other same
  induction text generalizing other with
  | nil =>
      cases other with
      | nil => rfl
      | cons point rest =>
          exact absurd (List.append_eq_nil_iff.mp same.symm).1 (escapePoint_ne_nil point)
  | cons point rest ih =>
      cases other with
      | nil => exact absurd (List.append_eq_nil_iff.mp same).1 (escapePoint_ne_nil point)
      | cons first others =>
          obtain ⟨rfl, tails⟩ := escapePoint_append_inj.mp same
          rw [ih tails]

theorem takeWhile_escaped_append {mark : Point} (marks : isMark mark = true) (text rest : Wide) :
    (escaped text ++ mark :: rest).takeWhile (!isMark ·) = escaped text := by
  have passed : ∀ point ∈ escaped text, (!isMark point) = true := fun point member => by
    rw [isMark_of_mem_escaped member]
    rfl
  rw [List.takeWhile_append_of_pos passed, List.takeWhile_cons_of_neg (by simp [marks]),
    List.append_nil]

/-- A text of the page determines itself in front of a fixed text that begins with a mark. -/
theorem escaped_append_inj (fixed : List Char) (opens : fixed.head?.any isEscaped = true)
    {text other rest more : Wide} :
    escaped text ++ (Wide.ofChars fixed ++ rest) = escaped other ++ (Wide.ofChars fixed ++ more) ↔
      text = other ∧ rest = more := by
  cases fixed with
  | nil => cases opens
  | cons mark others =>
      have marks : isMark (.char mark) = true := opens
      constructor
      · intro same
        have first := congrArg (List.takeWhile (!isMark ·)) same
        simp only [Wide.ofChars_cons, List.cons_append] at first same
        rw [takeWhile_escaped_append marks, takeWhile_escaped_append marks] at first
        rw [first, List.append_cancel_left_eq, List.cons.injEq, List.append_cancel_left_eq] at same
        exact ⟨escaped_injective first, same.2⟩
      · rintro ⟨rfl, rfl⟩
        rfl

theorem parameterLine_append_inj {entry other : Wide × Wide} {rest more : Wide} :
    parameterLine entry ++ rest = parameterLine other ++ more ↔ entry = other ∧ rest = more := by
  simp only [parameterLine, Page.lineOf, List.append_assoc, List.append_cancel_left_eq]
  rw [escaped_append_inj Page.valueHead (by decide),
    escaped_append_inj Page.parameterEnd (by decide),
    ← and_assoc, Prod.ext_iff]

theorem parameterLines_append_ne (entry : Wide × Wide) (entries : List (Wide × Wide))
    (rest more : Wide) :
    (entry :: entries).flatMap parameterLine ++ rest ≠ Wide.ofChars Page.fallbackHead ++ more := by
  intro same
  have space : ((entry :: entries).flatMap parameterLine ++ rest).head? = some (.char ' ') := rfl
  have lineEnd : (Wide.ofChars Page.fallbackHead ++ more).head? = some (.char '\n') := rfl
  rw [same, lineEnd] at space
  cases space

/-- The lines of parameters determine themselves and what stands behind them. -/
theorem parameterLines_append_inj {entries others : List (Wide × Wide)} {rest more : Wide} :
    entries.flatMap parameterLine ++ (Wide.ofChars Page.fallbackHead ++ rest) =
        others.flatMap parameterLine ++ (Wide.ofChars Page.fallbackHead ++ more) ↔
      entries = others ∧ rest = more := by
  induction entries generalizing others with
  | nil =>
      cases others with
      | nil => simp only [List.flatMap_nil, List.nil_append, List.append_cancel_left_eq, true_and]
      | cons other others =>
          exact iff_of_false (fun same => parameterLines_append_ne other others _ _ same.symm) nofun
  | cons entry entries ih =>
      cases others with
      | nil => exact iff_of_false (parameterLines_append_ne entry entries _ _) nofun
      | cons other others =>
          rw [List.flatMap_cons, List.flatMap_cons, List.append_assoc, List.append_assoc,
            parameterLine_append_inj, List.cons.injEq, and_assoc]
          exact and_congr_right fun _ => ih

theorem ofText_toString_inj {a b : Int} :
    Wide.ofText (toString a) = Wide.ofText (toString b) ↔ a = b := by
  rw [Wide.ofText, Wide.ofText, Wide.ofChars_inj, String.toList_inj]
  exact ⟨fun same => Int.repr_injective same, congrArg toString⟩

/-- All that a document shows of two pages is the same. Archives are shown in one text. -/
structure Alike (page other : WidePage) : Prop where
  title : page.title = other.title
  code : page.code = other.code
  archive : archiveText page.archive = archiveText other.archive
  width : page.width = other.width
  height : page.height = other.height
  fallbackText : page.fallbackText = other.fallbackText
  entries : page.entries = other.entries

theorem points_eq_iff {page other : WidePage} : page.points = other.points ↔ Alike page other := by
  have fallback :
      escaped page.fallbackText ++ Wide.ofChars Page.documentEnd =
          escaped other.fallbackText ++ Wide.ofChars Page.documentEnd ↔
        page.fallbackText = other.fallbackText := by
    rw [List.append_left_inj, escaped_injective.eq_iff]
  simp only [points, Page.layOut, escapedNumber, List.append_assoc, List.append_cancel_left_eq]
  rw [escaped_append_inj Page.bodyHead (by decide), escaped_append_inj Page.archiveHead (by decide),
    escaped_append_inj Page.widthHead (by decide), escaped_append_inj Page.heightHead (by decide),
    escaped_append_inj Page.appletEnd (by decide), parameterLines_append_inj, fallback,
    ofText_toString_inj, ofText_toString_inj]
  constructor
  · rintro ⟨title, code, archive, width, height, entries, fallbackText⟩
    exact { title, code, archive, width, height, fallbackText, entries }
  · intro alike
    exact ⟨alike.title, alike.code, alike.archive, alike.width, alike.height, alike.entries,
      alike.fallbackText⟩

theorem render_eq_iff {page other : WidePage} {document more : Bytes}
    (rendered : page.render = .ok document) (followed : other.render = .ok more) :
    document = more ↔ Alike page other := by
  obtain ⟨-, encoded⟩ := render_eq_ok_iff.mp rendered
  obtain ⟨-, encodedMore⟩ := render_eq_ok_iff.mp followed
  rw [← points_eq_iff, ← Wide.encode_inj encoded encodedMore]

/-! Marks. -/

def bareLine : List Char := Page.lineOf id [] []

/-- The document of a page with a number of parameters, all texts of the page left out. -/
def bareDocument (parameters : Nat) : List Char :=
  Page.layOut id [] [] [] [] [] (List.replicate parameters bareLine).flatten []

theorem filter_isMark_ofChars (text : List Char) :
    (Wide.ofChars text).filter isMark = Wide.ofChars (text.filter isEscaped) := by
  rw [Wide.ofChars, List.filter_map]
  rfl

theorem filter_isMark_escaped (text : Wide) : (escaped text).filter isMark = [] :=
  List.filter_eq_nil_iff.mpr fun point member => by simp [isMark_of_mem_escaped member]

theorem filter_isMark_parameterLines (entries : List (Wide × Wide)) :
    (entries.flatMap parameterLine).filter isMark =
      Wide.ofChars ((List.replicate entries.length bareLine).flatten.filter isEscaped) := by
  induction entries with
  | nil => rfl
  | cons entry rest ih =>
      have line : (parameterLine entry).filter isMark =
          Wide.ofChars (bareLine.filter isEscaped) := by
        simp only [parameterLine, bareLine, Page.lineOf, id, List.filter_append,
          filter_isMark_escaped, filter_isMark_ofChars, Wide.ofChars_append, List.append_nil]
      rw [List.flatMap_cons, List.filter_append, line, ih, List.length_cons, List.replicate_succ,
        List.flatten_cons, List.filter_append, Wide.ofChars_append]

theorem filter_isMark_points (page : WidePage) :
    page.points.filter isMark =
      Wide.ofChars ((bareDocument page.entries.length).filter isEscaped) := by
  simp only [points, bareDocument, Page.layOut, id, escapedNumber, List.filter_append,
    filter_isMark_escaped, filter_isMark_ofChars, filter_isMark_parameterLines,
    Wide.ofChars_append, List.append_nil]

theorem count_bareDocument (mark : Char) (parameters : Nat) :
    (bareDocument parameters).count mark =
      (bareDocument 0).count mark + parameters * bareLine.count mark := by
  simp only [bareDocument, Page.layOut, id, List.count_append, List.count_flatten,
    List.map_replicate, List.sum_replicate, smul_eq_mul]
  omega

theorem marks_bareDocument :
    ['<', '>', '"'].map (bareDocument 0).count = [14, 14, 14] ∧
      ['<', '>', '"'].map bareLine.count = [1, 1, 4] := by
  decide +kernel

theorem exists_text_of_render {page : WidePage} {document : Bytes}
    (rendered : page.render = .ok document) :
    ∃ text, Utf8.decode document = .ok text ∧
      text.toList.filter isEscaped = (bareDocument page.entries.length).filter isEscaped := by
  obtain ⟨-, encoded⟩ := render_eq_ok_iff.mp rendered
  obtain ⟨chars, same, rfl⟩ := Wide.encode_eq_ok_iff.mp encoded
  have marks := filter_isMark_points page
  rw [← same, filter_isMark_ofChars, Wide.ofChars_inj] at marks
  refine ⟨String.ofList chars, ?_, by rw [String.toList_ofList, marks]⟩
  have read := Utf8.decodeChars_encode (String.ofList chars)
  rw [Utf8.encode, String.toList_ofList] at read
  rw [Utf8.decode, read]
  rfl

theorem count_of_filter {text : List Char} {parameters : Nat}
    (marks : text.filter isEscaped = (bareDocument parameters).filter isEscaped) {mark : Char}
    (escapes : isEscaped mark = true) :
    text.count mark = (bareDocument 0).count mark + parameters * bareLine.count mark := by
  rw [← count_bareDocument, ← List.count_filter escapes, marks, List.count_filter escapes]

/-- A page has a document just if its texts are made of characters alone and its numbers are not too
long. Documents are the same exactly if their pages are alike, and the marks in them are those of
the document itself: they depend on nothing but the number of parameters. -/
theorem document_content :
    (∀ page : WidePage, (∃ document, page.render = .ok document) ↔
      (IsShort page.width ∧ IsShort page.height) ∧ page.isScalar = true) ∧
    (∀ (page other : WidePage) (document more : Bytes), page.render = .ok document →
      other.render = .ok more → (document = more ↔ Alike page other)) ∧
    ∀ (page : WidePage) (document : Bytes), page.render = .ok document →
      ∃ text, Utf8.decode document = .ok text ∧
        text.toList.filter isEscaped = (bareDocument page.entries.length).filter isEscaped ∧
        text.toList.count '<' = 14 + page.entries.length ∧
        text.toList.count '>' = 14 + page.entries.length ∧
        text.toList.count '"' = 14 + 4 * page.entries.length := by
  refine ⟨fun _ => exists_render_iff, fun _ _ _ _ => render_eq_iff,
    fun page document rendered => ?_⟩
  obtain ⟨fixed, line⟩ := marks_bareDocument
  simp only [List.map_cons, List.map_nil, List.cons.injEq, and_true] at fixed line
  obtain ⟨text, read, marks⟩ := exists_text_of_render rendered
  refine ⟨text, read, marks, ?_, ?_, ?_⟩
  · rw [count_of_filter marks rfl, fixed.1, line.1, Nat.mul_one]
  · rw [count_of_filter marks rfl, fixed.2.1, line.2.1, Nat.mul_one]
  · rw [count_of_filter marks rfl, fixed.2.2, line.2.2, Nat.mul_comm]

def sample (title : Wide) : WidePage where
  title
  code := Wide.ofText "chess.Applet"
  archive := []
  width := 640
  height := 480
  fallbackText := []
  entries := [(Wide.ofText "a", Wide.ofText "<b>")]

theorem document_content_sample :
    ∃ document text, (sample []).render = .ok document ∧ Utf8.decode document = .ok text ∧
      text.toList.count '<' = 15 := by
  obtain ⟨rendered, -, marks⟩ := document_content
  obtain ⟨document, done⟩ := (rendered (sample [])).mpr ⟨⟨by decide, by decide⟩, by decide⟩
  obtain ⟨text, read, -, count, -⟩ := marks _ document done
  exact ⟨document, text, done, read, count⟩

/-- So not all pages have documents that could be compared. -/
theorem not_document_content :
    ¬ ∀ page other : WidePage, ∃ document more, page.render = .ok document ∧
      other.render = .ok more ∧ (document = more ↔ Alike page other) := by
  intro claimed
  obtain ⟨document, -, rendered, -⟩ := claimed (sample [.surrogate 0]) (sample [])
  have scalar := (exists_render_iff.mp ⟨document, rendered⟩).2
  exact absurd scalar (by decide)

end AppletPage.WidePage
