import AppletPage.Page.Wide
import AppletPage.Proofs.Text.Wide

/-! When a page has a document, and that of a page of characters. -/

namespace AppletPage

open Markup Text

namespace WidePage

theorem escaped_ofChars (text : List Char) :
    escaped (Wide.ofChars text) = Wide.ofChars (escape text) :=
  Wide.rewrite_ofChars escapeChar text

theorem isScalar_escaped (text : Wide) : (escaped text).isScalar = text.isScalar :=
  Wide.isScalar_rewrite escapeChar text

theorem intercalate_ofChars (separator : List Char) (texts : List (List Char)) :
    (Wide.ofChars separator).intercalate (texts.map Wide.ofChars) =
      Wide.ofChars (separator.intercalate texts) := by
  induction texts with
  | nil => rfl
  | cons text rest ih =>
      cases rest with
      | nil => simp only [List.map_cons, List.map_nil, List.intercalate_singleton]
      | cons other others =>
          rw [List.map_cons, List.map_cons, List.intercalate_cons_cons,
            List.intercalate_cons_cons, ← List.map_cons, ih, Wide.ofChars_append,
            Wide.ofChars_append]

theorem archiveText_ofText (archive : List String) :
    archiveText (archive.map Wide.ofText) = Wide.ofText (Page.archiveText archive) := by
  rw [archiveText, Page.archiveText, Wide.ofText, Wide.ofText, String.toList_intercalate,
    ← intercalate_ofChars, List.map_map]
  rfl

/-! Texts of characters alone. -/

theorem isScalar_archiveText (archive : List Wide) :
    (archiveText archive).isScalar = archive.all Wide.isScalar := by
  induction archive with
  | nil => rfl
  | cons text rest ih =>
      cases rest with
      | nil => simp only [archiveText, List.intercalate_singleton, List.all_cons, List.all_nil,
          Bool.and_true]
      | cons other others =>
          rw [archiveText, List.intercalate_cons_cons, ← archiveText, Wide.isScalar_append,
            Wide.isScalar_append, ih, Wide.ofText, Wide.isScalar_ofChars, Bool.and_true]
          rfl

theorem isScalar_parameterLines (entries : List (Wide × Wide)) :
    Wide.isScalar (entries.flatMap parameterLine) =
      entries.all fun entry => entry.1.isScalar && entry.2.isScalar := by
  induction entries with
  | nil => rfl
  | cons entry rest ih =>
      simp only [List.flatMap_cons, Wide.isScalar_append, ih, parameterLine, Page.lineOf,
        Wide.isScalar_ofChars, isScalar_escaped, List.all_cons, Bool.true_and, Bool.and_true]

theorem isScalar_points (page : WidePage) : page.points.isScalar = page.isScalar := by
  simp only [points, Page.layOut, Wide.isScalar_append, Wide.isScalar_ofChars, isScalar_escaped,
    isScalar_archiveText, isScalar_parameterLines, escapedNumber, Wide.ofText, Bool.true_and,
    Bool.and_true, isScalar, Bool.and_assoc]
  ac_rfl

theorem render_eq_ok_iff {page : WidePage} {document : Bytes} :
    page.render = .ok document ↔
      (IsShort page.width ∧ IsShort page.height) ∧ page.points.encode = .ok document := by
  rw [render]
  split
  · next short =>
    cases page.points.encode with
    | ok bytes =>
      constructor
      · intro given
        exact ⟨short, congrArg Except.ok (Except.ok.inj given)⟩
      · rintro ⟨-, given⟩
        exact congrArg Except.ok (Except.ok.inj given)
    | error error =>
      constructor
      · intro given
        cases given
      · rintro ⟨-, given⟩
        cases given
  · next long =>
    constructor
    · intro given
      cases given
    · rintro ⟨given, -⟩
      exact absurd given long

theorem exists_render_iff {page : WidePage} :
    (∃ document, page.render = .ok document) ↔
      (IsShort page.width ∧ IsShort page.height) ∧ page.isScalar = true := by
  simp only [render_eq_ok_iff, exists_and_left, Wide.exists_encode_iff, isScalar_points]

end WidePage

namespace Page

theorem layOut_ofChars (title code archive width height lines fallbackText : List Char) :
    layOut Wide.ofChars (Wide.ofChars title) (Wide.ofChars code) (Wide.ofChars archive)
        (Wide.ofChars width) (Wide.ofChars height) (Wide.ofChars lines)
        (Wide.ofChars fallbackText) =
      Wide.ofChars (layOut id title code archive width height lines fallbackText) := by
  simp only [layOut, id, Wide.ofChars_append]

theorem parameterLines_wide (entries : List (String × String)) :
    (entries.map fun entry => (Wide.ofText entry.1, Wide.ofText entry.2)).flatMap
        WidePage.parameterLine =
      Wide.ofChars (entries.flatMap parameterLine) := by
  induction entries with
  | nil => rfl
  | cons entry rest ih =>
      have line : WidePage.parameterLine (Wide.ofText entry.1, Wide.ofText entry.2) =
          Wide.ofChars (parameterLine entry) := by
        simp only [WidePage.parameterLine, parameterLine, lineOf, Wide.ofText,
          WidePage.escaped_ofChars, escaped, id, Wide.ofChars_append]
      rw [List.map_cons, List.flatMap_cons, List.flatMap_cons, line, ih, Wide.ofChars_append]

theorem points_wide (page : Page) : page.wide.points = Wide.ofChars page.chars := by
  rw [WidePage.points, chars, ← layOut_ofChars, ← parameterLines_wide]
  simp only [wide, WidePage.archiveText_ofText, WidePage.escapedNumber, Wide.ofText,
    WidePage.escaped_ofChars, escaped]

theorem render_eq (page : Page) :
    page.render =
      if IsShort page.width ∧ IsShort page.height then .ok page.bytes else .error .longNumber := by
  have encoded : page.wide.points.encode = .ok page.bytes := by
    rw [points_wide, Wide.encode, Wide.encodeFrom_ofChars, bytes, Utf8.encode, text,
      String.toList_ofList]
  rw [render, WidePage.render, encoded]
  rfl

theorem render_eq_ok_iff {page : Page} {document : Bytes} :
    page.render = .ok document ↔
      (IsShort page.width ∧ IsShort page.height) ∧ document = page.bytes := by
  rw [render_eq]
  split
  · next short => simp only [short, and_self, true_and, Except.ok.injEq, eq_comm]
  · next long => exact iff_of_false nofun fun given => long given.1

theorem exists_render_iff {page : Page} :
    (∃ document, page.render = .ok document) ↔ IsShort page.width ∧ IsShort page.height := by
  simp only [render_eq_ok_iff, exists_and_left, exists_eq, and_true]

end Page

end AppletPage
