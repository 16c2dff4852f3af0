import AppletPage.Proofs.Json.Digits
import AppletPage.Proofs.Page.Parts
import AppletPage.Proofs.Page.Wide
import AppletPage.Proofs.Parameter.Set
import AppletPage.Proofs.Text.Utf8

/-! The parameters that are read back from the document of a page: those of the page. -/

namespace AppletPage.Page

open Markup Text

theorem parametersAt_tags (depth : Nat) (constructs : List Construct) :
    parametersAt depth (Construct.tags constructs) = parametersAt depth constructs := by
  induction constructs generalizing depth with
  | nil => rfl
  | cons construct rest ih =>
      cases construct with
      | startTag tag =>
          have kept :
              Construct.tags (.startTag tag :: rest) = .startTag tag :: Construct.tags rest :=
            List.filter_cons_of_pos (decide_eq_true nofun)
          rw [kept, parametersAt, parametersAt, ih, ih]
      | endTag name =>
          have kept : Construct.tags (.endTag name :: rest) = .endTag name :: Construct.tags rest :=
            List.filter_cons_of_pos (decide_eq_true nofun)
          rw [kept, parametersAt, parametersAt, ih]
      | other => exact ih depth

theorem parameterTag_tag (entry : String × String) :
    (parameterTag entry).tag =
      { name := "param", attributes := [("name", some entry.1), ("value", some entry.2)]
        selfClosing := false } := by
  have param : lower "param" = "param" := rfl
  have name : lower "name" = "name" := rfl
  have value : lower "value" = "value" := rfl
  delta parameterTag
  simp only [WrittenTag.tag, TagName.text, List.map_cons, List.map_nil, param, name, value,
    String.ofList_toList]

theorem parametersAt_parameterTag (depth : Nat) (entry : String × String)
    (rest : List Construct) :
    parametersAt (depth + 1) (.startTag (parameterTag entry).tag :: rest) =
      entry :: parametersAt (depth + 1) rest := by
  rw [parameterTag_tag]
  rfl

theorem parametersAt_entries (depth : Nat) (entries : List (String × String))
    (rest : List Construct) :
    parametersAt (depth + 1)
        ((entries.flatMap parameterParts).filterMap Part.construct? ++ rest) =
      entries ++ parametersAt (depth + 1) rest := by
  induction entries with
  | nil => rfl
  | cons entry others ih =>
      have line : (parameterParts entry).filterMap Part.construct? =
          [.startTag (parameterTag entry).tag] := rfl
      rw [List.flatMap_cons, List.filterMap_append, line, List.append_assoc, List.cons_append,
        List.nil_append, parametersAt_parameterTag, ih, List.cons_append]

theorem parametersAt_zero_append {before : List Construct}
    (outside : ∀ tag, .startTag tag ∈ before → tag.name ≠ "applet") (rest : List Construct) :
    parametersAt 0 (before ++ rest) = parametersAt 0 rest := by
  induction before with
  | nil => rfl
  | cons construct others ih =>
      have passed := ih fun tag member => outside tag (List.mem_cons_of_mem construct member)
      rw [List.cons_append]
      cases construct with
      | startTag tag =>
          rw [parametersAt, if_neg (outside tag List.mem_cons_self), if_neg (by simp), passed]
      | endTag name => rw [parametersAt, Nat.zero_sub, ite_self, passed]
      | other => rw [parametersAt, passed]

theorem parametersAt_ends {depth : Nat} {constructs : List Construct}
    (ends : ∀ tag, .startTag tag ∉ constructs) : parametersAt depth constructs = [] := by
  induction constructs generalizing depth with
  | nil => rfl
  | cons construct rest ih =>
      have others : ∀ tag, .startTag tag ∉ rest := fun tag member =>
        ends tag (List.mem_cons_of_mem construct member)
      cases construct with
      | startTag tag => exact absurd List.mem_cons_self (ends tag)
      | endTag name => rw [parametersAt, ih others]
      | other => rw [parametersAt, ih others]

theorem parametersAt_parts (page : Page) :
    parametersAt 0 (page.parts.filterMap Part.construct?) = page.parameters.entries := by
  have head : ∀ tag, .startTag tag ∈
      headParts.filterMap Part.construct? ++ middleParts.filterMap Part.construct? →
      tag.name ≠ "applet" := by
    have names : ∀ construct ∈
        headParts.filterMap Part.construct? ++ middleParts.filterMap Part.construct?,
        (match construct with | .startTag tag => tag.name != "applet" | _ => true) = true := by
      decide
    intro tag member
    simpa using names _ member
  have applet : page.appletTag.tag.name = "applet" := by
    have small : lower (String.ofList "applet".toList) = "applet" := by decide
    exact small
  have close : page.appletTag.tag.selfClosing = false := rfl
  have tail : ∀ tag, .startTag tag ∉ endParts.filterMap Part.construct? := by
    have ends : ∀ construct ∈ endParts.filterMap Part.construct?,
        (match construct with | .startTag _ => false | _ => true) = true := by
      decide
    intro tag member
    exact Bool.false_ne_true (ends _ member)
  rw [parts]
  simp only [List.filterMap_append, List.filterMap_cons, Part.construct?, List.append_assoc,
    List.cons_append]
  rw [← List.append_assoc, parametersAt_zero_append head, parametersAt, if_pos applet, close]
  rw [if_neg Bool.false_ne_true, parametersAt_entries 0, parametersAt_ends tail, List.append_nil]

theorem parseChars_parts (parts : List Part) :
    parseChars (parts.flatMap Part.chars) =
      (ParameterSet.ofList (parametersAt 0 (parts.filterMap Part.construct?))).mapError
        .parameter := by
  have tags := Construct.tagsOf_parts parts
  rw [Construct.tagsOf] at tags
  rw [parseChars]
  cases read : Construct.list (parts.flatMap Part.chars) with
  | error error => rw [read] at tags; cases tags
  | ok constructs =>
      rw [read] at tags
      simp only [Except.map, Except.ok.injEq] at tags
      rw [← tags, parametersAt_tags]
      dsimp only
      cases ParameterSet.ofList (parametersAt 0 constructs) <;> rfl

/-- The document of a page gives the page's parameters back. -/
theorem parseChars_chars (page : Page) : parseChars page.chars = .ok page.parameters := by
  rw [chars_eq, parseChars_parts, parametersAt_parts, ParameterSet.ofList_entries]
  rfl

theorem parse_text_eq (page : Page) : parse page.text = parseChars page.chars := by
  rw [parse, text, String.toList_ofList]

theorem decodeChars_bytes (page : Page) : Utf8.decodeChars page.bytes = .ok page.chars := by
  rw [bytes, Utf8.decodeChars_encode, text, String.toList_ofList]

theorem parseBytes_bytes (page : Page) : parseBytes page.bytes = .ok page.parameters := by
  rw [parseBytes, decodeChars_bytes]
  exact parseChars_chars page

/-- A page has a document just if its numbers are not too long to be written. Its document, read as
bytes or as text, gives the page's parameters: the same names and values, each once and in order. -/
theorem parse_render (page : Page) :
    ((∃ document, page.render = .ok document) ↔ IsShort page.width ∧ IsShort page.height) ∧
      ∀ document, page.render = .ok document →
        parseBytes document = .ok page.parameters ∧
          ∃ text, Utf8.decode document = .ok text ∧ parse text = .ok page.parameters := by
  refine ⟨exists_render_iff, fun document rendered => ?_⟩
  rw [(render_eq_ok_iff.mp rendered).2]
  refine ⟨parseBytes_bytes page, page.text, ?_, ?_⟩
  · rw [Utf8.decode, decodeChars_bytes]
    rfl
  · rw [parse_text_eq]
    exact parseChars_chars page

def marked : Page where
  title := "</title>"
  code := "\">"
  archive := ["a&amp;b", "'"]
  width := 640
  height := -1
  fallbackText := "<param name=\"a\" value=\"b\">"
  parameters :=
    (ParameterSet.ofList [("\">", "&amp;lt;\n"), ("&notin", "\"><script>")]).toOption.getD .empty

theorem parse_render_marked :
    ∃ document, marked.render = .ok document ∧ parseBytes document = .ok marked.parameters := by
  obtain ⟨rendered, read⟩ := parse_render marked
  obtain ⟨document, done⟩ := rendered.mpr ⟨by decide, by decide⟩
  exact ⟨document, done, (read document done).1⟩

def longNumber : Nat := Nat.pow 10 Json.digitLimit

theorem not_isShort_longNumber : ¬ IsShort longNumber := by
  unfold longNumber
  rw [IsShort, Int.natAbs_natCast, Nat.not_le]
  exact lt_length_toDigits_pow (by decide)

/-- So not every page can be read back. -/
theorem not_parse_render :
    ¬ ∀ page : Page, ∃ document, page.render = .ok document ∧
      parseBytes document = .ok page.parameters := by
  intro claimed
  obtain ⟨document, rendered, -⟩ := claimed { marked with width := longNumber }
  exact not_isShort_longNumber (render_eq_ok_iff.mp rendered).1.1

end AppletPage.Page
