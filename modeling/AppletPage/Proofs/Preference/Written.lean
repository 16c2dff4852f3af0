import AppletPage.Preference.Store
import AppletPage.Proofs.Preference.Settled
import AppletPage.Proofs.Text.Wide

/-! What is written of overrides that may hold surrogates: the whole file, or what stands before the
first value that holds one. -/

namespace AppletPage

theorem Mapping.insertBy_map {κ α β : Type} (le : κ → κ → Bool) (f : α → β) (entry : κ × α)
    (entries : Mapping κ α) :
    insertBy le (entry.1, f entry.2) (entries.map fun e => (e.1, f e.2)) =
      (insertBy le entry entries).map fun e => (e.1, f e.2) := by
  induction entries with
  | nil => rfl
  | cons other rest ih =>
      simp only [List.map_cons, insertBy]
      split
      · rfl
      · rw [ih, List.map_cons]

theorem Mapping.sortBy_map {κ α β : Type} (le : κ → κ → Bool) (f : α → β) (entries : Mapping κ α) :
    sortBy le (entries.map fun e => (e.1, f e.2)) =
      (sortBy le entries).map fun e => (e.1, f e.2) := by
  induction entries with
  | nil => rfl
  | cons entry rest ih => rw [List.map_cons, sortBy, ih, insertBy_map, sortBy]

namespace Store

open Text

theorem isScalar_quoted (value : Wide) : (quoted value).isScalar = value.isScalar := by
  have mark : Wide.isScalar [.char '"'] = true := rfl
  rw [quoted, List.cons_append, ← List.singleton_append, Wide.isScalar_append, Wide.isScalar_append,
    Wide.isScalar_rewrite, mark, Bool.true_and, Bool.and_true]

theorem untilCut_wide (overrides : Overrides) : untilCut (wide overrides) = (overrides, none) := by
  induction overrides with
  | nil => rfl
  | cons entry rest ih =>
      obtain ⟨bytes, written⟩ : ∃ bytes, (quoted (Wide.ofText entry.2)).encode = .ok bytes := by
        rw [Wide.exists_encode_iff, isScalar_quoted, Wide.ofText, Wide.isScalar_ofChars]
      change untilCut ((entry.1, Wide.ofText entry.2) :: wide rest) = _
      rw [untilCut, written, ih, Wide.ofText, Wide.chars_ofChars, String.ofList_toList]

theorem content_wide (overrides : Overrides) :
    content (wide overrides) = .ok (Utf8.encode (fileText overrides)) := by
  have sorted : Mapping.sortBy codeOrder (wide overrides) =
      wide (Mapping.sortBy codeOrder overrides) :=
    Mapping.sortBy_map codeOrder Wide.ofText overrides
  rw [content, sorted, untilCut_wide, fileText]

theorem snd_untilCut_eq_none_iff {overrides : WideOverrides} :
    (untilCut overrides).2 = none ↔ ∀ entry ∈ overrides, entry.2.isScalar = true := by
  induction overrides with
  | nil => exact iff_of_true rfl nofun
  | cons entry rest ih =>
      obtain ⟨name, value⟩ := entry
      rw [List.forall_mem_cons, ← isScalar_quoted, ← Wide.exists_encode_iff, ← ih, untilCut]
      cases (quoted value).encode with
      | ok bytes => simp
      | error error => simp

theorem exists_cut_iff {overrides : WideOverrides} :
    (∃ cut, content overrides = .error cut) ↔ ∃ entry ∈ overrides, entry.2.isScalar = false := by
  have all := @snd_untilCut_eq_none_iff (Mapping.sortBy codeOrder overrides)
  simp only [(Mapping.sortBy_perm codeOrder overrides).mem_iff] at all
  have stray : (∃ entry ∈ overrides, entry.2.isScalar = false) ↔
      (untilCut (Mapping.sortBy codeOrder overrides)).2 ≠ none := by
    rw [ne_eq, all]
    simp
  rw [stray, content]
  generalize untilCut (Mapping.sortBy codeOrder overrides) = found
  obtain ⟨entries, cut⟩ := found
  cases cut with
  | none => simp
  | some cut => simp

end Store

end AppletPage
