import AppletPage.Preference.Overrides
import AppletPage.Proofs.Parameter.Set
import AppletPage.Proofs.Parameter.Token

/-! What overrides have passed when they are accepted. -/

namespace AppletPage

open Text

namespace Mapping

variable {κ ν : Type}

theorem insertBy_ne_nil (le : κ → κ → Bool) (entry : κ × ν) (entries : Mapping κ ν) :
    insertBy le entry entries ≠ [] := by
  cases entries with
  | nil => exact List.cons_ne_nil entry []
  | cons other rest =>
      rw [insertBy]
      split <;> exact List.cons_ne_nil _ _

theorem sortBy_eq_nil_iff (le : κ → κ → Bool) {entries : Mapping κ ν} :
    sortBy le entries = [] ↔ entries = [] := by
  cases entries with
  | nil => exact Iff.rfl
  | cons entry rest =>
      exact iff_of_false (insertBy_ne_nil le entry _) (List.cons_ne_nil entry rest)

theorem insertBy_perm (le : κ → κ → Bool) (entry : κ × ν) (entries : Mapping κ ν) :
    (insertBy le entry entries).Perm (entry :: entries) := by
  induction entries with
  | nil => exact .refl _
  | cons other rest ih =>
      rw [insertBy]
      split
      · exact .refl _
      · exact (ih.cons other).trans (.swap entry other rest)

theorem sortBy_perm (le : κ → κ → Bool) (entries : Mapping κ ν) :
    (sortBy le entries).Perm entries := by
  induction entries with
  | nil => exact .refl _
  | cons entry rest ih => exact (insertBy_perm le entry _).trans (ih.cons entry)

section Order

variable {le : κ → κ → Bool} (total : ∀ a b, le a b = true ∨ le b a = true)
  (trans : ∀ {a b c}, le a b = true → le b c = true → le a c = true)

include total trans

theorem pairwise_insertBy (entry : κ × ν) {entries : Mapping κ ν}
    (ordered : entries.Pairwise fun a b => le a.1 b.1 = true) :
    (insertBy le entry entries).Pairwise fun a b => le a.1 b.1 = true := by
  induction entries with
  | nil => exact List.pairwise_singleton _ entry
  | cons other rest ih =>
      obtain ⟨least, others⟩ := List.pairwise_cons.mp ordered
      rw [insertBy]
      split
      · next first =>
        refine List.pairwise_cons.mpr ⟨fun next member => ?_, ordered⟩
        rcases List.mem_cons.mp member with rfl | member
        · exact first
        · exact trans first (least next member)
      · next after =>
        have last : le other.1 entry.1 = true := (total entry.1 other.1).resolve_left after
        refine List.pairwise_cons.mpr ⟨fun next member => ?_, ih others⟩
        have among := (insertBy_perm le entry rest).mem_iff.mp member
        rcases List.mem_cons.mp among with rfl | member
        · exact last
        · exact least next member

theorem pairwise_sortBy (entries : Mapping κ ν) :
    (sortBy le entries).Pairwise fun a b => le a.1 b.1 = true := by
  induction entries with
  | nil => exact .nil
  | cons entry rest ih => exact pairwise_insertBy total trans entry ih

end Order

theorem pairwise_sortBy_codeOrder (entries : Mapping String ν) :
    (sortBy codeOrder entries).Pairwise fun a b => a.1 ≤ b.1 := by
  have ordered := pairwise_sortBy
    (fun a b => (String.le_total a b).imp decide_eq_true decide_eq_true)
    (fun first second => decide_eq_true
      (String.le_trans (of_decide_eq_true first) (of_decide_eq_true second))) entries
  exact ordered.imp of_decide_eq_true

end Mapping

namespace Overrides

/-! The stages, one by one. -/

theorem pass_bind_eq_ok {stage : Stage} {violations : List Violation}
    {next : Except OverridesError Overrides} {overrides : Overrides}
    (passed : (do pass stage violations; next) = .ok overrides) :
    violations = [] ∧ next = .ok overrides := by
  cases violations with
  | nil => exact ⟨rfl, passed⟩
  | cons violation rest => cases passed

theorem pass_bind_of_nil {stage : Stage} {violations : List Violation}
    {next : Except OverridesError Overrides} (none : violations = []) :
    (do pass stage violations; next) = next := by
  rw [none]
  rfl

theorem sortViolations_eq_nil_iff {violations : List Violation} :
    sortViolations violations = [] ↔ violations = [] := by
  rw [sortViolations, List.map_eq_nil_iff, Mapping.sortBy_eq_nil_iff, List.map_eq_nil_iff]

theorem patternViolation?_eq_none_iff {name : String} :
    patternViolation? (.string name) = none ↔ followsPattern name = true := by
  rw [patternViolation?]
  split
  · next follows => exact iff_of_true rfl follows
  · next strays => exact iff_of_false nofun strays

theorem textEntries_eq_ok_iff {entries : Mapping Json Json} {named : Overrides} :
    textEntries entries = .ok named ↔ entries = ParameterSet.textEntries named := by
  induction entries generalizing named with
  | nil =>
      cases named with
      | nil => exact iff_of_true rfl rfl
      | cons entry others => exact iff_of_false nofun nofun
  | cons entry rest ih =>
      obtain ⟨name, value⟩ := entry
      constructor
      · intro taken
        unfold textEntries at taken
        split at taken
        · next name value =>
          split at taken
          · next others read =>
            cases taken
            rw [ih.mp read]
            rfl
          · cases taken
        · cases taken
        · cases taken
      · intro same
        cases named with
        | nil => cases same
        | cons text others =>
            obtain ⟨head, tail⟩ := List.cons.inj same
            obtain ⟨rfl, rfl⟩ := Prod.mk.inj head
            simp only [textEntries, ih.mpr tail]

theorem eq_of_textEntries {named other : Overrides}
    (same : ParameterSet.textEntries named = ParameterSet.textEntries other) : named = other := by
  have taken := textEntries_eq_ok_iff.mpr same
  rw [textEntries_eq_ok_iff.mpr rfl] at taken
  exact Except.ok.inj taken

theorem formViolations_textEntries_eq_nil_iff {overrides : Overrides} :
    formViolations (ParameterSet.textEntries overrides) = [] ↔
      ∀ entry ∈ overrides, followsPattern entry.1 = true := by
  rw [formViolations, sortViolations_eq_nil_iff, List.append_eq_nil_iff]
  simp only [ParameterSet.textEntries, List.filterMap_map, List.filterMap_eq_nil_iff,
    Function.comp_apply, patternViolation?_eq_none_iff]
  exact and_iff_left fun _ _ => rfl

theorem sortNames_eq_nil_iff {names : List String} : sortNames names = [] ↔ names = [] := by
  rw [sortNames, List.map_eq_nil_iff, Mapping.sortBy_eq_nil_iff, List.map_eq_nil_iff]

theorem lockedViolations_eq_nil_iff {entries : Overrides} :
    lockedViolations entries = [] ↔ ∀ entry ∈ entries, isLocked entry.1 = false := by
  rw [lockedViolations, List.map_eq_nil_iff, sortNames_eq_nil_iff, List.filter_eq_nil_iff]
  simp only [List.mem_map, forall_exists_index, and_imp, forall_apply_eq_imp_iff₂,
    Bool.not_eq_true]

theorem clashesAfter_eq_nil_iff {seen : List (String × String)} {names : List String} :
    clashesAfter seen names = [] ↔
      (names.map lower).Nodup ∧ ∀ name ∈ names, seen.lookup (lower name) = none := by
  induction names generalizing seen with
  | nil => exact iff_of_true rfl ⟨List.nodup_nil, nofun⟩
  | cons name rest ih =>
      rw [clashesAfter]
      cases found : seen.lookup (lower name) with
      | some other =>
          refine iff_of_false (List.cons_ne_nil _ _) fun apart => ?_
          have fresh := apart.2 name List.mem_cons_self
          rw [found] at fresh
          cases fresh
      | none =>
          simp only [ih, List.map_cons, List.nodup_cons]
          constructor
          · rintro ⟨distinct, apart⟩
            have new : lower name ∉ rest.map lower := by
              intro member
              obtain ⟨other, held, same⟩ := List.mem_map.mp member
              have unseen := apart other held
              rw [same, List.lookup_cons_self] at unseen
              cases unseen
            refine ⟨⟨new, distinct⟩, ?_⟩
            intro other member
            rcases List.mem_cons.mp member with rfl | member
            · exact found
            · have differs : (lower other == lower name) = false :=
                beq_false_of_ne fun same => new (same ▸ List.mem_map_of_mem member)
              have unseen := apart other member
              rwa [List.lookup_cons, differs] at unseen
          · rintro ⟨⟨new, distinct⟩, apart⟩
            refine ⟨distinct, fun other member => ?_⟩
            have differs : (lower other == lower name) = false :=
              beq_false_of_ne fun same => new (same ▸ List.mem_map_of_mem member)
            rw [List.lookup_cons, differs]
            exact apart other (List.mem_cons_of_mem name member)

theorem clashes_eq_nil_iff {entries : Overrides} :
    clashes entries = [] ↔ (foldedNames entries).Nodup := by
  rw [clashes, clashesAfter_eq_nil_iff, List.map_map, foldedNames]
  exact and_iff_left fun _ _ => rfl

theorem tokenViolation?_eq_none_iff {entry : String × String} :
    tokenViolation? entry = none ↔ ∃ kept, tidy entry = .ok kept := by
  rw [tokenViolation?]
  cases tidy entry with
  | ok kept => exact iff_of_true rfl ⟨kept, rfl⟩
  | error error => exact iff_of_false nofun nofun

theorem tidyEntries_eq_map {entries : Overrides} {keep : String × String → String × String}
    (tidied : ∀ entry ∈ entries, tidy entry = .ok (keep entry)) :
    tidyEntries entries = entries.map keep := by
  induction entries with
  | nil => rfl
  | cons entry rest ih =>
      have others := ih fun other member => tidied other (List.mem_cons_of_mem entry member)
      rw [tidyEntries] at others
      rw [tidyEntries, List.filterMap_cons, tidied entry List.mem_cons_self, others]
      rfl

/-- An entry with single spaces in a list of tokens, and as it is otherwise. -/
def respaced (entry : String × String) : String × String :=
  (entry.1, if lower entry.1 ∈ ["resources.boards", "resources.pieces"]
    then Token.spaced (splitTokens entry.2) else entry.2)

theorem tidy_eq_ok_iff {entry kept : String × String} :
    tidy entry = .ok kept ↔
      (lower entry.1 ∈ ["resources.boards", "resources.pieces"] → (splitTokens entry.2).Nodup) ∧
        kept = respaced entry := by
  have list : isTokenList entry.1 = true ↔
      lower entry.1 ∈ ["resources.boards", "resources.pieces"] := decide_eq_true_iff
  rw [tidy, respaced]
  split
  · next isList =>
    rw [list] at isList
    rw [if_pos isList]
    constructor
    · intro tidied
      cases joined : joinTokens (splitTokens entry.2) with
      | error error => rw [joined] at tidied; cases tidied
      | ok value =>
          rw [joined] at tidied
          cases tidied
          obtain ⟨distinct, rfl⟩ := joinTokens_splitTokens_eq_ok_iff.mp joined
          exact ⟨fun _ => distinct, rfl⟩
    · rintro ⟨distinct, rfl⟩
      rw [joinTokens_splitTokens_eq_ok_iff.mpr ⟨distinct isList, rfl⟩]
      rfl
  · next noList =>
    rw [list] at noList
    rw [if_neg noList]
    constructor
    · intro tidied
      cases tidied
      exact ⟨fun isList => absurd isList noList, rfl⟩
    · rintro ⟨-, rfl⟩
      rfl

theorem tidy_name {entry kept : String × String} (tidied : tidy entry = .ok kept) :
    kept.1 = entry.1 := by
  rw [(tidy_eq_ok_iff.mp tidied).2, respaced]

theorem tidyEntries_eq {entries : Overrides}
    (clean : ∀ entry ∈ entries, ∃ kept, tidy entry = .ok kept) :
    tidyEntries entries = entries.map respaced := by
  refine tidyEntries_eq_map fun entry member => ?_
  obtain ⟨kept, tidied⟩ := clean entry member
  rw [tidied, (tidy_eq_ok_iff.mp tidied).2]

theorem names_tidyEntries {entries : Overrides}
    (clean : ∀ entry ∈ entries, ∃ kept, tidy entry = .ok kept) :
    (tidyEntries entries).map (·.1) = entries.map (·.1) := by
  rw [tidyEntries_eq clean, List.map_map]
  rfl

/-! All stages. -/

/-- Overrides that no stage has anything against. -/
structure Accepted (overrides : Overrides) : Prop where
  named : ∀ entry ∈ overrides, followsPattern entry.1 = true
  free : ∀ entry ∈ overrides, isLocked entry.1 = false
  distinct : (foldedNames overrides).Nodup

/-- The three stages before the last look at names only. -/
theorem Accepted.of_names {entries overrides : Overrides}
    (same : overrides.map (·.1) = entries.map (·.1)) (accepted : Accepted entries) :
    Accepted overrides := by
  have among : ∀ entry ∈ overrides, ∃ other ∈ entries, other.1 = entry.1 := by
    intro entry member
    have name : entry.1 ∈ overrides.map (·.1) := List.mem_map_of_mem member
    exact List.mem_map.mp (same ▸ name)
  refine ⟨fun entry member => ?_, fun entry member => ?_, ?_⟩
  · obtain ⟨other, held, equal⟩ := among entry member
    exact equal ▸ accepted.named other held
  · obtain ⟨other, held, equal⟩ := among entry member
    exact equal ▸ accepted.free other held
  · have folded (given : Overrides) : foldedNames given = (given.map (·.1)).map lower := by
      rw [List.map_map, foldedNames]
      rfl
    rw [folded, same, ← folded]
    exact accepted.distinct

theorem validateMapping_eq_ok_iff {entries : Mapping Json Json} {overrides : Overrides} :
    validateMapping entries = .ok overrides ↔
      ∃ named, entries = ParameterSet.textEntries named ∧ Accepted named ∧
        (∀ entry ∈ named, ∃ kept, tidy entry = .ok kept) ∧ overrides = tidyEntries named := by
  rw [validateMapping]
  constructor
  · intro valid
    obtain ⟨form, valid⟩ := pass_bind_eq_ok valid
    cases taken : textEntries entries with
    | error error => rw [taken] at valid; cases valid
    | ok named =>
        rw [taken] at valid
        obtain ⟨locked, valid⟩ := pass_bind_eq_ok valid
        obtain ⟨clash, valid⟩ := pass_bind_eq_ok valid
        obtain ⟨tokens, valid⟩ := pass_bind_eq_ok valid
        cases valid
        have texts := textEntries_eq_ok_iff.mp taken
        rw [texts, formViolations_textEntries_eq_nil_iff] at form
        refine ⟨named, texts, ⟨form, lockedViolations_eq_nil_iff.mp locked,
          clashes_eq_nil_iff.mp clash⟩, fun entry member => ?_, rfl⟩
        exact tokenViolation?_eq_none_iff.mp (List.filterMap_eq_nil_iff.mp tokens entry member)
  · rintro ⟨named, rfl, accepted, tidied, rfl⟩
    rw [pass_bind_of_nil (formViolations_textEntries_eq_nil_iff.mpr accepted.named),
      textEntries_eq_ok_iff.mpr rfl]
    change (do
      pass .locked (lockedViolations named)
      pass .clash (clashes named)
      pass .tokens (named.filterMap tokenViolation?)
      return tidyEntries named) = _
    rw [pass_bind_of_nil (lockedViolations_eq_nil_iff.mpr accepted.free),
      pass_bind_of_nil (clashes_eq_nil_iff.mpr accepted.distinct),
      pass_bind_of_nil (List.filterMap_eq_nil_iff.mpr fun entry member =>
        tokenViolation?_eq_none_iff.mpr (tidied entry member))]
    rfl

theorem accepted_of_validateMapping {entries : Mapping Json Json} {overrides : Overrides}
    (valid : validateMapping entries = .ok overrides) : Accepted overrides := by
  obtain ⟨named, -, accepted, tidied, rfl⟩ := validateMapping_eq_ok_iff.mp valid
  exact accepted.of_names (names_tidyEntries tidied)

theorem accepted_of_validate {value : Json} {overrides : Overrides}
    (valid : validate value = .ok overrides) : Accepted overrides := by
  unfold validate at valid
  split at valid
  · exact accepted_of_validateMapping valid
  · cases valid

/-! What is refused. -/

theorem pass_bind_eq_error_iff {stage : Stage} {violations : List Violation}
    {next : Except OverridesError Overrides} {error : OverridesError} :
    (do pass stage violations; next) = .error error ↔
      (violations ≠ [] ∧ error = .rejected stage violations) ∨
        (violations = [] ∧ next = .error error) := by
  cases violations with
  | nil =>
      constructor
      · exact fun refused => .inr ⟨rfl, refused⟩
      · rintro (⟨found, -⟩ | ⟨-, refused⟩)
        · exact absurd rfl found
        · exact refused
  | cons violation rest =>
      constructor
      · intro refused
        cases refused
        exact .inl ⟨List.cons_ne_nil violation rest, rfl⟩
      · rintro (⟨-, rfl⟩ | ⟨none, -⟩)
        · rfl
        · cases none

end Overrides

end AppletPage
