import AppletPage.Proofs.Parameter.Joining
import AppletPage.Proofs.Preference.Acceptance
import Mathlib.Data.List.Forall2

/-! What is reported of a value that is not accepted as overrides: all the violations of the first
stage that has any, said without the loops that gather them. -/

namespace AppletPage

open Text

namespace Overrides

/-! The form. -/

instance : DecidablePred Patterned := fun _ => decidable_of_iff _ followsPattern_iff

def IsText (value : Json) : Prop := ∃ text, value = .string text

instance : DecidablePred IsText
  | .string text => isTrue ⟨text, rfl⟩
  | .null | .bool _ | .integer _ | .real _ | .array _ | .object _ => isFalse nofun

def objectItem (value : Json) : Violation where
  path := []
  message := value.literal ++ " is not of type 'object'"
  rule := some .type

def patternItem (name : String) : Violation where
  path := []
  message := quote name ++ " does not match '^[A-Za-z][A-Za-z0-9_.-]*$'"
  rule := some .pattern

def typeItem (field : String × Json) : Violation where
  path := [.string field.1]
  message := field.2.literal ++ " is not of type 'string'"
  rule := some .type

def formItems (fields : List (String × Json)) : List Violation :=
  ((fields.map (·.1)).filter (¬ Patterned ·)).map patternItem
    ++ (fields.filter (¬ IsText ·.2)).map typeItem

def placeOf (violation : Violation) : String :=
  String.intercalate "/" (violation.path.map Json.plain)

def Precedes (a b : Violation) : Prop :=
  placeOf a < placeOf b ∨ placeOf a = placeOf b ∧ a.message ≤ b.message

theorem keyOrder_eq_true_iff {a b : String × String} :
    keyOrder a b = true ↔ a.1 < b.1 ∨ a.1 = b.1 ∧ a.2 ≤ b.2 := by
  rw [keyOrder]
  split
  · next same =>
    simp only [codeOrder, same, decide_eq_true_eq, String.lt_irrefl, false_or, true_and]
  · next apart =>
    simp only [codeOrder, apart, decide_eq_true_eq, false_and, or_false, Std.le_iff_lt_or_eq]

theorem keyOrder_total (a b : String × String) : keyOrder a b = true ∨ keyOrder b a = true := by
  rw [keyOrder_eq_true_iff, keyOrder_eq_true_iff]
  rcases Std.lt_trichotomy a.1 b.1 with before | same | after
  · exact .inl (.inl before)
  · exact (String.le_total a.2 b.2).imp (.inr ⟨same, ·⟩) (.inr ⟨same.symm, ·⟩)
  · exact .inr (.inl after)

theorem keyOrder_trans {a b c : String × String} (first : keyOrder a b = true)
    (second : keyOrder b c = true) : keyOrder a c = true := by
  rw [keyOrder_eq_true_iff] at first second ⊢
  rcases first with before | ⟨same, first⟩
  · rcases second with later | ⟨same, -⟩
    · exact .inl (String.lt_trans before later)
    · exact .inl (same ▸ before)
  · rcases second with later | ⟨again, second⟩
    · exact .inl (same ▸ later)
    · exact .inr ⟨same.trans again, String.le_trans first second⟩

theorem sortViolations_perm (violations : List Violation) :
    (sortViolations violations).Perm violations := by
  have sorted := (Mapping.sortBy_perm keyOrder
    (violations.map fun v => (Violation.key v, v))).map (·.2)
  rwa [List.map_map, Function.comp_def, List.map_id'] at sorted

theorem pairwise_sortViolations (violations : List Violation) :
    (sortViolations violations).Pairwise Precedes := by
  have keyed : ∀ entry ∈ Mapping.sortBy keyOrder (violations.map fun v => (Violation.key v, v)),
      entry.1 = Violation.key entry.2 := by
    intro entry member
    have among := (Mapping.sortBy_perm keyOrder _).mem_iff.mp member
    obtain ⟨violation, -, rfl⟩ := List.mem_map.mp among
    rfl
  have ordered := Mapping.pairwise_sortBy keyOrder_total keyOrder_trans
    (violations.map fun v => (Violation.key v, v))
  refine List.pairwise_map.mpr (ordered.imp_of_mem fun first second before => ?_)
  rw [keyed _ first, keyed _ second] at before
  exact keyOrder_eq_true_iff.mp before

theorem Precedes.antisymm {a b : Violation} (before : Precedes a b) (after : Precedes b a) :
    placeOf a = placeOf b ∧ a.message = b.message := by
  rcases before with before | ⟨same, before⟩
  · rcases after with after | ⟨same, -⟩
    · exact absurd after (String.lt_asymm before)
    · exact absurd before (same ▸ String.lt_irrefl _)
  · rcases after with after | ⟨-, after⟩
    · exact absurd after (same ▸ String.lt_irrefl _)
    · exact ⟨same, String.le_antisymm before after⟩

/-- The last two characters tell the items of the two kinds from each other. -/
theorem patternItem_message_ne (name : String) (field : String × Json) :
    (patternItem name).message ≠ (typeItem field).message := by
  intro same
  have ends := congrArg (fun text : String => text.toList.reverse.take 2) same
  simp only [patternItem, typeItem, String.toList_append, List.reverse_append] at ends
  rw [List.take_append_of_le_length (by decide), List.take_append_of_le_length (by decide)] at ends
  exact absurd ends (by decide)

attribute [ext] Violation

/-- No two items of a form share both their place and their message. -/
theorem eq_of_mem_formItems {fields : List (String × Json)} {a b : Violation}
    (first : a ∈ formItems fields) (second : b ∈ formItems fields) (place : placeOf a = placeOf b)
    (message : a.message = b.message) : a = b := by
  rcases List.mem_append.mp first with pattern | type
  · obtain ⟨name, -, rfl⟩ := List.mem_map.mp pattern
    rcases List.mem_append.mp second with pattern | type
    · obtain ⟨other, -, rfl⟩ := List.mem_map.mp pattern
      exact Violation.ext rfl message rfl
    · obtain ⟨field, -, rfl⟩ := List.mem_map.mp type
      exact absurd message (patternItem_message_ne name field)
  · obtain ⟨field, -, rfl⟩ := List.mem_map.mp type
    rcases List.mem_append.mp second with pattern | type
    · obtain ⟨name, -, rfl⟩ := List.mem_map.mp pattern
      exact absurd message.symm (patternItem_message_ne name field)
    · obtain ⟨other, -, rfl⟩ := List.mem_map.mp type
      have name : field.1 = other.1 := by
        simpa only [placeOf, typeItem, List.map_cons, List.map_nil, Json.plain,
          String.intercalate_singleton] using place
      exact Violation.ext (congrArg (fun name => [Json.string name]) name) message rfl

theorem patternViolation?_string (name : String) :
    patternViolation? (.string name) =
      if Patterned name then none else some (patternItem name) := by
  rw [patternViolation?]
  by_cases patterned : Patterned name
  · rw [if_pos (followsPattern_iff.mpr patterned), if_pos patterned]
  · rw [if_neg (followsPattern_iff.not.mpr patterned), if_neg patterned]
    have quoted : quote namePattern = "'^[A-Za-z][A-Za-z0-9_.-]*$'" := by decide +kernel
    exact congrArg some (Violation.ext rfl (by rw [quoted, String.append_assoc]; rfl) rfl)

theorem typeViolation_string (field : String × Json) :
    typeViolation [.string field.1] field.2 "string" = typeItem field := by
  have quoted : quote "string" = "'string'" := by decide +kernel
  exact Violation.ext rfl (by rw [typeViolation, quoted, String.append_assoc]; rfl) rfl

theorem valueViolation?_field (field : String × Json) :
    valueViolation? (.string field.1, field.2) =
      if IsText field.2 then none else some (typeItem field) := by
  rw [← typeViolation_string]
  obtain ⟨name, value⟩ := field
  cases value with
  | string text => rfl
  | _ => exact (if_neg nofun).symm

theorem filterMap_ite {α β : Type} (P : α → Prop) [DecidablePred P] (item : α → β)
    (given : List α) :
    given.filterMap (fun x => if P x then none else some (item x)) =
      (given.filter (¬ P ·)).map item := by
  simp only [← List.filterMap_eq_map, List.filterMap_filter, decide_eq_true_eq, ite_not,
    Function.comp_apply]

theorem formViolations_eq_sort (fields : List (String × Json)) :
    formViolations (fields.map fun field => (.string field.1, field.2)) =
      sortViolations (formItems fields) := by
  have types := filterMap_ite (fun field : String × Json => IsText field.2) typeItem fields
  rw [formItems, ← filterMap_ite, ← types, formViolations]
  simp only [List.filterMap_map, Function.comp_def, patternViolation?_string, valueViolation?_field]

theorem formViolations_eq_iff {fields : List (String × Json)} {violations : List Violation} :
    formViolations (fields.map fun field => (.string field.1, field.2)) = violations ↔
      violations.Perm (formItems fields) ∧ violations.Pairwise Precedes := by
  rw [formViolations_eq_sort]
  constructor
  · rintro rfl
    exact ⟨sortViolations_perm _, pairwise_sortViolations _⟩
  · rintro ⟨all, ordered⟩
    -- The order leaves no choice: items that precede each other are the same.
    have perm := (sortViolations_perm (formItems fields)).trans all.symm
    refine perm.eq_of_pairwise (fun a b first second before after => ?_)
      (pairwise_sortViolations _) ordered
    obtain ⟨place, message⟩ := before.antisymm after
    exact eq_of_mem_formItems ((sortViolations_perm _).mem_iff.mp first) (all.mem_iff.mp second)
      place message

theorem exists_texts {fields : List (String × Json)} (texts : ∀ field ∈ fields, IsText field.2) :
    ∃ entries : Overrides, fields = entries.map fun entry => (entry.1, .string entry.2) := by
  induction fields with
  | nil => exact ⟨[], rfl⟩
  | cons field rest ih =>
      obtain ⟨⟨text, same⟩, others⟩ := List.forall_mem_cons.mp texts
      obtain ⟨entries, rfl⟩ := ih others
      exact ⟨(field.1, text) :: entries, by rw [List.map_cons, ← same]⟩

theorem formItems_eq_nil {fields : List (String × Json)} (none : formItems fields = []) :
    ∃ entries : Overrides, .object fields = entries.toJson ∧
      ∀ entry ∈ entries, Patterned entry.1 := by
  obtain ⟨patterns, types⟩ := List.append_eq_nil_iff.mp none
  simp only [List.map_eq_nil_iff, List.filter_eq_nil_iff, List.forall_mem_map, decide_eq_true_eq,
    not_not] at patterns types
  obtain ⟨entries, rfl⟩ := exists_texts types
  exact ⟨entries, rfl, fun entry member => patterns _ (List.mem_map_of_mem member)⟩

/-! Locked names. -/

def Locked (name : String) : Prop :=
  lower name ∈ ["port", "server.classname", "plugins.count"] ∨
    "plugins.".toList <+: (lower name).toList

instance : DecidablePred Locked := fun _ => inferInstanceAs (Decidable (_ ∨ _))

def lockedItem (name : String) : Violation where
  path := [.string name]
  message := "locked"

theorem isLocked_eq_decide (name : String) : isLocked name = decide (Locked name) := by
  by_cases locked : Locked name
  · rw [decide_eq_true locked, ← Bool.not_eq_false, isLocked_eq_false_iff, ← not_or]
    exact not_not_intro locked
  · rw [decide_eq_false locked, isLocked_eq_false_iff, ← not_or]
    exact locked

theorem sortNames_eq_iff {names sorted : List String} :
    sortNames names = sorted ↔ sorted.Perm names ∧ sorted.Pairwise (· ≤ ·) := by
  have perm : (sortNames names).Perm names := by
    have sorted := (Mapping.sortBy_perm codeOrder (names.map fun name => (name, ()))).map (·.1)
    rwa [List.map_map, Function.comp_def, List.map_id'] at sorted
  have ordered : (sortNames names).Pairwise (· ≤ ·) :=
    List.pairwise_map.mpr (Mapping.pairwise_sortBy_codeOrder _)
  constructor
  · rintro rfl
    exact ⟨perm, ordered⟩
  · rintro ⟨all, inOrder⟩
    exact (perm.trans all.symm).eq_of_pairwise (fun _ _ _ _ => String.le_antisymm) ordered inOrder

theorem lockedViolations_eq (entries : Overrides) :
    lockedViolations entries =
      (sortNames ((entries.map (·.1)).filter (Locked ·))).map lockedItem := by
  rw [lockedViolations, funext isLocked_eq_decide]
  rfl

/-! Names that are equal in small letters. -/

/-- What is reported of the name at an index: the first name before it that is equal in small
letters, if there is one. -/
def clashItem? (names : List String) (index : Nat) : Option Violation := do
  let name ← names[index]?
  let first ← (names.take index).find? fun other => lower other = lower name
  return { path := [.string name], message := "same name as " ++ quote first }

def clashItems (names : List String) : List Violation :=
  (List.range names.length).filterMap (clashItem? names)

theorem clashItem?_append (before rest : List String) (name : String) :
    clashItem? (before ++ name :: rest) before.length =
      (before.find? fun other => lower other = lower name).map fun first =>
        { path := [.string name], message := "same name as " ++ quote first } := by
  rw [clashItem?, List.getElem?_append_right (Nat.le_refl _), Nat.sub_self, List.take_left]
  exact Option.map_eq_bind.symm

theorem find?_behind (before : List String) (name folded : String) :
    ((before ++ [name]).find? fun other => lower other = folded) =
      (before.find? fun other => lower other = folded).or
        (if lower name = folded then some name else none) := by
  rw [List.find?_append]
  split
  · next same => rw [List.find?_cons_of_pos (by simpa using same)]
  · next apart => rw [List.find?_cons_of_neg (by simpa using apart), List.find?_nil]

theorem clashesAfter_eq {seen : List (String × String)} {before names : List String}
    (first : ∀ folded, seen.lookup folded = before.find? fun other => lower other = folded) :
    clashesAfter seen names =
      (List.range' before.length names.length).filterMap (clashItem? (before ++ names)) := by
  induction names generalizing seen before with
  | nil => rfl
  | cons name rest ih =>
      -- The name goes to those before; it is new among what has been seen only if none is equal.
      have later {seen : List (String × String)} (first : ∀ folded, seen.lookup folded =
          (before ++ [name]).find? fun other => lower other = folded) :
          clashesAfter seen rest = (List.range' (before.length + 1) rest.length).filterMap
            (clashItem? (before ++ name :: rest)) := by
        rw [ih first, List.length_append, List.length_singleton, List.append_assoc,
          List.singleton_append]
      rw [clashesAfter, List.length_cons, List.range'_succ, List.filterMap_cons, clashItem?_append,
        first]
      cases found : before.find? fun other => lower other = lower name with
      | some other =>
          refine congrArg (List.cons _) (later fun folded => ?_)
          rw [first, find?_behind]
          by_cases same : lower name = folded
          · rw [← same, found, Option.some_or]
          · rw [if_neg same, Option.or_none]
      | none =>
          refine later fun folded => ?_
          rw [find?_behind]
          by_cases same : lower name = folded
          · rw [← same, found, List.lookup_cons_self, if_pos rfl, Option.none_or]
          · rw [List.lookup_cons, beq_false_of_ne (Ne.symm same), if_neg same, Option.or_none]
            exact first folded

theorem clashes_eq (entries : Overrides) : clashes entries = clashItems (entries.map (·.1)) := by
  rw [clashes, clashItems, List.range_eq_range']
  exact @clashesAfter_eq [] [] _ fun _ => rfl

/-- Three spellings of one name: each of the later two is reported with the first. -/
example :
    clashes [("theme", "a"), ("Theme", "b"), ("hint", "c"), ("THEME", "d")] =
      [{ path := [.string "Theme"], message := "same name as 'theme'" },
        { path := [.string "THEME"], message := "same name as 'theme'" }] := by
  rfl

/-! Lists of tokens. -/

def Repetitive (entry : String × String) : Prop :=
  lower entry.1 ∈ ["resources.boards", "resources.pieces"] ∧ ¬ (splitTokens entry.2).Nodup

instance : DecidablePred Repetitive := fun _ => inferInstanceAs (Decidable (_ ∧ _))

def FirstRepeated (tokens : List String) (token : String) : Prop :=
  ∃ before after, tokens = before ++ token :: after ∧ before.Nodup ∧ token ∈ before

def TokenItem (entry : String × String) (violation : Violation) : Prop :=
  ∃ token, FirstRepeated (splitTokens entry.2) token ∧
    violation =
      { path := [.string entry.1], message := "Duplicate resource token: " ++ quote token }

theorem joinTokens_splitTokens_eq_error_iff {value : String} {error : ParameterError} :
    joinTokens (splitTokens value) = .error error ↔
      ∃ token, FirstRepeated (splitTokens value) token ∧ error = .duplicateToken token := by
  have whole : ∀ token ∈ splitTokens value, Token.Whole token := fun token member =>
    Token.isToken_iff_whole.mp (isToken_of_mem_splitTokens member)
  -- Words are whole, so a list of them can only offend by a repetition.
  rw [joinTokens_eq_error_iff]
  generalize splitTokens value = tokens at whole ⊢
  constructor
  · intro offence
    cases offence with
    | behind joinable offends =>
        cases offends with
        | broken unfit =>
            exact absurd (whole _ (List.mem_append_right _ List.mem_cons_self)) unfit
        | repeated fit again =>
            exact ⟨_, ⟨_, _, rfl, joinable.distinct, again⟩, rfl⟩
  · rintro ⟨token, ⟨before, after, rfl, distinct, again⟩, rfl⟩
    obtain ⟨kept, others⟩ := List.forall_mem_append.mp whole
    exact .behind ⟨kept, distinct⟩ (.repeated (others token List.mem_cons_self) again)

theorem tokenViolation?_eq_none_iff_not {entry : String × String} :
    tokenViolation? entry = none ↔ ¬ Repetitive entry := by
  rw [tokenViolation?_eq_none_iff, Repetitive]
  simp only [tidy_eq_ok_iff, exists_and_left, exists_eq, and_true, not_and, not_not]

theorem tokenViolation?_eq_some_iff {entry : String × String} (repetitive : Repetitive entry)
    {violation : Violation} :
    tokenViolation? entry = some violation ↔ TokenItem entry violation := by
  have list : isTokenList entry.1 = true := decide_eq_true repetitive.1
  have refusal {error : ParameterError} := @joinTokens_splitTokens_eq_error_iff entry.2 error
  rw [tokenViolation?, tidy, if_pos list]
  cases joined : joinTokens (splitTokens entry.2) with
  | ok value => exact absurd (joinTokens_splitTokens_eq_ok_iff.mp joined).1 repetitive.2
  | error error =>
      obtain ⟨token, first, rfl⟩ := refusal.mp joined
      constructor
      · intro same
        cases same
        exact ⟨token, first, rfl⟩
      · rintro ⟨other, again, rfl⟩
        cases joined.symm.trans (refusal.mpr ⟨other, again, rfl⟩)
        rfl

/-- One item for each entry whose list of tokens repeats one, in the order of the entries. -/
theorem tokenViolations_eq_iff {entries : Overrides} {violations : List Violation} :
    entries.filterMap tokenViolation? = violations ↔
      List.Forall₂ TokenItem (entries.filter (Repetitive ·)) violations := by
  induction entries generalizing violations with
  | nil => exact ⟨fun same => same ▸ .nil, fun each => (List.forall₂_nil_left_iff.mp each).symm⟩
  | cons entry rest ih =>
      by_cases repetitive : Repetitive entry
      · rw [List.filter_cons, decide_eq_true repetitive, if_pos rfl, List.forall₂_cons_left_iff]
        constructor
        · rintro rfl
          cases found : tokenViolation? entry with
          | none => exact absurd repetitive (tokenViolation?_eq_none_iff_not.mp found)
          | some violation =>
              rw [List.filterMap_cons_some found]
              have item := (tokenViolation?_eq_some_iff repetitive).mp found
              exact ⟨violation, _, item, ih.mp rfl, rfl⟩
        · rintro ⟨violation, others, item, each, rfl⟩
          rw [List.filterMap_cons_some ((tokenViolation?_eq_some_iff repetitive).mpr item),
            ih.mpr each]
      · rw [List.filter_cons, decide_eq_false repetitive, if_neg Bool.false_ne_true,
          List.filterMap_cons_none (tokenViolation?_eq_none_iff_not.mpr repetitive)]
        exact ih

/-! All stages. -/

/-- What is reported of a value, and at which stage: the stages before it have nothing against the
value, and the report has all violations of its own. -/
inductive Report : Json → Stage → List Violation → Prop where
  | noObject {value : Json} (other : ∀ fields, value ≠ .object fields) :
      Report value .form [objectItem value]
  | form {fields : List (String × Json)} {violations : List Violation} (found : violations ≠ [])
      (all : violations.Perm (formItems fields)) (ordered : violations.Pairwise Precedes) :
      Report (.object fields) .form violations
  | locked {entries : Overrides} {names : List String}
      (formed : ∀ entry ∈ entries, Patterned entry.1) (found : names ≠ [])
      (all : names.Perm ((entries.map (·.1)).filter (Locked ·)))
      (ordered : names.Pairwise (· ≤ ·)) :
      Report entries.toJson .locked (names.map lockedItem)
  | clash {entries : Overrides} (formed : ∀ entry ∈ entries, Patterned entry.1)
      (free : ∀ entry ∈ entries, ¬ Locked entry.1) (found : clashItems (entries.map (·.1)) ≠ []) :
      Report entries.toJson .clash (clashItems (entries.map (·.1)))
  | tokens {entries : Overrides} {violations : List Violation}
      (formed : ∀ entry ∈ entries, Patterned entry.1) (free : ∀ entry ∈ entries, ¬ Locked entry.1)
      (distinct : (entries.map fun entry => lower entry.1).Nodup) (found : violations ≠ [])
      (each : List.Forall₂ TokenItem (entries.filter (Repetitive ·)) violations) :
      Report entries.toJson .tokens violations

theorem lockedViolations_eq_nil_iff_free {entries : Overrides} :
    lockedViolations entries = [] ↔ ∀ entry ∈ entries, ¬ Locked entry.1 := by
  simp only [lockedViolations_eq_nil_iff, isLocked_eq_decide, decide_eq_false_iff_not]

theorem validate_of_noObject {value : Json} (other : ∀ fields, value ≠ .object fields) :
    validate value = .error (.rejected .form [objectItem value]) := by
  have item : typeViolation [] value "object" = objectItem value := by
    have quoted : quote "object" = "'object'" := by decide +kernel
    exact Violation.ext rfl (by rw [typeViolation, quoted, String.append_assoc]; rfl) rfl
  unfold validate
  split
  · next fields => exact absurd rfl (other fields)
  · rw [item]

theorem validate_toJson {entries : Overrides} (formed : ∀ entry ∈ entries, Patterned entry.1) :
    validate entries.toJson = do
      pass .locked (lockedViolations entries)
      pass .clash (clashes entries)
      pass .tokens (entries.filterMap tokenViolation?)
      return tidyEntries entries := by
  have named := fun entry member => followsPattern_iff.mpr (formed entry member)
  rw [toJson, validate, map_string_toJson, validateMapping,
    pass_bind_of_nil (formViolations_textEntries_eq_nil_iff.mpr named),
    textEntries_eq_ok_iff.mpr rfl]
  rfl

theorem report_of_validate_toJson {entries : Overrides} {error : OverridesError}
    (formed : ∀ entry ∈ entries, Patterned entry.1)
    (refused : validate entries.toJson = .error error) :
    ∃ stage violations, error = .rejected stage violations ∧
      Report entries.toJson stage violations := by
  rw [validate_toJson formed] at refused
  rcases pass_bind_eq_error_iff.mp refused with ⟨found, rfl⟩ | ⟨free, refused⟩
  · rw [lockedViolations_eq] at found ⊢
    obtain ⟨all, ordered⟩ := sortNames_eq_iff.mp rfl
    exact ⟨_, _, rfl, .locked formed (List.map_eq_nil_iff.not.mp found) all ordered⟩
  · rw [lockedViolations_eq_nil_iff_free] at free
    rcases pass_bind_eq_error_iff.mp refused with ⟨found, rfl⟩ | ⟨distinct, refused⟩
    · rw [clashes_eq] at found ⊢
      exact ⟨_, _, rfl, .clash formed free found⟩
    · rw [clashes_eq_nil_iff] at distinct
      rcases pass_bind_eq_error_iff.mp refused with ⟨found, rfl⟩ | ⟨-, refused⟩
      · exact ⟨_, _, rfl, .tokens formed free distinct found (tokenViolations_eq_iff.mp rfl)⟩
      · cases refused

theorem report_of_validate {value : Json} {error : OverridesError}
    (refused : validate value = .error error) :
    ∃ stage violations, error = .rejected stage violations ∧ Report value stage violations := by
  by_cases object : ∃ fields, value = .object fields
  · obtain ⟨fields, rfl⟩ := object
    rcases pass_bind_eq_error_iff.mp refused with ⟨found, rfl⟩ | ⟨none, -⟩
    · obtain ⟨all, ordered⟩ := formViolations_eq_iff.mp rfl
      exact ⟨_, _, rfl, .form found all ordered⟩
    · rw [formViolations_eq_sort, sortViolations_eq_nil_iff] at none
      obtain ⟨entries, same, formed⟩ := formItems_eq_nil none
      rw [same] at refused ⊢
      exact report_of_validate_toJson formed refused
  · rw [not_exists] at object
    rw [validate_of_noObject object] at refused
    cases refused
    exact ⟨_, _, rfl, .noObject object⟩

theorem Report.validate_eq {value : Json} {stage : Stage} {violations : List Violation}
    (report : Report value stage violations) :
    validate value = .error (.rejected stage violations) := by
  cases report with
  | noObject other => exact validate_of_noObject other
  | form found all ordered =>
      have reported := formViolations_eq_iff.mpr ⟨all, ordered⟩
      exact pass_bind_eq_error_iff.mpr (.inl ⟨reported ▸ found, by rw [reported]⟩)
  | locked formed found all ordered =>
      have reported := sortNames_eq_iff.mpr ⟨all, ordered⟩
      rw [validate_toJson formed, lockedViolations_eq, reported]
      exact pass_bind_eq_error_iff.mpr (.inl ⟨List.map_eq_nil_iff.not.mpr found, rfl⟩)
  | clash formed free found =>
      rw [validate_toJson formed, pass_bind_of_nil (lockedViolations_eq_nil_iff_free.mpr free),
        clashes_eq]
      exact pass_bind_eq_error_iff.mpr (.inl ⟨found, rfl⟩)
  | tokens formed free distinct found each =>
      rw [validate_toJson formed, pass_bind_of_nil (lockedViolations_eq_nil_iff_free.mpr free),
        pass_bind_of_nil (clashes_eq_nil_iff.mpr distinct), tokenViolations_eq_iff.mpr each]
      exact pass_bind_eq_error_iff.mpr (.inl ⟨found, rfl⟩)

/-! What every report names. -/

/-- A violation names what it is about, if anything, by the names that lead there. -/
def Named (violation : Violation) : Prop :=
  ∀ part ∈ violation.path, ∃ name, part = .string name

theorem named_of_path {violation : Violation} {name : String}
    (path : violation.path = [.string name]) : Named violation := by
  intro part member
  rw [path, List.mem_singleton] at member
  exact ⟨name, member⟩

theorem named_clashItem? {names : List String} {index : Nat} {violation : Violation}
    (found : clashItem? names index = some violation) : Named violation := by
  obtain ⟨name, -, found⟩ := Option.bind_eq_some_iff.mp found
  obtain ⟨first, -, found⟩ := Option.bind_eq_some_iff.mp found
  cases found
  exact named_of_path rfl

theorem named_of_tokenItems {entries : Overrides} {violations : List Violation}
    (each : List.Forall₂ TokenItem entries violations) :
    ∀ violation ∈ violations, Named violation := by
  induction each with
  | nil => exact List.forall_mem_nil _
  | cons item _ ih =>
      obtain ⟨token, -, rfl⟩ := item
      exact List.forall_mem_cons.mpr ⟨named_of_path rfl, ih⟩

theorem Report.named {value : Json} {stage : Stage} {violations : List Violation}
    (report : Report value stage violations) : ∀ violation ∈ violations, Named violation := by
  intro violation member
  cases report with
  | noObject _ =>
      cases List.mem_singleton.mp member
      exact nofun
  | form _ all _ =>
      rcases List.mem_append.mp (all.mem_iff.mp member) with pattern | type
      · obtain ⟨name, -, rfl⟩ := List.mem_map.mp pattern
        exact nofun
      · obtain ⟨field, -, rfl⟩ := List.mem_map.mp type
        exact named_of_path rfl
  | locked _ _ _ _ =>
      obtain ⟨name, -, rfl⟩ := List.mem_map.mp member
      exact named_of_path rfl
  | clash _ _ _ =>
      obtain ⟨index, -, found⟩ := List.mem_filterMap.mp member
      exact named_clashItem? found
  | tokens _ _ _ _ each =>
      exact named_of_tokenItems each violation member

theorem rejected_of_validate {value : Json} {error : OverridesError}
    (refused : validate value = .error error) :
    ∃ stage violations, error = .rejected stage violations := by
  obtain ⟨stage, violations, rejected, -⟩ := report_of_validate refused
  exact ⟨stage, violations, rejected⟩

theorem named_of_validate {value : Json} {stage : Stage} {violations : List Violation}
    (refused : validate value = .error (.rejected stage violations)) :
    ∀ violation ∈ violations, Named violation := by
  obtain ⟨_, _, rejected, report⟩ := report_of_validate refused
  cases rejected
  exact report.named

/-- A value is refused exactly with the report of the first stage that has anything against it. -/
theorem validate_report (value : Json) (error : OverridesError) :
    validate value = .error error ↔
      ∃ stage violations, error = .rejected stage violations ∧ Report value stage violations := by
  constructor
  · exact report_of_validate
  · rintro ⟨stage, violations, rfl, report⟩
    exact report.validate_eq

end Overrides

end AppletPage
