import AppletPage.Proofs.Preference.Settled
import AppletPage.Proofs.Text.Blank

/-! Which values are accepted as overrides, said without the stages that check them, and what is
kept of an accepted value. -/

namespace AppletPage

open Text

namespace Overrides

/-! Names. -/

def Letter (c : Char) : Prop := 'a' ≤ c ∧ c ≤ 'z' ∨ 'A' ≤ c ∧ c ≤ 'Z'

def OfName (c : Char) : Prop := Letter c ∨ '0' ≤ c ∧ c ≤ '9' ∨ c ∈ ['_', '.', '-']

/-- Where the pattern of names is found in a name: from its start, and up to its end or to a line
end that is the last character. -/
def Patterned (name : String) : Prop :=
  ∃ first rest ending, name.toList = first :: rest ++ ending ∧ Letter first ∧
    (∀ c ∈ rest, OfName c) ∧ (ending = [] ∨ ending = ['\n'])

theorem isLetter_iff {c : Char} : isLetter c = true ↔ Letter c := by
  simp only [isLetter, Letter, Bool.or_eq_true, Bool.and_eq_true, decide_eq_true_eq]

theorem inName_iff {c : Char} : inName c = true ↔ OfName c := by
  simp only [inName, OfName, isDigit, Bool.or_eq_true, isLetter_iff, Bool.and_eq_true,
    decide_eq_true_eq, List.mem_cons, List.not_mem_nil, or_false, or_assoc]

theorem not_mem_name {first : Char} {rest : List Char} (letter : Letter first)
    (inside : ∀ c ∈ rest, OfName c) : '\n' ∉ first :: rest := by
  intro member
  rcases List.mem_cons.mp member with rfl | member
  · exact absurd (isLetter_iff.mpr letter) (by decide)
  · exact absurd (inName_iff.mpr (inside '\n' member)) (by decide)

theorem followsPattern_iff {name : String} : followsPattern name = true ↔ Patterned name := by
  have shaped {first : Char} {rest : List Char} :
      (isLetter first && rest.all inName) = true ↔ Letter first ∧ ∀ c ∈ rest, OfName c := by
    simp only [Bool.and_eq_true, List.all_eq_true, isLetter_iff, inName_iff]
  rw [followsPattern]
  constructor
  · intro follows
    split at follows
    · cases follows
    · next first rest shape =>
      obtain ⟨letter, inside⟩ := shaped.mp follows
      rcases withoutLineEnd_cases name.toList with whole | ends
      · rw [whole] at shape
        exact ⟨first, rest, [], by rw [shape, List.append_nil], letter, inside, .inl rfl⟩
      · rw [shape] at ends
        exact ⟨first, rest, ['\n'], ends, letter, inside, .inr rfl⟩
  · rintro ⟨first, rest, ending, shape, letter, inside, ends⟩
    have cut : withoutLineEnd name.toList = first :: rest := by
      rw [shape]
      rcases ends with rfl | rfl
      · rw [List.append_nil, withoutLineEnd_of_not_mem (not_mem_name letter inside)]
      · exact withoutLineEnd_append _
    rw [cut]
    exact shaped.mpr ⟨letter, inside⟩

theorem isLocked_eq_false_iff {name : String} :
    isLocked name = false ↔
      lower name ∉ ["port", "server.classname", "plugins.count"] ∧
        ¬ "plugins.".toList <+: (lower name).toList := by
  rw [isLocked, Bool.or_eq_false_iff, decide_eq_false_iff_not, ← Bool.not_eq_true,
    List.isPrefixOf_iff_prefix]
  rfl

/-! Values. -/

/-- Texts under names that may be kept. -/
structure Acceptable (entries : Overrides) : Prop where
  named : ∀ entry ∈ entries, Patterned entry.1
  free : ∀ entry ∈ entries, lower entry.1 ∉ ["port", "server.classname", "plugins.count"] ∧
    ¬ "plugins.".toList <+: (lower entry.1).toList
  distinct : entries.Pairwise fun entry later => lower entry.1 ≠ lower later.1
  unrepeated : ∀ entry ∈ entries, lower entry.1 ∈ ["resources.boards", "resources.pieces"] →
    (splitTokens entry.2).Nodup

theorem acceptable_iff {entries : Overrides} :
    Acceptable entries ↔
      Accepted entries ∧ ∀ entry ∈ entries, ∃ kept, tidy entry = .ok kept := by
  have distinct : (foldedNames entries).Nodup ↔
      entries.Pairwise fun entry later => lower entry.1 ≠ lower later.1 := List.pairwise_map
  have clean {entry : String × String} : (∃ kept, tidy entry = .ok kept) ↔
      (lower entry.1 ∈ ["resources.boards", "resources.pieces"] →
        (splitTokens entry.2).Nodup) := by
    simp only [tidy_eq_ok_iff, exists_and_left, exists_eq, and_true]
  constructor
  · rintro ⟨named, free, apart, unrepeated⟩
    refine ⟨⟨fun entry member => ?_, fun entry member => ?_, distinct.mpr apart⟩,
      fun entry member => clean.mpr (unrepeated entry member)⟩
    · exact followsPattern_iff.mpr (named entry member)
    · exact isLocked_eq_false_iff.mpr (free entry member)
  · rintro ⟨accepted, tidied⟩
    refine ⟨fun entry member => ?_, fun entry member => ?_, distinct.mp accepted.distinct,
      fun entry member => clean.mp (tidied entry member)⟩
    · exact followsPattern_iff.mp (accepted.named entry member)
    · exact isLocked_eq_false_iff.mp (accepted.free entry member)

theorem exists_toJson_of_validate {value : Json} {overrides : Overrides}
    (valid : validate value = .ok overrides) : ∃ entries : Overrides, value = entries.toJson := by
  unfold validate at valid
  split at valid
  · next fields =>
    obtain ⟨named, texts, -⟩ := validateMapping_eq_ok_iff.mp valid
    refine ⟨named, congrArg Json.object ?_⟩
    have injective (field other : String × Json)
        (same : (Json.string field.1, field.2) = (Json.string other.1, other.2)) :
        field = other := by
      cases field
      cases other
      cases same
      rfl
    exact (List.map_inj_right injective).mp (texts.trans (map_string_toJson named).symm)
  · cases valid

/-- A value is accepted exactly if it is an object of texts that may be kept. What is kept of it has
the names and the order of the value, and it is kept as it is when it is given again. -/
theorem validate_accepts (value : Json) (overrides : Overrides) :
    (validate value = .ok overrides ↔
      ∃ entries : Overrides, value = entries.toJson ∧ Acceptable entries ∧
        overrides = entries.map respaced) ∧
    (validate value = .ok overrides → validate overrides.toJson = .ok overrides) := by
  refine ⟨⟨fun valid => ?_, ?_⟩, fun valid => (settled_of_validate valid).validate_eq⟩
  · obtain ⟨entries, rfl⟩ := exists_toJson_of_validate valid
    obtain ⟨accepted, tidied, rfl⟩ := validate_toJson_eq_ok_iff.mp valid
    exact ⟨entries, rfl, acceptable_iff.mpr ⟨accepted, tidied⟩, tidyEntries_eq tidied⟩
  · rintro ⟨entries, rfl, acceptable, rfl⟩
    obtain ⟨accepted, tidied⟩ := acceptable_iff.mp acceptable
    exact validate_toJson_eq_ok_iff.mpr ⟨accepted, tidied, (tidyEntries_eq tidied).symm⟩

/-- A list of tokens under its name in any case, and a name that ends in a line end. -/
example :
    (validate (.object [("Resources.Boards", .string " winter\tslate "),
      ("theme\n", .string " dark ")])).toOption =
      some [("Resources.Boards", "winter slate"), ("theme\n", " dark ")] := by
  decide +kernel

end Overrides

end AppletPage
