import AppletPage.Preference.User
import AppletPage.Proofs.Preference.Overrides
import AppletPage.Proofs.Text.Blank

/-! The characters of names: those of users, and those of the parameters that users override. -/

namespace AppletPage

open Text

namespace User

theorem eq_some_of_check {user? : Option String} {user : String}
    (checked : check user? = .ok user) : user? = some user ∧ isName user = true := by
  cases user? with
  | none => cases checked
  | some given =>
      rw [check] at checked
      split at checked
      · next named =>
        cases checked
        exact ⟨rfl, named⟩
      · cases checked

theorem chars_of_isName_of_whole {user : String} (named : isName user = true)
    (whole : withoutLineEnd user.toList = user.toList) :
    user ≠ "" ∧ user.toList.length ≤ nameLimit ∧ ∀ c ∈ user.toList, inName c = true := by
  simp only [isName, whole, Bool.and_eq_true, Bool.not_eq_true', decide_eq_true_eq,
    List.all_eq_true] at named
  obtain ⟨⟨filled, short⟩, inside⟩ := named
  refine ⟨fun empty => ?_, short, inside⟩
  rw [empty] at filled
  exact absurd filled (by decide)

theorem inName_of_trimmed {user : String} (named : isName user = true)
    (trimmed : trim user = user) :
    user ≠ "" ∧ ∀ c ∈ user.toList, inName c = true := by
  have chars : trimBy isBlank user.toList = user.toList := by
    have same := congrArg String.toList trimmed
    rwa [toList_trim] at same
  have whole : withoutLineEnd user.toList = user.toList := by
    rcases withoutLineEnd_cases user.toList with whole | ends
    · exact whole
    · rw [ends] at chars
      have kept : isBlank '\n' = false := kept_of_trimBy chars
      exact absurd kept (by decide)
  obtain ⟨filled, -, inside⟩ := chars_of_isName_of_whole named whole
  exact ⟨filled, inside⟩

theorem chars_of_isName {user : String} (named : isName user = true) :
    user.toList.length ≤ nameLimit + 1 ∧ ∀ c ∈ user.toList, inName c = true ∨ c = '\n' := by
  simp only [isName, Bool.and_eq_true, decide_eq_true_eq, List.all_eq_true] at named
  obtain ⟨⟨-, short⟩, inside⟩ := named
  rcases withoutLineEnd_cases user.toList with whole | ends
  · rw [whole] at short inside
    exact ⟨Nat.le_succ_of_le short, fun c member => .inl (inside c member)⟩
  · rw [ends, List.length_append]
    refine ⟨Nat.succ_le_succ short, fun c member => ?_⟩
    rcases List.mem_append.mp member with member | last
    · exact .inl (inside c member)
    · exact .inr (List.mem_singleton.mp last)

theorem toNat_of_inName {c : Char} (h : inName c = true) : 0x20 < c.toNat ∧ c.toNat < 0x80 := by
  simp only [inName, Bool.or_eq_true, decide_eq_true_eq] at h
  rcases h with ((letter | digit) | rfl) | rfl
  · have bounds := toNat_of_isLetter letter
    omega
  · have bounds := toNat_of_isDigit digit
    omega
  · decide
  · decide

theorem toNat_of_isName {user : String} (named : isName user = true) :
    ∀ c ∈ user.toList, c.toNat ≠ 0 ∧ c.toNat < 0x80 := by
  intro c member
  rcases (chars_of_isName named).2 c member with inside | rfl
  · have bounds := toNat_of_inName inside
    omega
  · decide

end User

namespace Overrides

theorem toNat_of_inName {c : Char} (h : inName c = true) : 0x20 < c.toNat ∧ c.toNat < 0x80 := by
  simp only [inName, Bool.or_eq_true, decide_eq_true_eq] at h
  rcases h with (((letter | digit) | rfl) | rfl) | rfl
  · have bounds := toNat_of_isLetter letter
    omega
  · have bounds := toNat_of_isDigit digit
    omega
  · decide
  · decide
  · decide

/-- A name that follows the pattern may have a line end beside the characters of the pattern. -/
theorem chars_of_followsPattern {name : String} (follows : followsPattern name = true) :
    ∀ c ∈ name.toList, inName c = true ∨ c = '\n' := by
  rw [followsPattern] at follows
  have inside : ∀ c ∈ withoutLineEnd name.toList, inName c = true := by
    intro c member
    split at follows
    · cases follows
    · next first rest shape =>
      simp only [Bool.and_eq_true, List.all_eq_true] at follows
      rw [shape] at member
      rcases List.mem_cons.mp member with rfl | member
      · simp only [inName, follows.1, Bool.true_or]
      · exact follows.2 c member
  intro c member
  rcases withoutLineEnd_cases name.toList with whole | ends
  · rw [← whole] at member
    exact .inl (inside c member)
  · rw [ends] at member
    rcases List.mem_append.mp member with member | last
    · exact .inl (inside c member)
    · exact .inr (List.mem_singleton.mp last)

theorem hasBlank_iff_of_followsPattern {name : String} (follows : followsPattern name = true) :
    hasBlank name = true ↔ '\n' ∈ name.toList := by
  rw [hasBlank, List.any_eq_true]
  constructor
  · rintro ⟨c, member, blank⟩
    rcases chars_of_followsPattern follows c member with inside | rfl
    · have bounds := toNat_of_inName inside
      rw [isBlank_of_visible bounds.1 (by omega)] at blank
      cases blank
    · exact member
  · exact fun member => ⟨'\n', member, by decide⟩

theorem ascii_of_followsPattern {name : String} (follows : followsPattern name = true) :
    ∀ c ∈ name.toList, c.toNat < 0x80 := by
  intro c member
  rcases chars_of_followsPattern follows c member with inside | rfl
  · exact (toNat_of_inName inside).2
  · decide

end Overrides

end AppletPage
