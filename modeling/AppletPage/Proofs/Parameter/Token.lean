import AppletPage.Parameter.Token

/-! Lists of tokens: what is joined is split again into the same tokens. -/

namespace AppletPage

open Text

namespace Text

/-! Words. -/

theorem isBlank_space : isBlank ' ' = true := by decide

theorem wordsFrom_append {word : List Char} (clean : ∀ c ∈ word, isBlank c = false)
    (before rest : List Char) :
    wordsFrom before (word ++ rest) = wordsFrom (word.reverse ++ before) rest := by
  induction word generalizing before with
  | nil => rfl
  | cons c others ih =>
      rw [List.cons_append, wordsFrom, clean c List.mem_cons_self, if_neg Bool.false_ne_true,
        ih fun other member => clean other (List.mem_cons_of_mem c member)]
      rw [List.reverse_cons, List.append_assoc, List.singleton_append]

theorem wordsFrom_last {word : List Char} (nonempty : word ≠ [])
    (clean : ∀ c ∈ word, isBlank c = false) : wordsFrom [] word = [word] := by
  have parts := wordsFrom_append clean [] []
  rw [List.append_nil, List.append_nil, wordsFrom, List.reverse_reverse] at parts
  rw [parts, if_neg]
  rw [Bool.not_eq_true, List.isEmpty_eq_false_iff]
  exact fun empty => nonempty (List.reverse_eq_nil_iff.mp empty)

theorem wordsFrom_space {word : List Char} (nonempty : word ≠ [])
    (clean : ∀ c ∈ word, isBlank c = false) (rest : List Char) :
    wordsFrom [] (word ++ ' ' :: rest) = word :: wordsFrom [] rest := by
  rw [wordsFrom_append clean, List.append_nil, wordsFrom, isBlank_space, if_pos rfl, if_neg,
    List.reverse_reverse]
  rw [Bool.not_eq_true, List.isEmpty_eq_false_iff]
  exact fun empty => nonempty (List.reverse_eq_nil_iff.mp empty)

theorem clean_reverse {word : List Char} (nonempty : ¬ word.isEmpty = true)
    (clean : ∀ c ∈ word, isBlank c = false) :
    word.reverse ≠ [] ∧ ∀ c ∈ word.reverse, isBlank c = false :=
  ⟨fun none => nonempty (List.isEmpty_iff.mpr (List.reverse_eq_nil_iff.mp none)),
    fun c inside => clean c (List.mem_reverse.mp inside)⟩

theorem clean_of_mem_wordsFrom {before text word : List Char}
    (clean : ∀ c ∈ before, isBlank c = false) (member : word ∈ wordsFrom before text) :
    word ≠ [] ∧ ∀ c ∈ word, isBlank c = false := by
  induction text generalizing before with
  | nil =>
      rw [wordsFrom] at member
      split at member
      · cases member
      · next nonempty =>
        cases List.mem_singleton.mp member
        exact clean_reverse nonempty clean
  | cons c rest ih =>
      have later (inside : word ∈ wordsFrom [] rest) :=
        ih (fun _ none => absurd none List.not_mem_nil) inside
      rw [wordsFrom] at member
      split at member
      · split at member
        · exact later member
        · next nonempty =>
          rcases List.mem_cons.mp member with rfl | member
          · exact clean_reverse nonempty clean
          · exact later member
      · next plain =>
        have unblank : isBlank c = false := by simpa using plain
        exact ih (List.forall_mem_cons.mpr ⟨unblank, clean⟩) member

end Text

theorem isToken_iff {token : String} :
    isToken token = true ↔ token.toList ≠ [] ∧ ∀ c ∈ token.toList, isBlank c = false := by
  rw [isToken, Bool.and_eq_true, decide_eq_true_eq, Bool.not_eq_true', hasBlank,
    List.any_eq_false]
  refine and_congr (not_congr ⟨?_, ?_⟩) (by simp)
  · rintro rfl
    rfl
  · exact fun empty => String.toList_inj.mp empty

theorem isToken_of_mem_splitTokens {value token : String} (member : token ∈ splitTokens value) :
    isToken token = true := by
  obtain ⟨word, inside, rfl⟩ := List.mem_map.mp member
  rw [isToken_iff, String.toList_ofList]
  exact clean_of_mem_wordsFrom (fun _ none => absurd none List.not_mem_nil) inside

namespace Token

theorem isToken_of_check {seen tokens : List String} (checked : check seen tokens = .ok ()) :
    ∀ token ∈ tokens, isToken token = true := by
  induction tokens generalizing seen with
  | nil => exact fun token member => absurd member List.not_mem_nil
  | cons first rest ih =>
      rw [check] at checked
      split at checked
      · cases checked
      · next isOne =>
        split at checked
        · cases checked
        · intro token member
          rcases List.mem_cons.mp member with rfl | member
          · simpa using isOne
          · exact ih checked token member

theorem nodup_of_check {seen tokens : List String} (checked : check seen tokens = .ok ()) :
    tokens.Nodup ∧ ∀ token ∈ tokens, token ∉ seen := by
  induction tokens generalizing seen with
  | nil => exact ⟨List.nodup_nil, nofun⟩
  | cons first rest ih =>
      rw [check] at checked
      split at checked
      · cases checked
      · split at checked
        · cases checked
        · next fresh =>
          obtain ⟨distinct, apart⟩ := ih checked
          refine ⟨List.nodup_cons.mpr ⟨fun again => ?_, distinct⟩, ?_⟩
          · exact apart first again List.mem_cons_self
          · refine List.forall_mem_cons.mpr ⟨fresh, fun token member old => ?_⟩
            exact apart token member (List.mem_cons_of_mem first old)

theorem check_of_nodup {seen tokens : List String} (all : ∀ token ∈ tokens, isToken token = true)
    (distinct : tokens.Nodup) (apart : ∀ token ∈ tokens, token ∉ seen) :
    check seen tokens = .ok () := by
  induction tokens generalizing seen with
  | nil => rfl
  | cons first rest ih =>
      obtain ⟨isOne, others⟩ := List.forall_mem_cons.mp all
      obtain ⟨fresh, later⟩ := List.forall_mem_cons.mp apart
      obtain ⟨new, distinct⟩ := List.nodup_cons.mp distinct
      rw [check, isOne, if_neg (by decide), if_neg fresh]
      refine ih others distinct fun token member old => ?_
      rcases List.mem_cons.mp old with rfl | old
      · exact new member
      · exact later token member old

theorem words_spaced {tokens : List String} (all : ∀ token ∈ tokens, isToken token = true) :
    words (spaced tokens) = tokens := by
  have space : " ".toList = [' '] := rfl
  rw [words, spaced, String.toList_intercalate, space]
  induction tokens with
  | nil => rfl
  | cons token rest ih =>
      obtain ⟨nonempty, clean⟩ := isToken_iff.mp (all token List.mem_cons_self)
      have others := ih fun other member => all other (List.mem_cons_of_mem token member)
      cases rest with
      | nil =>
          rw [List.map_singleton, List.intercalate_singleton, wordsFrom_last nonempty clean,
            List.map_singleton, String.ofList_toList]
      | cons next more =>
          rw [List.map_cons] at others
          rw [List.map_cons, List.map_cons, List.intercalate_cons_cons, List.append_assoc,
            List.singleton_append, wordsFrom_space nonempty clean, List.map_cons,
            String.ofList_toList, others]

end Token

theorem splitTokens_of_joinTokens {tokens : List String} {value : String}
    (joined : joinTokens tokens = .ok value) : splitTokens value = tokens := by
  rw [joinTokens] at joined
  cases checked : Token.check [] tokens with
  | error error => rw [checked] at joined; cases joined
  | ok _ =>
      rw [checked] at joined
      cases joined
      exact Token.words_spaced (Token.isToken_of_check checked)

theorem nodup_of_joinTokens {tokens : List String} {value : String}
    (joined : joinTokens tokens = .ok value) : tokens.Nodup := by
  rw [joinTokens] at joined
  cases checked : Token.check [] tokens with
  | error error => rw [checked] at joined; cases joined
  | ok _ => exact (Token.nodup_of_check checked).1

theorem joinTokens_splitTokens_eq_ok_iff {value joined : String} :
    joinTokens (splitTokens value) = .ok joined ↔
      (splitTokens value).Nodup ∧ joined = Token.spaced (splitTokens value) := by
  constructor
  · intro done
    refine ⟨nodup_of_joinTokens done, ?_⟩
    rw [joinTokens] at done
    split at done
    · cases done
    · cases done
      rfl
  · rintro ⟨distinct, rfl⟩
    have checked := @Token.check_of_nodup [] _
      (fun _ member => isToken_of_mem_splitTokens member) distinct fun _ _ => List.not_mem_nil
    rw [joinTokens, checked]

end AppletPage
