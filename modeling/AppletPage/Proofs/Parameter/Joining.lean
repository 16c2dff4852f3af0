import AppletPage.Proofs.Parameter.Token

/-! Which lists of tokens are joined, and which token of any other list is refused. Joining and
splitting undo each other. -/

namespace AppletPage

open Text

namespace Text

/-- A text and its words: the longest runs without blanks. -/
inductive Parted : List Char → List (List Char) → Prop where
  | done : Parted [] []
  | blank {c : Char} {text : List Char} {words : List (List Char)} (blank : isBlank c = true)
      (parted : Parted text words) : Parted (c :: text) words
  | word {word text : List Char} {words : List (List Char)} (nonempty : word ≠ [])
      (clean : ∀ c ∈ word, isBlank c = false) (ended : ∀ c ∈ text.head?, isBlank c = true)
      (parted : Parted text words) : Parted (word ++ text) (word :: words)

theorem parted_wordsFrom {before : List Char} (clean : ∀ c ∈ before, isBlank c = false)
    (text : List Char) : Parted (before.reverse ++ text) (wordsFrom before text) := by
  have unstarted : ∀ c ∈ ([] : List Char), isBlank c = false := List.forall_mem_nil _
  induction text generalizing before with
  | nil =>
      rw [wordsFrom]
      split
      · next empty =>
        rw [List.isEmpty_iff.mp empty]
        exact .done
      · next begun =>
        obtain ⟨nonempty, clean⟩ := clean_reverse begun clean
        exact .word nonempty clean (by simp) .done
  | cons c rest ih =>
      rw [wordsFrom]
      split
      · next blank =>
        have others : Parted (c :: rest) (wordsFrom [] rest) := .blank blank (ih unstarted)
        split
        · next empty =>
          rw [List.isEmpty_iff.mp empty]
          exact others
        · next begun =>
          obtain ⟨nonempty, clean⟩ := clean_reverse begun clean
          refine .word nonempty clean (fun next first => ?_) others
          cases first
          exact blank
      · next plain =>
        rw [Bool.not_eq_true] at plain
        have longer := ih (List.forall_mem_cons.mpr ⟨plain, clean⟩)
        rwa [List.reverse_cons, List.append_assoc] at longer

end Text

theorem parted_splitTokens (value : String) :
    Parted value.toList ((splitTokens value).map String.toList) := by
  have same : (splitTokens value).map String.toList = wordsFrom [] value.toList := by
    simp [splitTokens, words, Function.comp_def]
  rw [same]
  exact @parted_wordsFrom [] (List.forall_mem_nil _) value.toList

namespace Token

structure Whole (token : String) : Prop where
  nonempty : token ≠ ""
  unbroken : ∀ c ∈ token.toList, isBlank c = false

structure Joinable (tokens : List String) : Prop where
  whole : ∀ token ∈ tokens, Whole token
  distinct : tokens.Nodup

/-- What is wrong with a token that stands behind others. -/
inductive Offends (before : List String) (token : String) : ParameterError → Prop where
  | broken (unfit : ¬ Whole token) : Offends before token (.invalidToken token)
  | repeated (whole : Whole token) (again : token ∈ before) :
      Offends before token (.duplicateToken token)

/-- What is wrong with the first token of a list that offends. -/
inductive FirstOffence : List String → ParameterError → Prop where
  | behind {before after : List String} {token : String} {error : ParameterError}
      (joinable : Joinable before) (offends : Offends before token error) :
      FirstOffence (before ++ token :: after) error

theorem isToken_iff_whole {token : String} : isToken token = true ↔ Whole token := by
  rw [isToken_iff]
  constructor
  · rintro ⟨filled, unbroken⟩
    refine ⟨fun empty => ?_, unbroken⟩
    rw [empty] at filled
    exact filled rfl
  · rintro ⟨nonempty, unbroken⟩
    exact ⟨fun empty => nonempty (String.toList_inj.mp empty), unbroken⟩

variable {seen tokens : List String} {token : String} {error : ParameterError}

theorem check_eq_ok_iff :
    check seen tokens = .ok () ↔ Joinable tokens ∧ ∀ token ∈ tokens, token ∉ seen := by
  constructor
  · intro checked
    obtain ⟨distinct, apart⟩ := nodup_of_check checked
    refine ⟨⟨fun token member => ?_, distinct⟩, apart⟩
    exact isToken_iff_whole.mp (isToken_of_check checked token member)
  · rintro ⟨joinable, apart⟩
    refine check_of_nodup (fun token member => ?_) joinable.distinct apart
    exact isToken_iff_whole.mpr (joinable.whole token member)

theorem check_singleton_eq_error_iff :
    check seen [token] = .error error ↔ Offends seen token error := by
  rw [check]
  by_cases whole : isToken token = true
  · have fit := isToken_iff_whole.mp whole
    rw [whole, if_neg (by decide)]
    by_cases old : token ∈ seen
    · rw [if_pos old]
      constructor
      · intro same
        cases same
        exact .repeated fit old
      · intro offends
        cases offends with
        | broken unfit => exact absurd fit unfit
        | repeated _ _ => rfl
    · rw [if_neg old, check]
      refine iff_of_false (by simp) fun offends => ?_
      cases offends with
      | broken unfit => exact unfit fit
      | repeated _ again => exact old again
  · have unfit : ¬ Whole token := fun fit => whole (isToken_iff_whole.mpr fit)
    rw [Bool.not_eq_true] at whole
    rw [whole, if_pos (by decide)]
    constructor
    · intro same
      cases same
      exact .broken unfit
    · intro offends
      cases offends with
      | broken _ => rfl
      | repeated fit _ => exact absurd fit unfit

theorem check_append (before after : List String) :
    check seen (before ++ after) =
      (check seen before).bind fun _ => check (before.reverse ++ seen) after := by
  induction before generalizing seen with
  | nil => rfl
  | cons first rest ih =>
      simp only [List.cons_append, check, ih, List.reverse_cons, List.append_assoc,
        List.nil_append]
      split
      · rfl
      · split
        · rfl
        · rfl

theorem exists_first_refused (refused : check seen tokens = .error error) :
    ∃ before token after, tokens = before ++ token :: after ∧ check seen before = .ok () ∧
      check (before.reverse ++ seen) [token] = .error error := by
  induction tokens generalizing seen with
  | nil => cases refused
  | cons first rest ih =>
      -- Either the first token is refused alone, or it is seen by the others.
      have parts := @check_append seen [first] rest
      rw [List.singleton_append, refused] at parts
      cases alone : check seen [first] with
      | error other =>
          rw [alone] at parts
          cases parts
          exact ⟨[], first, rest, rfl, rfl, alone⟩
      | ok done =>
          rw [alone] at parts
          obtain ⟨before, token, after, rfl, checked, found⟩ := ih parts.symm
          refine ⟨first :: before, token, after, rfl, ?_, ?_⟩
          · have together := @check_append seen [first] before
            rw [alone] at together
            exact together.trans checked
          · rwa [List.reverse_cons, List.append_assoc]

theorem Offends.congr {before other : List String}
    (same : ∀ token, token ∈ before ↔ token ∈ other) (offends : Offends before token error) :
    Offends other token error := by
  cases offends with
  | broken unfit => exact .broken unfit
  | repeated whole again => exact .repeated whole ((same token).mp again)

theorem FirstOffence.ne_duplicateName (offence : FirstOffence tokens error) (name : String) :
    error ≠ .duplicateName name := by
  cases offence with
  | behind _ offends => cases offends <;> exact nofun

theorem check_eq_error_iff : check [] tokens = .error error ↔ FirstOffence tokens error := by
  constructor
  · intro refused
    obtain ⟨before, token, after, rfl, checked, found⟩ := exists_first_refused refused
    rw [List.append_nil, check_singleton_eq_error_iff] at found
    exact .behind (check_eq_ok_iff.mp checked).1 (found.congr fun _ => List.mem_reverse)
  · rintro ⟨joinable, offends⟩
    rename_i before after token
    have checked : check [] before = .ok () :=
      check_eq_ok_iff.mpr ⟨joinable, fun _ _ => List.not_mem_nil⟩
    have alone : check before.reverse [token] = .error error :=
      check_singleton_eq_error_iff.mpr (offends.congr fun _ => List.mem_reverse.symm)
    rw [check_append, checked, ← List.singleton_append, List.append_nil]
    change check before.reverse ([token] ++ after) = .error error
    rw [check_append, alone]
    rfl

end Token

theorem joinTokens_eq_ok_iff {tokens : List String} {value : String} :
    joinTokens tokens = .ok value ↔ Token.Joinable tokens ∧ value = Token.spaced tokens := by
  have checks := @Token.check_eq_ok_iff [] tokens
  rw [joinTokens]
  constructor
  · intro joined
    split at joined
    · cases joined
    · next checked =>
      cases joined
      exact ⟨(checks.mp checked).1, rfl⟩
  · rintro ⟨joinable, rfl⟩
    rw [checks.mpr ⟨joinable, fun _ _ => List.not_mem_nil⟩]

theorem joinTokens_eq_error_iff {tokens : List String} {error : ParameterError} :
    joinTokens tokens = .error error ↔ Token.FirstOffence tokens error := by
  rw [joinTokens, ← Token.check_eq_error_iff]
  cases Token.check [] tokens with
  | error other => simp only [Except.error.injEq]
  | ok done => simp only [reduceCtorEq]

theorem joinable_iff {tokens : List String} :
    Token.Joinable tokens ↔ ∃ value, joinTokens tokens = .ok value := by
  simp only [joinTokens_eq_ok_iff, exists_and_left, exists_eq, and_true]

/-- A list is joined exactly if all its tokens are whole and distinct, and else refused for the
first token that offends; what is joined is split into the very list. A value is split into its
words. They are joined again exactly if none is repeated, and the result stays as it is. -/
theorem joinTokens_outcome (tokens : List String) (value : String) :
    (∀ joined, joinTokens tokens = .ok joined ↔
      Token.Joinable tokens ∧ joined = String.intercalate " " tokens) ∧
    (∀ error, joinTokens tokens = .error error ↔ Token.FirstOffence tokens error) ∧
    (∀ joined, joinTokens tokens = .ok joined → splitTokens joined = tokens) ∧
    Parted value.toList ((splitTokens value).map String.toList) ∧
    ((∃ joined, joinTokens (splitTokens value) = .ok joined) ↔ (splitTokens value).Nodup) ∧
    ∀ joined, joinTokens (splitTokens value) = .ok joined →
      splitTokens joined = splitTokens value ∧
        joinTokens (splitTokens joined) = .ok joined := by
  refine ⟨fun joined => joinTokens_eq_ok_iff, fun error => joinTokens_eq_error_iff,
    fun joined => splitTokens_of_joinTokens, parted_splitTokens value, ?_, ?_⟩
  · simp only [joinTokens_splitTokens_eq_ok_iff, exists_and_left, exists_eq, and_true]
  · intro joined done
    have same := splitTokens_of_joinTokens done
    exact ⟨same, by rw [same, done]⟩

/-- Blanks of every kind stand between tokens; a space of no width is none of them. -/
example :
    splitTokens "\x1cplain\u0085slate\u2028\u3000win\u200bter " =
      ["plain", "slate", "win\u200bter"] := by
  decide +kernel

end AppletPage
