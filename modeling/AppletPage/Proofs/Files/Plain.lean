import AppletPage.Files.Resolve

/-! Plain names: absolute ones without pairs of points. What is resolved is such a name. -/

namespace AppletPage

namespace Pathname

structure IsPlain (path : Pathname) : Prop where
  absolute : path.isAbsolute = true
  noUps : ".." ∉ path.parts

variable {path : Pathname}

theorem IsPlain.child (plain : path.IsPlain) {name : String} (noUp : name ≠ "..") :
    (path.child name).IsPlain := by
  refine ⟨plain.absolute, fun member => ?_⟩
  rcases List.mem_append.mp member with above | last
  · exact plain.noUps above
  · exact noUp (List.mem_singleton.mp last).symm

theorem noUps_foldl {before parts : List String} (clean : ".." ∉ before) :
    ".." ∉ parts.foldl (fun parts part => if part = ".." then parts.dropLast else parts ++ [part])
      before := by
  induction parts generalizing before with
  | nil => exact clean
  | cons part rest ih =>
      rw [List.foldl_cons]
      apply ih
      split
      · exact fun member => clean (List.dropLast_subset before member)
      · next noUp =>
        intro member
        rcases List.mem_append.mp member with old | new
        · exact clean old
        · exact noUp (List.mem_singleton.mp new).symm

theorem foldl_of_noUps {before parts : List String} (clean : ".." ∉ parts) :
    parts.foldl (fun parts part => if part = ".." then parts.dropLast else parts ++ [part])
      before = before ++ parts := by
  induction parts generalizing before with
  | nil => exact (List.append_nil before).symm
  | cons part rest ih =>
      have noUp : part ≠ ".." := fun same => clean (same ▸ List.mem_cons_self)
      rw [List.foldl_cons, if_neg noUp, ih fun member => clean (List.mem_cons_of_mem part member),
        List.append_assoc, List.singleton_append]

theorem isPlain_withoutUps (absolute : path.isAbsolute = true) : path.withoutUps.IsPlain :=
  ⟨absolute, noUps_foldl List.not_mem_nil⟩

theorem IsPlain.withoutUps_eq (plain : path.IsPlain) : path.withoutUps = path := by
  rw [withoutUps, foldl_of_noUps plain.noUps, List.nil_append]

end Pathname

namespace Files

variable {files : Files} {path name : Pathname}

theorem isPlain_of_absolute (absolute : files.absolute path = .ok name) : name.IsPlain := by
  rw [Files.absolute] at absolute
  split at absolute
  · next rooted =>
    cases absolute
    exact Pathname.isPlain_withoutUps rooted
  · split at absolute
    · cases absolute
    · cases absolute
      refine Pathname.isPlain_withoutUps ?_
      next relative _ =>
      rw [Pathname.join, if_neg relative]
      rfl

theorem absolute_of_isPlain (files : Files) (plain : path.IsPlain) :
    files.absolute path = .ok path := by
  rw [Files.absolute, plain.absolute, if_pos rfl, plain.withoutUps_eq]

/-- A name is resolved if resolving its text comes to an end, with something that has an absolute
form and does not lead through too many links. -/
theorem resolve_eq_ok_iff :
    files.resolve path = .ok name ↔
      hasZero path = false ∧ ∃ opened resolved,
        resolveDeep files nestingLimit [] ⟨.none, []⟩ path.toText = some (opened, resolved) ∧
        files.absolute resolved.path = .ok name ∧ files.locate name ≠ .nowhere .tooManyLinks := by
  rw [resolve]
  cases hasZero path with
  | true => exact iff_of_false nofun fun given => nomatch given.1
  | false =>
      rw [if_neg Bool.false_ne_true]
      cases resolveDeep files nestingLimit [] ⟨.none, []⟩ path.toText with
      | none => exact iff_of_false nofun fun ⟨_, _, _, found, _⟩ => nomatch found
      | some outcome =>
          obtain ⟨opened, resolved⟩ := outcome
          dsimp only
          cases formed : files.absolute resolved.path with
          | error error =>
              refine iff_of_false nofun fun ⟨_, _, _, found, given, _⟩ => ?_
              cases found
              rw [formed] at given
              cases given
          | ok given =>
              simp only [bind, Except.bind]
              constructor
              · intro resolved
                split at resolved
                · cases resolved
                · next apart =>
                  cases resolved
                  exact ⟨trivial, _, _, rfl, formed, apart⟩
              · rintro ⟨-, _, _, found, given', apart⟩
                cases found
                rw [formed] at given'
                cases given'
                split
                · next lost => exact absurd lost apart
                · rfl

theorem isPlain_of_resolve (resolved : files.resolve path = .ok name) : name.IsPlain := by
  obtain ⟨-, _, _, -, formed, -⟩ := resolve_eq_ok_iff.mp resolved
  exact isPlain_of_absolute formed

end Files

end AppletPage
