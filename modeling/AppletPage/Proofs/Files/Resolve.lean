import AppletPage.Proofs.Files.Link
import AppletPage.Proofs.Files.Plain

/-! Resolving names. It asks of the files only what links there are at the names that it comes
upon, so it gives the same for two file systems that have the same links at those. -/

namespace AppletPage

open Text

namespace Files

variable {good loose : Pathname → Prop} {a b files : Files} {path name here : Pathname}
  {opened : Opened}

structure IsPiece (piece : String) : Prop where
  nonempty : piece ≠ ""
  noPoint : piece ≠ "."
  noUp : piece ≠ ".."

/-- Two file systems have the same links at all entries of good names. From the root on, resolving
comes upon good names, and ends with a loose one where a link leads back to itself. -/
structure SameLinks (good loose : Pathname → Prop) (a b : Files) : Prop where
  root : good (Pathname.ofAbsolute [])
  above : ∀ path, good path → good path.above
  same : ∀ path piece, good path → IsPiece piece →
    a.linkAt? (path.child piece) = b.linkAt? (path.child piece)
  child : ∀ path piece, good path → IsPiece piece → a.linkAt? (path.child piece) = none →
    good (path.child piece)
  stuck : ∀ path piece, good path → loose (path.child piece)
  further : ∀ path rest, loose path → loose (unresolved path rest)

/-- What opened links lead to is good. -/
def Known (good : Pathname → Prop) (opened : Opened) : Prop :=
  ∀ name path, Mapping.get? opened name = some (some path) → good path

theorem Known.put {result : Option Pathname} (known : Known good opened)
    (fits : ∀ path, result = some path → good path) (name : Pathname) :
    Known good (Mapping.put opened name result) := by
  intro other path there
  rw [Mapping.get?_put] at there
  split at there
  · exact fits path (Option.some.inj there)
  · exact known other path there

/-- What resolving comes to: with a good name, unless it is stuck. -/
def Fair (good loose : Pathname → Prop) : Option (Opened × Resolved) → Prop
  | none => True
  | some (opened, resolved) =>
      Known good opened ∧ if resolved.closed then good resolved.path else loose resolved.path

theorem resolvePieces_cons {enter : Opened → Pathname → String → Option (Opened × Resolved)}
    {piece : String} (named : IsPiece piece) (rest : List String) :
    resolvePieces files enter opened here (piece :: rest) =
      match files.linkAt? (here.child piece) with
      | none => resolvePieces files enter opened (here.child piece) rest
      | some target =>
          match Mapping.get? opened (here.child piece) with
          | some (some known) => resolvePieces files enter opened known rest
          | some none =>
              some (opened, { path := unresolved (here.child piece) rest, closed := false })
          | none =>
              match enter (Mapping.put opened (here.child piece) none) here target with
              | none => none
              | some (opened, inner) =>
                  if inner.closed then
                    resolvePieces files enter
                      (Mapping.put opened (here.child piece) (some inner.path)) inner.path rest
                  else
                    some (opened, { path := unresolved inner.path rest, closed := false }) := by
  rw [resolvePieces, if_neg (by simp [named.nonempty, named.noPoint]), if_neg named.noUp, linkAt?]
  dsimp only
  cases files.locate (here.child piece) .kept with
  | present place node => cases node <;> rfl
  | vacant directory last => rfl
  | nowhere cause => rfl

/-- Pieces are resolved alike, if the links that are met on the way are. -/
theorem resolvePieces_eq (links : SameLinks good loose a b)
    {enter enter' : Opened → Pathname → String → Option (Opened × Resolved)}
    (enters : ∀ opened here target, Known good opened → good here →
      enter opened here target = enter' opened here target ∧
        Fair good loose (enter opened here target))
    (known : Known good opened) (fits : good here) (pieces : List String) :
    resolvePieces a enter opened here pieces = resolvePieces b enter' opened here pieces ∧
      Fair good loose (resolvePieces a enter opened here pieces) := by
  induction pieces generalizing opened here with
  | nil => exact ⟨rfl, known, fits⟩
  | cons piece rest ih =>
      by_cases skipped : piece = "" ∨ piece = "."
      · rw [resolvePieces, if_pos skipped, resolvePieces, if_pos skipped]
        exact ih known fits
      by_cases up : piece = ".."
      · rw [resolvePieces, if_neg skipped, if_pos up, resolvePieces, if_neg skipped, if_pos up]
        exact ih known (links.above here fits)
      have named : IsPiece piece :=
        ⟨fun same => skipped (.inl same), fun same => skipped (.inr same), up⟩
      rw [resolvePieces_cons named, resolvePieces_cons named, ← links.same here piece fits named]
      cases linked : a.linkAt? (here.child piece) with
      | none => exact ih known (links.child here piece fits named linked)
      | some target =>
          dsimp only
          cases met : Mapping.get? opened (here.child piece) with
          | some found =>
              cases found with
              | some before => exact ih known (known _ before met)
              | none => exact ⟨rfl, known, links.further _ rest (links.stuck here piece fits)⟩
          | none =>
              have entering : Known good (Mapping.put opened (here.child piece) none) :=
                known.put (fun path same => by cases same) _
              obtain ⟨same, fair⟩ := enters _ here target entering fits
              dsimp only
              rw [← same]
              cases entered : enter (Mapping.put opened (here.child piece) none) here target with
              | none => exact ⟨rfl, trivial⟩
              | some outcome =>
                  obtain ⟨later, inner⟩ := outcome
                  rw [entered] at fair
                  dsimp only
                  cases closed : inner.closed with
                  | true =>
                      have ended : good inner.path := by
                        have fits := fair.2
                        rwa [closed, if_pos rfl] at fits
                      exact ih (fair.1.put (fun path same => Option.some.inj same ▸ ended) _) ended
                  | false =>
                      have ended : loose inner.path := by
                        have fits := fair.2
                        rwa [closed, if_neg Bool.false_ne_true] at fits
                      exact ⟨rfl, fair.1, links.further _ rest ended⟩

theorem resolveDeep_eq (links : SameLinks good loose a b) (depth : Nat) (known : Known good opened)
    (here : Pathname) (text : String) (fits : text.toList.head? = some '/' ∨ good here) :
    resolveDeep a depth opened here text = resolveDeep b depth opened here text ∧
      Fair good loose (resolveDeep a depth opened here text) := by
  induction depth generalizing opened here text with
  | zero => exact ⟨rfl, trivial⟩
  | succ depth ih =>
      have start :
          good (if text.toList.head? = some '/' then Pathname.ofAbsolute [] else here) := by
        split
        · exact links.root
        · next relative => exact fits.resolve_left relative
      exact resolvePieces_eq links
        (fun opened here target known fits => ih known here target (.inr fits)) known start _

theorem known_nil : Known good [] := fun _ _ there => nomatch there

/-! Resolving an absolute name depends on what stands in the tree alone. -/

theorem head?_toText (absolute : path.isAbsolute = true) : path.toText.toList.head? = some '/' := by
  obtain ⟨root, parts⟩ := path
  cases root with
  | none => cases absolute
  | single => simp [Pathname.toText, Pathname.rootText]
  | double => simp [Pathname.toText, Pathname.rootText]

theorem isAbsolute_above (absolute : path.isAbsolute = true) : path.above.isAbsolute = true := by
  obtain ⟨root, parts⟩ := path
  cases root with
  | none => cases absolute
  | single => rfl
  | double => rfl

theorem isAbsolute_join {other : Pathname} (absolute : path.isAbsolute = true) :
    (path.join other).isAbsolute = true := by
  rw [Pathname.join]
  split
  · next whole => exact whole
  · exact absolute

theorem locate_congr (same : ∀ path, a.get? path = b.get? path)
    (absolute : path.isAbsolute = true) (ending : Ending) :
    a.locate path ending = b.locate path ending := by
  by_cases long : nameLimit < (Utf8.encode path.toText).length
  · rw [locate, if_pos long, locate, if_pos long]
  · rw [locate_absolute absolute long, locate_absolute absolute long, follow_congr same]

theorem sameLinks_of_tree (same : ∀ path, a.get? path = b.get? path) :
    SameLinks (·.isAbsolute = true) (·.isAbsolute = true) a b where
  root := rfl
  above := fun _ absolute => isAbsolute_above absolute
  same := by
    intro path piece absolute _
    have child : (path.child piece).isAbsolute = true := absolute
    rw [linkAt?, locate_congr same child, linkAt?]
  child := fun _ _ absolute _ _ => absolute
  stuck := fun _ _ absolute => absolute
  further := fun _ _ absolute => isAbsolute_join absolute

theorem resolve_congr (same : ∀ path, a.get? path = b.get? path)
    (absolute : path.isAbsolute = true) : a.resolve path = b.resolve path := by
  obtain ⟨alike, fair⟩ := resolveDeep_eq (sameLinks_of_tree same) nestingLimit
    known_nil ⟨.none, []⟩ path.toText (.inl (head?_toText absolute))
  rw [resolve, resolve, ← alike]
  cases found : resolveDeep a nestingLimit [] ⟨.none, []⟩ path.toText with
  | none => rfl
  | some outcome =>
      obtain ⟨opened, resolved⟩ := outcome
      rw [found] at fair
      have whole : resolved.path.isAbsolute = true := by
        have fits := fair.2
        split at fits
        · exact fits
        · exact fits
      have formed (files : Files) :
          files.absolute resolved.path = .ok resolved.path.withoutUps := by
        rw [Files.absolute, whole, if_pos rfl]
      have located := locate_congr same (Pathname.isPlain_withoutUps whole).absolute .followed
      simp only [formed, bind, Except.bind, located]

/-! Resolving a name again, after directories or files have come. -/

theorem sameLinks_of_grown (grown : Grown a b) (tree : a.IsTree) :
    SameLinks (Surveyed a b) (fun _ => True) a b where
  root := surveyed_of_empty rfl
  above := fun _ surveyed => surveyed.above
  same := fun _ _ surveyed named => surveyed.linkAt?_child grown tree named.noUp
  child := fun _ _ surveyed named free => surveyed.child grown tree named.noUp free
  stuck := fun _ _ _ => trivial
  further := fun _ _ _ => trivial

/-- A name that has been resolved, and stands as a directory since, is resolved to the same again.
-/
theorem resolve_of_grown (grown : Grown a b) (tree : a.IsTree)
    (resolved : a.resolve path = .ok name) (standing : b.isDirectory name = .ok true) :
    b.resolve path = .ok name := by
  obtain ⟨noZero, opened, found, deep, formed, -⟩ := resolve_eq_ok_iff.mp resolved
  obtain ⟨-, place, located⟩ := isDirectory_eq_true_iff.mp standing
  have alike := (resolveDeep_eq (sameLinks_of_grown grown tree) nestingLimit known_nil ⟨.none, []⟩
    path.toText (.inr (surveyed_of_empty rfl))).1
  refine resolve_eq_ok_iff.mpr ⟨noZero, opened, found, alike ▸ deep, ?_, ?_⟩
  · rw [← formed, Files.absolute, Files.absolute, grown.start.gone, grown.start.workingDirectory]
  · intro lost
    cases located.symm.trans lost

end Files

end AppletPage
