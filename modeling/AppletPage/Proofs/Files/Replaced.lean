import AppletPage.Proofs.Files.Locate

/-! Where names lead once a file has taken the place of what was at an entry. A name that leads
through a link which the file has replaced leads nowhere any more. -/

namespace AppletPage.Files

open Text

/-- From some files to others, a file has come to an entry, and the ways that do not lead through
what was there are kept. -/
structure ReplacedAt (entry : Path) (a b : Files) : Prop where
  file : ∃ content, b.get? entry = some (.file content)
  others : ∀ path node, path ≠ entry → a.get? path = some node → ¬ node.IsFile →
    b.get? path = some node
  start : SameStart a b

variable {a b : Files} {entry place here there : Path} {links left : Nat} {slash slash' : Bool}
  {parts parts' : List String}

theorem Walk.replaced (walk : Walk a here parts there) (replaced : ReplacedAt entry a b)
    (free : a.get? entry ≠ some .directory) : Walk b here parts there := by
  induction walk with
  | nil => exact .nil
  | point walk ih => exact .point ih
  | up walk ih => exact .up ih
  | name named found walk ih =>
      refine .name named (replaced.others _ _ ?_ found id) ih
      rintro rfl
      exact free found

theorem advance_through_file {ending : Ending} {name last : String} {rest : List String}
    {content : Bytes} (walk : Walk b here parts there) (named : IsName name)
    (found : b.get? (there ++ [name]) = some (.file content)) :
    advance b ending false here 0 .directory (parts ++ name :: (rest ++ [last])) =
      .stopped (.nowhere .notDirectory) := by
  have usable : (ending = .created && false && (rest ++ [last]).isEmpty) = false := by
    rw [Bool.and_false, Bool.false_and]
  rw [walk.advance_append (List.cons_ne_nil name _), advance_name named usable, found, entered,
    advance_file_ne_nil (concat_ne_nil rest last)]
  intro target same
  cases same

/-- A name that leads to a directory goes through the same links still, or it leads through the link
that was replaced, and then no name below it leads anywhere. -/
theorem Hops.replaced (hops : Hops a .followed links here slash parts left there slash' parts')
    (walk : Walk a there parts' place) (replaced : ReplacedAt entry a b)
    (free : a.get? entry ≠ some .directory) :
    Hops b .followed links here slash parts left there slash' parts' ∧ Walk b there parts' place ∨
      (∃ target, a.get? entry = some (.link target)) ∧ ∀ name,
        follow b .followed links here 0 false (parts ++ [name]) = .nowhere .notDirectory := by
  induction hops with
  | stay => exact .inl ⟨.stay, walk.replaced replaced free⟩
  | @hop _ _ start middle _ _ _ first rest _ part target before named usable followed found
      hops ih =>
      have before := before.replaced replaced free
      -- If this link is the one replaced, at least the new name stands behind the file, so the way
      -- stops there. Otherwise the next links decide.
      by_cases same : middle ++ [part] = entry
      · obtain ⟨content, file⟩ := replaced.file
        refine .inr ⟨⟨target, same ▸ found⟩, fun name => ?_⟩
        rw [List.append_assoc, List.cons_append,
          follow_of_stopped (advance_through_file before named (same.symm ▸ file))]
        rfl
      · have found := replaced.others _ _ same found id
        rcases ih walk with ⟨hops, walk⟩ | ⟨link, lost⟩
        · exact .inl ⟨.hop before named usable followed found hops, walk⟩
        · refine .inr ⟨link, fun name => ?_⟩
          have more : (rest ++ [name]).isEmpty = false :=
            List.isEmpty_eq_false_iff.mpr (concat_ne_nil rest name)
          rw [List.append_assoc, List.cons_append, follow,
            before.advance_link named rfl (by rw [more, Bool.false_and]) found]
          dsimp only
          rw [more, Bool.false_and, Bool.or_false, ← List.append_assoc]
          exact lost name

theorem ReplacedAt.locate_cases {folder : Pathname} (replaced : ReplacedAt entry a b)
    (free : a.get? entry ≠ some .directory) (rooted : a.Rooted folder)
    (located : a.locate folder = .present place .directory) :
    b.locate folder = .present place .directory ∨
      (∃ target, a.get? entry = some (.link target)) ∧ ∀ name,
        ¬ nameLimit < (Utf8.encode (folder.child name).toText).length →
          b.locate (folder.child name) = .nowhere .notDirectory := by
  have short := short_of_locate located nofun
  have still : b.Rooted folder := rooted.imp_right replaced.start.gone.trans
  have start : b.startOf folder = a.startOf folder := by
    rw [startOf, startOf, replaced.start.workingDirectory]
  rw [locate_of_rooted rooted short] at located
  obtain ⟨left, there, slash, parts, hops, walk⟩ := exists_hops_walk located
  rcases hops.replaced walk replaced free with ⟨hops, walk⟩ | ⟨link, lost⟩
  · refine .inl ?_
    rw [locate_of_rooted still short, start, hops.follow_eq,
      follow_of_stopped (walk.advance_eq rfl), ended, if_neg (by simp)]
  · refine .inr ⟨link, fun name fits => ?_⟩
    have child : b.Rooted (folder.child name) := still
    have same : b.startOf (folder.child name) = a.startOf folder := start
    rw [locate_of_rooted child fits, same]
    exact lost name

end AppletPage.Files
