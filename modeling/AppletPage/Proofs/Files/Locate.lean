import AppletPage.Proofs.Files.Follow

/-! What absolute names lead to: directories, and entries of directories. -/

namespace AppletPage

open Text

namespace Files

variable {a b files : Files} {ending : Ending} {path : Pathname} {place directory : Path}
  {name : String} {node : Node}

theorem short_of_locate {outcome : Place} (located : files.locate path ending = outcome)
    (somewhere : ∀ cause, outcome ≠ .nowhere cause) :
    ¬ nameLimit < (Utf8.encode path.toText).length := by
  intro long
  rw [locate, if_pos long] at located
  exact somewhere _ located.symm

theorem locate_absolute (absolute : path.isAbsolute = true)
    (short : ¬ nameLimit < (Utf8.encode path.toText).length) (ending : Ending) :
    files.locate path ending = follow files ending linkLimit [] 0 false path.parts := by
  rw [locate, if_neg short, absolute, if_pos rfl]

/-- A name starts at a directory that is there: at the root, or where relative names start. -/
def Rooted (files : Files) (path : Pathname) : Prop := path.isAbsolute = true ∨ files.gone = 0

def startOf (files : Files) (path : Pathname) : Path :=
  if path.isAbsolute then [] else files.workingDirectory

theorem locate_of_rooted (rooted : files.Rooted path)
    (short : ¬ nameLimit < (Utf8.encode path.toText).length) (ending : Ending) :
    files.locate path ending =
      follow files ending linkLimit (files.startOf path) 0 false path.parts := by
  rw [locate, if_neg short, startOf]
  cases absolute : path.isAbsolute with
  | true => rfl
  | false =>
      rcases rooted with rooted | there
      · rw [absolute] at rooted
        cases rooted
      · rw [there]
        rfl

theorem rooted_of_absolute {form : Pathname} (formed : files.absolute path = .ok form) :
    files.Rooted path := by
  rw [Files.absolute] at formed
  split at formed
  · next absolute => exact .inl absolute
  · split at formed
    · cases formed
    · next there => exact .inr (Classical.not_not.mp there)

/-- Relative names start at the same directory, and it is there or gone alike. -/
structure SameStart (a b : Files) : Prop where
  workingDirectory : b.workingDirectory = a.workingDirectory
  gone : b.gone = a.gone

theorem SameStart.refl (files : Files) : SameStart files files := ⟨rfl, rfl⟩

theorem SameStart.trans {a b c : Files} (first : SameStart a b) (second : SameStart b c) :
    SameStart a c :=
  ⟨second.workingDirectory.trans first.workingDirectory, second.gone.trans first.gone⟩

theorem sameStart_put (files : Files) (place : Path) (node : Node) :
    SameStart files (files.put place node) := ⟨rfl, rfl⟩

/-- Followed from a directory that is gone, parts lead up to a directory that is there and go on
from it, or to another directory that is gone, or nowhere. -/
theorem advance_gone (slash : Bool) (here : Path) (gone : Nat) (parts : List String) :
    (∃ there rest, ∀ files ending, advance files ending slash here gone .directory parts =
        advance files ending slash there 0 .directory rest) ∨
      (∃ there, ∀ files ending, advance files ending slash here gone .directory parts =
        .stopped (.present there .directory)) ∨
      ∀ files ending, ∃ cause, advance files ending slash here gone .directory parts =
        .stopped (.nowhere cause) := by
  -- From a directory that is gone only points lead on, and two of them take one of the gone away.
  induction parts generalizing here gone with
  | nil => exact .inr (.inl ⟨here, fun files ending => rfl⟩)
  | cons name rest ih =>
      by_cases there : gone = 0
      · exact .inl ⟨here, name :: rest, fun files ending => by rw [there]⟩
      by_cases point : name = "."
      · simp only [point, advance_point]
        exact ih here gone
      by_cases up : name = ".."
      · simp only [up, advance_up]
        exact ih here.dropLast (gone - 1)
      refine .inr (.inr fun files ending => ?_)
      rw [advance, if_neg (not_not_intro rfl), if_neg point, if_neg up, if_pos there]
      split
      · exact ⟨_, rfl⟩
      · exact ⟨_, rfl⟩

/-- A name that leads somewhere starts at a directory that is there, wherever that is, or it leads
to a directory without ever leaving those that are gone. -/
theorem exists_locate_eq {outcome : Place} (located : files.locate path ending = outcome)
    (somewhere : ∀ cause, outcome ≠ .nowhere cause) :
    (∃ here parts, ∀ other : Files, SameStart files other → ∀ ending,
      other.locate path ending = follow other ending linkLimit here 0 false parts) ∨
      ∃ there, outcome = .present there .directory ∧ ∀ other : Files, SameStart files other →
        ∀ ending, other.locate path ending = .present there .directory := by
  have short := short_of_locate located somewhere
  cases absolute : path.isAbsolute with
  | true => exact .inl ⟨[], path.parts, fun other _ ending => locate_absolute absolute short ending⟩
  | false =>
      have relative (other : Files) (ending : Ending) : other.locate path ending =
          follow other ending linkLimit other.workingDirectory other.gone false path.parts := by
        rw [locate, if_neg short, absolute, if_neg Bool.false_ne_true]
      rcases advance_gone false files.workingDirectory files.gone path.parts with
        ⟨there, rest, same⟩ | ⟨there, same⟩ | lost
      · refine .inl ⟨there, rest, fun other start ending => ?_⟩
        rw [relative, start.workingDirectory, start.gone, follow, follow, same]
      · have found (other : Files) (start : SameStart files other) (ending : Ending) :
            other.locate path ending = .present there .directory := by
          rw [relative, start.workingDirectory, start.gone, follow, same]
          rfl
        exact .inr ⟨there, located.symm.trans (found files (.refl files) ending), found⟩
      · obtain ⟨cause, arrived⟩ := lost files ending
        rw [relative, follow, arrived] at located
        exact absurd located.symm (somewhere cause)

theorem locate_drafts (files : Files) (drafts : List Draft) (path : Pathname) (ending : Ending) :
    ({ files with drafts } : Files).locate path ending = files.locate path ending := by
  have same := follow_congr (a := { files with drafts }) (b := files) fun _ => rfl
  simp only [locate, same]

theorem locate_directory_mono_of_rooted (ways : WaysKept a b) (rooted : a.Rooted path)
    (still : b.Rooted path) (start : b.startOf path = a.startOf path)
    (located : a.locate path = .present place .directory) :
    b.locate path = .present place .directory := by
  have short := short_of_locate located nofun
  rw [locate_of_rooted rooted short] at located
  rw [locate_of_rooted still short, start]
  exact follow_directory_mono ways located

theorem locate_directory_mono (ways : WaysKept a b) (absolute : path.isAbsolute = true)
    (located : a.locate path = .present place .directory) :
    b.locate path = .present place .directory := by
  have start : b.startOf path = a.startOf path := by
    rw [startOf, startOf, absolute]
    rfl
  exact locate_directory_mono_of_rooted ways (.inl absolute) (.inl absolute) start located

theorem locate_directory_mono_of_sameStart (ways : WaysKept a b) (start : SameStart a b)
    (located : a.locate path = .present place .directory) :
    b.locate path = .present place .directory := by
  rcases exists_locate_eq located nofun with ⟨here, parts, same⟩ | ⟨there, found, same⟩
  · rw [same a (.refl a)] at located
    rw [same b start]
    exact follow_directory_mono ways located
  · rw [found, same b start]

theorem locate_child (rooted : files.Rooted path)
    (located : files.locate path = .present place .directory) (named : IsName name)
    (fits : ¬ nameLimit < (Utf8.encode (path.child name).toText).length)
    (unlinked : ending = .kept ∨ ∀ target, files.get? (place ++ [name]) ≠ some (.link target)) :
    files.locate (path.child name) ending =
      match files.get? (place ++ [name]) with
      | none => .vacant place name
      | some node => .present (place ++ [name]) node := by
  have short := short_of_locate located nofun
  rw [locate_of_rooted rooted short] at located
  obtain ⟨left, there, slash, parts, hops, walk⟩ := exists_hops_walk located
  have child : files.Rooted (path.child name) := rooted
  have start : files.startOf (path.child name) = files.startOf path := rfl
  have stopped : advance files ending false there 0 .directory (parts ++ [name]) =
      .stopped (match files.get? (place ++ [name]) with
        | none => .vacant place name
        | some node => .present (place ++ [name]) node) := by
    rw [walk.advance_append (List.cons_ne_nil name []),
      advance_name named (by rw [Bool.and_false, Bool.false_and])]
    cases found : files.get? (place ++ [name]) with
    | none => rfl
    | some node =>
        cases node with
        | directory => rfl
        | file content => rfl
        | link target =>
            rcases unlinked with rfl | noLink
            · rfl
            · exact absurd found (noLink target)
  rw [locate_of_rooted child fits, start, Pathname.child, (hops.append ending name).follow_eq,
    follow_of_stopped stopped]
  cases files.get? (place ++ [name]) <;> rfl

theorem exists_locate_kept (located : files.locate path = .present place .directory) :
    ∃ other node, files.locate path .kept = .present other node := by
  rcases exists_locate_eq located nofun with ⟨here, parts, same⟩ | ⟨there, -, same⟩
  · rw [same files (.refl files)] at located ⊢
    obtain ⟨left, there, slash, parts', hops, walk⟩ := exists_hops_walk located
    exact exists_follow_kept hops walk
  · exact ⟨there, .directory, same files (.refl files) .kept⟩

theorem isDirectory_eq_true_iff :
    files.isDirectory path = .ok true ↔
      hasZero path = false ∧ ∃ place, files.locate path = .present place .directory := by
  rw [isDirectory]
  cases hasZero path with
  | true => exact iff_of_false nofun fun given => Bool.false_ne_true given.1.symm
  | false =>
      simp only [Bool.false_eq_true, if_false, true_and]
      cases files.locate path with
      | present other node => cases node <;> simp
      | vacant directory name => exact iff_of_false nofun fun given => nomatch given
      | nowhere cause =>
          refine iff_of_false ?_ fun given => nomatch given
          cases cause <;> nofun

theorem isDirectory_mono (ways : WaysKept a b) (absolute : path.isAbsolute = true)
    (there : a.isDirectory path = .ok true) : b.isDirectory path = .ok true := by
  obtain ⟨noZero, place, located⟩ := isDirectory_eq_true_iff.mp there
  exact isDirectory_eq_true_iff.mpr ⟨noZero, place, locate_directory_mono ways absolute located⟩

theorem isDirectory_mono_of_sameStart (ways : WaysKept a b) (start : SameStart a b)
    (there : a.isDirectory path = .ok true) : b.isDirectory path = .ok true := by
  obtain ⟨noZero, place, located⟩ := isDirectory_eq_true_iff.mp there
  exact isDirectory_eq_true_iff.mpr
    ⟨noZero, place, locate_directory_mono_of_sameStart ways start located⟩

theorem locate_mono (ways : WaysKept a b) (start : SameStart a b)
    (located : a.locate path = .present place node) (still : b.get? place = some node) :
    b.locate path = .present place node := by
  rcases exists_locate_eq located nofun with ⟨here, parts, same⟩ | ⟨there, found, same⟩
  · rw [same a (.refl a)] at located
    rw [same b start]
    exact follow_mono ways located still
  · rw [found, same b start]

theorem read_eq_ok_iff {content : Bytes} :
    files.read path = .ok content ↔
      hasZero path = false ∧ ∃ place, files.locate path = .present place (.file content) := by
  rw [Files.read]
  cases hasZero path with
  | true => exact iff_of_false nofun fun given => Bool.false_ne_true given.1.symm
  | false =>
      simp only [Bool.false_eq_true, if_false, true_and]
      cases files.locate path with
      | present other node => cases node <;> simp
      | vacant directory name => exact iff_of_false nofun fun given => nomatch given
      | nowhere cause => exact iff_of_false nofun fun given => nomatch given

theorem exists_eq_true_iff :
    files.exists path = .ok true ↔
      hasZero path = false ∧ ∃ place node, files.locate path = .present place node := by
  rw [Files.exists]
  cases hasZero path with
  | true => exact iff_of_false nofun fun given => Bool.false_ne_true given.1.symm
  | false =>
      simp only [Bool.false_eq_true, if_false, true_and]
      cases files.locate path with
      | present other node => simp
      | vacant directory name => exact iff_of_false nofun fun given => nomatch given
      | nowhere cause =>
          refine iff_of_false ?_ fun given => nomatch given
          cases cause <;> nofun

theorem exists_of_read {content : Bytes} (read : files.read path = .ok content) :
    files.exists path = .ok true := by
  obtain ⟨noZero, place, located⟩ := read_eq_ok_iff.mp read
  exact exists_eq_true_iff.mpr ⟨noZero, place, .file content, located⟩

/-! Places where nothing is. -/

theorem exists_follow_of_locate {outcome : Place} (located : files.locate path ending = outcome)
    (somewhere : ∀ cause, outcome ≠ .nowhere cause)
    (noDirectory : ∀ there, outcome ≠ .present there .directory) :
    ∃ here parts, ∀ other : Files, SameStart files other → ∀ ending,
      other.locate path ending = follow other ending linkLimit here 0 false parts :=
  (exists_locate_eq located somewhere).resolve_right fun ⟨there, same, _⟩ => noDirectory there same

theorem get?_of_vacant (located : files.locate path ending = .vacant directory name) :
    files.get? (directory ++ [name]) = none := by
  obtain ⟨here, parts, same⟩ := exists_follow_of_locate located nofun nofun
  rw [same files (.refl files)] at located
  obtain ⟨left, there, slash, parts', hops, arrival⟩ := exists_hops_arrival located nofun
  cases arrival with
  | vacant walk named usable missing => exact missing

theorem waysKept_put_vacant (located : files.locate path ending = .vacant directory name)
    (node : Node) : WaysKept files (files.put (directory ++ [name]) node) := by
  refine waysKept_put (concat_ne_nil directory name) fun old there => ?_
  rw [get?_of_vacant located] at there
  cases there

theorem locate_put_directory (located : files.locate path .kept = .vacant directory name) :
    (files.put (directory ++ [name]) .directory).locate path =
      .present (directory ++ [name]) .directory := by
  have ways := waysKept_put_vacant located .directory
  obtain ⟨here, parts, same⟩ := exists_follow_of_locate located nofun nofun
  rw [same files (.refl files)] at located
  rw [same _ (sameStart_put files _ _)]
  obtain ⟨left, there, slash, parts', hops, arrival⟩ := exists_hops_arrival located nofun
  cases arrival with
  | vacant walk named usable missing =>
      refine (hops.toFollowed.mono ways).follow_name (walk.mono ways) named ?_ nofun rfl (.inr rfl)
      rw [get?_put files (concat_ne_nil _ _), if_pos rfl]

end Files

end AppletPage
