import AppletPage.Proofs.Files.Replaced
import AppletPage.Proofs.Preference.Content
import AppletPage.Proofs.Preference.Folder

/-! Keeping overrides is atomic: they are in the user's file whole, or no file anywhere has
changed. -/

namespace AppletPage.Store

open Text

variable {folder : Pathname} {user : String} {overrides : Overrides} {made : Files} {place : Path}
  {host : Host}

/-- Overrides have been kept for a user. Directories have been made on the way, so that the folder
is at a place; the user's file there holds the overrides, and no other place differs but the
journal's. The overrides are loaded as long as the folder's name leads there. It does so unless it
led through a link in the place of the user's file. -/
structure SavedAt (folder : Pathname) (user : String) (overrides : Overrides) (made : Files)
    (place : Path) (host after : Host) : Prop where
  onWay : host.files.MadeOnWay folder made
  located : made.locate folder = .present place .directory
  hasFile : HasFile made folder user
  free : made.get? (place ++ [fileName user]) ≠ some .directory
  file : after.files.get? (place ++ [fileName user]) =
    some (.file (Utf8.encode (fileText overrides)))
  others : ∀ other, other ≠ place ++ [fileName user] → host.journal.place ≠ some other →
    after.files.get? other = made.get? other
  drafts : after.files.drafts = host.files.drafts
  start : host.files.SameStart after.files
  loads : (load (.directory folder) (some user)).run after =
    (if after.files.locate folder = .present place .directory then .ok overrides.sorted else .ok [],
      after)
  leads : (∀ target, made.get? (place ++ [fileName user]) ≠ some (.link target)) →
    after.files.locate folder = .present place .directory

theorem get?_log_keep (place : Path) (user : String) (overrides : Overrides) (host : Host)
    (source : String) (level : Host.Level) (message : String) :
    ((keep place user overrides host).log source level message).files.get?
        (place ++ [fileName user]) =
      some (.file (Utf8.encode (fileText overrides))) := by
  have lines := Host.onlyLogged_log source level message (keep place user overrides host)
  rw [lines.others _ fun held => (journal_keep held).2 rfl, get?_keep, if_pos rfl]

theorem get?_log_keep_of_ne {other : Path} (apart : other ≠ place ++ [fileName user])
    (unlogged : host.journal.place ≠ some other) (overrides : Overrides) (source : String)
    (level : Host.Level) (message : String) :
    ((keep place user overrides host).log source level message).files.get? other =
      host.files.get? other := by
  have lines := Host.onlyLogged_log source level message (keep place user overrides host)
  rw [lines.others other fun held => unlogged (journal_keep held).1, get?_keep, if_neg apart.symm]

theorem replacedAt_log_keep (place : Path) (user : String) (overrides : Overrides) (host : Host)
    (source : String) (level : Host.Level) (message : String) :
    Files.ReplacedAt (place ++ [fileName user]) host.files
      ((keep place user overrides host).log source level message).files := by
  obtain ⟨nodes, same⟩ :=
    Host.exists_nodes_log source level message (keep place user overrides host)
  have lines := Host.onlyLogged_log source level message (keep place user overrides host)
  refine ⟨⟨_, get?_log_keep place user overrides host source level message⟩, ?_, ?_⟩
  · intro path node apart there way
    refine lines.ways.kept path node ?_ way
    rw [get?_keep, if_neg apart.symm, there]
  · rw [same, keep, Host.files_withoutJournalBelow]
    exact ⟨rfl, rfl⟩

theorem run_load_replaced {after : Host}
    (replaced : Files.ReplacedAt (place ++ [fileName user]) made after.files)
    (located : made.locate folder = .present place .directory) (hasFile : HasFile made folder user)
    (free : made.get? (place ++ [fileName user]) ≠ some .directory)
    (settled : Overrides.Settled overrides)
    (file : after.files.get? (place ++ [fileName user]) =
      some (.file (Utf8.encode (fileText overrides)))) :
    (load (.directory folder) (some user)).run after =
      (if after.files.locate folder = .present place .directory then .ok overrides.sorted
        else .ok [], after) := by
  have made : ({ after with files := made } : Host).files.isDirectory folder = .ok true :=
    Files.isDirectory_eq_true_iff.mpr ⟨hasFile.noZero, place, located⟩
  have zero := hasZero_fileName hasFile.named made
  split
  · next led =>
    have there := Files.isDirectory_eq_true_iff.mpr ⟨hasFile.noZero, place, led⟩
    have rooted : after.files.Rooted folder := hasFile.rooted.imp_right replaced.start.gone.trans
    have held : after.files.get? (place ++ [fileName user]) =
        (some (Utf8.encode (fileText overrides))).map Node.file := file
    rw [run_load_child hasFile.named rooted there led hasFile.fits held, overridesIn,
      readOverrides_fileText settled]
  · next strayed =>
    obtain ⟨-, lost⟩ :=
      (replaced.locate_cases free hasFile.rooted located).resolve_left strayed
    have none : after.files.Holds (folder.child (fileName user)) none := by
      rw [Files.Holds, Files.exists, zero, if_neg Bool.false_ne_true, lost _ hasFile.fits]
    exact run_load hasFile.named none

theorem savedAt_keep (onWay : host.files.MadeOnWay folder made)
    (located : made.locate folder = .present place .directory) (hasFile : HasFile made folder user)
    (free : made.get? (place ++ [fileName user]) ≠ some .directory)
    (settled : Overrides.Settled overrides) (source : String) (level : Host.Level)
    (message : String) :
    SavedAt folder user overrides made place host
      ((keep place user overrides { host with files := made }).log source level message) := by
  have replaced := replacedAt_log_keep place user overrides { host with files := made } source level
    message
  have file := get?_log_keep place user overrides { host with files := made } source level message
  have others (other : Path) (apart : other ≠ place ++ [fileName user])
      (unlogged : ({ host with files := made } : Host).journal.place ≠ some other) :=
    get?_log_keep_of_ne apart unlogged overrides source level message
  obtain ⟨nodes, same⟩ := Host.exists_nodes_log source level message
    (keep place user overrides { host with files := made })
  refine { onWay, located, hasFile, free, file,
           others, drafts := ?_
           start := onWay.start.trans replaced.start
           loads := ?_
           leads := fun noLink => ?_ }
  · rw [same, keep, Host.files_withoutJournalBelow]
    exact onWay.drafts
  · exact run_load_replaced replaced located hasFile free settled file
  · refine (replaced.locate_cases free hasFile.rooted located).resolve_right ?_
    rintro ⟨⟨target, link⟩, -⟩
    exact noLink target link

/-- Keeping overrides is atomic, the journal aside. It fails and has done nothing but make
directories on the way to the folder, or the user's file in the folder holds the overrides and no
other file has changed. Overrides with a value that holds a surrogate are never kept; it is then
that a draft may be left behind, too, and that is told by the failure. -/
theorem save_atomic (folder : Pathname) (host : Host) (user? : Option String) :
    (∀ value, (∃ failure files, (save (.directory folder) user? value).run host =
          (.error failure, { host with files }) ∧ host.files.MadeOnWay folder files) ∨
        ∃ user overrides made place after, user? = some user ∧ accepted value = .ok overrides ∧
          (save (.directory folder) user? value).run host =
            (.ok { kept := true, count := overrides.length }, after) ∧
          SavedAt folder user overrides made place host after) ∧
      ∀ overrides : WideOverrides, (∃ entry ∈ overrides, entry.2.isScalar = false) →
        (∃ failure files, (keepChecked folder user? overrides).run host =
            (.error failure, { host with files }) ∧ host.files.MadeOnWay folder files ∧
          ∀ error, failure ≠ .unencodable error) ∨
        ∃ error made draft, (keepChecked folder user? overrides).run host =
            (.error (.unencodable error),
              { host with files := { made with drafts := draft :: made.drafts } }) ∧
          host.files.MadeOnWay folder made := by
  have onWay := FileAction.madeOnWay_makeDirectories folder host.files
  refine ⟨fun value => ?_, fun overrides stray => ?_⟩
  · rcases run_save_outcome folder user? value host with
      ⟨failure, files, failed, same⟩ |
        ⟨user, overrides, made, place, given, taken, ran, located, hasFile, free, done⟩
    · refine .inl ⟨failure, files, failed, ?_⟩
      rcases same with rfl | rfl
      · exact .refl folder host.files
      · exact onWay
    · rw [ran] at onWay
      exact .inr ⟨user, overrides, made, place, _, given, taken, done,
        savedAt_keep onWay located hasFile free (settled_of_accepted taken) _ _ _⟩
  · obtain ⟨cut, cuts⟩ := exists_cut_iff.mpr stray
    rcases run_keepChecked_cut cuts folder user? host with
      ⟨failure, files, failed, rfl | rfl, other⟩ | ⟨directory, failed⟩
    · exact .inl ⟨failure, _, failed, .refl folder _, other⟩
    · exact .inl ⟨failure, _, failed, onWay, other⟩
    · exact .inr ⟨cut.error, _, _, failed, onWay⟩

/-- A value that is a surrogate leaves a draft. -/
theorem save_atomic_surrogate :
    ∃ (error : Unencodable) (made : Files) (draft : Draft),
      (keepChecked (Pathname.ofText "/prefs") (some "alice") [("foo", [.surrogate 0])]).run
          hostOfEmptyFolder =
        (.error (.unencodable error),
          { hostOfEmptyFolder with files := { made with drafts := draft :: made.drafts } }) := by
  obtain ⟨-, stray⟩ := save_atomic (Pathname.ofText "/prefs") hostOfEmptyFolder (some "alice")
  rcases stray [("foo", [.surrogate 0])] (by decide) with
    ⟨failure, files, failed, onWay, -⟩ | ⟨error, made, draft, failed, -⟩
  · have left : ((keepChecked (Pathname.ofText "/prefs") (some "alice")
        [("foo", [.surrogate 0])]).run hostOfEmptyFolder).2.files.drafts.length = 1 := by
      decide +kernel
    rw [failed, onWay.drafts] at left
    cases left
  · exact ⟨error, made, draft, failed⟩

/-- A folder whose name leads through a link that stands where a user's file will be. -/
def hostOfOwnLink : Host :=
  { files := { nodes := [(["prefs"], .directory), (["prefs", "alice.json"], .link ".")] } }

/-- What has been kept is not always loaded: the user's file may take the place of a link through
which the folder's name leads. -/
theorem not_save_atomic :
    ¬ ∀ (folder : Pathname) (host after : Host) (user? : Option String) (value : Json)
      (saved : Saved) (overrides : Overrides),
      (save (.directory folder) user? value).run host = (.ok saved, after) →
      accepted value = .ok overrides →
      (load (.directory folder) user?).run after = (.ok overrides.sorted, after) := by
  intro loads
  let folder := Pathname.ofText "/prefs/alice.json"
  let value := Json.object [("foo", .string "x")]
  have taken : (accepted value).toOption = some [("foo", "x")] := by decide +kernel
  have saved : ((save (.directory folder) (some "alice") value).run hostOfOwnLink).1.toOption =
      some ⟨true, 1⟩ := by decide +kernel
  have lost : ((load (.directory folder) (some "alice")).run
      ((save (.directory folder) (some "alice") value).run hostOfOwnLink).2).1.toOption =
        some [] := by decide +kernel
  have loaded := loads folder hostOfOwnLink _ (some "alice") value _ _ (eq_ok_of_fst saved)
    (eq_ok_of_toOption taken)
  have differs : (Except.ok (Overrides.sorted [("foo", "x")]) : Except Failure Overrides).toOption ≠
      some [] := by decide
  generalize (save (.directory folder) (some "alice") value).run hostOfOwnLink = outcome
    at loaded lost
  rw [loaded] at lost
  exact differs lost

end AppletPage.Store
