import AppletPage.Proofs.Preference.Content
import AppletPage.Proofs.Preference.Folder

/-! Calls of a store one after the other, and the files they leave in its directory: one for each
user whose overrides have been kept, and nothing else. -/

namespace AppletPage

open Text

namespace User

/-- The name of a file whose first part is 1 to 64 letters, digits, low lines and hyphens. -/
def NamesFile (name : String) : Prop :=
  ∃ user : String, name = Store.fileName user ∧ user ≠ "" ∧ user.toList.length ≤ nameLimit ∧
    ∀ c ∈ user.toList, inName c = true

/-- The file of a user is named so unless a line end follows the user's name. -/
theorem namesFile_fileName_iff {user : String} (named : isName user = true) :
    NamesFile (Store.fileName user) ↔ '\n' ∉ user.toList := by
  constructor
  · rintro ⟨other, same, -, -, inside⟩ ends
    rw [Store.fileName_injective same] at ends
    exact absurd (inside '\n' ends) (by decide)
  · intro whole
    refine ⟨user, rfl, chars_of_isName_of_whole named ?_⟩
    rcases withoutLineEnd_cases user.toList with same | ends
    · exact same
    · rw [ends] at whole
      exact absurd (List.mem_append_right _ List.mem_cons_self) whole

end User

namespace Store

variable {folder : Pathname} {place : Path} {start host : Host} {user : String}

/-! One call. -/

/-- Checked overrides of which a value holds a surrogate. -/
def StrayOverrides : Type :=
  { overrides : WideOverrides // ∃ entry ∈ overrides, entry.2.isScalar = false }

/-- A call with texts of characters, or to keep overrides that are none. -/
inductive Call where
  | load (user : Option String)
  | save (user : Option String) (value : Json)
  | saveStray (user : Option String) (overrides : StrayOverrides)

inductive Answer where
  | loaded (result : Except Failure Overrides)
  | saved (result : Except Failure Saved)

def Call.run (folder : Pathname) (host : Host) : Call → Answer × Host
  | .load user =>
      let (result, after) := ((directory folder).load user).run host
      (.loaded result, after)
  | .save user value =>
      let (result, after) := ((directory folder).save user value).run host
      (.saved result, after)
  | .saveStray user overrides =>
      let (result, after) := (keepChecked folder user overrides.val).run host
      (.saved result, after)

def isCut : Call × Answer → Bool
  | (.saveStray _ _, .saved (.error (.unencodable _))) => true
  | _ => false

/-! Calls one after the other. -/

/-- The answers to calls, each with its call, and the host that is left in the end. -/
def calls (folder : Pathname) : List Call → Host → List (Call × Answer) × Host
  | [], host => ([], host)
  | call :: rest, host =>
      let answered := call.run folder host
      let others := calls folder rest answered.2
      ((call, answered.1) :: others.1, others.2)

def savedBy? (user : String) : Call × Answer → Option Overrides
  | (.save (some other) value, .saved (.ok _)) =>
      if other = user then (accepted value).toOption else none
  | _ => none

def lastSaved? (user : String) (session : List (Call × Answer)) : Option Overrides :=
  session.reverse.findSome? (savedBy? user)

theorem lastSaved?_concat (user : String) (session : List (Call × Answer))
    (exchange : Call × Answer) :
    lastSaved? user (session ++ [exchange]) =
      (savedBy? user exchange).or (lastSaved? user session) := by
  rw [lastSaved?, List.reverse_append, List.reverse_singleton, List.singleton_append,
    List.findSome?_cons]
  cases savedBy? user exchange <;> rfl

def cuts (session : List (Call × Answer)) : Nat := session.countP isCut

theorem cuts_concat (session : List (Call × Answer)) (exchange : Call × Answer) :
    cuts (session ++ [exchange]) = cuts session + if isCut exchange then 1 else 0 := by
  rw [cuts, List.countP_append, List.countP_singleton, ← cuts]

/-- The directory holds, for each user, what the calls of a session have kept last, and nothing
else. The journal has no file in it, and a draft is left for each value that could not be
written. -/
structure Filled (folder : Pathname) (place : Path) (start : Host) (session : List (Call × Answer))
    (host : Host) : Prop where
  located : host.files.locate folder = .present place .directory
  files : ∃ nodes left,
    host.files = { start.files with nodes, drafts := left ++ start.files.drafts } ∧
      left.length = cuts session
  entries : ∀ name node, host.files.get? (place ++ [name]) = some node ↔
    ∃ user overrides, lastSaved? user session = some overrides ∧ name = fileName user ∧
      node = .file (Utf8.encode (fileText overrides))
  users : ∀ user overrides, lastSaved? user session = some overrides →
    HasFile start.files folder user ∧ Overrides.Settled overrides
  journal : ∀ name, host.journal.place = some (place ++ [name]) →
    host.files.get? (place ++ [name]) = none

theorem filled_nil (located : host.files.locate folder = .present place .directory)
    (empty : ∀ name, host.files.get? (place ++ [name]) = none) :
    Filled folder place host [] host where
  located := located
  files := ⟨host.files.nodes, [], rfl, rfl⟩
  entries := by
    intro name node
    rw [empty name]
    exact iff_of_false nofun nofun
  users := nofun
  journal := fun name _ => empty name

theorem Filled.of_unsaved {session later : List (Call × Answer)}
    (filled : Filled folder place start session host)
    (same : ∀ user, lastSaved? user later = lastSaved? user session)
    (uncut : cuts later = cuts session) : Filled folder place start later host where
  located := filled.located
  files := by
    rw [uncut]
    exact filled.files
  entries := by
    simp only [same]
    exact filled.entries
  users := by
    simp only [same]
    exact filled.users
  journal := filled.journal

theorem Filled.isFile {session : List (Call × Answer)}
    (filled : Filled folder place start session host) {name : String} {old : Node}
    (held : host.files.get? (place ++ [name]) = some old) : old.IsFile := by
  obtain ⟨user, overrides, -, -, rfl⟩ := (filled.entries name old).mp held
  trivial

theorem Filled.keep {session later : List (Call × Answer)} {overrides : Overrides}
    (filled : Filled folder place start session host) (hasFile : HasFile host.files folder user)
    (settled : Overrides.Settled overrides)
    (saved : ∀ other, lastSaved? other later =
      if user = other then some overrides else lastSaved? other session)
    (uncut : cuts later = cuts session) (source : String) (level : Host.Level) (message : String) :
    Filled folder place start later
      ((Store.keep place user overrides host).log source level message) := by
  obtain ⟨nodes, left, same, count⟩ := filled.files
  obtain ⟨others, logged⟩ :=
    Host.exists_nodes_log source level message (Store.keep place user overrides host)
  have only : ((Store.keep place user overrides host).log source level message).files =
      { host.files with nodes := others } := by
    rw [logged, Store.keep, Host.files_withoutJournalBelow]
    rfl
  have lines := Host.onlyLogged_log source level message (Store.keep place user overrides host)
  have ways := (waysKept_keep fun _ held => filled.isFile held).trans lines.ways
  -- A journal that has lost its file to the overrides is not in the directory any more.
  have gone (name : String)
      (held : (Store.keep place user overrides host).journal.place = some (place ++ [name])) :
      (Store.keep place user overrides host).files.get? (place ++ [name]) = none := by
    obtain ⟨held, apart⟩ := journal_keep held
    rw [get?_keep, if_neg apart.symm, filled.journal name held]
  have entry (name : String) :
      ((Store.keep place user overrides host).log source level message).files.get?
          (place ++ [name]) =
        if fileName user = name then some (.file (Utf8.encode (fileText overrides)))
        else host.files.get? (place ++ [name]) := by
    rw [Host.get?_log_of_gone (gone name), get?_keep]
    simp only [List.append_cancel_left_eq, List.cons.injEq, and_true]
  refine ⟨?_, ⟨others, left, ?_, count.trans uncut.symm⟩, fun name node => ?_,
    fun other given held => ?_, fun name held => ?_⟩
  · refine Files.locate_directory_mono_of_rooted ways hasFile.rooted ?_ ?_ filled.located
    · rw [only]
      exact hasFile.rooted
    · rw [only]
      rfl
  · rw [only, same]
  · rw [entry]
    split
    · next own =>
      subst own
      constructor
      · intro placed
        cases placed
        exact ⟨user, overrides, by rw [saved, if_pos rfl], rfl, rfl⟩
      · rintro ⟨other, given, held, own, rfl⟩
        rw [saved, if_pos (fileName_injective own)] at held
        cases held
        rfl
    · next apart =>
      -- Two users have no entry in common, so what was kept for the others is as it was.
      rw [filled.entries]
      refine exists_congr fun other => exists_congr fun given => ?_
      rw [saved]
      split
      · next own =>
        subst own
        exact iff_of_false (fun held => apart held.2.1.symm) fun held => apart held.2.1.symm
      · exact Iff.rfl
  · rw [saved] at held
    split at held
    · next own =>
      subst own
      cases held
      rw [same] at hasFile
      exact ⟨⟨hasFile.named, hasFile.rooted, hasFile.noZero, hasFile.fits⟩, settled⟩
    · exact filled.users other given held
  · rw [lines.journal] at held
    rw [Host.get?_log_of_gone (gone name), gone name held]

theorem Filled.leave {session later : List (Call × Answer)}
    (filled : Filled folder place start session host) (draft : Draft)
    (same : ∀ user, lastSaved? user later = lastSaved? user session)
    (cut : cuts later = cuts session + 1) :
    Filled folder place start later
      { host with files := { host.files with drafts := draft :: host.files.drafts } } where
  located := (Files.locate_drafts host.files _ folder .followed).trans filled.located
  files := by
    obtain ⟨nodes, left, given, count⟩ := filled.files
    refine ⟨nodes, draft :: left, ?_, by rw [List.length_cons, count, cut]⟩
    rw [given, List.cons_append]
  entries := by
    simp only [same]
    exact filled.entries
  users := by
    simp only [same]
    exact filled.users
  journal := filled.journal

theorem filled_run {session : List (Call × Answer)}
    (filled : Filled folder place start session host) (call : Call) :
    Filled folder place start (session ++ [(call, (call.run folder host).1)])
      (call.run folder host).2 := by
  cases call with
  | load user? =>
      change Filled _ _ _ _ ((load (.directory folder) user?).run host).2
      rw [snd_run_load]
      exact filled.of_unsaved (fun user => lastSaved?_concat user session _) (cuts_concat session _)
  | save user? value =>
      rw [Call.run]
      rcases run_save_cases filled.located user? value with
        ⟨failure, failed⟩ | ⟨user, overrides, rfl, taken, hasFile, -, done⟩
      · rw [failed]
        refine filled.of_unsaved (fun user => ?_) (cuts_concat session _)
        rw [lastSaved?_concat]
        cases user? <;> rfl
      · rw [done]
        refine filled.keep hasFile (settled_of_accepted taken) (fun other => ?_)
          (cuts_concat session _) _ _ _
        rw [lastSaved?_concat, savedBy?, taken]
        split <;> rfl
  | saveStray user? overrides =>
      obtain ⟨cut, cuts⟩ := exists_cut_iff.mpr overrides.property
      rw [Call.run]
      rcases run_keepChecked_cut_cases filled.located cuts user? with
        ⟨failure, failed, other⟩ | ⟨draft, failed⟩
      · rw [failed]
        refine filled.of_unsaved (fun user => lastSaved?_concat user session _) ?_
        rw [cuts_concat]
        cases failure with
        | unencodable error => exact absurd rfl (other error)
        | _ => rfl
      · rw [failed]
        exact filled.leave draft (fun user => lastSaved?_concat user session _)
          (cuts_concat session _)

theorem filled_calls {session : List (Call × Answer)}
    (filled : Filled folder place start session host) (list : List Call) :
    Filled folder place start (session ++ (calls folder list host).1)
      (calls folder list host).2 := by
  induction list generalizing session host with
  | nil =>
      rw [calls, List.append_nil]
      exact filled
  | cons call rest ih =>
      -- The session grows at its end, so the rest is run behind the step.
      have others := ih (filled_run filled call)
      rw [List.append_assoc] at others
      exact others

/-- A file of the directory is the file of a user. It holds a JSON object, and is loaded as what was
kept for the user. -/
structure Found (folder : Pathname) (host : Host) (user : String) (overrides : Overrides)
    (name : String) (node : Node) : Prop where
  named : User.isName user = true
  file : name = fileName user
  object : ∃ content fields, node = .file content ∧ Layout.readJson content = .ok (.object fields)
  loads : (load (.directory folder) (some user)).run host = (.ok overrides.sorted, host)

theorem Filled.found {session : List (Call × Answer)} {overrides : Overrides}
    (filled : Filled folder place start session host)
    (saved : lastSaved? user session = some overrides) :
    Found folder host user overrides (fileName user)
      (.file (Utf8.encode (fileText overrides))) := by
  obtain ⟨hasFile, settled⟩ := filled.users user overrides saved
  obtain ⟨nodes, left, same, -⟩ := filled.files
  have rooted : host.files.Rooted folder := by
    rw [same]
    exact hasFile.rooted
  have there := Files.isDirectory_eq_true_iff.mpr ⟨hasFile.noZero, place, filled.located⟩
  have held : host.files.get? (place ++ [fileName user]) =
      (some (Utf8.encode (fileText overrides))).map Node.file :=
    (filled.entries _ _).mpr ⟨user, overrides, saved, rfl, rfl⟩
  refine ⟨hasFile.named, rfl, ⟨_, _, rfl, readJson_fileText settled⟩, ?_⟩
  rw [run_load_child hasFile.named rooted there filled.located hasFile.fits held, overridesIn,
    readOverrides_fileText settled]

/-- Whatever calls are made on an empty directory, what is in it afterwards are the files of the
users for whom overrides have been kept, as they were kept last, and as many drafts are left as
calls have failed at a value that could not be written. The names are whole just if no call has kept
overrides for a user whose name ends in a line end. -/
theorem entries_calls (located : host.files.locate folder = .present place .directory)
    (empty : ∀ name, host.files.get? (place ++ [name]) = none) (list : List Call) :
    let session := calls folder list host
    session.2.files.locate folder = .present place .directory ∧
      (∃ left, session.2.files.drafts = left ++ host.files.drafts ∧
        left.length = cuts session.1) ∧
      (∀ name node, session.2.files.get? (place ++ [name]) = some node →
        ∃ user overrides, lastSaved? user session.1 = some overrides ∧
          Found folder session.2 user overrides name node) ∧
      (∀ user overrides, lastSaved? user session.1 = some overrides →
        ∃ node, session.2.files.get? (place ++ [fileName user]) = some node) ∧
      ((∀ name node, session.2.files.get? (place ++ [name]) = some node → User.NamesFile name) ↔
        ∀ user, '\n' ∈ user.toList → lastSaved? user session.1 = none) := by
  have filled : Filled folder place host _ (calls folder list host).2 :=
    filled_calls (filled_nil located empty) list
  rw [List.nil_append] at filled
  obtain ⟨nodes, left, same, count⟩ := filled.files
  have entry {user : String} {overrides : Overrides}
      (saved : lastSaved? user (calls folder list host).1 = some overrides) :
      ∃ node, (calls folder list host).2.files.get? (place ++ [fileName user]) =
        some node :=
    ⟨_, (filled.entries _ _).mpr ⟨user, overrides, saved, rfl, rfl⟩⟩
  refine ⟨filled.located, ⟨left, by rw [same], count⟩, fun name node held => ?_, fun _ _ => entry,
    ?_, fun whole name node held => ?_⟩
  · obtain ⟨user, overrides, saved, rfl, rfl⟩ := (filled.entries name node).mp held
    exact ⟨user, overrides, saved, filled.found saved⟩
  · intro names user ends
    cases saved : lastSaved? user (calls folder list host).1 with
    | none => rfl
    | some overrides =>
        obtain ⟨node, held⟩ := entry saved
        have named := (filled.found saved).named
        exact absurd ends ((User.namesFile_fileName_iff named).mp (names _ _ held))
  · obtain ⟨user, overrides, saved, rfl, rfl⟩ := (filled.entries name node).mp held
    refine (User.namesFile_fileName_iff (filled.found saved).named).mpr fun ends => ?_
    rw [whole user ends] at saved
    cases saved

def slips : List Call :=
  [.save (some "alice\n") (.object [("foo", .string "x")]),
   .saveStray (some "bob") ⟨[("foo", [.surrogate 0])], by decide⟩]

/-- What is kept for a user whose name ends in a line end is left in a file whose name is not whole,
and a value that is a surrogate leaves a draft. -/
theorem entries_calls_slips :
    let session := calls (Pathname.ofText "/prefs") slips hostOfEmptyFolder
    hostOfEmptyFolder.files.locate (Pathname.ofText "/prefs") = .present ["prefs"] .directory ∧
      (∀ name, hostOfEmptyFolder.files.get? (["prefs"] ++ [name]) = none) ∧
      lastSaved? "alice\n" session.1 = some [("foo", "x")] ∧
      (¬ ∀ name node, session.2.files.get? (["prefs"] ++ [name]) = some node →
        User.NamesFile name) ∧
      session.2.files.drafts.length = 1 := by
  have located : hostOfEmptyFolder.files.locate (Pathname.ofText "/prefs") =
      .present ["prefs"] .directory := by decide +kernel
  have empty (name : String) : hostOfEmptyFolder.files.get? (["prefs"] ++ [name]) = none := rfl
  have saved : lastSaved? "alice\n" (calls (Pathname.ofText "/prefs") slips hostOfEmptyFolder).1 =
      some [("foo", "x")] := by decide +kernel
  have once : cuts (calls (Pathname.ofText "/prefs") slips hostOfEmptyFolder).1 = 1 := by
    decide +kernel
  have told := entries_calls located empty slips
  generalize calls (Pathname.ofText "/prefs") slips hostOfEmptyFolder = session
    at saved once told ⊢
  obtain ⟨-, ⟨left, drafts, count⟩, -, -, names⟩ := told
  refine ⟨located, empty, saved, fun whole => ?_, ?_⟩
  · rw [names.mp whole "alice\n" (by decide)] at saved
    cases saved
  · rw [drafts, List.length_append, count, once]
    rfl

end Store

end AppletPage
