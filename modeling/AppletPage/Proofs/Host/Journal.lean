import AppletPage.Proofs.Files.Writing
import AppletPage.Proofs.Host.Action

/-! The journal: its lines change no file but its own. -/

namespace AppletPage

open Text

namespace Host

/-- The file of the journal is one, if the journal has a file. -/
def JournalStands (host : Host) : Prop :=
  ∀ place, host.journal.place = some place →
    ∃ node, host.files.get? place = some node ∧ node.IsFile

/-- What is at a place stays what it is, a file with what is added at its end. -/
inductive Lengthened : Option Node → Option Node → Prop where
  | same (held : Option Node) : Lengthened held held
  | appended (content lines : Bytes) :
      Lengthened (some (.file content)) (some (.file (content ++ lines)))

theorem Lengthened.trans {a b c : Option Node} (first : Lengthened a b) (second : Lengthened b c) :
    Lengthened a c := by
  cases first with
  | same => exact second
  | appended content lines =>
      cases second with
      | same => exact .appended content lines
      | appended _ more => exact List.append_assoc content lines more ▸ .appended content _

/-- One host comes from another by lines at the end of the journal alone. -/
structure OnlyLogged (a b : Host) : Prop where
  ways : a.files.WaysKept b.files
  journal : b.journal = a.journal
  own : ∀ place, a.journal.place = some place →
    Lengthened (a.files.get? place) (b.files.get? place)
  others : ∀ place, a.journal.place ≠ some place → b.files.get? place = a.files.get? place

theorem OnlyLogged.refl (host : Host) : OnlyLogged host host :=
  ⟨.refl host.files, rfl, fun _ _ => .same _, fun _ _ => rfl⟩

theorem OnlyLogged.trans {a b c : Host} (first : OnlyLogged a b) (second : OnlyLogged b c) :
    OnlyLogged a c where
  ways := first.ways.trans second.ways
  journal := second.journal.trans first.journal
  own place held := (first.own place held).trans (second.own place (first.journal ▸ held))
  others place other :=
    (second.others place (first.journal ▸ other)).trans (first.others place other)

/-- The journal has room: its file is there and is below its limit, or none was ever opened. -/
def hasRoom (host : Host) : Bool :=
  match host.journal.place.bind host.files.get? with
  | some (.file content) => content.length < host.journal.limit
  | _ => !host.journal.opened

/-- A journal that has room after some lines had room before them. -/
theorem OnlyLogged.hasRoom {a b : Host} (lines : OnlyLogged a b) (room : b.hasRoom = true) :
    a.hasRoom = true := by
  rw [Host.hasRoom, lines.journal] at room
  rw [Host.hasRoom]
  cases held : a.journal.place with
  | none =>
      rw [held] at room
      exact room
  | some place =>
      rw [held, Option.bind_some] at room
      rw [Option.bind_some]
      have own := lines.own place held
      generalize a.files.get? place = before, b.files.get? place = after at own room ⊢
      cases own with
      | same => exact room
      | appended content added =>
          have short := of_decide_eq_true room
          rw [List.length_append] at short
          exact decide_eq_true (by omega)

theorem JournalStands.mono {a b : Host} (stands : a.JournalStands)
    (ways : a.files.WaysKept b.files) (journal : b.journal = a.journal) : b.JournalStands := by
  intro place held
  obtain ⟨node, there, file⟩ := stands place (journal ▸ held)
  exact ways.files place node there file

theorem onlyLogged_log (source : String) (level : Level) (message : String) (host : Host) :
    OnlyLogged host (host.log source level message) := by
  unfold log
  split
  · exact .refl host
  · next place held =>
    split
    · next content found =>
      have below : place ≠ [] := by
        rintro rfl
        cases found
      refine ⟨Files.waysKept_put below fun old there => ?_, rfl, fun own same => ?_,
        fun other apart => ?_⟩
      · rw [found] at there
        cases there
        exact ⟨trivial, trivial⟩
      · rw [held, Option.some.injEq] at same
        rw [← same, found, Files.get?_put host.files below, if_pos rfl]
        exact .appended content _
      · rw [Files.get?_put host.files below, if_neg]
        rintro rfl
        exact apart held
    · exact .refl host

theorem log_of_gone {host : Host} {place : Path} (held : host.journal.place = some place)
    (gone : host.files.get? place = none) (source : String) (level : Level) (message : String) :
    host.log source level message = host := by
  rw [log, held]
  dsimp only
  rw [gone]

theorem exists_nodes_log (source : String) (level : Level) (message : String) (host : Host) :
    ∃ nodes, (host.log source level message).files = { host.files with nodes } := by
  unfold log
  split
  · exact ⟨host.files.nodes, rfl⟩
  · split
    · exact ⟨_, rfl⟩
    · exact ⟨host.files.nodes, rfl⟩

theorem get?_log_of_gone {host : Host} {place : Path}
    (gone : host.journal.place = some place → host.files.get? place = none)
    (source : String) (level : Level) (message : String) :
    (host.log source level message).files.get? place = host.files.get? place := by
  by_cases own : host.journal.place = some place
  · rw [log_of_gone own (gone own)]
  · exact (onlyLogged_log source level message host).others place own

theorem place_of_withoutJournalBelow {gone place : Path} {host : Host}
    (held : (withoutJournalBelow gone host).journal.place = some place) :
    host.journal.place = some place ∧ place ≠ gone := by
  unfold withoutJournalBelow at held
  split at held
  · next given =>
    split at held
    · cases held
    · next apart =>
      refine ⟨held, fun same => apart ?_⟩
      rw [given, Option.some.injEq] at held
      rw [held, same]
      exact List.isPrefixOf_iff_prefix.mpr (List.prefix_refl gone)
  · next none => rw [none] at held; cases held

theorem run_replace (temporary shown path : Pathname) (content : Bytes) (host : Host) :
    (replace temporary shown path content).run host =
      match (FileAction.replace temporary shown path content).run host.files with
      | (.ok gone, files) => (.ok (), withoutJournalBelow gone { host with files })
      | (.error error, files) => (.error (.file error), { host with files }) := by
  rw [replace, HostAction.run_bind, HostAction.run_ofFiles]
  cases (FileAction.replace temporary shown path content).run host.files with
  | mk result files => cases result <;> rfl

theorem files_withoutJournalBelow (gone : Path) (host : Host) :
    (withoutJournalBelow gone host).files = host.files := by
  unfold withoutJournalBelow
  split
  · split <;> rfl
  · rfl

end Host

namespace HostAction

theorem run_log (source : String) (level : Host.Level) (message : String) (host : Host) :
    (log source level message).run host = (.ok (), host.log source level message) := rfl

theorem openJournal_eq_ok {path : Pathname} {limit : Nat} {host after : Host}
    (opened : (openJournal path limit).run host = (.ok (), after)) :
    ∃ place files, (FileAction.openForAppending path).run host.files = (.ok place, files) ∧
      after = { host with
        files
        journal := if host.journal.opened then host.journal else ⟨true, some place, limit⟩ } := by
  obtain ⟨place, between, ran, done⟩ := run_bind_eq_ok opened
  obtain ⟨files, made, rfl⟩ := run_ofFiles_eq_ok ran
  cases done
  refine ⟨place, files, made, ?_⟩
  dsimp only
  cases host.journal.opened <;> rfl

theorem journalStands_of_openJournal {path : Pathname} {limit : Nat} {host after : Host}
    (stands : host.JournalStands)
    (opened : (openJournal path limit).run host = (.ok (), after)) :
    host.files.WaysKept after.files ∧ after.JournalStands := by
  obtain ⟨place, files, made, rfl⟩ := openJournal_eq_ok opened
  obtain ⟨ways, there⟩ := FileAction.file_of_openForAppending made
  refine ⟨ways, ?_⟩
  cases opened : host.journal.opened with
  | true => exact stands.mono ways rfl
  | false =>
      intro other held
      cases held
      exact there

end HostAction

end AppletPage
