import AppletPage.Proofs.Service.Step

/-! Requests one after the other: what they leave of the directories of a service, and what the
files of users hold in the end. -/

namespace AppletPage

open Text

namespace App

open HostAction

variable {running : Running} {place : Path} {host after : Host} {user : String}
  {request : Request} {response : Response}

def exchanges (app : App) : List Request → Host → List (Request × Response) × Host
  | [], host => ([], host)
  | request :: rest, host =>
      let answered := app.answer request host
      let others := exchanges app rest answered.2
      ((request, answered.1) :: others.1, others.2)

/-! What a step keeps. -/

theorem lodged_of_logged (lodged : Lodged running place host) (lines : host.OnlyLogged after) :
    Lodged running place after := by
  have journal := lodged.housed.journal.mono lines.ways lines.journal
  refine ⟨lodged.housed.mono lines.ways journal, Files.locate_directory_mono lines.ways
    lodged.housed.plain.prefs.absolute lodged.located, fun user named target there => ?_⟩
  -- The journal may itself be the file of a user; it is a file then, and stays one.
  by_cases own : host.journal.place = some (place ++ [Store.fileName user])
  · obtain ⟨node, found, file⟩ := journal _ (lines.journal ▸ own)
    rw [there] at found
    cases found
    exact file
  · rw [lines.others _ own] at there
    exact lodged.unlinked user named target there

theorem Lodged.file (lodged : Lodged running place host)
    (fits : Store.unkept? running.layout.prefs user
      (host.files.get? (place ++ [Store.fileName user])) = none) :
    ∀ old, host.files.get? (place ++ [Store.fileName user]) = some old → old.IsFile := by
  obtain ⟨named, -, noDirectory⟩ := Store.unkept?_eq_none_iff.mp fits
  intro old there
  cases old with
  | file content => trivial
  | directory => exact absurd there noDirectory
  | link target => exact absurd there (lodged.unlinked user named target)

theorem lodged_of_keep {overrides : Overrides} (lodged : Lodged running place host)
    (free : ∀ old, host.files.get? (place ++ [Store.fileName user]) = some old → old.IsFile) :
    Lodged running place (Store.keep place user overrides host) := by
  have ways : host.files.WaysKept (Store.keep place user overrides host).files :=
    Store.waysKept_keep free
  have journal : (Store.keep place user overrides host).JournalStands := by
    intro other held
    obtain ⟨held, apart⟩ := Store.journal_keep held
    obtain ⟨node, found, file⟩ := lodged.housed.journal other held
    refine ⟨node, ?_, file⟩
    rw [Store.get?_keep, if_neg apart.symm, found]
  refine ⟨lodged.housed.mono ways journal, Files.locate_directory_mono ways
    lodged.housed.plain.prefs.absolute lodged.located, fun other named target => ?_⟩
  rw [Store.get?_keep]
  split
  · exact nofun
  · exact lodged.unlinked other named target

theorem lodged_of_effect (lodged : Lodged running place host)
    (effect : Effect running place request host response after) :
    Lodged running place after := by
  cases effect with
  | logged lines => exact lodged_of_logged lodged lines
  | @kept user fields overrides _ keeps read valid fits lines =>
      have lines := (onlyLogged_kept place user overrides host).trans lines
      exact lodged_of_logged (lodged_of_keep lodged (lodged.file fits)) lines

/-! What stands for a service stands after any requests. -/

/-- No user's file is a link, if users have files at all. -/
def Unlinked (running : Running) (host : Host) : Prop :=
  running.config.preferences.enabled = true →
    ∀ place, host.files.locate running.layout.prefs = .present place .directory →
      ∀ user, User.isName user = true →
        ∀ target, host.files.get? (place ++ [Store.fileName user]) ≠ some (.link target)

theorem housed_exchanges_of_disabled (disabled : running.config.preferences.enabled = false)
    (housed : Housed running host) (requests : List Request) :
    Housed running (exchanges { running := some running } requests host).2 := by
  induction requests generalizing host with
  | nil => exact housed
  | cons request rest ih =>
      have lines := onlyLogged_answer_of_disabled disabled request host
      exact ih (housed.mono lines.ways (housed.journal.mono lines.ways lines.journal))

theorem lodged_exchanges (started : Started running)
    (enabled : running.config.preferences.enabled = true) (lodged : Lodged running place host)
    (requests : List Request) :
    Lodged running place (exchanges { running := some running } requests host).2 := by
  induction requests generalizing host with
  | nil => exact lodged
  | cons request rest ih =>
      exact ih (lodged_of_effect lodged (effect_answer started lodged enabled request))

theorem housed_exchanges (started : Started running) (housed : Housed running host)
    (unlinked : Unlinked running host) (requests : List Request) :
    Housed running (exchanges { running := some running } requests host).2 := by
  cases enabled : running.config.preferences.enabled with
  | false => exact housed_exchanges_of_disabled enabled housed requests
  | true =>
      obtain ⟨-, place, located⟩ := Files.isDirectory_eq_true_iff.mp housed.prefs
      exact (lodged_exchanges started enabled
        ⟨housed, located, unlinked enabled place located⟩ requests).housed

/-! What the files of users hold. -/

def keptFor (user : String) (exchange : Request × Response) : Bool :=
  exchange.1.method = "PUT" && Route.ofPath? exchange.1.path = some (.preferences user) &&
    exchange.2.status = 200

def lastKept? (user : String) (session : List (Request × Response)) :
    Option (Request × Response) :=
  session.reverse.find? (keptFor user)

theorem lastKept?_concat (user : String) (session : List (Request × Response))
    (exchange : Request × Response) :
    lastKept? user (session ++ [exchange]) =
      if keptFor user exchange then some exchange else lastKept? user session := by
  rw [lastKept?, List.reverse_append, List.reverse_singleton, List.singleton_append,
    List.find?_cons]
  cases keptFor user exchange <;> rfl

theorem keptFor_iff :
    keptFor user (request, response) = true ↔ request.Keeps user ∧ response.status = 200 := by
  simp only [keptFor, Bool.and_eq_true, decide_eq_true_eq, Request.Keeps]

/-- What is at the entry of a user once an exchange has kept the user's preferences, or none has. -/
inductive Reflected (user : String) : Option (Request × Response) → Option Node → Prop where
  | none : Reflected user none none
  | some {request : Request} {fields : List (String × Json)} {overrides : Overrides}
      (read : Body.overrides request = .ok fields)
      (valid : Overrides.validate (.object fields) = .ok overrides) :
      Reflected user (some (request, .ok (preferenceData user overrides.sorted)))
        (some (.file (Utf8.encode (Store.fileText overrides))))

/-- All files of users are as the exchanges of a session have left them, and the journal is apart
from them. -/
structure Reflects (place : Path) (session : List (Request × Response)) (host : Host) : Prop where
  files : ∀ user, User.isName user = true →
    Reflected user (lastKept? user session) (host.files.get? (place ++ [Store.fileName user]))
  apart : ∀ user, User.isName user = true →
    host.journal.place ≠ some (place ++ [Store.fileName user])

theorem reflects_of_logged {session : List (Request × Response)}
    (reflects : Reflects place session host) (lines : host.OnlyLogged after) :
    Reflects place session after := by
  refine ⟨fun user named => ?_, fun user named => ?_⟩
  · rw [lines.others _ (reflects.apart user named)]
    exact reflects.files user named
  · rw [lines.journal]
    exact reflects.apart user named

theorem reflects_of_effect {session : List (Request × Response)}
    (reflects : Reflects place session host)
    (effect : Effect running place request host response after) :
    Reflects place (session ++ [(request, response)]) after := by
  cases effect with
  | logged lines unkept =>
      have reflects := reflects_of_logged reflects lines
      refine ⟨fun user named => ?_, reflects.apart⟩
      rw [lastKept?_concat, if_neg]
      · exact reflects.files user named
      · rw [keptFor_iff]
        exact fun given => unkept user given.1 given.2
  | @kept user fields overrides _ keeps read valid fits lines =>
      -- The journal's lines come after the file is put, and the journal is not that file.
      refine reflects_of_logged ?_ ((onlyLogged_kept place user overrides host).trans lines)
      refine ⟨fun other named => ?_, fun other named held => ?_⟩
      · rw [lastKept?_concat, Store.get?_keep]
        by_cases same : user = other
        · subst same
          rw [if_pos (keptFor_iff.mpr ⟨keeps, rfl⟩), if_pos rfl]
          exact .some read valid
        · rw [if_neg, if_neg]
          · exact reflects.files other named
          · intro equal
            have names := List.singleton_inj.mp (List.append_cancel_left equal)
            exact same (Store.fileName_injective names)
          · intro kept
            have route := (keptFor_iff.mp kept).1.2
            rw [keeps.2, Option.some.injEq, Route.preferences.injEq] at route
            exact same route
      · exact reflects.apart other named (Store.journal_keep held).1

/-- A session leaves the files of users as its last exchanges for them have made them. -/
theorem reflects_exchanges (started : Started running)
    (enabled : running.config.preferences.enabled = true) {earlier : List (Request × Response)}
    (lodged : Lodged running place host) (reflects : Reflects place earlier host)
    (requests : List Request) :
    let session := exchanges { running := some running } requests host
    Reflects place (earlier ++ session.1) session.2 := by
  -- What has been exchanged earlier grows by one exchange with each request.
  induction requests generalizing host earlier with
  | nil =>
      rw [exchanges]
      dsimp only
      rw [List.append_nil]
      exact reflects
  | cons request rest ih =>
      have effect := effect_answer started lodged enabled request
      have next := ih (lodged_of_effect lodged effect) (reflects_of_effect reflects effect)
      simp only [List.append_assoc] at next
      exact next

end App

end AppletPage
