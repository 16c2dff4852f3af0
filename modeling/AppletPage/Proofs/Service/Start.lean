import AppletPage.Proofs.Host.Journal
import AppletPage.Proofs.Host.Layout
import AppletPage.Proofs.Json.Paired
import AppletPage.Service.App

/-! What a service has once its start has been done. -/

namespace AppletPage

/-- Every surrogate is one of a pair in a file, as far as it holds text. -/
def Layout.isPaired (content : Text.Bytes) : Bool :=
  (Text.Utf8.decode content).toOption.all Json.isPaired

/-- The page and the store of a service are those of its configuration. -/
structure Started (running : Running) : Prop where
  built : Page.build running.config.applet (some running.config.preferences) = .ok running.page
  plugins : ∃ names, running.page.parameters.plugins = .ok names
  store : running.store = Store.ofConfig running.layout running.config

namespace App

open HostAction

theorem started_of_start {host after : Host} {running : Running}
    (done : start.run host = (.ok running, after)) : Started running := by
  rw [start] at done
  obtain ⟨⟨layout, config⟩, _, -, done⟩ := run_bind_eq_ok done
  obtain ⟨-, _, -, done⟩ := run_bind_eq_ok done
  obtain ⟨-, _, -, done⟩ := run_bind_eq_ok done
  obtain ⟨-, _, -, done⟩ := run_bind_eq_ok done
  obtain ⟨page, _, made, done⟩ := run_bind_eq_ok done
  obtain ⟨names, _, read, done⟩ := run_bind_eq_ok done
  obtain ⟨-, _, -, done⟩ := run_bind_eq_ok done
  cases done
  have built := (run_ofExcept_eq_ok made).1
  have plugins := (run_ofExcept_eq_ok read).1
  exact ⟨built, ⟨names, plugins⟩, rfl⟩

structure Housed (running : Running) (host : Host) : Prop where
  plain : running.layout.IsPlain
  usual : (Layout.ofHome running.layout.home).Stands host.files
  logs : host.files.isDirectory running.layout.logs = .ok true
  prefs : host.files.isDirectory running.layout.prefs = .ok true
  journal : host.JournalStands

theorem Housed.mono {running : Running} {a b : Host} (housed : Housed running a)
    (ways : a.files.WaysKept b.files) (journal : b.JournalStands) : Housed running b where
  plain := housed.plain
  usual := housed.usual.mono (Layout.isPlain_ofHome housed.plain.home) ways
  logs := Files.isDirectory_mono ways housed.plain.logs.absolute housed.logs
  prefs := Files.isDirectory_mono ways housed.plain.prefs.absolute housed.prefs
  journal := journal

theorem prepare_eq_ok {before after : Host} {layout : Layout} {config : Config}
    (done : prepare.run before = (.ok (layout, config), after)) :
    ∃ read, Home.ofEnvironment before = .ok layout.home ∧
      (Layout.ensure layout.home).run before = (.ok (Layout.ofHome layout.home), read) ∧
      (Layout.loadConfig (Layout.ofHome layout.home)).run read = (.ok config, read) ∧
      (Layout.configured (Layout.ofHome layout.home) config).run read = (.ok layout, after) := by
  obtain ⟨_, _, got, homed⟩ := run_bind_eq_ok done
  cases got
  obtain ⟨home, _, resolved, laid⟩ := run_bind_eq_ok homed
  obtain ⟨resolved, rfl⟩ := run_ofExcept_eq_ok resolved
  obtain ⟨usual, read, ensured, seen⟩ := run_bind_eq_ok laid
  obtain ⟨found, _, loaded, set⟩ := run_bind_eq_ok seen
  obtain ⟨given, between, configured, last⟩ := run_bind_eq_ok set
  cases last
  obtain ⟨rfl, -⟩ := Layout.stands_of_ensure (Home.isPlain_of_resolve resolved) ensured
  obtain ⟨-, rfl⟩ := Layout.configIn_of_loadConfig loaded
  obtain ⟨-, -, parts, -⟩ := Layout.configured_eq_ok configured
  have same : home = layout.home := by rw [parts]; rfl
  subst same
  exact ⟨_, resolved, ensured, loaded, configured⟩

theorem housed_of_prepare {before after : Host} {layout : Layout} {config : Config}
    (done : prepare.run before = (.ok (layout, config), after)) :
    Home.ofEnvironment before = .ok layout.home ∧ layout.IsPlain ∧
      (Layout.ofHome layout.home).Stands after.files ∧
      after.files.isDirectory layout.logs = .ok true ∧
      after.files.isDirectory layout.prefs = .ok true ∧
      before.files.WaysKept after.files ∧ after.journal = before.journal ∧
      ∃ read, (Layout.ensure layout.home).run before = (.ok (Layout.ofHome layout.home), read) ∧
        (Layout.loadConfig (Layout.ofHome layout.home)).run read = (.ok config, read) := by
  obtain ⟨read, resolved, ensured, loaded, configured⟩ := prepare_eq_ok done
  have plain : layout.home.IsPlain := Home.isPlain_of_resolve resolved
  obtain ⟨-, files, made, ways, stands⟩ := Layout.stands_of_ensure plain ensured
  obtain ⟨parts, -, -, files', configuredTo, ways', logs, prefs⟩ :=
    Layout.stands_of_configured (Layout.isPlain_ofHome plain) configured
  rw [made] at ways'
  refine ⟨resolved, parts, ?_, ?_, ?_, ?_, ?_, _, ensured, loaded⟩
  · rw [configuredTo]
    exact stands.mono (Layout.isPlain_ofHome plain) ways'
  · rw [configuredTo]
    exact logs
  · rw [configuredTo]
    exact prefs
  · rw [configuredTo]
    exact ways.trans ways'
  · rw [configuredTo, made]

theorem run_prepare_of_stands {host : Host} {home : Pathname}
    (resolved : Home.ofEnvironment host = .ok home)
    (stands : (Layout.ofHome home).Stands host.files) :
    prepare.run host =
      match (Layout.ofHome home).configIn host.files with
      | .error failure => (.error failure, host)
      | .ok config =>
          match (Layout.configured (Layout.ofHome home) config).run host with
          | (.ok layout, after) => (.ok (layout, config), after)
          | (.error failure, after) => (.error failure, after) := by
  rw [prepare, run_bind, Work.run_get]
  simp only [run_bind, resolved, run_ofExcept_ok,
    Layout.run_ensure_of_stands (Home.isPlain_of_resolve resolved) stands, Layout.run_loadConfig]
  cases (Layout.ofHome home).configIn host.files with
  | error failure => rfl
  | ok config =>
      dsimp only
      cases (Layout.configured (Layout.ofHome home) config).run host with
      | mk result after => cases result <;> rfl

theorem prepare_of_start {before after : Host} {running : Running}
    (done : start.run before = (.ok running, after)) :
    ∃ prepared, prepare.run before = (.ok (running.layout, running.config), prepared) := by
  rw [start] at done
  obtain ⟨⟨layout, config⟩, prepared, ran, done⟩ := run_bind_eq_ok done
  obtain ⟨-, _, -, done⟩ := run_bind_eq_ok done
  obtain ⟨-, _, -, done⟩ := run_bind_eq_ok done
  obtain ⟨-, _, -, done⟩ := run_bind_eq_ok done
  obtain ⟨page, _, -, done⟩ := run_bind_eq_ok done
  obtain ⟨names, _, -, done⟩ := run_bind_eq_ok done
  obtain ⟨-, _, -, done⟩ := run_bind_eq_ok done
  cases done
  exact ⟨prepared, ran⟩

/-- Every surrogate is one of a pair in the configuration of a service, as its start reads it. -/
def readsPaired (running : Running) (before : Host) : Bool :=
  let reading := ((Layout.ensure running.layout.home).run before).2
  (reading.files.read (Layout.ofHome running.layout.home).configFile).toOption.all Layout.isPaired

/-- A service has started from such a configuration. A page with other surrogates could not be
sent. -/
structure StartsPaired (before : Host) (running : Running) (after : Host) : Prop where
  done : start.run before = (.ok running, after)
  paired : readsPaired running before = true

theorem isPlain_of_start {before after : Host} {running : Running}
    (done : start.run before = (.ok running, after)) : running.layout.IsPlain := by
  obtain ⟨_, prepared⟩ := prepare_of_start done
  exact (housed_of_prepare prepared).2.1

theorem housed_of_start {before after : Host} {running : Running}
    (stands : before.JournalStands) (done : start.run before = (.ok running, after)) :
    Housed running after ∧ ∃ read,
      (Layout.ensure running.layout.home).run before =
        (.ok (Layout.ofHome running.layout.home), read) ∧
      (Layout.loadConfig (Layout.ofHome running.layout.home)).run read =
        (.ok running.config, read) := by
  rw [start] at done
  obtain ⟨⟨layout, config⟩, prepared, ran, done⟩ := run_bind_eq_ok done
  obtain ⟨_, opened, opening, done⟩ := run_bind_eq_ok done
  obtain ⟨_, first, log₁, done⟩ := run_bind_eq_ok done
  obtain ⟨_, second, log₂, done⟩ := run_bind_eq_ok done
  obtain ⟨page, third, made, done⟩ := run_bind_eq_ok done
  obtain ⟨names, fourth, listed, done⟩ := run_bind_eq_ok done
  obtain ⟨_, fifth, log₃, done⟩ := run_bind_eq_ok done
  have same := (run_ofExcept_eq_ok listed).2.trans (run_ofExcept_eq_ok made).2
  rw [run_log, Prod.mk.injEq] at log₁ log₂ log₃
  have lines : opened.OnlyLogged fifth := by
    rw [← log₃.2, same, ← log₂.2, ← log₁.2]
    exact ((Host.onlyLogged_log ..).trans (Host.onlyLogged_log ..)).trans (Host.onlyLogged_log ..)
  cases done
  obtain ⟨-, plain, usual, logs, prefs, ways, journal, read⟩ := housed_of_prepare ran
  have stood := stands.mono ways journal
  obtain ⟨ways', stood'⟩ := journalStands_of_openJournal stood opening
  have housed : Housed { layout, config, page, store := Store.ofConfig layout config } prepared :=
    ⟨plain, usual, logs, prefs, stood⟩
  exact ⟨housed.mono (ways'.trans lines.ways) (stood'.mono lines.ways lines.journal), read⟩

/-- A start succeeds where the directories stand, the configuration is a good one that names no
others, and the file of the journal can be opened. It opens that file and adds lines to it. -/
theorem exists_start {host : Host} {home : Pathname} {config : Config} {page : Page}
    {names : List String} {place : Path} {files : Files}
    (resolved : Home.ofEnvironment host = .ok home)
    (stands : (Layout.ofHome home).Stands host.files)
    (loaded : (Layout.loadConfig (Layout.ofHome home)).run host = (.ok config, host))
    (usual : config.directories = {}) (unopened : host.journal.opened = false)
    (opened : (FileAction.openForAppending ((Layout.ofHome home).logs.child journalName)).run
      host.files = (.ok place, files))
    (built : Page.build config.applet (some config.preferences) = .ok page)
    (listed : page.parameters.plugins = .ok names) :
    ∃ after, start.run host =
        (.ok ⟨Layout.ofHome home, config, page, Store.ofConfig (Layout.ofHome home) config⟩,
          after) ∧
      Host.OnlyLogged { host with files, journal := ⟨true, some place, journalLimit config⟩ }
        after := by
  have prepared : prepare.run host = (.ok (Layout.ofHome home, config), host) := by
    rw [Layout.run_loadConfig] at loaded
    rw [run_prepare_of_stands resolved stands, (Prod.mk.inj loaded).1]
    dsimp only
    rw [Layout.run_configured_of_stands stands usual]
  have journal :
      (openJournal ((Layout.ofHome home).logs.child journalName) (journalLimit config)).run host =
        (.ok (), { host with files, journal := ⟨true, some place, journalLimit config⟩ }) := by
    rw [openJournal, run_bind, run_ofFiles, opened]
    change (Except.ok (), if host.journal.opened then _ else _) = _
    rw [unopened]
    rfl
  refine ⟨_, ?_, ((Host.onlyLogged_log source .info "JinPage starting up" _).trans
    (Host.onlyLogged_log source .info
      ("Logs directory: " ++ (Layout.ofHome home).logs.toText) _)).trans
    (Host.onlyLogged_log source .info
      ("Applet page ready: " ++ toString page.parameters.size ++ " parameters, "
        ++ toString names.length ++ " plugins") _)⟩
  rw [start, run_bind, prepared]
  simp only [run_bind, journal, run_log, built, listed, run_ofExcept_ok]
  rfl

/-! A start that has been evaluated. -/

theorem exists_start_of_map {α : Type} {before : Host} {observe : Running → α} {value : α}
    (observed : (start.run before).1.toOption.map observe = some value) :
    ∃ running, start.run before = (.ok running, (start.run before).2) ∧
      observe running = value := by
  generalize start.run before = outcome at observed ⊢
  obtain ⟨running, done, same⟩ := Option.map_eq_some_iff.mp observed
  exact ⟨running, eq_ok_of_fst done, same⟩

end App

end AppletPage
