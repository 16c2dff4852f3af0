import AppletPage.Host.Layout
import AppletPage.Proofs.Files.Directory
import AppletPage.Proofs.Host.Action
import AppletPage.Proofs.Host.Home

/-! The directories of a page: they are there once they have been made, and stay there as long as
the ways to them do. -/

namespace AppletPage

open HostAction

namespace Layout

variable {layout : Layout} {home : Pathname} {host after : Host}

structure Stands (layout : Layout) (files : Files) : Prop where
  home : files.isDirectory layout.home = .ok true
  config : files.isDirectory layout.config = .ok true
  logs : files.isDirectory layout.logs = .ok true
  prefs : files.isDirectory layout.prefs = .ok true

structure IsPlain (layout : Layout) : Prop where
  home : layout.home.IsPlain
  config : layout.config.IsPlain
  logs : layout.logs.IsPlain
  prefs : layout.prefs.IsPlain

theorem isPlain_ofHome (plain : home.IsPlain) : (ofHome home).IsPlain :=
  ⟨plain, plain.child (by decide), plain.child (by decide), plain.child (by decide)⟩

theorem Stands.mono {a b : Files} (stands : layout.Stands a) (plain : layout.IsPlain)
    (ways : a.WaysKept b) : layout.Stands b :=
  ⟨Files.isDirectory_mono ways plain.home.absolute stands.home,
    Files.isDirectory_mono ways plain.config.absolute stands.config,
    Files.isDirectory_mono ways plain.logs.absolute stands.logs,
    Files.isDirectory_mono ways plain.prefs.absolute stands.prefs⟩

theorem stands_of_made {path : Pathname} {files between : Files}
    (done : (FileAction.makeDirectories path).run files = (.ok (), between)) :
    files.WaysKept between ∧ between.isDirectory path = .ok true := by
  have made := FileAction.madeOnWay_makeDirectories path files
  rw [done] at made
  exact ⟨made.ways, FileAction.isDirectory_of_makeDirectories done⟩

theorem stands_of_ensure (plain : home.IsPlain)
    (done : (ensure home).run host = (.ok layout, after)) :
    layout = ofHome home ∧ ∃ files, after = { host with files } ∧ host.files.WaysKept files ∧
      (ofHome home).Stands files := by
  obtain ⟨_, between, ran, done⟩ := run_bind_eq_ok done
  cases done
  obtain ⟨files, made, same⟩ := run_ofFiles_eq_ok ran
  have parts := isPlain_ofHome plain
  obtain ⟨_, first, homeMade, made⟩ := Work.run_bind_eq_ok made
  obtain ⟨_, second, configMade, made⟩ := Work.run_bind_eq_ok made
  obtain ⟨_, third, logsMade, prefsMade⟩ := Work.run_bind_eq_ok made
  have homeStands := stands_of_made homeMade
  have configStands := stands_of_made configMade
  have logsStands := stands_of_made logsMade
  have prefsStands := stands_of_made prefsMade
  have late := logsStands.1.trans prefsStands.1
  refine ⟨rfl, files, same, homeStands.1.trans (configStands.1.trans late), ?_, ?_, ?_, ?_⟩
  · exact Files.isDirectory_mono (configStands.1.trans late) parts.home.absolute homeStands.2
  · exact Files.isDirectory_mono late parts.config.absolute configStands.2
  · exact Files.isDirectory_mono prefsStands.1 parts.logs.absolute logsStands.2
  · exact prefsStands.2

theorem run_ensure_of_stands (plain : home.IsPlain) (stands : (ofHome home).Stands host.files) :
    (ensure home).run host = (.ok (ofHome home), host) := by
  have parts := isPlain_ofHome plain
  have ran : (do
      FileAction.makeDirectories (ofHome home).home
      FileAction.makeDirectories (ofHome home).config
      FileAction.makeDirectories (ofHome home).logs
      FileAction.makeDirectories (ofHome home).prefs : FileAction Unit).run host.files =
      (.ok (), host.files) := by
    simp only [Work.run_bind,
      FileAction.run_makeDirectories_of_isDirectory stands.home,
      FileAction.run_makeDirectories_of_isDirectory stands.config,
      FileAction.run_makeDirectories_of_isDirectory stands.logs,
      FileAction.run_makeDirectories_of_isDirectory stands.prefs]
  rw [ensure, run_bind, run_ofFiles, ran]
  rfl

theorem isPlain_of_directory {usual path : Pathname} {setting : Option String}
    (plain : usual.IsPlain) (named : directory host home usual setting = .ok path) :
    path.IsPlain := by
  unfold directory at named
  split at named
  · cases named; exact plain
  · split at named
    · cases named; exact plain
    · next text _ =>
      cases expanded : Home.expand host (Pathname.ofText text) with
      | error error => rw [expanded] at named; cases named
      | ok given =>
          rw [expanded] at named
          exact Files.isPlain_of_resolve named

theorem configured_eq_ok {config : Config} {found : Layout}
    (done : (configured layout config).run host = (.ok found, after)) :
    directory host layout.home layout.logs config.directories.logs = .ok found.logs ∧
      directory host layout.home layout.prefs config.directories.prefs = .ok found.prefs ∧
      found = { layout with logs := found.logs, prefs := found.prefs } ∧
      ∃ between files, (FileAction.makeDirectories found.logs).run host.files = (.ok (), between) ∧
        (FileAction.makeDirectories found.prefs).run between = (.ok (), files) ∧
        after = { host with files } := by
  obtain ⟨_, _, got, first⟩ := run_bind_eq_ok done
  cases got
  obtain ⟨logs, _, logsGiven, second⟩ := run_bind_eq_ok first
  obtain ⟨logsNamed, rfl⟩ := run_ofExcept_eq_ok logsGiven
  obtain ⟨prefs, _, prefsGiven, third⟩ := run_bind_eq_ok second
  obtain ⟨prefsNamed, rfl⟩ := run_ofExcept_eq_ok prefsGiven
  obtain ⟨_, between, ran, last⟩ := run_bind_eq_ok third
  cases last
  obtain ⟨files, made, same⟩ := run_ofFiles_eq_ok ran
  obtain ⟨_, between, logsMade, prefsMade⟩ := Work.run_bind_eq_ok made
  exact ⟨logsNamed, prefsNamed, rfl, between, files, logsMade, prefsMade, same⟩

theorem stands_of_configured {config : Config} {found : Layout} (plain : layout.IsPlain)
    (done : (configured layout config).run host = (.ok found, after)) :
    found.IsPlain ∧ found.home = layout.home ∧ found.config = layout.config ∧
      ∃ files, after = { host with files } ∧ host.files.WaysKept files ∧
        files.isDirectory found.logs = .ok true ∧ files.isDirectory found.prefs = .ok true := by
  obtain ⟨logsNamed, prefsNamed, parts, between, files, logsMade, prefsMade, same⟩ :=
    configured_eq_ok done
  have logsPlain := isPlain_of_directory plain.logs logsNamed
  have prefsPlain := isPlain_of_directory plain.prefs prefsNamed
  have logsStands := stands_of_made logsMade
  have prefsStands := stands_of_made prefsMade
  have home : found.home = layout.home := by rw [parts]
  have config : found.config = layout.config := by rw [parts]
  exact ⟨⟨home ▸ plain.home, config ▸ plain.config, logsPlain, prefsPlain⟩, home, config, files,
    same, logsStands.1.trans prefsStands.1,
    Files.isDirectory_mono prefsStands.1 logsPlain.absolute logsStands.2, prefsStands.2⟩

theorem run_configured_of_named {config : Config} {logs prefs : Pathname}
    (logsNamed : directory host layout.home layout.logs config.directories.logs = .ok logs)
    (prefsNamed : directory host layout.home layout.prefs config.directories.prefs = .ok prefs)
    (logsStand : host.files.isDirectory logs = .ok true)
    (prefsStand : host.files.isDirectory prefs = .ok true) :
    (configured layout config).run host = (.ok { layout with logs, prefs }, host) := by
  have ran : (do
      FileAction.makeDirectories logs
      FileAction.makeDirectories prefs : FileAction Unit).run host.files =
      (.ok (), host.files) := by
    simp only [Work.run_bind, FileAction.run_makeDirectories_of_isDirectory logsStand,
      FileAction.run_makeDirectories_of_isDirectory prefsStand]
  rw [configured, run_bind, Work.run_get]
  simp only [logsNamed, prefsNamed, run_bind, run_ofExcept_ok, run_ofFiles, ran]
  rfl

theorem run_configured_of_stands {config : Config} (stands : layout.Stands host.files)
    (usual : config.directories = {}) :
    (configured layout config).run host = (.ok layout, host) :=
  run_configured_of_named (by rw [usual]; rfl) (by rw [usual]; rfl) stands.logs stands.prefs

def configIn (layout : Layout) (files : Files) : Except Failure Config :=
  match files.exists layout.configFile with
  | .error error => .error (.file error)
  | .ok false => .ok {}
  | .ok true =>
      match files.read layout.configFile with
      | .error error => .error (.file error)
      | .ok content => readConfig content

theorem run_loadConfig (layout : Layout) (host : Host) :
    (loadConfig layout).run host = (layout.configIn host.files, host) := by
  rw [loadConfig, configIn, run_bind, run_exists]
  cases host.files.exists layout.configFile with
  | error error => rfl
  | ok there =>
      cases there with
      | false => rfl
      | true =>
          simp only [if_true, run_bind, run_read]
          cases host.files.read layout.configFile with
          | error error => rfl
          | ok content =>
              dsimp only
              cases readConfig content <;> rfl

theorem configIn_of_loadConfig {config : Config}
    (loaded : (loadConfig layout).run host = (.ok config, after)) :
    layout.configIn host.files = .ok config ∧ after = host := by
  rw [run_loadConfig] at loaded
  exact ⟨(Prod.mk.inj loaded).1, (Prod.mk.inj loaded).2.symm⟩

theorem configIn_of_read {files : Files} {content : Text.Bytes}
    (there : files.exists layout.configFile = .ok true)
    (read : files.read layout.configFile = .ok content) :
    layout.configIn files = readConfig content := by
  rw [configIn, there]
  dsimp only
  rw [read]

theorem exists_read_of_configIn {files : Files} {config : Config}
    (found : layout.configIn files = .ok config)
    (there : files.exists layout.configFile = .ok true) :
    ∃ content, files.read layout.configFile = .ok content ∧ readConfig content = .ok config := by
  rw [configIn, there] at found
  cases held : files.read layout.configFile with
  | error error => rw [held] at found; cases found
  | ok content =>
      rw [held] at found
      exact ⟨content, rfl, found⟩

theorem run_loadConfig_eq_ok {other : Host} {config : Config}
    (loaded : (loadConfig layout).run host = (.ok config, host))
    (there : other.files.exists layout.configFile = host.files.exists layout.configFile)
    (content : other.files.read layout.configFile = host.files.read layout.configFile) :
    (loadConfig layout).run other = (.ok config, other) := by
  rw [run_loadConfig] at loaded
  rw [run_loadConfig, configIn, there, content, ← (Prod.mk.inj loaded).1, configIn]

end Layout

end AppletPage
