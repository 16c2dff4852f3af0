import AppletPage.Proofs.Host.Grown
import AppletPage.Proofs.Service.Start

/-! Preparing a page again: it finds the directories that it has made, and the configuration that it
has read. -/

namespace AppletPage

open HostAction

variable {a b : Files} {layout : Layout} {config : Config} {before prepared after later : Host}

theorem Layout.configIn_of_grown (grown : a.Grown b) (found : layout.configIn a = .ok config)
    (same : b.exists layout.configFile = a.exists layout.configFile) :
    layout.configIn b = .ok config := by
  cases there : a.exists layout.configFile with
  | error error => rw [configIn, there] at found; cases found
  | ok there' =>
      cases there' with
      | false =>
          rw [configIn, there] at found
          rw [configIn, same, there]
          exact found
      | true =>
          obtain ⟨content, read, valid⟩ := exists_read_of_configIn found there
          rw [configIn_of_read (same.trans there) (grown.read read), valid]

theorem Layout.onlyMade_of_configured {found : Layout}
    (done : (configured layout config).run before = (.ok found, after)) :
    before.OnlyMade after := by
  obtain ⟨-, -, -, between, files, logsMade, prefsMade, rfl⟩ := configured_eq_ok done
  have first := (FileAction.madeOnWay_makeDirectories found.logs before.files).directories
  have second := (FileAction.madeOnWay_makeDirectories found.prefs between).directories
  rw [logsMade] at first
  rw [prefsMade] at second
  exact ⟨first.trans second, rfl⟩

namespace App

theorem onlyMade_of_prepare (done : prepare.run before = (.ok (layout, config), after)) :
    before.OnlyMade after := by
  obtain ⟨read, -, ensured, -, configured⟩ := prepare_eq_ok done
  have made := Layout.onlyMade_ensure layout.home before
  rw [ensured] at made
  exact made.trans (Layout.onlyMade_of_configured configured)

/-- Where everything that a preparation found is still there, it finds the same home with the same
directories, if it comes to the same configuration. -/
theorem found_of_grown (tree : before.files.IsTree)
    (done : prepare.run before = (.ok (layout, config), after)) (grown : after.Grown later) :
    Home.ofEnvironment later = .ok layout.home ∧
      (Layout.ofHome layout.home).Stands later.files ∧
      (Layout.configured (Layout.ofHome layout.home) config).run later = (.ok layout, later) := by
  obtain ⟨read, resolved, ensured, loaded, configured⟩ := prepare_eq_ok done
  obtain ⟨-, plain, usual, logs, prefs, -⟩ := housed_of_prepare done
  obtain ⟨logsNamed, prefsNamed, parts, -⟩ := Layout.configured_eq_ok configured
  have ways := grown.files.ways
  have laid := usual.mono (Layout.isPlain_ofHome plain.home) ways
  have logsStand := Files.isDirectory_mono ways plain.logs.absolute logs
  have prefsStand := Files.isDirectory_mono ways plain.prefs.absolute prefs
  -- The home was found before anything was made, the others once the usual directories had been.
  have made := Layout.onlyMade_ensure layout.home before
  have readTree := Layout.isTree_ensure plain.home.absolute tree
  rw [ensured] at made readTree
  have since := (Layout.onlyMade_of_configured configured).grown.trans grown
  refine ⟨Home.ofEnvironment_of_grown (made.grown.trans since) tree resolved laid.home, laid, ?_⟩
  have again := Layout.run_configured_of_named
    (Layout.directory_of_grown since readTree logsNamed logsStand)
    (Layout.directory_of_grown since readTree prefsNamed prefsStand) logsStand prefsStand
  rwa [← parts] at again

theorem config_of_prepare (done : prepare.run before = (.ok (layout, config), after)) :
    layout.config = (Layout.ofHome layout.home).config := by
  obtain ⟨_, -, -, -, configured⟩ := prepare_eq_ok done
  obtain ⟨-, -, parts, -⟩ := Layout.configured_eq_ok configured
  rw [parts]
  rfl

/-- The configuration that was read before its directories were made is read afterwards. -/
theorem configIn_of_prepare (done : prepare.run before = (.ok (layout, config), after)) :
    (Layout.ofHome layout.home).configIn after.files = .ok config := by
  obtain ⟨read, resolved, ensured, loaded, configured⟩ := prepare_eq_ok done
  obtain ⟨found, -⟩ := Layout.configIn_of_loadConfig loaded
  have grown := (Layout.onlyMade_of_configured configured).files.grown
  cases there : read.files.exists (Layout.ofHome layout.home).configFile with
  | error error => rw [Layout.configIn, there] at found; cases found
  | ok there' =>
      cases there' with
      | true =>
          refine Layout.configIn_of_grown grown found (Eq.trans ?_ there.symm)
          obtain ⟨content, held, -⟩ := Layout.exists_read_of_configIn found there
          exact Files.exists_of_read (grown.read held)
      | false =>
          -- Without a file there are no other directories, and all that are usual have been made.
          have default : config = {} := by
            have given := found
            rw [Layout.configIn, there] at given
            exact (Except.ok.inj given).symm
          obtain ⟨-, files, made, -, stands⟩ :=
            Layout.stands_of_ensure (Home.isPlain_of_resolve resolved) ensured
          have laid : (Layout.ofHome layout.home).Stands read.files := by
            rw [made]
            exact stands
          have usual : config.directories = {} := by rw [default]
          have unchanged := Layout.run_configured_of_stands laid usual
          rw [configured] at unchanged
          rw [(Prod.mk.inj unchanged).2]
          exact found

theorem run_prepare_of_grown (tree : before.files.IsTree)
    (done : prepare.run before = (.ok (layout, config), after)) (grown : after.Grown later)
    (same : (Layout.ofHome layout.home).configIn later.files = .ok config) :
    prepare.run later = (.ok (layout, config), later) := by
  obtain ⟨resolved, stands, configured⟩ := found_of_grown tree done grown
  rw [run_prepare_of_stands resolved stands, same]
  dsimp only
  rw [configured]

theorem prepare_again (tree : before.files.IsTree)
    (done : prepare.run before = (.ok (layout, config), after)) :
    prepare.run after = (.ok (layout, config), after) :=
  run_prepare_of_grown tree done (.refl after) (configIn_of_prepare done)

/-- Once the file of the journal has been opened, preparing finds the same, unless that file is the
one of the configuration, which is new then and holds nothing. -/
theorem prepare_opened {path : Pathname} {limit : Nat} (tree : before.files.IsTree)
    (done : prepare.run before = (.ok (layout, config), prepared))
    (opened : (openJournal path limit).run prepared = (.ok (), after)) :
    after.files.exists layout.configFile = prepared.files.exists layout.configFile ∧
        prepare.run after = (.ok (layout, config), after) ∨
      prepared.files.exists layout.configFile = .ok false ∧
        after.files.read layout.configFile = .ok [] ∧
        ∃ error, prepare.run after = (.error (.json error), after) := by
  have grown := Host.grown_of_openJournal opened
  obtain ⟨place, files, made, rfl⟩ := openJournal_eq_ok opened
  have held := configIn_of_prepare done
  have file : layout.configFile = (Layout.ofHome layout.home).configFile := by
    rw [Layout.configFile, config_of_prepare done]
    rfl
  rw [file]
  by_cases same : files.exists (Layout.ofHome layout.home).configFile =
      prepared.files.exists (Layout.ofHome layout.home).configFile
  · exact .inl ⟨same,
      run_prepare_of_grown tree done grown (Layout.configIn_of_grown grown.files held same)⟩
  right
  cases there : prepared.files.exists (Layout.ofHome layout.home).configFile with
  | error error => rw [Layout.configIn, there] at held; cases held
  | ok there' =>
      cases there' with
      | true =>
          obtain ⟨content, read, -⟩ := Layout.exists_read_of_configIn held there
          exact absurd ((Files.exists_of_read (grown.files.read read)).trans there.symm) same
      | false =>
          obtain ⟨below, ⟨content, -, rfl⟩ | ⟨-, rfl⟩⟩ := FileAction.openForAppending_cases made
          · exact absurd rfl same
          rcases Files.read_of_put_file below there with free | read
          · exact absurd (free.trans there.symm) same
          · have empty : ∃ error, Layout.readConfig [] = .error (.json error) := ⟨_, rfl⟩
            obtain ⟨error, refused⟩ := empty
            obtain ⟨resolved, stands, -⟩ := found_of_grown tree done grown
            refine ⟨rfl, read, error, ?_⟩
            rw [run_prepare_of_stands resolved stands,
              Layout.configIn_of_read (Files.exists_of_read read) read, refused]

end App

end AppletPage
