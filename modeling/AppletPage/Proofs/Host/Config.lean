import AppletPage.Proofs.Config.RoundTrip
import AppletPage.Proofs.Files.Writing
import AppletPage.Proofs.Host.Json
import AppletPage.Proofs.Host.Layout

/-! The configuration in its file: what a text describes is written, and loaded again. -/

namespace AppletPage.Layout

open HostAction Text

variable {layout : Layout} {config : Config} {host after : Host}

theorem readConfig_fileText (lasting : config.Lasting) :
    readConfig (Utf8.encode config.fileText) = .ok config := by
  have read := readJson_written Json.Style.portable (Config.isExact_toJsonWith lasting)
    config.depth_toJsonWith_le
  rw [readConfig, Config.fileText, read]
  dsimp only
  rw [Config.ofJson_toJsonWith lasting]
  rfl

theorem exists_ofJson_of_readConfig {content : Bytes} (read : readConfig content = .ok config) :
    ∃ text value, Json.read text = .ok value ∧ Config.ofJson value = .ok config := by
  rw [readConfig, readJson] at read
  cases decoded : Utf8.decodeChars content with
  | error malformed => rw [decoded] at read; cases read
  | ok text =>
      rw [decoded] at read
      dsimp only at read
      cases scanned : Json.read (String.ofList (unifyLineEnds text)) with
      | error error => rw [scanned] at read; cases read
      | ok value =>
          rw [scanned] at read
          dsimp only [Except.mapError] at read
          cases valid : Config.ofJson value with
          | error issues => rw [valid] at read; cases read
          | ok given =>
              rw [valid] at read
              cases read
              exact ⟨_, value, scanned, valid⟩

theorem withinBounds_of_configIn {files : Files} (found : layout.configIn files = .ok config) :
    config.WithinBounds := by
  cases there : files.exists layout.configFile with
  | error error => rw [configIn, there] at found; cases found
  | ok there' =>
      cases there' with
      | false =>
          rw [configIn, there] at found
          cases found
          exact ⟨⟨by decide, by decide⟩, ⟨by decide, by decide⟩, by decide, by decide, by decide,
            by decide, by decide, by decide⟩
      | true =>
          obtain ⟨content, -, read⟩ := exists_read_of_configIn found there
          obtain ⟨text, value, scanned, valid⟩ := exists_ofJson_of_readConfig read
          exact (Config.lasting_of_read scanned valid).withinBounds

theorem run_writeConfig_eq_ok_iff :
    (writeConfig layout config).run host = (.ok (), after) ↔
      ∃ made files, (FileAction.makeDirectories layout.config).run host.files = (.ok (), made) ∧
        (FileAction.write layout.configFile (Utf8.encode config.fileText)).run made =
          (.ok (), files) ∧
        after = { host with files } := by
  constructor
  · intro written
    obtain ⟨files, ran, same⟩ := run_ofFiles_eq_ok written
    obtain ⟨_, made, directories, file⟩ := Work.run_bind_eq_ok ran
    exact ⟨made, files, directories, file, same⟩
  · rintro ⟨made, files, directories, file, rfl⟩
    rw [writeConfig, run_ofFiles, Work.run_bind, directories]
    dsimp only
    rw [file]

theorem hasZero_configFile {made : Files}
    (done : (FileAction.makeDirectories layout.config).run host.files = (.ok (), made)) :
    Files.hasZero layout.configFile = false := by
  have there := FileAction.isDirectory_of_makeDirectories done
  rw [configFile, Files.hasZero_child, (Files.isDirectory_eq_true_iff.mp there).1]
  decide

/-- A configuration is written where its directory is or can be made, and nothing is in the place of
its file or a file. -/
theorem exists_writeConfig_iff :
    (∃ after, (writeConfig layout config).run host = (.ok (), after)) ↔
      ∃ made, (FileAction.makeDirectories layout.config).run host.files = (.ok (), made) ∧
        (made.locate layout.configFile .created).Writable := by
  constructor
  · rintro ⟨after, written⟩
    obtain ⟨made, files, directories, file, -⟩ := run_writeConfig_eq_ok_iff.mp written
    exact ⟨made, directories, (FileAction.run_write_eq_ok_iff.mp file).2.1⟩
  · rintro ⟨made, directories, writable⟩
    exact ⟨_, run_writeConfig_eq_ok_iff.mpr ⟨made, _, directories,
      FileAction.run_write_eq_ok_iff.mpr ⟨hasZero_configFile directories, writable, rfl⟩, rfl⟩⟩

theorem writeConfig_again (written : (writeConfig layout config).run host = (.ok (), after)) :
    (writeConfig layout config).run after = (.ok (), after) := by
  obtain ⟨made, files, directories, file, rfl⟩ := run_writeConfig_eq_ok_iff.mp written
  have there := FileAction.isDirectory_of_makeDirectories directories
  obtain ⟨ways, start⟩ := FileAction.waysKept_of_write file
  have still := Files.isDirectory_mono_of_sameStart ways start there
  exact run_writeConfig_eq_ok_iff.mpr ⟨files, files,
    FileAction.run_makeDirectories_of_isDirectory still, FileAction.write_again file, rfl⟩

/-- A configuration that a text describes is within its bounds and survives its file: wherever it
can be written, the same is loaded from there, and writing that gives the same file. It can be
written where its directory is or can be made and its file can be. -/
theorem loadConfig_written {text : String} {value : Json} {config : Config}
    (read : Json.read text = .ok value) (valid : Config.ofJson value = .ok config) :
    config.WithinBounds ∧ ∀ (layout : Layout) (host : Host),
      (∀ after, (writeConfig layout config).run host = (.ok (), after) →
        (loadConfig layout).run after = (.ok config, after) ∧
        after.files.read layout.configFile = .ok (Utf8.encode config.fileText) ∧
        (writeConfig layout config).run after = (.ok (), after)) ∧
      ((∃ after, (writeConfig layout config).run host = (.ok (), after)) ↔
        ∃ made, (FileAction.makeDirectories layout.config).run host.files = (.ok (), made) ∧
          (made.locate layout.configFile .created).Writable) := by
  have lasting := Config.lasting_of_read read valid
  refine ⟨lasting.withinBounds, fun layout host => ⟨fun after written => ?_,
    exists_writeConfig_iff⟩⟩
  obtain ⟨made, files, -, file, same⟩ := run_writeConfig_eq_ok_iff.mp written
  have content : after.files.read layout.configFile = .ok (Utf8.encode config.fileText) := by
    rw [same]
    exact FileAction.read_of_write file
  refine ⟨?_, content, writeConfig_again written⟩
  rw [run_loadConfig, configIn_of_read (Files.exists_of_read content) content,
    readConfig_fileText lasting]

def laxPage : String :=
  "\x7b\"applet\": \x7b\"port\": \"05_001\", \"width\": true, \"height\": 3e2\x7d, " ++
    "\"prefs\": \x7b\"enabled\": \"yes\", \"save_prefs_url\": null\x7d, \"other\": [1]\x7d"

theorem loadConfig_written_lax :
    ∃ value config after, Json.read laxPage = .ok value ∧ Config.ofJson value = .ok config ∧
      config.applet.port = 5001 ∧ config.WithinBounds ∧
      (writeConfig (ofHome ⟨.single, []⟩) config).run {} = (.ok (), after) ∧
      (loadConfig (ofHome ⟨.single, []⟩)).run after = (.ok config, after) := by
  have evaluated : ((Json.read laxPage).toOption.bind fun value => (Config.ofJson value).toOption) =
      some { applet := { port := 5001, width := 1, height := 300 },
             preferences := { enabled := true } } := by
    decide +kernel
  obtain ⟨value, read, valid⟩ := Option.bind_eq_some_iff.mp evaluated
  have read := eq_ok_of_toOption read
  have valid := eq_ok_of_toOption valid
  obtain ⟨bounded, survives⟩ := loadConfig_written read valid
  obtain ⟨kept, writes⟩ := survives (ofHome ⟨.single, []⟩) {}
  have free : (({} : Files).put ["config"] .directory).locate (ofHome ⟨.single, []⟩).configFile
      .created = .vacant ["config"] "page.json" := by
    decide +kernel
  obtain ⟨after, written⟩ := writes.mpr ⟨_, rfl, .inr ⟨["config"], "page.json", free⟩⟩
  exact ⟨value, _, after, read, valid, rfl, bounded, written, (kept after written).1⟩

end AppletPage.Layout
