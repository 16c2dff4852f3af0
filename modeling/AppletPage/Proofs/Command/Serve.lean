import AppletPage.Command.Serve
import AppletPage.Proofs.Host.Config
import AppletPage.Proofs.Number.Integer
import AppletPage.Proofs.Service.Prepare

/-! How a service gets to listen: at which port, and with the directories that its start finds. -/

namespace AppletPage

theorem Host.setting?_eq_some_iff {host : Host} {name text : String} :
    host.setting? name = some text ↔ host.lookup? name = some text ∧ text ≠ "" := by
  rw [setting?]
  cases host.lookup? name with
  | none => simp
  | some value =>
      dsimp only
      split
      · next empty =>
        constructor
        · intro given
          cases given
        · rintro ⟨given, named⟩
          cases given
          exact absurd empty named
      · next named =>
        refine ⟨fun same => ⟨same, ?_⟩, And.left⟩
        rwa [← Option.some.inj same]

theorem Host.setting?_eq_none_iff {host : Host} {name : String} :
    host.setting? name = none ↔ host.lookup? name = none ∨ host.lookup? name = some "" := by
  rw [setting?]
  cases host.lookup? name with
  | none => exact iff_of_true rfl (.inl rfl)
  | some value => simp

namespace Command

open Config (IsPort)
open HostAction Number

variable {before prepared after host : Host} {layout : Layout} {config : Config}
  {listening : Listening} {number : Int} {text : String}

theorem port_of_unset (unset : host.setting? portName = none) :
    port host config = .ok config.network.httpPort := by
  rw [port, unset]

theorem port_of_set (set : host.setting? portName = some text) :
    port host config = .ok number ↔ Denotes text number := by
  rw [port, set]
  exact integerOfText_eq_ok_iff

theorem listen_eq_ok (done : listen.run before = (.ok listening, after)) :
    ∃ layout config prepared,
      App.prepare.run before.closeJournal = (.ok (layout, config), prepared) ∧
      (openJournal (layout.logs.child App.journalName) (App.journalLimit config)).run prepared =
        (.ok (), after) ∧
      port before config = .ok listening.port := by
  obtain ⟨_, closed, closing, done⟩ := run_bind_eq_ok done
  cases closing
  obtain ⟨⟨layout, config⟩, prepared, ready, done⟩ := run_bind_eq_ok done
  obtain ⟨_, opened, opening, done⟩ := run_bind_eq_ok done
  obtain ⟨_, _, got, done⟩ := run_bind_eq_ok done
  cases got
  obtain ⟨number, _, given, done⟩ := run_bind_eq_ok done
  obtain ⟨given, rfl⟩ := run_ofExcept_eq_ok given
  cases done
  have grown := (App.onlyMade_of_prepare ready).grown.trans (Host.grown_of_openJournal opening)
  have same : port after config = port before config := by
    rw [port, port, grown.setting?_eq]
    rfl
  exact ⟨layout, config, prepared, ready, opening, same.symm.trans given⟩

/-- A service listens at the port of its configuration, which is within its bounds, if none is set
beside it. One that is set is the number that its text holds, within those bounds or not. -/
theorem port_of_listen (done : listen.run before = (.ok listening, after)) :
    ∃ layout config prepared,
      App.prepare.run before.closeJournal = (.ok (layout, config), prepared) ∧
      IsPort config.network.httpPort ∧
      (before.lookup? portName = none ∨ before.lookup? portName = some "" →
        listening.port = config.network.httpPort) ∧
      (∀ text, before.lookup? portName = some text → text ≠ "" →
        Denotes text listening.port) ∧
      (IsPort listening.port ↔ ∀ text number, before.lookup? portName = some text → text ≠ "" →
        Denotes text number → IsPort number) := by
  obtain ⟨layout, config, prepared, ready, -, given⟩ := listen_eq_ok done
  have bounded : IsPort config.network.httpPort :=
    (Layout.withinBounds_of_configIn (App.configIn_of_prepare ready)).httpPort
  have unset (none : before.setting? portName = none) :
      listening.port = config.network.httpPort := by
    rw [port_of_unset none] at given
    exact (Except.ok.inj given).symm
  have set (text : String) (there : before.setting? portName = some text) :
      Denotes text listening.port := (port_of_set there).mp given
  refine ⟨layout, config, prepared, ready, bounded,
    fun none => unset (Host.setting?_eq_none_iff.mpr none),
    fun text there named => set text (Host.setting?_eq_some_iff.mpr ⟨there, named⟩), ?_, ?_⟩
  · intro fits text number there named denoted
    have held := set text (Host.setting?_eq_some_iff.mpr ⟨there, named⟩)
    exact denoted.unique held ▸ fits
  · intro fits
    cases found : before.setting? portName with
    | none => exact unset found ▸ bounded
    | some text =>
        obtain ⟨there, named⟩ := Host.setting?_eq_some_iff.mp found
        exact fits text listening.port there named (set text found)

def hostOfHighPort : Host :=
  { environment := [("JINPAGE_HOME", "/home"), ("JINPAGE_PORT", "7_0000")] }

theorem port_of_listen_high :
    ∃ listening after, listen.run hostOfHighPort = (.ok listening, after) ∧
      listening.port = 70000 ∧ ¬ IsPort listening.port := by
  have evaluated : (listen.run hostOfHighPort).1.toOption.map (·.port) = some 70000 := by
    decide +kernel
  obtain ⟨listening, done, port⟩ := Option.map_eq_some_iff.mp evaluated
  have done := eq_ok_of_fst done
  obtain ⟨layout, config, prepared, -, -, -, set, bounded⟩ := port_of_listen done
  refine ⟨listening, _, done, port, fun fits => ?_⟩
  have there : hostOfHighPort.lookup? portName = some "7_0000" := by decide +kernel
  have named : "7_0000" ≠ "" := by decide
  have within := bounded.mp fits "7_0000" 70000 there named (port ▸ set "7_0000" there named)
  exact absurd within.bounded (by decide)

/-- Setting up a page a second time finds the same directories and the same configuration, and
changes nothing. The directory of the journal is the one that a service finds when it starts,
unless opening the journal has made the file of the configuration: that holds nothing, and the
service cannot start. -/
theorem set_up_again (tree : before.files.IsTree) :
    (∀ layout config after, App.prepare.run before = (.ok (layout, config), after) →
      App.prepare.run after = (.ok (layout, config), after) ∧
        Home.ofEnvironment before = .ok layout.home ∧
        layout.config = (Layout.ofHome layout.home).config ∧ layout.Stands after.files) ∧
    ∀ listening after, listen.run before = (.ok listening, after) →
      ∃ layout config prepared,
        App.prepare.run before.closeJournal = (.ok (layout, config), prepared) ∧
        (openJournal (layout.logs.child App.journalName) (App.journalLimit config)).run prepared =
          (.ok (), after) ∧
        (after.files.exists layout.configFile = prepared.files.exists layout.configFile ∧
            App.prepare.run after = (.ok (layout, config), after) ∨
          prepared.files.exists layout.configFile = .ok false ∧
            after.files.read layout.configFile = .ok [] ∧
            ∃ error, App.prepare.run after = (.error (.json error), after)) := by
  refine ⟨fun layout config after done => ?_, fun listening after done => ?_⟩
  · obtain ⟨resolved, -, usual, logs, prefs, -⟩ := App.housed_of_prepare done
    have config := App.config_of_prepare done
    exact ⟨App.prepare_again tree done, resolved, config,
      ⟨usual.home, config ▸ usual.config, logs, prefs⟩⟩
  · obtain ⟨layout, config, prepared, ready, opening, -⟩ := listen_eq_ok done
    have sameTree : before.closeJournal.files.IsTree := tree
    exact ⟨layout, config, prepared, ready, opening, App.prepare_opened sameTree ready opening⟩

/-- A host on which the file of the journal is a link to that of the configuration, which is
missing. -/
def hostOfLinkedJournal : Host :=
  { files := { nodes := [(["home"], .directory), (["home", "logs"], .directory),
      (["home", "logs", "jinpage.log"], .link "../config/page.json")] }
    environment := [("JINPAGE_HOME", "/home")] }

theorem not_set_up_again :
    ¬ ∀ (before after : Host) (listening : Listening), before.files.IsTree →
      listen.run before = (.ok listening, after) →
        ∃ layout config prepared,
          App.prepare.run before.closeJournal = (.ok (layout, config), prepared) ∧
          App.prepare.run after = (.ok (layout, config), after) := by
  intro always
  have tree : hostOfLinkedJournal.files.IsTree := Files.isTree_of_all (by decide)
  have evaluated : (listen.run hostOfLinkedJournal).1.toOption.isSome = true := by decide +kernel
  obtain ⟨listening, listens⟩ := Option.isSome_iff_exists.mp evaluated
  obtain ⟨layout, config, prepared, -, again⟩ :=
    always hostOfLinkedJournal _ listening tree (eq_ok_of_fst listens)
  have refused :
      (App.prepare.run (listen.run hostOfLinkedJournal).2).1.toOption.isSome = false := by
    decide +kernel
  rw [again] at refused
  cases refused

/-- A host whose configuration names a directory above its home, and one behind a link. -/
def hostOfFarDirectories : Host :=
  { files := { nodes := [(["home"], .directory), (["home", "config"], .directory),
      (["home", "config", "page.json"], .file (Text.Utf8.encode
        ("\x7b\"paths\": \x7b\"logs_dir\": \"../far/logs\", " ++
          "\"prefs_dir\": \"users/./all\"\x7d\x7d"))),
      (["home", "users"], .link "../data")] }
    environment := [("JINPAGE_HOME", "/home")] }

def farLayout : Layout :=
  { Layout.ofHome ⟨.single, ["home"]⟩ with
    logs := ⟨.single, ["far", "logs"]⟩, prefs := ⟨.single, ["data", "all"]⟩ }

theorem set_up_again_far :
    ∃ config prepared listening after,
      App.prepare.run hostOfFarDirectories = (.ok (farLayout, config), prepared) ∧
      App.prepare.run prepared = (.ok (farLayout, config), prepared) ∧
      farLayout.Stands prepared.files ∧
      listen.run hostOfFarDirectories = (.ok listening, after) ∧
      App.prepare.run after = (.ok (farLayout, config), after) := by
  have tree : hostOfFarDirectories.files.IsTree := Files.isTree_of_all (by decide +kernel)
  obtain ⟨again, opened⟩ := set_up_again tree
  have evaluated :
      (App.prepare.run hostOfFarDirectories).1.toOption.map (·.1) = some farLayout := by
    decide +kernel
  obtain ⟨⟨layout, config⟩, ready, rfl⟩ := Option.map_eq_some_iff.mp evaluated
  have ready := eq_ok_of_fst ready
  have listens : (listen.run hostOfFarDirectories).1.toOption.isSome = true := by decide +kernel
  obtain ⟨listening, listens⟩ := Option.isSome_iff_exists.mp listens
  have listens := eq_ok_of_fst listens
  have there : ((App.prepare.run hostOfFarDirectories).2.files.exists
      farLayout.configFile).toOption = some true := by
    decide +kernel
  obtain ⟨same, -, -, stands⟩ := again _ _ _ ready
  obtain ⟨_, _, prepared, ready', -, outcome⟩ := opened _ _ listens
  have anew : hostOfFarDirectories.closeJournal = hostOfFarDirectories := rfl
  rw [anew, ready] at ready'
  cases ready'
  refine ⟨config, _, listening, _, ready, same, stands, listens, ?_⟩
  rcases outcome with ⟨-, started⟩ | ⟨missing, -⟩
  · exact started
  · rw [missing] at there
    cases there

end Command

end AppletPage
