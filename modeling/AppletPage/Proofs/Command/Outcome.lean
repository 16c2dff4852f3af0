import AppletPage.Proofs.Command.Export
import AppletPage.Proofs.Host.Grown

/-! What the command leaves behind, however it ends: directories, and the file of the page once that
has been written. -/

namespace AppletPage

open HostAction

namespace Command

variable {arguments : List String} {options : Options} {host after : Host} {page : Page}
  {output : String}

theorem onlyMade_loadPage (options : Options) (host : Host) :
    host.OnlyMade ((loadPage options).run host).2 := by
  rw [loadPage]
  refine Work.rel_run_bind Host.OnlyMade .trans (.refl host) fun _ host => ?_
  refine Work.rel_run_bind Host.OnlyMade .trans ?_ fun home host => ?_
  · rw [snd_run_ofExcept]
    exact .refl host
  refine Work.rel_run_bind Host.OnlyMade .trans (Layout.onlyMade_ensure home host)
    fun layout host => ?_
  refine Work.rel_run_bind Host.OnlyMade .trans ?_ fun config host => ?_
  · rw [Layout.run_loadConfig]
    exact .refl host
  · rw [snd_run_ofExcept]
    exact .refl host

theorem isPlain_of_homeOf {home : Pathname} (named : homeOf options host = .ok home) :
    home.IsPlain := by
  rw [homeOf] at named
  split at named
  · exact Home.isPlain_of_resolve named
  · exact Home.isPlain_of_resolve named

theorem loadPage_eq_ok (loaded : (loadPage options).run host = (.ok page, after)) :
    ∃ home config, homeOf options host = .ok home ∧
      (Layout.ensure home).run host = (.ok (Layout.ofHome home), after) ∧
      (Layout.loadConfig (Layout.ofHome home)).run after = (.ok config, after) ∧
      Page.build config.applet (some config.preferences) = .ok page := by
  obtain ⟨_, _, got, first⟩ := run_bind_eq_ok loaded
  cases got
  obtain ⟨home, _, named, second⟩ := run_bind_eq_ok first
  obtain ⟨named, rfl⟩ := run_ofExcept_eq_ok named
  obtain ⟨layout, read, ensured, third⟩ := run_bind_eq_ok second
  obtain ⟨config, _, seen, last⟩ := run_bind_eq_ok third
  obtain ⟨built, rfl⟩ := run_ofExcept_eq_ok last
  obtain ⟨rfl, -⟩ := Layout.stands_of_ensure (isPlain_of_homeOf named) ensured
  obtain ⟨-, rfl⟩ := Layout.configIn_of_loadConfig seen
  exact ⟨home, config, named, ensured, seen, built⟩

theorem onlyMade_exportPage
    (unplaced : options.listParameters = true ∨ ∀ out, options.out ≠ some (.text out))
    (host : Host) : host.OnlyMade ((exportPage options).run host).2 := by
  rw [exportPage]
  refine Work.rel_run_bind Host.OnlyMade .trans (onlyMade_loadPage options host) fun page host => ?_
  split
  · refine Work.rel_run_bind Host.OnlyMade .trans ?_ fun plugins host => .refl host
    rw [snd_run_ofExcept]
    exact .refl host
  · next noList =>
    split
    · exact .refl host
    · exact .refl host
    · next out placed => exact absurd placed (unplaced.resolve_left noList out)

/-- A page that is to be written to a file is written there as a whole, or no file changes. -/
theorem exportPage_cases {out : String} (noList : options.listParameters = false)
    (placed : options.out = some (.text out)) (host : Host) :
    (∃ failure, ((exportPage options).run host).1 = .error failure) ∧
        host.OnlyMade ((exportPage options).run host).2 ∨
      ∃ page read place files, (loadPage options).run host = (.ok page, read) ∧
        (exportPage options).run host = (.ok "", { host with files }) ∧
        files.locate (Pathname.ofText out) = .present place (.file page.bytes) ∧
        host.files.FileWritten place page.bytes files := by
  have made := onlyMade_loadPage options host
  rw [exportPage, run_bind]
  cases loaded : (loadPage options).run host with
  | mk result read =>
      rw [loaded] at made
      cases result with
      | error failure => exact .inl ⟨⟨failure, rfl⟩, made⟩
      | ok page =>
          simp only [noList, placed, Bool.false_eq_true, if_false]
          rw [run_bind, run_ofFiles]
          rcases FileAction.makeParent_write_cases (Pathname.ofText out) page.bytes read.files with
            ⟨error, between, ran, parents⟩ | ⟨place, files, ran, located, written⟩
          · rw [ran]
            exact .inl ⟨⟨.file error, rfl⟩, made.trans ⟨parents, rfl⟩⟩
          · rw [ran]
            have rest : read = { host with files := read.files } := made.rest
            refine .inr ⟨page, read, place, files, rfl, ?_, located, made.files.written written⟩
            rw [rest]
            rfl

theorem exportPage_emptyList (noList : options.listParameters = false)
    (placed : options.out = some .emptyList) (host : Host) :
    ((exportPage options).run host).1 ≠ .ok output := by
  rw [exportPage, run_bind]
  cases (loadPage options).run host with
  | mk result read =>
      cases result with
      | error failure => intro done; cases done
      | ok page =>
          simp only [noList, placed, Bool.false_eq_true, if_false]
          intro done
          cases done

theorem run_of_parse (parsed : parse arguments = .ok (.run options)) (host : Host) :
    (run arguments).run host =
      match (exportPage options).run host with
      | (.ok output, after) => (.ok (.done output), after)
      | (.error failure, after) => (.error failure, after) := by
  rw [run, parsed, run_bind]
  cases (exportPage options).run host with
  | mk result after => cases result <;> rfl

theorem onlyMade_of_failed {failure : Failure}
    (failed : (exportPage options).run host = (.error failure, after)) : host.OnlyMade after := by
  have unplaced (none : options.listParameters = true ∨ ∀ out, options.out ≠ some (.text out)) :
      host.OnlyMade after := by
    have made := onlyMade_exportPage none host
    rwa [failed] at made
  cases list : options.listParameters with
  | true => exact unplaced (.inl list)
  | false =>
      cases placed : options.out with
      | none => exact unplaced (.inr fun out given => nomatch placed.symm.trans given)
      | some value =>
          cases value with
          | emptyList => exact unplaced (.inr fun out given => nomatch placed.symm.trans given)
          | text out =>
              rcases exportPage_cases list placed host with
                ⟨-, made⟩ | ⟨page, read, place, files, -, done, -⟩
              · rwa [failed] at made
              · cases failed.symm.trans done

theorem written_of_done {value : OptionValue} (noList : options.listParameters = false)
    (placed : options.out = some value)
    (done : (exportPage options).run host = (.ok output, after)) :
    ∃ out home read config page place, value = .text out ∧
      homeOf options host = .ok home ∧
      (Layout.ensure home).run host = (.ok (Layout.ofHome home), read) ∧
      (Layout.loadConfig (Layout.ofHome home)).run read = (.ok config, read) ∧
      Page.build config.applet (some config.preferences) = .ok page ∧
      after.files.locate (Pathname.ofText out) = .present place (.file page.bytes) ∧
      host.files.FileWritten place page.bytes after.files ∧
      after = { host with files := after.files } := by
  cases value with
  | emptyList => exact absurd (congrArg Prod.fst done) (exportPage_emptyList noList placed host)
  | text out =>
      rcases exportPage_cases noList placed host with
        ⟨⟨failure, failed⟩, -⟩ | ⟨page, read, place, files, loaded, ran, located, written⟩
      · rw [done] at failed
        cases failed
      · cases done.symm.trans ran
        obtain ⟨home, config, named, ensured, seen, built⟩ := loadPage_eq_ok loaded
        exact ⟨out, home, read, config, page, place, rfl, named, ensured, seen, built, located,
          written, rfl⟩

/-- A command that ends with a failure, or is refused, changes no file, and makes none. One that is
done has written the page of the configuration where `--out` leads, and nothing else, or, if no page
is to be written to a file, has written none. -/
theorem run_outcome (arguments : List String) (host : Host) :
    ((∀ output, ((run arguments).run host).1 ≠ .ok (.done output)) →
      host.OnlyMade ((run arguments).run host).2) ∧
    ∀ output after, (run arguments).run host = (.ok (.done output), after) →
      ∃ options, parse arguments = .ok (.run options) ∧
        (options.listParameters = true ∨ options.out = none → host.OnlyMade after) ∧
        (options.listParameters = false → ∀ value, options.out = some value →
          ∃ out home read config page place, value = .text out ∧
            homeOf options host = .ok home ∧
            (Layout.ensure home).run host = (.ok (Layout.ofHome home), read) ∧
            (Layout.loadConfig (Layout.ofHome home)).run read = (.ok config, read) ∧
            Page.build config.applet (some config.preferences) = .ok page ∧
            after.files.locate (Pathname.ofText out) = .present place (.file page.bytes) ∧
            host.files.FileWritten place page.bytes after.files ∧
            after = { host with files := after.files }) := by
  cases parsed : parse arguments with
  | error error =>
      rw [run, parsed]
      exact ⟨fun _ => .refl host, fun output after done => by cases done⟩
  | ok request =>
      cases request with
      | help =>
          rw [run, parsed]
          exact ⟨fun _ => .refl host, fun output after done => by cases done⟩
      | run options =>
          rw [run_of_parse parsed]
          cases ran : (exportPage options).run host with
          | mk result after =>
              cases result with
              | error failure =>
                  exact ⟨fun _ => onlyMade_of_failed ran, fun output after done => by cases done⟩
              | ok output =>
                  refine ⟨fun undone => absurd rfl (undone output), fun output after done => ?_⟩
                  cases done
                  refine ⟨options, rfl, fun unplaced => ?_,
                    fun noList value placed => written_of_done noList placed ran⟩
                  have noFile : options.listParameters = true ∨
                      ∀ out, options.out ≠ some (.text out) := by
                    refine unplaced.imp_right fun none out given => ?_
                    cases none.symm.trans given
                  have made := onlyMade_exportPage noFile host
                  rwa [ran] at made

/-- A host on which a published page is a link to an older one. -/
def hostOfPublished : Host :=
  { files := { nodes := [(["www"], .directory), (["www", "index.html"], .link "../old.html"),
      (["old.html"], .file [])] } }

/-- The page is written behind the link. Where its name leads to a directory, none is. -/
theorem run_outcome_published :
    (∃ output after, ∃ page : Page,
      (run ["--home", "/site", "--out", "/www/index.html"]).run hostOfPublished =
        (.ok (.done output), after) ∧
      after.files.locate (Pathname.ofText "/www/index.html") =
        .present ["old.html"] (.file page.bytes) ∧
      hostOfPublished.files.FileWritten ["old.html"] page.bytes after.files) ∧
    hostOfPublished.OnlyMade ((run ["--home=/site", "--out=/www"]).run hostOfPublished).2 := by
  constructor
  · obtain ⟨-, outcome⟩ :=
      run_outcome ["--home", "/site", "--out", "/www/index.html"] hostOfPublished
    have evaluated : ((run ["--home", "/site", "--out", "/www/index.html"]).run
        hostOfPublished).1.toOption = some (.done "") := by
      decide +kernel
    have done := eq_ok_of_fst evaluated
    have parsed : (parse ["--home", "/site", "--out", "/www/index.html"]).toOption =
        some (.run { home := some (.text "/site"), out := some (.text "/www/index.html") }) := by
      decide +kernel
    obtain ⟨options, given, -, written⟩ := outcome _ _ done
    cases (eq_ok_of_toOption parsed).symm.trans given
    obtain ⟨out, home, read, config, page, place, same, -, -, -, -, located, written, -⟩ :=
      written rfl _ rfl
    cases same
    have target : (((run ["--home", "/site", "--out", "/www/index.html"]).run
        hostOfPublished).2.files.locate (Pathname.ofText "/www/index.html")).target =
          ["old.html"] := by
      decide +kernel
    rw [located, Place.target] at target
    exact ⟨_, _, page, done, target ▸ located, target ▸ written⟩
  · refine (run_outcome _ _).1 fun output done => ?_
    have failed : ((run ["--home=/site", "--out=/www"]).run hostOfPublished).1.toOption.isSome =
        false := by
      decide +kernel
    rw [done] at failed
    cases failed

end Command

end AppletPage
