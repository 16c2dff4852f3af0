import AppletPage.Proofs.Host.Journal
import AppletPage.Proofs.Host.Layout

/-! A host on which something has come. A home and its directories are found there again. -/

namespace AppletPage

open HostAction

namespace Host

variable {a b c host : Host}

/-- From one host to another, directories have been made, and nothing else has changed. -/
structure OnlyMade (a b : Host) : Prop where
  files : a.files.DirectoriesMade b.files
  rest : b = { a with files := b.files }

theorem OnlyMade.refl (host : Host) : OnlyMade host host := ⟨.refl host.files, rfl⟩

theorem OnlyMade.trans (first : OnlyMade a b) (second : OnlyMade b c) : OnlyMade a c :=
  ⟨first.files.trans second.files, by rw [second.rest, first.rest]⟩

/-- One host has all that another has, and its user and its variables are the same. -/
structure Grown (a b : Host) : Prop where
  files : a.files.Grown b.files
  environment : b.environment = a.environment
  homes : b.homes = a.homes
  self : b.self = a.self

theorem Grown.refl (host : Host) : Grown host host := ⟨.refl host.files, rfl, rfl, rfl⟩

theorem Grown.trans (first : Grown a b) (second : Grown b c) : Grown a c :=
  ⟨first.files.trans second.files, second.environment.trans first.environment,
    second.homes.trans first.homes, second.self.trans first.self⟩

theorem OnlyMade.grown (made : OnlyMade a b) : Grown a b :=
  ⟨made.files.grown, by rw [made.rest], by rw [made.rest], by rw [made.rest]⟩

theorem Grown.user (grown : Grown a b) : Home.SameUser a b :=
  ⟨by rw [lookup?, lookup?, grown.environment], grown.homes, grown.self⟩

theorem Grown.setting?_eq (grown : Grown a b) : b.setting? = a.setting? := by
  funext name
  rw [setting?, setting?, lookup?, lookup?, grown.environment]

theorem Grown.dataDirectory?_eq (grown : Grown a b) (platform : Platform) :
    Home.dataDirectory? b platform = Home.dataDirectory? a platform := by
  rw [Home.dataDirectory?, Home.dataDirectory?, grown.setting?_eq]

theorem grown_of_openJournal {path : Pathname} {limit : Nat}
    (opened : (openJournal path limit).run a = (.ok (), b)) : Grown a b := by
  obtain ⟨place, files, made, rfl⟩ := openJournal_eq_ok opened
  exact ⟨FileAction.grown_of_openForAppending made, rfl, rfl, rfl⟩

end Host

open Host

variable {a b host : Host} {home path usual : Pathname} {setting : Option String}

theorem Home.ofEnvironment_of_grown (grown : Grown a b) (tree : a.files.IsTree)
    (found : ofEnvironment a = .ok home) (standing : b.files.isDirectory home = .ok true) :
    ofEnvironment b = .ok home := by
  obtain ⟨path, named, resolved⟩ := resolve_eq_ok_iff.mp found
  refine resolve_eq_ok_iff.mpr ⟨path, ?_, Files.resolve_of_grown grown.files tree resolved standing⟩
  rw [grown.user.named_eq (.inr (grown.dataDirectory?_eq .linux)), lookup?, grown.environment]
  exact named

namespace Layout

theorem directory_of_grown (grown : Grown a b) (tree : a.files.IsTree)
    (found : directory a home usual setting = .ok path)
    (standing : b.files.isDirectory path = .ok true) :
    directory b home usual setting = .ok path := by
  unfold directory at found ⊢
  cases setting with
  | none => exact found
  | some text =>
      dsimp only at found ⊢
      split
      · next blank =>
        rw [if_pos blank] at found
        exact found
      · next named =>
        rw [if_neg named] at found
        rw [grown.user.expand_eq]
        cases expanded : Home.expand a (Pathname.ofText text) with
        | error error => rw [expanded] at found; cases found
        | ok given =>
            rw [expanded] at found
            exact Files.resolve_of_grown grown.files tree found standing

theorem snd_run_ensure (home : Pathname) (host : Host) :
    ((ensure home).run host).2 =
      { host with files := ((do
          FileAction.makeDirectories (ofHome home).home
          FileAction.makeDirectories (ofHome home).config
          FileAction.makeDirectories (ofHome home).logs
          FileAction.makeDirectories (ofHome home).prefs : FileAction Unit).run host.files).2 } :=
  snd_run_ofFiles_bind_pure _ _ host

/-- What holds of the files before and after each directory of a layout may be made holds for the
whole layout. -/
theorem rel_run_ensure (rel : Files → Files → Prop)
    (trans : ∀ {a b c}, rel a b → rel b c → rel a c)
    (step : ∀ path : Pathname, path.isAbsolute = home.isAbsolute → ∀ files,
      rel files ((FileAction.makeDirectories path).run files).2) (host : Host) :
    rel host.files ((ensure home).run host).2.files := by
  rw [snd_run_ensure]
  refine Work.rel_run_bind rel trans (step (ofHome home).home rfl _) fun _ files => ?_
  refine Work.rel_run_bind rel trans (step (ofHome home).config rfl _) fun _ files => ?_
  exact Work.rel_run_bind rel trans (step (ofHome home).logs rfl _) fun _ files =>
    step (ofHome home).prefs rfl files

theorem onlyMade_ensure (home : Pathname) (host : Host) :
    OnlyMade host ((ensure home).run host).2 :=
  ⟨rel_run_ensure Files.DirectoriesMade .trans
    (fun path _ files => (FileAction.madeOnWay_makeDirectories path files).directories) host,
    by rw [snd_run_ensure]⟩

theorem isTree_ensure (absolute : home.isAbsolute = true) (tree : host.files.IsTree) :
    ((ensure home).run host).2.files.IsTree :=
  rel_run_ensure (fun a b => a.IsTree → b.IsTree) (fun first second tree => second (first tree))
    (fun _ same _ => FileAction.isTree_makeDirectories (same.trans absolute)) host tree

end Layout

end AppletPage
