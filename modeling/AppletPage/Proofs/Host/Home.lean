import AppletPage.Host.Home
import AppletPage.Proofs.Files.Resolve

/-! The home of a page: what it is found from. A setting that names one is taken for itself, below
the home directory of the user; only the usual one is found from other variables. -/

namespace AppletPage.Home

open Text

variable {a b host : Host} {path home : Pathname} {setting : Option String} {platform : Platform}

def named (host : Host) (setting : Option String) (platform : Platform) :
    Except FileError Pathname :=
  if trim (setting.getD "") = "" then usual host platform
  else (expand host (Pathname.ofText (trim (setting.getD "")))).bind (anchored host)

theorem resolve_eq (host : Host) (setting : Option String) (platform : Platform) :
    resolve host setting platform = (named host setting platform).bind host.files.resolve := by
  rw [resolve, named]
  split
  · rfl
  · cases expand host (Pathname.ofText (trim (setting.getD ""))) with
    | error error => rfl
    | ok path => rfl

theorem resolve_eq_ok_iff :
    resolve host setting platform = .ok home ↔
      ∃ path, named host setting platform = .ok path ∧ host.files.resolve path = .ok home := by
  rw [resolve_eq]
  cases named host setting platform with
  | error error => exact iff_of_false nofun fun ⟨_, given, _⟩ => nomatch given
  | ok path =>
      refine ⟨fun resolved => ⟨path, rfl, resolved⟩, ?_⟩
      rintro ⟨_, given, resolved⟩
      cases given
      exact resolved

theorem isPlain_of_resolve (resolved : resolve host setting platform = .ok home) :
    home.IsPlain := by
  obtain ⟨path, -, resolved⟩ := resolve_eq_ok_iff.mp resolved
  exact Files.isPlain_of_resolve resolved

/-! The usual home. -/

def dataVariables : Platform → List String
  | .windows => ["LOCALAPPDATA", "APPDATA"]
  | .darwin => []
  | .linux => ["XDG_DATA_HOME"]

def dataDirectory? (host : Host) (platform : Platform) : Option String :=
  (dataVariables platform).findSome? host.setting?

def dataName : Platform → String
  | .windows | .darwin => "JinPage"
  | .linux => "jinpage"

def dataParts : Platform → List String
  | .windows => ["AppData", "Local"]
  | .darwin => ["Library", "Application Support"]
  | .linux => [".local", "share"]

theorem usual_eq (host : Host) (platform : Platform) :
    usual host platform =
      match dataDirectory? host platform with
      | some base => .ok ((Pathname.ofText base).child (dataName platform))
      | none => (userHome host).map fun home =>
          { home with parts := home.parts ++ (dataParts platform ++ [dataName platform]) } := by
  cases platform with
  | windows =>
      rw [usual, dataDirectory?, dataVariables, List.findSome?_cons]
      cases host.setting? "LOCALAPPDATA" with
      | some base => rfl
      | none =>
          rw [List.findSome?_cons]
          cases host.setting? "APPDATA" with
          | some base => rfl
          | none => rfl
  | darwin => rfl
  | linux =>
      rw [usual, dataDirectory?, dataVariables, List.findSome?_cons]
      cases host.setting? "XDG_DATA_HOME" with
      | some base => rfl
      | none => rfl

/-! Processes of one user. -/

/-- Two processes have the same user, whose home directory is where it is. -/
structure SameUser (a b : Host) : Prop where
  own : b.lookup? "HOME" = a.lookup? "HOME"
  homes : b.homes = a.homes
  self : b.self = a.self

theorem SameUser.expand_eq (user : SameUser a b) (path : Pathname) :
    expand b path = expand a path := by
  have homeOf_eq (part : String) : homeOf b part = homeOf a part := by
    rw [homeOf, homeOf, ownHome?, ownHome?, user.own, user.homes, user.self]
  simp only [expand, homeOf_eq]

theorem SameUser.userHome_eq (user : SameUser a b) : userHome b = userHome a :=
  user.expand_eq _

theorem SameUser.anchored_eq (user : SameUser a b) : anchored b = anchored a := by
  funext path
  rw [anchored, anchored, user.userHome_eq]

/-- A home that a setting names is named alike by all processes of a user; the usual one is if they
find the same directory for their data. -/
theorem SameUser.named_eq (user : SameUser a b)
    (usual : trim (setting.getD "") ≠ "" ∨
      dataDirectory? b platform = dataDirectory? a platform) :
    named b setting platform = named a setting platform := by
  rw [named, named]
  split
  · next blank =>
    rw [usual_eq, usual_eq, usual.resolve_left fun other => other blank, user.userHome_eq]
  · rw [user.expand_eq, user.anchored_eq]

/-- A home directory that is no absolute name is none that anything can be found from. -/
def IsHoused (host : Host) : Prop := ∀ home, userHome host = .ok home → home.isAbsolute = true

theorem isAbsolute_anchored (housed : IsHoused host) {whole : Pathname}
    (anchored : anchored host path = .ok whole) : whole.isAbsolute = true := by
  rw [Home.anchored] at anchored
  split at anchored
  · next absolute => cases anchored; exact absolute
  · cases found : userHome host with
    | error error => rw [found] at anchored; cases anchored
    | ok home =>
        rw [found] at anchored
        cases anchored
        exact Files.isAbsolute_join (housed home found)

theorem isAbsolute_named (housed : IsHoused host)
    (whole : trim (setting.getD "") ≠ "" ∨ ∀ base, dataDirectory? host platform = some base →
      (Pathname.ofText base).isAbsolute = true)
    (given : named host setting platform = .ok path) : path.isAbsolute = true := by
  rw [named] at given
  split at given
  · next blank =>
    have whole := whole.resolve_left fun other => other blank
    rw [usual_eq] at given
    split at given
    · next base found => cases given; exact whole base found
    · cases found : userHome host with
      | error error => rw [found] at given; cases given
      | ok home =>
          rw [found] at given
          cases given
          exact housed home found
  · cases expanded : expand host (Pathname.ofText (trim (setting.getD ""))) with
    | error error => rw [expanded] at given; cases given
    | ok path =>
        rw [expanded] at given
        exact isAbsolute_anchored housed given

/-- From the same setting, two processes of one user find the same home among the same files,
wherever they work and whatever else their variables are: always if the setting names one, and if
not, unless the variables give a directory for their data, and not the same absolute one. -/
theorem resolve_sameUser (user : SameUser a b)
    (files : ∀ path, a.files.get? path = b.files.get? path) (housed : IsHoused a)
    (mapping : Mapping String String) (platform : Platform) :
    let setting := Mapping.get? mapping variableName
    (∀ home, resolve a setting platform = .ok home → home.IsPlain) ∧
      (trim (setting.getD "") ≠ "" ∨ dataDirectory? b platform = dataDirectory? a platform ∧
          (∀ base, dataDirectory? a platform = some base →
            (Pathname.ofText base).isAbsolute = true) →
        resolve b setting platform = resolve a setting platform) ∧
      (∀ path, trim (setting.getD "") ≠ "" →
        expand a (Pathname.ofText (trim (setting.getD ""))) = .ok path → path.isAbsolute = false →
        resolve a setting platform =
          (userHome a).bind fun home => a.files.resolve (home.join path)) ∧
      ∀ base, trim (setting.getD "") = "" → dataDirectory? a platform = some base →
        resolve a setting platform =
          a.files.resolve ((Pathname.ofText base).child (dataName platform)) := by
  intro setting
  refine ⟨fun home => isPlain_of_resolve, fun fits => ?_, fun path names expanded relative => ?_,
    fun base blank found => ?_⟩
  · have same := user.named_eq (fits.imp_right And.left)
    rw [resolve_eq, resolve_eq, same]
    cases given : named a setting platform with
    | error error => rfl
    | ok path =>
        have absolute := isAbsolute_named housed (fits.imp_right And.right) given
        exact (Files.resolve_congr files absolute).symm
  · rw [resolve_eq, named, if_neg names, expanded]
    change (anchored a path).bind a.files.resolve = _
    rw [anchored, relative, if_neg Bool.false_ne_true]
    cases userHome a <;> rfl
  · rw [resolve_eq, named, if_pos blank, usual_eq, found]
    rfl

def adrift : Host :=
  { files := { nodes := [(["srv"], .directory)], workingDirectory := ["srv"] }
    environment := [("HOME", "/u"), ("XDG_DATA_HOME", "data")] }

def settled : Host :=
  { files := { nodes := [(["srv"], .directory)] }, environment := [("HOME", "/u")] }

/-- Both find the home that a setting names below that of the user; without a setting, the one with
a directory for data finds the usual home where it works, and the other does not. -/
theorem resolve_sameUser_adrift :
    resolve settled (some "pages") .linux = resolve adrift (some "pages") .linux ∧
      resolve adrift (some "pages") .linux = adrift.files.resolve ⟨.single, ["u", "pages"]⟩ ∧
      resolve adrift none .linux = .ok ⟨.single, ["srv", "data", "jinpage"]⟩ ∧
      resolve settled none .linux = .ok ⟨.single, ["u", ".local", "share", "jinpage"]⟩ := by
  have user : SameUser adrift settled := ⟨by decide +kernel, rfl, rfl⟩
  have own : userHome adrift = .ok ⟨.single, ["u"]⟩ := eq_ok_of_toOption (by decide +kernel)
  have housed : IsHoused adrift := by
    intro home found
    rw [own] at found
    cases found
    rfl
  have outcome := resolve_sameUser user (fun _ => rfl) housed
  obtain ⟨-, same, below, -⟩ := outcome [(variableName, "pages")] .linux
  obtain ⟨-, -, -, usual⟩ := outcome [] .linux
  have relative := below ⟨.none, ["pages"]⟩ (by decide +kernel)
    (eq_ok_of_toOption (by decide +kernel)) rfl
  rw [own] at relative
  refine ⟨same (.inl (by decide +kernel)), relative, ?_, eq_ok_of_toOption (by decide +kernel)⟩
  exact (usual "data" (by decide +kernel) (by decide +kernel)).trans
    (eq_ok_of_toOption (by decide +kernel))

end AppletPage.Home
