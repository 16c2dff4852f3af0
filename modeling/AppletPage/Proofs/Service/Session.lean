import AppletPage.Proofs.Service.Exchange

/-! What users find of their preferences after a session. -/

namespace AppletPage

open Text

namespace App

open HostAction

variable {running : Running} {place : Path} {host after : Host} {user : String}
  {request : Request} {response : Response}

/-! What users find. -/

def Gets (request : Request) (route : Route) : Prop :=
  request.method = "GET" ∧ Route.ofPath? request.path = some route

theorem respond_of_gets {route : Route} (app : App) (gets : Gets request route) :
    app.respond request = app.answerRoute route request := by
  have allowed : request.method ∈ route.methods := by
    rw [gets.1]
    cases route <;> exact List.mem_cons_self
  rw [respond, gets.2]
  dsimp only
  rw [if_pos allowed]

def readOutcome (user : String) : Except Failure Overrides → Response
  | .ok overrides => .ok (preferenceData user overrides)
  | .error failure =>
      match preferenceError? failure with
      | some response => response
      | none => .unhandled failure

theorem answer_reads {loaded : Except Failure Overrides} (started : Started running)
    (enabled : running.config.preferences.enabled = true) (gets : Gets request (.preferences user))
    (load : (Store.load (.directory running.layout.prefs) (some user)).run host = (loaded, host)) :
    (answer { running := some running } request host).1 = readOutcome user loaded := by
  have other : ¬ request.method = "PUT" := by
    rw [gets.1]
    decide
  rw [answer, respond_of_gets _ gets, answerRoute, if_neg other, readPreferences,
    store?_of_enabled started enabled]
  dsimp only
  rw [answering, run_tryCatch, run_bind, load]
  cases loaded with
  | ok overrides => rfl
  | error failure =>
      dsimp only
      rw [readOutcome]
      cases preferenceError? failure <;> rfl

def Unreachable (running : Running) (user : String) : Prop :=
  Files.nameLimit < (Utf8.encode (running.layout.prefs.child (Store.fileName user)).toText).length

def tooLong (running : Running) (user : String) : Failure :=
  .file (.system .nameTooLong
    (some (running.layout.prefs.child (Store.fileName user)).toText) none)

/-- The preferences of a user that an exchange has kept: what is accepted of its request, in the
order of the names. -/
def KeptBy (user : String) (request : Request) (response : Response) : Prop :=
  ∃ fields overrides sorted, Body.overrides request = .ok fields ∧
    Overrides.validate (.object fields) = .ok overrides ∧ List.Perm sorted overrides ∧
    sorted.Pairwise (fun a b => a.1 ≤ b.1) ∧ response = .ok (preferenceData user sorted)

/-- What a user is answered, by the last exchange that has kept preferences of the user. -/
def ReadAs (user : String) (answered : Response) : Option (Request × Response) → Prop
  | none => answered = .ok (preferenceData user [])
  | some (last, response) => answered = response ∧ KeptBy user last response

theorem reflects_start {before after : Host} (stands : before.JournalStands)
    (done : start.run before = (.ok running, after))
    (located : after.files.locate running.layout.prefs = .present place .directory)
    (empty : ∀ user, User.isName user = true →
      after.files.get? (place ++ [Store.fileName user]) = none) :
    Lodged running place after ∧ Reflects place [] after := by
  have housed := (housed_of_start stands done).1
  refine ⟨⟨housed, located, fun user named target => ?_⟩, fun user named => ?_,
    fun user named held => ?_⟩
  · rw [empty user named]
    exact nofun
  · rw [empty user named]
    exact .none
  · -- The journal has its file, and at the entry of a user there is none.
    obtain ⟨node, found, -⟩ := housed.journal _ held
    rw [empty user named] at found
    cases found

theorem readAs_of_reflected {last? : Option (Request × Response)} (started : Started running)
    (enabled : running.config.preferences.enabled = true) (lodged : Lodged running place host)
    (named : User.isName user = true) (gets : Gets request (.preferences user))
    (reachable : ¬ Unreachable running user)
    (reflected : Reflected user last? (host.files.get? (place ++ [Store.fileName user]))) :
    ReadAs user (answer { running := some running } request host).1 last? := by
  have found {content? : Option Bytes}
      (held : host.files.get? (place ++ [Store.fileName user]) = content?.map Node.file) :=
    answer_reads started enabled gets (Store.run_load_child named
      (.inl lodged.housed.plain.prefs.absolute) lodged.housed.prefs lodged.located reachable held)
  generalize held : host.files.get? (place ++ [Store.fileName user]) = node? at reflected
  cases reflected with
  | none => exact @found none held
  | @some last fields overrides read valid =>
      have settled := Overrides.settled_of_validate valid
      have answered := @found (some (Utf8.encode (Store.fileText overrides))) held
      rw [Store.overridesIn, Store.readOverrides_fileText settled] at answered
      exact ⟨answered, fields, overrides, overrides.sorted, read, valid, overrides.sorted_perm,
        overrides.pairwise_sorted, rfl⟩

/-- After any session, a user who reads preferences is answered as the user's last request that kept
some was, and finds nothing if there was none; only a file whose name is too long is never found. -/
theorem answer_session {before after : Host} {running : Running}
    (stands : before.JournalStands) (done : start.run before = (.ok running, after))
    (enabled : running.config.preferences.enabled = true)
    (empty : ∀ place, after.files.locate running.layout.prefs = .present place .directory →
      ∀ user, User.isName user = true → after.files.get? (place ++ [Store.fileName user]) = none)
    (requests : List Request) {request : Request} {user : String}
    (named : User.isName user = true) (gets : Gets request (.preferences user)) :
    let session := exchanges { running := some running } requests after
    let answered := (answer { running := some running } request session.2).1
    (Unreachable running user → answered = .unhandled (tooLong running user)) ∧
      (¬ Unreachable running user → ReadAs user answered (lastKept? user session.1)) := by
  have started := started_of_start done
  obtain ⟨-, place, located⟩ :=
    Files.isDirectory_eq_true_iff.mp (housed_of_start stands done).1.prefs
  obtain ⟨lodged, reflects⟩ := reflects_start stands done located (empty place located)
  have reflects := reflects_exchanges started enabled lodged reflects requests
  have lodged := lodged_exchanges started enabled lodged requests
  refine ⟨fun long => ?_, fun reachable => ?_⟩
  · exact answer_reads started enabled gets (Store.run_load_long named lodged.housed.prefs long)
  · exact readAs_of_reflected started enabled lodged named gets reachable
      (reflects.files user named)

def hostOfPage (page : String) : Host where
  files :=
    { nodes :=
        [(["home"], .directory), (["home", "config"], .directory),
         (["home", "config", "page.json"], .file (Utf8.encode page))] }
  environment := [("JINPAGE_HOME", "/home")]

theorem journalStands_hostOfPage (page : String) : (hostOfPage page).JournalStands := by
  intro place held
  cases held

def enabledPage : String := "\x7b\"prefs\": \x7b\"enabled\": true\x7d\x7d"

def enabledConfig : Config := { preferences := { enabled := true } }

theorem start_enabledPage :
    ∃ running after, start.run (hostOfPage enabledPage) = (.ok running, after) ∧
      running.config = enabledConfig ∧
      running.layout.prefs = ⟨.single, ["home", "prefs"]⟩ ∧
      after.files.locate running.layout.prefs = .present ["home", "prefs"] .directory ∧
      ∀ place, after.files.locate running.layout.prefs = .present place .directory →
        ∀ name, after.files.get? (place ++ [name]) = none := by
  have service : ((start.run (hostOfPage enabledPage)).1.toOption.map
      fun running => (running.config, running.layout.prefs)) =
      some (enabledConfig, ⟨.single, ["home", "prefs"]⟩) := by
    decide +kernel
  have files : ((start.run (hostOfPage enabledPage)).2.files.locate ⟨.single, ["home", "prefs"]⟩,
      Mapping.keys (start.run (hostOfPage enabledPage)).2.files.nodes) =
      (.present ["home", "prefs"] .directory,
        [["home"], ["home", "config"], ["home", "config", "page.json"], ["home", "logs"],
          ["home", "prefs"], ["home", "logs", "jinpage.log"]]) := by
    decide +kernel
  obtain ⟨running, done, service⟩ := exists_start_of_map service
  obtain ⟨config, prefs⟩ := Prod.mk.inj service
  obtain ⟨located, nodes⟩ := Prod.mk.inj files
  refine ⟨running, _, done, config, prefs, by rw [prefs, located], fun place there name => ?_⟩
  rw [prefs, located] at there
  cases there
  refine Files.get?_of_not_mem (Files.concat_ne_nil _ _) ?_
  rw [nodes]
  simp

def requestOfAlice (method body : String) : Request where
  method := method
  path := "/v1/prefs/alice"
  contentType := some (Utf8.encode "application/json")
  body := Utf8.encode body

def sessionOfAlice : List Request :=
  [requestOfAlice "PUT" "\x7b\"overrides\": \x7b\"width\": \"640\"\x7d\x7d",
   requestOfAlice "PUT" "[]"]

def bodyOfAlice : String :=
  "\x7b\"ok\":true,\"data\":\x7b\"username\":\"alice\","
    ++ "\"overrides\":\x7b\"width\":\"640\"\x7d\x7d,\"error\":null\x7d"

/-- What is refused leaves what was kept before it. -/
theorem answer_session_alice :
    ∃ running after, start.run (hostOfPage enabledPage) = (.ok running, after) ∧
      (answer { running := some running } (requestOfAlice "GET" "")
          (exchanges { running := some running } sessionOfAlice after).2).1.body =
        bodyOfAlice := by
  have last : ((start.run (hostOfPage enabledPage)).1.toOption.bind
      fun running => (lastKept? "alice" (exchanges { running := some running } sessionOfAlice
        (start.run (hostOfPage enabledPage)).2).1).map (·.2.body)) =
      some bodyOfAlice := by
    decide +kernel
  obtain ⟨running, after, done, config, prefs, -, empty⟩ := start_enabledPage
  have enabled : running.config.preferences.enabled = true := by rw [config]; rfl
  have stands := journalStands_hostOfPage enabledPage
  have gets : Gets (requestOfAlice "GET" "") (.preferences "alice") := ⟨rfl, by decide⟩
  have reachable : ¬ Unreachable running "alice" := by
    rw [Unreachable, prefs]
    decide
  obtain ⟨-, answered⟩ := answer_session stands done enabled
    (fun place there user _ => empty place there _) sessionOfAlice (by decide) gets
  rw [done] at last
  simp only [Except.toOption, Option.bind_some] at last
  obtain ⟨⟨request, response⟩, last, body⟩ := Option.map_eq_some_iff.mp last
  have answered := answered reachable
  rw [last] at answered
  exact ⟨running, after, done, by rw [answered.1, body]⟩

/-! A home whose name is so long that a user's file has none. -/

variable {depth : Nat} {path : Path} {name : String}

def filesOfDirectories : List Path → Files
  | [] => {}
  | path :: rest => (filesOfDirectories rest).put path .directory

theorem get?_filesOfDirectories {paths : List Path} (below : [] ∉ paths) {path : Path}
    (nonempty : path ≠ []) :
    (filesOfDirectories paths).get? path = if path ∈ paths then some .directory else none := by
  induction paths with
  | nil =>
      cases path with
      | nil => exact absurd rfl nonempty
      | cons name rest => rfl
  | cons first rest ih =>
      obtain ⟨firstBelow, restBelow⟩ := List.ne_and_not_mem_of_not_mem_cons below
      rw [filesOfDirectories, Files.get?_put _ firstBelow.symm, ih restBelow]
      by_cases same : first = path
      · rw [if_pos same, if_pos (same ▸ List.mem_cons_self)]
      · rw [if_neg same]
        simp only [List.mem_cons, Ne.symm same, false_or]

def longPart : String := String.ofList (List.replicate 252 'd')

theorem toList_longPart : longPart.toList = List.replicate 252 'd' := String.toList_ofList

theorem length_longPart : (Utf8.encode longPart).length = 252 := by
  rw [Utf8.length_encode_of_ascii, toList_longPart, List.length_replicate]
  intro c member
  rw [toList_longPart] at member
  rw [List.eq_of_mem_replicate member]
  decide

theorem isName_longPart : Files.IsName longPart := by
  have differs (short : String) (length : (Utf8.encode short).length ≠ 252) : longPart ≠ short :=
    fun same => length (same ▸ length_longPart)
  exact ⟨differs "." (by decide), differs ".." (by decide), by rw [length_longPart]; decide⟩

def nested (depth : Nat) : Path := List.replicate depth longPart

def nestedName (depth : Nat) : Pathname := .ofAbsolute (nested depth)

theorem nested_succ (depth : Nat) : nested (depth + 1) = nested depth ++ [longPart] :=
  List.replicate_succ'

theorem nestedName_succ (depth : Nat) :
    nestedName (depth + 1) = (nestedName depth).child longPart :=
  congrArg Pathname.ofAbsolute (nested_succ depth)

theorem hasZero_nestedName (depth : Nat) : Files.hasZero (nestedName depth) = false := by
  induction depth with
  | zero => rfl
  | succ depth ih =>
      rw [nestedName_succ, Files.hasZero_child, ih, toList_longPart, List.contains_replicate]
      rfl

theorem length_nestedName (depth : Nat) :
    (Utf8.encode (nestedName (depth + 1)).toText).length = 253 * (depth + 1) := by
  induction depth with
  | zero =>
      have text : (nestedName 1).toText = "/" ++ longPart := rfl
      rw [text, Utf8.encode_append, List.length_append, length_longPart]
      decide
  | succ depth ih =>
      have below : (nestedName (depth + 1)).parts ≠ [] := List.cons_ne_nil _ _
      rw [nestedName_succ, Pathname.length_toText_child below, ih, length_longPart]
      omega

def deepPaths (depth : Nat) : List Path :=
  (List.range depth).map (fun above => nested (above + 1)) ++
    ["config", "logs", "prefs"].map fun name => nested depth ++ [name]

/-- A host whose working directory is the home of a page, below directories with long names. -/
def deepHost (depth : Nat) : Host where
  files :=
    { (filesOfDirectories (deepPaths depth)).put (nested depth ++ ["config"] ++ ["page.json"])
        (.file (Utf8.encode enabledPage)) with
      workingDirectory := nested depth
      gone := 0 }
  environment := [("HOME", "."), ("JINPAGE_HOME", ".")]

theorem length_nested (depth : Nat) : (nested depth).length = depth := List.length_replicate

theorem bounds_of_deepPaths (member : path ∈ deepPaths depth) :
    path ≠ [] ∧ path.length ≤ depth + 1 := by
  rcases List.mem_append.mp member with above | below
  · obtain ⟨k, inside, rfl⟩ := List.mem_map.mp above
    rw [length_nested]
    have := List.mem_range.mp inside
    exact ⟨List.cons_ne_nil _ _, by omega⟩
  · obtain ⟨last, -, rfl⟩ := List.mem_map.mp below
    rw [List.length_append, length_nested]
    exact ⟨Files.concat_ne_nil _ _, Nat.le_refl _⟩

theorem get?_deepHost (nonempty : path ≠ []) :
    (deepHost depth).files.get? path =
      if nested depth ++ ["config"] ++ ["page.json"] = path then
        some (.file (Utf8.encode enabledPage))
      else if path ∈ deepPaths depth then some .directory else none := by
  have same : (deepHost depth).files.get? path =
      ((filesOfDirectories (deepPaths depth)).put (nested depth ++ ["config"] ++ ["page.json"])
        (.file (Utf8.encode enabledPage))).get? path := rfl
  rw [same, Files.get?_put _ (Files.concat_ne_nil _ _),
    get?_filesOfDirectories (fun root => (bounds_of_deepPaths root).1 rfl) nonempty]

theorem get?_deepPaths (member : path ∈ deepPaths depth) :
    (deepHost depth).files.get? path = some .directory := by
  obtain ⟨nonempty, short⟩ := bounds_of_deepPaths member
  rw [get?_deepHost nonempty, if_neg, if_pos member]
  rintro rfl
  rw [List.length_append, List.length_append, length_nested] at short
  exact Nat.lt_irrefl _ short

theorem get?_below {directory : String} (other : directory ≠ "config") (name : String) :
    (deepHost depth).files.get? (nested depth ++ [directory] ++ [name]) = none := by
  rw [get?_deepHost (Files.concat_ne_nil _ _), if_neg, if_neg]
  · intro member
    have short := (bounds_of_deepPaths member).2
    rw [List.length_append, List.length_append, length_nested] at short
    exact Nat.lt_irrefl _ short
  · intro same
    rw [List.append_assoc, List.append_assoc] at same
    exact other (List.cons.inj (List.append_cancel_left same)).1.symm

theorem locate_nested (fits : 253 * depth ≤ Files.nameLimit) {above : Nat}
    (inside : above ≤ depth) :
    (deepHost depth).files.locate (nestedName above) = .present (nested above) .directory := by
  -- Each directory is an entry of the one above it, so nothing has to be evaluated at full depth.
  induction above with
  | zero =>
      rw [Files.locate_absolute rfl (by decide)]
      rfl
  | succ above ih =>
      have found : (deepHost depth).files.get? (nested above ++ [longPart]) = some .directory := by
        rw [← nested_succ]
        exact get?_deepPaths (List.mem_append_left _
          (List.mem_map_of_mem (List.mem_range.mpr inside)))
      have short : ¬ Files.nameLimit <
          (Utf8.encode ((nestedName above).child longPart).toText).length := by
        rw [← nestedName_succ, length_nestedName]
        have := Nat.mul_le_mul_left 253 inside
        omega
      rw [nestedName_succ, nested_succ, Files.locate_child (.inl rfl) (ih (Nat.le_of_lt inside))
        isName_longPart short (.inr fun target => by rw [found]; exact nofun), found]

theorem locate_usual (fits : 253 * (depth + 1) + 7 ≤ Files.nameLimit)
    (member : name ∈ ["config", "logs", "prefs"]) :
    (deepHost (depth + 1)).files.locate ((nestedName (depth + 1)).child name) =
      .present (nested (depth + 1) ++ [name]) .directory := by
  obtain ⟨noPoint, noUp, length⟩ :=
    (by decide : ∀ name ∈ ["config", "logs", "prefs"],
      name ≠ "." ∧ name ≠ ".." ∧ (Utf8.encode name).length ≤ 6) name member
  have found : (deepHost (depth + 1)).files.get? (nested (depth + 1) ++ [name]) =
      some .directory :=
    get?_deepPaths (List.mem_append_right _ (List.mem_map_of_mem member))
  have unlinked (target : String) :
      (deepHost (depth + 1)).files.get? (nested (depth + 1) ++ [name]) ≠ some (.link target) := by
    rw [found]
    exact nofun
  have short : ¬ Files.nameLimit <
      (Utf8.encode ((nestedName (depth + 1)).child name).toText).length := by
    rw [Pathname.length_toText_child (List.cons_ne_nil _ _), length_nestedName]
    omega
  rw [Files.locate_child (.inl rfl) (locate_nested (by omega) (Nat.le_refl _))
    ⟨noPoint, noUp, Nat.le_trans length (by decide)⟩ short (.inr unlinked), found]

theorem stands_deepHost (fits : 253 * (depth + 1) + 7 ≤ Files.nameLimit) :
    (Layout.ofHome (nestedName (depth + 1))).Stands (deepHost (depth + 1)).files := by
  have usual (name : String) (member : name ∈ ["config", "logs", "prefs"])
      (noZero : name.toList.contains '\x00' = false) :
      (deepHost (depth + 1)).files.isDirectory ((nestedName (depth + 1)).child name) =
        .ok true := by
    refine Files.isDirectory_eq_true_iff.mpr ⟨?_, _, locate_usual fits member⟩
    rw [Files.hasZero_child, hasZero_nestedName, noZero]
    rfl
  have home := locate_nested (by omega : 253 * (depth + 1) ≤ Files.nameLimit) (Nat.le_refl _)
  exact ⟨Files.isDirectory_eq_true_iff.mpr ⟨hasZero_nestedName _, _, home⟩,
    usual "config" (by decide) (by decide), usual "logs" (by decide) (by decide),
    usual "prefs" (by decide) (by decide)⟩

theorem resolved_deepHost (fits : 253 * depth ≤ Files.nameLimit) :
    Home.ofEnvironment (deepHost depth) = .ok (nestedName depth) := by
  have noUp : ".." ∉ (nestedName depth).parts := by
    intro member
    exact isName_longPart.noUp (List.eq_of_mem_replicate member).symm
  have absolute : (deepHost depth).files.absolute ⟨.none, []⟩ = .ok (nestedName depth) := by
    have joined : (Pathname.ofAbsolute (nested depth)).join ⟨.none, []⟩ = nestedName depth := by
      rw [Pathname.join, if_neg (by decide)]
      exact congrArg Pathname.ofAbsolute (List.append_nil _)
    change Except.ok ((Pathname.ofAbsolute (nested depth)).join ⟨.none, []⟩).withoutUps = _
    rw [joined, Pathname.IsPlain.withoutUps_eq ⟨rfl, noUp⟩]
  have resolved : (deepHost depth).files.resolve ⟨.none, []⟩ = .ok (nestedName depth) := by
    rw [Files.resolve, if_neg (by decide)]
    have deep : (deepHost depth).files.resolveDeep Files.nestingLimit [] ⟨.none, []⟩
        (Pathname.toText ⟨.none, []⟩) = some ([], { path := ⟨.none, []⟩ }) := by
      rfl
    rw [deep]
    simp only [absolute, bind, Except.bind]
    rw [locate_nested fits (Nat.le_refl _)]
  have point : Pathname.ofText "." = ⟨.none, []⟩ := by decide
  have own : Home.userHome (deepHost depth) = .ok ⟨.none, []⟩ := by
    have tilde : Pathname.ofText "~" = ⟨.none, ["~"]⟩ := by decide
    have there : Home.homeOf (deepHost depth) "~" = some "." := rfl
    have bare : Home.withoutSlashes "." = "." := by decide
    rw [Home.userHome, tilde]
    simp [Home.expand, there, bare, point]
  have named : (deepHost depth).lookup? Home.variableName = some "." := rfl
  have trimmed : trim "." = "." := by decide
  rw [Home.ofEnvironment, named, Home.resolve]
  simp [trimmed, point, Home.expand, own, Home.anchored, Pathname.isAbsolute, Except.map,
    Pathname.join]
  exact resolved

theorem readConfig_enabledPage :
    Layout.readConfig (Utf8.encode enabledPage) = .ok enabledConfig := by
  refine eq_ok_of_toOption ?_
  decide +kernel

theorem exists_page_enabledConfig :
    ∃ page, Page.build enabledConfig.applet (some enabledConfig.preferences) = .ok page ∧
      ∃ names, page.parameters.plugins = .ok names := by
  have good : (Page.build enabledConfig.applet (some enabledConfig.preferences)).toOption.map
      (fun page => page.parameters.plugins.toOption.isSome) = some true := by
    decide +kernel
  obtain ⟨page, built, listed⟩ := Option.map_eq_some_iff.mp good
  obtain ⟨names, listed⟩ := Option.isSome_iff_exists.mp listed
  exact ⟨page, eq_ok_of_toOption built, names, eq_ok_of_toOption listed⟩

theorem length_below (depth : Nat) (directory name : String) :
    (Utf8.encode (((nestedName (depth + 1)).child directory).child name).toText).length =
      253 * (depth + 1) + (Utf8.encode directory).length + (Utf8.encode name).length + 2 := by
  rw [Pathname.length_toText_child (Files.concat_ne_nil _ _),
    Pathname.length_toText_child (List.cons_ne_nil _ _), length_nestedName]
  omega

theorem hasZero_below (depth : Nat) {directory : String}
    (cleanDirectory : directory.toList.contains '\x00' = false)
    (cleanName : name.toList.contains '\x00' = false) :
    Files.hasZero (((nestedName depth).child directory).child name) = false := by
  rw [Files.hasZero_child, Files.hasZero_child, hasZero_nestedName, cleanDirectory, cleanName]
  rfl

theorem run_loadConfig_deepHost (fits : 253 * (depth + 1) + 17 ≤ Files.nameLimit) :
    (Layout.loadConfig (Layout.ofHome (nestedName (depth + 1)))).run (deepHost (depth + 1)) =
      (.ok enabledConfig, deepHost (depth + 1)) := by
  have held : (deepHost (depth + 1)).files.get?
      (nested (depth + 1) ++ ["config"] ++ ["page.json"]) =
      (some (Utf8.encode enabledPage)).map Node.file := by
    rw [get?_deepHost (Files.concat_ne_nil _ _), if_pos rfl]
    rfl
  have lengths : (Utf8.encode "config").length = 6 ∧ (Utf8.encode "page.json").length = 9 := by
    decide
  have short := length_below depth "config" "page.json"
  obtain ⟨there, read⟩ := Files.holds_child (.inl rfl) (locate_usual (by omega) (by decide))
    ⟨by decide, by decide, by decide⟩ (hasZero_below _ (by decide) (by decide)) (by omega) held
  have file : (Layout.ofHome (nestedName (depth + 1))).configFile =
      ((nestedName (depth + 1)).child "config").child "page.json" := rfl
  rw [← file] at there read
  rw [Layout.run_loadConfig, Layout.configIn_of_read there read, readConfig_enabledPage]

theorem run_openForAppending_deepHost (fits : 253 * (depth + 1) + 17 ≤ Files.nameLimit) :
    (FileAction.openForAppending
        ((Layout.ofHome (nestedName (depth + 1))).logs.child journalName)).run
        (deepHost (depth + 1)).files =
      (.ok (nested (depth + 1) ++ ["logs"] ++ [journalName]),
        (deepHost (depth + 1)).files.put (nested (depth + 1) ++ ["logs"] ++ [journalName])
          (.file [])) := by
  have missing : (deepHost (depth + 1)).files.get?
      (nested (depth + 1) ++ ["logs"] ++ [journalName]) = none :=
    get?_below (by decide) journalName
  have lengths : (Utf8.encode "logs").length = 4 ∧ (Utf8.encode journalName).length = 11 := by
    decide
  have short := length_below depth "logs" journalName
  have located : (deepHost (depth + 1)).files.locate
      (((nestedName (depth + 1)).child "logs").child journalName) .created = _ :=
    Files.locate_child (.inl rfl) (locate_usual (by omega) (by decide))
      ⟨by decide, by decide, by decide⟩ (by omega)
      (.inr fun target => by rw [missing]; exact nofun)
  rw [missing] at located
  have file : (Layout.ofHome (nestedName (depth + 1))).logs.child journalName =
      ((nestedName (depth + 1)).child "logs").child journalName := rfl
  rw [FileAction.run_openForAppending, file, hasZero_below _ (by decide) (by decide),
    if_neg Bool.false_ne_true, located]

theorem exists_start_deepHost (fits : 253 * (depth + 1) + 17 ≤ Files.nameLimit) :
    ∃ running after, start.run (deepHost (depth + 1)) = (.ok running, after) ∧
      running.config.preferences.enabled = true ∧
      running.layout.prefs = (nestedName (depth + 1)).child "prefs" ∧
      ∀ place, after.files.locate running.layout.prefs = .present place .directory →
        ∀ name, after.files.get? (place ++ [name]) = none := by
  obtain ⟨page, built, names, listed⟩ := exists_page_enabledConfig
  have missing {directory : String} (other : directory ≠ "config") (name : String) :
      (deepHost (depth + 1)).files.get? (nested (depth + 1) ++ [directory] ++ [name]) = none :=
    get?_below other name
  have prefs : (deepHost (depth + 1)).files.locate ((nestedName (depth + 1)).child "prefs") =
      .present (nested (depth + 1) ++ ["prefs"]) .directory := locate_usual (by omega) (by decide)
  obtain ⟨after, done, lines⟩ := exists_start (resolved_deepHost (by omega))
    (stands_deepHost (by omega)) (run_loadConfig_deepHost fits) rfl rfl
    (run_openForAppending_deepHost fits) built listed
  refine ⟨_, after, done, rfl, rfl, fun place located name => ?_⟩
  have ways : (deepHost (depth + 1)).files.WaysKept after.files := by
    refine .trans (Files.waysKept_put (Files.concat_ne_nil _ _) fun old there => ?_) lines.ways
    rw [missing (by decide)] at there
    cases there
  -- The start has made one file, the journal's, and that is in another directory.
  have found := Files.locate_directory_mono ways rfl prefs
  have same : place = nested (depth + 1) ++ ["prefs"] := by
    have both := located.symm.trans found
    cases both
    rfl
  have apart : nested (depth + 1) ++ ["logs"] ++ [journalName] ≠
      nested (depth + 1) ++ ["prefs"] ++ [name] := by
    intro equal
    rw [List.append_assoc, List.append_assoc] at equal
    exact absurd (List.cons.inj (List.append_cancel_left equal)).1 (by decide)
  rw [same, lines.others _ fun held => apart (Option.some.inj held)]
  change (Files.put _ _ _).get? _ = none
  rw [Files.get?_put _ (Files.concat_ne_nil _ _), if_neg apart, missing (by decide)]

def longUser : String := String.ofList (List.replicate 64 'a')

/-- Where the name of a user's file is too long, the user finds no preferences but a failure. -/
theorem not_answer_session :
    ∃ before after running, before.JournalStands ∧ start.run before = (.ok running, after) ∧
      running.config.preferences.enabled = true ∧
      (∀ place, after.files.locate running.layout.prefs = .present place .directory →
        ∀ name, after.files.get? (place ++ [name]) = none) ∧
      ∃ user request, User.isName user = true ∧ Gets request (.preferences user) ∧
        (answer { running := some running } request after).1.status = 500 := by
  obtain ⟨running, after, done, enabled, prefs, empty⟩ := exists_start_deepHost
    (by decide : 253 * (15 + 1) + 17 ≤ Files.nameLimit)
  have stands : (deepHost (15 + 1)).JournalStands := nofun
  have named : User.isName longUser = true := by decide
  have gets : Gets { method := "GET", path := "/v1/prefs/" ++ longUser } (.preferences longUser) :=
    ⟨rfl, by decide⟩
  have long : Unreachable running longUser := by
    have file : (Utf8.encode (Store.fileName longUser)).length = 69 := by decide
    rw [Unreachable, prefs, length_below, file]
    decide
  have load := Store.run_load_long named (housed_of_start stands done).1.prefs long
  refine ⟨_, after, running, stands, done, enabled, empty, longUser, _, named, gets, ?_⟩
  rw [answer_reads (started_of_start done) enabled gets load]
  rfl

end App

end AppletPage
