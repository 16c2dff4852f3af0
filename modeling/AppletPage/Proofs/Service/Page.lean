import AppletPage.Proofs.Page.Override
import AppletPage.Proofs.Preference.Store
import AppletPage.Proofs.Service.Request
import AppletPage.Proofs.Service.Start

/-! The page as a user gets it, whatever the user's file holds. -/

namespace AppletPage

open Text

namespace Request

def forPage (user : String) : Request :=
  { method := "GET", path := "/applet", query := some ("user=" ++ user) }

theorem isPlain_of_inName {c : Char} (inside : User.inName c = true) : IsPlain c := by
  have differs (mark : Char) (outside : User.inName mark = false) : c ≠ mark := by
    intro same
    rw [same, outside] at inside
    cases inside
  exact
    ⟨differs '&' (by decide), differs '=' (by decide), differs '+' (by decide),
      differs '%' (by decide)⟩

theorem parameter?_forPage {user : String} (inside : ∀ c ∈ user.toList, User.inName c = true) :
    (forPage user).parameter? "user" = some user := by
  have named : "user".toList.all User.inName = true := by decide
  have plain : ∀ c ∈ "user".toList, IsPlain c := fun c member =>
    isPlain_of_inName (List.all_eq_true.mp named c member)
  exact parameter?_pair rfl plain fun c member => isPlain_of_inName (inside c member)

end Request

namespace App

open HostAction

def pageOutcome (running : Running) : Except Failure Overrides → Except Failure Page
  | .ok overrides => (running.page.withOverrides overrides).mapError Failure.parameter
  | .error failure => if isBroken failure then .ok running.page else .error failure

theorem pageOutcome_of_broken (running : Running) {failure : Failure}
    (broken : isBroken failure = true) :
    pageOutcome running (.error failure) = .ok running.page := by
  rw [pageOutcome, if_pos broken]

theorem pageOutcome_of_ok {running : Running} {overrides : Overrides} {page : Page}
    (overridden : running.page.withOverrides overrides = .ok page) :
    pageOutcome running (.ok overrides) = .ok page := by
  rw [pageOutcome, overridden]
  rfl

theorem pageOutcome_of_error {running : Running} {overrides : Overrides} {error : ParameterError}
    (refused : running.page.withOverrides overrides = .error error) :
    pageOutcome running (.ok overrides) = .error (.parameter error) := by
  rw [pageOutcome, refused]
  rfl

theorem run_pageFor {running : Running} {user : String} {host : Host}
    {loaded : Except Failure Overrides} (enabled : running.config.preferences.enabled = true)
    (nonempty : user ≠ "") (load : (running.store.load (some user)).run host = (loaded, host)) :
    ((pageFor running user).run host).1 = pageOutcome running loaded := by
  rw [pageFor, enabled, Bool.not_true, Bool.false_or, if_neg (by simpa using nonempty)]
  rw [run_bind, run_tryCatch, run_bind, load]
  cases loaded with
  | ok overrides =>
      simp only [run_pure]
      rw [pageOutcome]
      cases running.page.withOverrides overrides <;> rfl
  | error failure =>
      rw [pageOutcome]
      cases broken : isBroken failure with
      | true => simp only [broken, if_true]; rfl
      | false => simp only [broken]; rfl

theorem respond_forPage (running : Running) (user : String) :
    respond { running := some running } (Request.forPage user) =
      answerPage running (Request.forPage user) := by
  have route : Route.ofPath? "/applet" = some .page := by decide
  have method : "GET" ∈ Route.page.methods := by decide
  rw [respond, Request.forPage, route]
  simp only [method, if_true]
  rfl

theorem answer_forPage {running : Running} {user : String} {host : Host}
    {loaded : Except Failure Overrides} (enabled : running.config.preferences.enabled = true)
    (nonempty : user ≠ "") (inside : ∀ c ∈ user.toList, User.inName c = true)
    (trimmed : trim user = user)
    (load : (running.store.load (some user)).run host = (loaded, host))
    (known : ∀ invalid, pageOutcome running loaded ≠ .error (.username invalid)) :
    (answer { running := some running } (Request.forPage user) host).1 =
      match pageOutcome running loaded with
      | .ok page => .html page.text
      | .error failure => .unhandled failure := by
  have outcome := run_pageFor enabled nonempty load
  rw [answer, respond_forPage, answerPage, Request.parameter?_forPage inside, Option.getD_some,
    trimmed, run_tryCatch, run_bind]
  cases ran : (pageFor running user).run host with
  | mk result between =>
      rw [ran] at outcome
      rw [← outcome] at known ⊢
      cases result with
      | ok page => rfl
      | error failure =>
          cases failure with
          | username invalid => exact absurd rfl (known invalid)
          | _ => rfl

theorem isBroken_of_overridesIn {user : String} {content? : Option Bytes} {failure : Failure}
    (failed : Store.overridesIn user content? = .error failure) :
    failure = .json .tooDeep ∨ isBroken failure = true := by
  cases content? with
  | none => cases failed
  | some content =>
      rcases Store.readOverrides_eq_error failed with deep | rfl | ⟨stage, violations, rfl⟩
      · exact .inl deep
      · exact .inr rfl
      · exact .inr rfl

theorem pageOutcome_ne_username (running : Running) (user : String) (content? : Option Bytes)
    (invalid : User.InvalidName) :
    pageOutcome running (Store.overridesIn user content?) ≠ .error (.username invalid) := by
  intro same
  cases loaded : Store.overridesIn user content? with
  | ok overrides =>
      rw [loaded] at same
      cases overridden : running.page.withOverrides overrides with
      | ok page => rw [pageOutcome_of_ok overridden] at same; cases same
      | error error => rw [pageOutcome_of_error overridden] at same; cases same
  | error failure =>
      rw [loaded] at same
      rcases isBroken_of_overridesIn loaded with rfl | broken
      · cases same
      · rw [pageOutcome_of_broken running broken] at same
        cases same

theorem store_of_started {running : Running} (started : Started running)
    (enabled : running.config.preferences.enabled = true) :
    running.store = .directory running.layout.prefs := by
  rw [started.store, Store.ofConfig, if_pos enabled]

theorem store?_of_enabled {running : Running} (started : Started running)
    (enabled : running.config.preferences.enabled = true) :
    store? { running := some running } = some (.directory running.layout.prefs) := by
  simp only [store?, enabled, if_true, store_of_started started enabled]

theorem store?_of_disabled {running : Running}
    (disabled : running.config.preferences.enabled = false) :
    store? { running := some running } = none := by
  simp only [store?, disabled, Bool.false_eq_true, if_false]

/-- There is no file, or one in which every surrogate is one of a pair. -/
structure HoldsPaired (files : Files) (path : Pathname) (content? : Option Bytes) : Prop where
  holds : files.Holds path content?
  paired : ∀ content, content? = some content → Layout.isPaired content = true

/-- The page of a user is shown whatever the user's file holds, but for two kinds of content: JSON
that lies too deep, and accepted overrides of a name with a line end at its end. Broken preferences
leave the usual page as it is, and what is loaded is otherwise applied to it. Files with surrogates
outside of pairs are not modelled: a page with such a value cannot be sent. -/
theorem answer_started {before after host : Host} {running : Running} {user : String}
    {content? : Option Bytes} (starts : StartsPaired before running after)
    (enabled : running.config.preferences.enabled = true) (named : User.isName user = true)
    (trimmed : trim user = user)
    (holds : HoldsPaired host.files (running.layout.prefs.child (Store.fileName user)) content?) :
    let answer := (answer { running := some running } (.forPage user) host).1
    let loaded := ((running.store.load (some user)).run host).1
    (answer.status = 200 ∨ answer.status = 500) ∧
      (answer.status = 200 ↔
        loaded ≠ .error (.json .tooDeep) ∧
          ∀ overrides, loaded = .ok overrides → ∀ entry ∈ overrides, '\n' ∉ entry.1.toList) ∧
      (∀ failure, loaded = .error failure →
        failure = .json .tooDeep ∨ isBroken failure = true ∧ answer = .html running.page.text) ∧
      ∀ overrides, loaded = .ok overrides → answer.status = 200 →
        ∃ page, running.page.withOverrides overrides = .ok page ∧ answer = .html page.text := by
  have started := started_of_start starts.done
  obtain ⟨nonempty, inside⟩ := User.inName_of_trimmed named trimmed
  have load : (running.store.load (some user)).run host =
      (Store.overridesIn user content?, host) := by
    rw [store_of_started started enabled]
    exact Store.run_load named holds.holds
  have answered := answer_forPage enabled nonempty inside trimmed load
    (pageOutcome_ne_username running user content?)
  have hidden (failure : Failure) : (Response.unhandled failure).status ≠ 200 := by
    change 500 ≠ 200
    decide
  simp only [load, answered]
  cases loaded : Store.overridesIn user content? with
  | error failure =>
      rcases isBroken_of_overridesIn loaded with rfl | broken
      · have outcome : pageOutcome running (.error (.json .tooDeep)) = .error (.json .tooDeep) :=
          rfl
        rw [outcome]
        refine ⟨.inr rfl, iff_of_false (hidden _) fun given => given.1 rfl, ?_, nofun⟩
        intro failure same
        exact .inl (Except.error.inj same).symm
      · have other : (.error failure : Except Failure Overrides) ≠ .error (.json .tooDeep) := by
          intro same
          cases same
          cases broken
        rw [pageOutcome_of_broken running broken]
        refine ⟨.inl rfl, iff_of_true rfl ⟨other, nofun⟩, ?_, nofun⟩
        intro given same
        cases same
        exact .inr ⟨broken, rfl⟩
  | ok overrides =>
      have accepted := Store.accepted_of_overridesIn loaded
      have clean := Page.withOverrides_accepted_iff started.built accepted
      cases overridden : running.page.withOverrides overrides with
      | ok page =>
          rw [pageOutcome_of_ok overridden]
          refine ⟨.inl rfl, iff_of_true rfl ⟨nofun, ?_⟩, nofun, ?_⟩
          · intro given same
            cases same
            exact clean.mp ⟨page, overridden⟩
          · intro given same _
            cases same
            exact ⟨page, overridden, rfl⟩
      | error error =>
          rw [pageOutcome_of_error overridden]
          refine ⟨.inr rfl, iff_of_false (hidden _) ?_, nofun, ?_⟩
          · intro given
            obtain ⟨page, shown⟩ := clean.mpr (given.2 overrides rfl)
            rw [overridden] at shown
            cases shown
          · intro given _ shown
            exact absurd shown (hidden _)

def hostOfAlice (preferences : String) : Host where
  files :=
    { nodes :=
        [(["home"], .directory), (["home", "config"], .directory),
         (["home", "config", "page.json"],
          .file (Utf8.encode "\x7b\"prefs\": \x7b\"enabled\": true\x7d\x7d")),
         (["home", "prefs"], .directory),
         (["home", "prefs", "alice.json"], .file (Utf8.encode preferences))] }
  environment := [("JINPAGE_HOME", "/home")]

/-- A name with a line end takes the page down. -/
theorem answer_started_alice :
    ∃ running after, start.run (hostOfAlice "\x7b\"foo\\n\": \"x\"\x7d") = (.ok running, after) ∧
      (answer { running := some running } (.forPage "alice") after).1.status = 500 := by
  let host := hostOfAlice "\x7b\"foo\\n\": \"x\"\x7d"
  let content : Bytes := Utf8.encode "\x7b\"foo\\n\": \"x\"\x7d"
  let path : Pathname := ⟨.single, ["home", "prefs", "alice.json"]⟩
  have state : ((start.run host).1.toOption.map
      fun running => (running.config.preferences.enabled, running.layout.prefs,
        readsPaired running host),
        ((start.run host).2.files.exists path).toOption,
        ((start.run host).2.files.read path).toOption) =
      (some (true, ⟨.single, ["home", "prefs"]⟩, true), some true, some content) := by
    decide +kernel
  have loaded : (Store.overridesIn "alice" (some content)).toOption = some [("foo\n", "x")] := by
    decide +kernel
  have named : User.isName "alice" = true := by decide
  cases ran : start.run host with
  | mk result after =>
      rw [ran] at state
      cases result with
      | error failure => cases state
      | ok running =>
          simp only [Except.toOption, Option.map_some, Prod.mk.injEq, Option.some.injEq] at state
          obtain ⟨⟨enabled, prefs, paired⟩, there, read⟩ := state
          have holds : after.files.Holds (running.layout.prefs.child (Store.fileName "alice"))
              (some content) := by
            rw [prefs]
            exact ⟨eq_ok_of_toOption there, eq_ok_of_toOption read⟩
          have load := Store.run_load named holds
          rw [← store_of_started (started_of_start ran) enabled, eq_ok_of_toOption loaded] at load
          have heldPaired : ∀ given, some content = some given → Layout.isPaired given = true := by
            intro given same
            cases same
            decide
          obtain ⟨status, shown, -⟩ :=
            answer_started ⟨ran, paired⟩ enabled named (by decide) ⟨holds, heldPaired⟩
          refine ⟨running, after, rfl, status.resolve_left fun ok => ?_⟩
          exact (shown.mp ok).2 _ (congrArg Prod.fst load) ("foo\n", "x") List.mem_cons_self
            (by decide)

end App

end AppletPage
