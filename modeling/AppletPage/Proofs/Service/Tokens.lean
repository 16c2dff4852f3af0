import AppletPage.Proofs.Service.Envelope
import AppletPage.Proofs.Service.Views

/-! Lists of tokens on the page: as they are configured, or as the user has written them. No token
is in a list twice. -/

namespace AppletPage

open Text

namespace Overrides

variable {fields : List (String × Json)} {overrides : Overrides} {name value kept : String}

theorem isTokenList_of_lower {key : String} (folded : lower name = key) (list : key ∈ tokenNames) :
    isTokenList name = true := by
  rw [isTokenList, folded]
  exact decide_eq_true list

theorem tokens_of_tidy (isList : isTokenList name = true)
    (tidied : tidy (name, value) = .ok (name, kept)) :
    splitTokens kept = splitTokens value ∧ (splitTokens value).Nodup := by
  rw [tidy, if_pos isList] at tidied
  cases joined : joinTokens (splitTokens value) with
  | error error => rw [joined] at tidied; cases tidied
  | ok given =>
      rw [joined] at tidied
      cases tidied
      exact ⟨splitTokens_of_joinTokens joined, nodup_of_joinTokens joined⟩

theorem exists_tidied (valid : validate (.object fields) = .ok overrides)
    (member : (name, .string value) ∈ fields) :
    ∃ kept, tidy (name, value) = .ok (name, kept) ∧ (name, kept) ∈ overrides := by
  rw [validate] at valid
  obtain ⟨named, texts, -, tidied, rfl⟩ := validateMapping_eq_ok_iff.mp valid
  have listed : (Json.string name, Json.string value) ∈ ParameterSet.textEntries named := by
    rw [← texts]
    exact List.mem_map_of_mem (f := fun field => (Json.string field.1, field.2)) member
  obtain ⟨entry, held, same⟩ := List.mem_map.mp listed
  cases same
  obtain ⟨⟨other, kept⟩, tidied⟩ := tidied entry held
  cases tidy_name tidied
  refine ⟨kept, tidied, List.mem_filterMap.mpr ⟨entry, held, ?_⟩⟩
  rw [tidied]
  rfl

end Overrides

namespace Page

variable {applet : Config.Applet} {preferences : Option Config.Preferences} {page : Page}
  {key : String} {configured : List String} {overrides : Overrides} {merged : ParameterSet}

/-- The parameters that hold lists of tokens, each with the list that is configured for it. -/
def tokenLists (applet : Config.Applet) : List (String × List String) :=
  [(boardsKey, applet.boards), (piecesKey, applet.pieces)]

theorem keys_tokenLists (listed : (key, configured) ∈ tokenLists applet) :
    lower key = key ∧ key ∈ Overrides.tokenNames := by
  simp only [tokenLists, List.mem_cons, Prod.mk.injEq, List.not_mem_nil, or_false] at listed
  rcases listed with ⟨rfl, -⟩ | ⟨rfl, -⟩ <;> decide

theorem exists_joined (built : build applet preferences = .ok page)
    (listed : (key, configured) ∈ tokenLists applet) :
    ∃ value, joinTokens configured = .ok value ∧ (key, value) ∈ page.parameters.entries := by
  obtain ⟨boards, pieces, boarded, pieced, entries⟩ := entries_of_build built
  simp only [tokenLists, List.mem_cons, Prod.mk.injEq, List.not_mem_nil, or_false] at listed
  rw [entries, entriesFor]
  rcases listed with ⟨rfl, rfl⟩ | ⟨rfl, rfl⟩
  · exact ⟨boards, boarded, by simp⟩
  · exact ⟨pieces, pieced, by simp⟩

theorem tokens_of_entry {set : ParameterSet} {value : String}
    (member : (key, value) ∈ set.entries) : set.tokens key = splitTokens value := by
  rw [ParameterSet.tokens, ParameterSet.get?_of_mem member]

theorem tokens_of_build (built : build applet preferences = .ok page)
    (listed : (key, configured) ∈ tokenLists applet) :
    page.parameters.tokens key = configured ∧ configured.Nodup := by
  obtain ⟨value, joined, member⟩ := exists_joined built listed
  rw [tokens_of_entry member, splitTokens_of_joinTokens joined]
  exact ⟨rfl, nodup_of_joinTokens joined⟩

theorem tokens_of_merge (built : build applet preferences = .ok page)
    (listed : (key, configured) ∈ tokenLists applet)
    (entries : merged.entries = ParameterSet.merge page.parameters.entries overrides) :
    merged.tokens key =
      ((ParameterSet.lastFor? overrides key).map splitTokens).getD configured := by
  obtain ⟨value, joined, member⟩ := exists_joined built listed
  have small := (keys_tokenLists listed).1
  have held : (key, (ParameterSet.lastFor? overrides key).getD value) ∈ merged.entries := by
    rw [entries, ParameterSet.merge]
    refine List.mem_append_left _ (List.mem_map.mpr ⟨(key, value), member, ?_⟩)
    dsimp only
    rw [small]
  rw [tokens_of_entry held]
  cases ParameterSet.lastFor? overrides key with
  | none => exact splitTokens_of_joinTokens joined
  | some given => rfl

end Page

namespace App

variable {running : Running} {host : Host} {user : String} {request : Request}

/-- The fields that a user has handed in: what is loaded for the user is what is accepted of them,
in any order of the names. -/
structure Submits (running : Running) (host : Host) (user : String)
    (fields : List (String × Json)) : Prop where
  enabled : running.config.preferences.enabled = true
  loaded : ∃ overrides kept, Overrides.validate (.object fields) = .ok overrides ∧
    List.Perm kept overrides ∧ ((running.store.load (some user)).run host).1 = .ok kept

theorem submits_of_file {content : Bytes} {fields : List (String × Json)} {overrides : Overrides}
    (started : Started running) (enabled : running.config.preferences.enabled = true)
    (named : User.isName user = true)
    (holds : host.files.Holds (running.layout.prefs.child (Store.fileName user)) (some content))
    (read : Layout.readJson content = .ok (.object fields))
    (valid : Overrides.validate (.object fields) = .ok overrides) :
    Submits running host user fields := by
  refine ⟨enabled, overrides, overrides, valid, .refl overrides, ?_⟩
  rw [store_of_started started enabled, Store.run_load named holds, Store.overridesIn,
    Store.readOverrides, read]
  dsimp only
  rw [valid]
  rfl

/-- After any session, what the last request that kept something for a user held has been handed
in. -/
theorem submits_session {before after : Host} (stands : before.JournalStands)
    (done : start.run before = (.ok running, after))
    (enabled : running.config.preferences.enabled = true)
    (empty : ∀ place, after.files.locate running.layout.prefs = .present place .directory →
      ∀ user, User.isName user = true → after.files.get? (place ++ [Store.fileName user]) = none)
    (requests : List Request) (named : User.isName user = true)
    (reachable : ¬ Unreachable running user) {last : Request × Response} :
    let session := exchanges { running := some running } requests after
    lastKept? user session.1 = some last →
      ∃ fields, Body.overrides last.1 = .ok fields ∧ Submits running session.2 user fields := by
  intro session kept
  have started := started_of_start done
  obtain ⟨-, place, located⟩ :=
    Files.isDirectory_eq_true_iff.mp (housed_of_start stands done).1.prefs
  obtain ⟨lodged, reflects⟩ := reflects_start stands done located (empty place located)
  have reflected :=
    (reflects_exchanges started enabled lodged reflects requests).files user named
  have lodged := lodged_exchanges started enabled lodged requests
  rw [List.nil_append, kept] at reflected
  generalize held : session.2.files.get? (place ++ [Store.fileName user]) = node? at reflected
  cases reflected with
  | @some request fields overrides read valid =>
      have settled := Overrides.settled_of_validate valid
      have file : session.2.files.get? (place ++ [Store.fileName user]) =
          (some (Utf8.encode (Store.fileText overrides))).map Node.file := held
      have load := Store.run_load_child named (.inl lodged.housed.plain.prefs.absolute)
        lodged.housed.prefs lodged.located reachable file
      refine ⟨fields, read, enabled, overrides, overrides.sorted, valid, overrides.sorted_perm, ?_⟩
      rw [store_of_started started enabled, load, Store.overridesIn,
        Store.readOverrides_fileText settled]

/-- A list of tokens on the page of a user: the configured one, or what the user has handed in for
it under its name in any case. -/
structure ShowsTokens (running : Running) (host : Host) (user key : String)
    (configured tokens : List String) : Prop where
  distinct : tokens.Nodup
  usual : (∀ fields, Submits running host user fields → ∀ field ∈ fields, lower field.1 ≠ key) →
    tokens = configured
  given : ∀ fields name value, Submits running host user fields →
    (name, Json.string value) ∈ fields → lower name = key → tokens = splitTokens value

variable {key : String} {configured : List String} {overrides : Overrides}

theorem submits_of_load (enabled : running.config.preferences.enabled = true)
    (load : ((running.store.load (some user)).run host).1 = .ok overrides)
    (settled : Overrides.Settled overrides) :
    Submits running host user (overrides.map fun entry => (entry.1, .string entry.2)) :=
  ⟨enabled, overrides, overrides, settled.validate_eq, .refl overrides, load⟩

theorem showsTokens_of_usual (started : Started running)
    (none : ∀ fields, ¬ Submits running host user fields)
    (listed : (key, configured) ∈ Page.tokenLists running.config.applet) :
    ShowsTokens running host user key configured (running.page.parameters.tokens key) := by
  obtain ⟨same, distinct⟩ := Page.tokens_of_build started.built listed
  rw [same]
  exact ⟨distinct, fun _ => rfl, fun fields _ _ submits => absurd submits (none fields)⟩

theorem showsTokens_of_load (started : Started running)
    (enabled : running.config.preferences.enabled = true)
    (load : ((running.store.load (some user)).run host).1 = .ok overrides)
    (settled : Overrides.Settled overrides) {merged : ParameterSet}
    (entries : merged.entries = ParameterSet.merge running.page.parameters.entries overrides)
    (listed : (key, configured) ∈ Page.tokenLists running.config.applet) :
    ShowsTokens running host user key configured (merged.tokens key) := by
  obtain ⟨-, list⟩ := Page.keys_tokenLists listed
  -- What is handed in for the list is what is loaded for it, but for its spaces.
  have loaded (fields : List (String × Json)) (name value : String)
      (submits : Submits running host user fields) (member : (name, Json.string value) ∈ fields)
      (folded : lower name = key) :
      ∃ kept, ParameterSet.lastFor? overrides key = some kept ∧
        splitTokens kept = splitTokens value := by
    obtain ⟨accepted, other, valid, perm, same⟩ := submits.loaded
    rw [load] at same
    cases same
    obtain ⟨kept, tidied, held⟩ := Overrides.exists_tidied valid member
    have found := ParameterSet.lastFor?_of_mem settled.accepted.distinct (perm.mem_iff.mpr held)
    dsimp only at found
    rw [folded] at found
    have isList := Overrides.isTokenList_of_lower folded list
    exact ⟨kept, found, (Overrides.tokens_of_tidy isList tidied).1⟩
  rw [Page.tokens_of_merge started.built listed entries]
  cases found : ParameterSet.lastFor? overrides key with
  | none =>
      obtain ⟨-, distinct⟩ := Page.tokens_of_build started.built listed
      refine ⟨distinct, fun _ => rfl, fun fields name value submits member folded => ?_⟩
      obtain ⟨kept, held, -⟩ := loaded fields name value submits member folded
      rw [found] at held
      cases held
  | some given =>
      obtain ⟨name, member, folded⟩ := ParameterSet.exists_of_lastFor? found
      have isList := Overrides.isTokenList_of_lower folded list
      have distinct := (Overrides.tokens_of_tidy isList (settled.tidied _ member)).2
      refine ⟨distinct, fun missing => ?_, fun fields name value submits member folded => ?_⟩
      · exact absurd folded (missing _ (submits_of_load enabled load settled) _
          (List.mem_map_of_mem member))
      · obtain ⟨kept, held, same⟩ := loaded fields name value submits member folded
        rw [found] at held
        cases held
        exact same

theorem exists_page_of_shown (gets : Gets request .page) (names : Names request user)
    (shown : (answer { running := some running } request host).1.status = 200) :
    ∃ page, ((pageFor running user).run host).1 = .ok page ∧
      (answer { running := some running } request host).1 = .html page.text := by
  cases paged : ((pageFor running user).run host).1 with
  | ok page => exact ⟨page, rfl, answer_page_of_pageFor gets names paged⟩
  | error failure =>
      rw [answer_page_of_pageFor gets names paged] at shown
      cases failure with
      | username invalid => exact ((by decide : (422 : Nat) ≠ 200) shown).elim
      | _ => exact ((by decide : (500 : Nat) ≠ 200) shown).elim

theorem submits_of_load_eq_error {failure : Failure} {fields : List (String × Json)}
    (failed : ((running.store.load (some user)).run host).1 = .error failure) :
    ¬ Submits running host user fields := by
  rintro ⟨-, overrides, kept, -, -, loaded⟩
  rw [failed] at loaded
  cases loaded

theorem showsTokens_of_outcome {loaded : Except Failure Overrides} {page : Page}
    (started : Started running) (enabled : running.config.preferences.enabled = true)
    (load : ((running.store.load (some user)).run host).1 = loaded)
    (paged : pageOutcome running loaded = .ok page)
    (listed : (key, configured) ∈ Page.tokenLists running.config.applet) :
    ShowsTokens running host user key configured (page.parameters.tokens key) := by
  have ended := Store.ends_load running.store (some user) host
  rw [load] at ended
  cases loaded with
  | error failure =>
      have same : running.page = page := by
        rw [pageOutcome] at paged
        split at paged
        · exact Except.ok.inj paged
        · cases paged
      rw [← same]
      exact showsTokens_of_usual started (fun _ => submits_of_load_eq_error load) listed
  | ok overrides =>
      have settled : Overrides.Settled overrides := ended
      cases overridden : running.page.withOverrides overrides with
      | error error => rw [pageOutcome, overridden] at paged; cases paged
      | ok next =>
          rw [pageOutcome_of_ok overridden] at paged
          cases paged
          obtain ⟨merged, done, rfl⟩ := Page.withOverrides_eq_ok overridden
          exact showsTokens_of_load started enabled load settled
            (ParameterSet.entries_of_withOverrides done) listed

/-- On every page that is shown, the lists of tokens have no token twice, and are those of the
configuration, but for what the user has handed in, which is shown in its own order. -/
theorem tokens_page {before after : Host} (done : start.run before = (.ok running, after))
    (gets : Gets request .page) (names : Names request user)
    (shown : (answer { running := some running } request host).1.status = 200) :
    ∃ set, Page.parse (answer { running := some running } request host).1.body = .ok set ∧
      ∀ key configured, (key, configured) ∈ Page.tokenLists running.config.applet →
        ShowsTokens running host user key configured (set.tokens key) := by
  have started := started_of_start done
  obtain ⟨page, paged, answered⟩ := exists_page_of_shown gets names shown
  have read : Page.parse page.text = .ok page.parameters := by
    rw [Page.parse_text_eq]
    exact Page.parseChars_chars page
  rw [answered]
  refine ⟨page.parameters, read, fun key configured listed => ?_⟩
  by_cases usual : running.config.preferences.enabled = false ∨ user = ""
  -- Nobody in particular has handed anything in.
  · rw [pageFor_usual usual] at paged
    cases paged
    refine showsTokens_of_usual started (fun fields submits => ?_) listed
    have enabled := submits.enabled
    rcases usual with disabled | rfl
    · rw [disabled] at enabled
      cases enabled
    · have nameless : ((running.store.load (some "")).run host).1 =
          .error (.username ⟨some ""⟩) := by
        rw [store_of_started started enabled, Store.run_load_unnamed (by decide)]
      exact submits_of_load_eq_error nameless submits
  · obtain ⟨enabled, nonempty⟩ := not_or.mp usual
    rw [Bool.not_eq_false] at enabled
    have load : (running.store.load (some user)).run host =
        (((running.store.load (some user)).run host).1, host) :=
      Prod.ext rfl (Store.snd_run_load running.store (some user) host)
    rw [run_pageFor enabled nonempty load] at paged
    exact showsTokens_of_outcome started enabled rfl paged listed

/-- Boards that Alice has handed in, with two spaces, are shown in her order. -/
theorem tokens_page_alice :
    ∃ running after,
      start.run (hostOfAlice "\x7b\"Resources.Boards\": \"b  a\"\x7d") = (.ok running, after) ∧
        ∃ set, Page.parse
            (answer { running := some running } (.forPage "alice") after).1.body = .ok set ∧
          set.tokens "resources.boards" = ["b", "a"] := by
  have observed :
      ((start.run (hostOfAlice "\x7b\"Resources.Boards\": \"b  a\"\x7d")).1.toOption.map
        fun running =>
          let after := (start.run (hostOfAlice "\x7b\"Resources.Boards\": \"b  a\"\x7d")).2
          (running.config.preferences.enabled,
            (answer { running := some running } (.forPage "alice") after).1.status,
            ((running.store.load (some "alice")).run after).1.toOption)) =
      some (true, 200, some [("Resources.Boards", "b a")]) := by
    decide +kernel
  obtain ⟨running, done, observed⟩ := exists_start_of_map observed
  simp only [Prod.mk.injEq] at observed
  generalize (start.run (hostOfAlice "\x7b\"Resources.Boards\": \"b  a\"\x7d")).2 = after
    at done observed
  obtain ⟨enabled, shown, loaded⟩ := observed
  have gets : Gets (.forPage "alice") .page := ⟨rfl, by decide⟩
  have names : Names (.forPage "alice") "alice" := by
    rw [Names, Request.parameter?_forPage (List.all_eq_true.mp (by decide))]
    decide
  have valid : (Overrides.validate
      (.object [("Resources.Boards", .string "b  a")])).toOption =
      some [("Resources.Boards", "b a")] := by
    decide +kernel
  have submits : Submits running after "alice" [("Resources.Boards", .string "b  a")] :=
    ⟨enabled, _, _, eq_ok_of_toOption valid, .refl _, eq_ok_of_toOption loaded⟩
  obtain ⟨set, read, lists⟩ := tokens_page done gets names shown
  have boards := lists Page.boardsKey running.config.applet.boards List.mem_cons_self
  refine ⟨running, after, done, set, read, ?_⟩
  exact boards.given _ _ _ submits List.mem_cons_self (by decide)

end App

end AppletPage
