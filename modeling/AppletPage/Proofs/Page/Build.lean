import AppletPage.Config.Reader
import AppletPage.Proofs.Page.RoundTrip
import AppletPage.Proofs.Parameter.Plugin

/-! What a page is built with, and what its document gives back of the plugins. -/

namespace AppletPage.Page

open Text

variable {applet : Config.Applet} {preferences : Option Config.Preferences}

def entriesFor (applet : Config.Applet) (preferences : Option Config.Preferences)
    (boards pieces : String) : List (String × String) :=
  [(portKey, toString applet.port), (serverKey, applet.serverClassname),
    (Plugin.countKey, toString applet.plugins.length)]
    ++ pluginEntries 0 applet.plugins
    ++ [(boardsKey, boards), (piecesKey, pieces)]
    ++ preferenceEntries preferences

theorem parametersFor_eq {boards pieces : String} (boarded : joinTokens applet.boards = .ok boards)
    (pieced : joinTokens applet.pieces = .ok pieces) :
    parametersFor applet preferences =
      ParameterSet.ofList (entriesFor applet preferences boards pieces) := by
  rw [parametersFor, boarded, pieced]
  rfl

theorem parametersFor_of_build {page : Page} (built : build applet preferences = .ok page) :
    parametersFor applet preferences = .ok page.parameters := by
  rw [build] at built
  split at built
  · cases built
  · next parameters made =>
    cases built
    exact made

theorem entries_of_build {page : Page} (built : build applet preferences = .ok page) :
    ∃ boards pieces, joinTokens applet.boards = .ok boards ∧ joinTokens applet.pieces = .ok pieces ∧
      page.parameters.entries = entriesFor applet preferences boards pieces := by
  have made := parametersFor_of_build built
  cases boarded : joinTokens applet.boards with
  | error error => rw [parametersFor, boarded] at made; cases made
  | ok boards =>
      cases pieced : joinTokens applet.pieces with
      | error error => rw [parametersFor, boarded, pieced] at made; cases made
      | ok pieces =>
          rw [parametersFor_eq boarded pieced] at made
          exact ⟨boards, pieces, rfl, rfl, ParameterSet.entries_of_ofList made⟩

theorem ascii_classnameKey (index : Nat) :
    ∀ c ∈ (Plugin.classnameKey index).toList, c.toNat < 0x80 := by
  have start : ∀ c ∈ "plugins.".toList, c.toNat < 0x80 := ascii_of_all (by decide)
  have ending : ∀ c ∈ ".classname".toList, c.toNat < 0x80 := ascii_of_all (by decide)
  rw [Plugin.toList_classnameKey]
  intro c member
  rcases List.mem_append.mp member with member | member
  · rcases List.mem_append.mp member with member | member
    · exact start c member
    · have bounds := toNat_of_isDigit (isDigit_of_mem_toDigits member)
      omega
  · exact ending c member

theorem ascii_pluginEntries (index : Nat) (names : List String) :
    ∀ entry ∈ pluginEntries index names, ∀ c ∈ entry.1.toList, c.toNat < 0x80 := by
  induction names generalizing index with
  | nil => exact nofun
  | cons name rest ih =>
      intro entry member
      rcases List.mem_cons.mp member with rfl | member
      · exact ascii_classnameKey index
      · exact ih (index + 1) entry member

theorem mem_urlEntry {name : String} {url : Option String} {entry : String × String}
    (member : entry ∈ urlEntry name url) : entry.1 = name := by
  unfold urlEntry at member
  split at member
  · split at member
    · cases member
    · cases List.mem_singleton.mp member
      rfl
  · cases member

theorem mem_preferenceEntries {entry : String × String}
    (member : entry ∈ preferenceEntries preferences) :
    entry.1 = savePrefsKey ∨ entry.1 = reserveSpaceKey := by
  cases preferences with
  | none => cases member
  | some given =>
      rcases List.mem_append.mp member with save | reserve
      · exact .inl (mem_urlEntry save)
      · exact .inr (mem_urlEntry reserve)

/-- The names that a page is built with, those of its plugins apart. -/
def fixedKeys : List String :=
  [portKey, serverKey, Plugin.countKey, boardsKey, piecesKey, savePrefsKey, reserveSpaceKey]

theorem mem_entriesFor {boards pieces : String} {entry : String × String}
    (member : entry ∈ entriesFor applet preferences boards pieces) :
    entry.1 ∈ fixedKeys ∨ entry ∈ pluginEntries 0 applet.plugins := by
  simp only [entriesFor, List.mem_append, List.mem_cons, List.not_mem_nil, or_false] at member
  rcases member with (((rfl | rfl | rfl) | plugin) | (rfl | rfl)) | url
  · exact .inl (by simp [fixedKeys])
  · exact .inl (by simp [fixedKeys])
  · exact .inl (by simp [fixedKeys])
  · exact .inr plugin
  · exact .inl (by simp [fixedKeys])
  · exact .inl (by simp [fixedKeys])
  · rcases mem_preferenceEntries url with same | same
    · exact .inl (by simp [fixedKeys, same])
    · exact .inl (by simp [fixedKeys, same])

theorem ascii_of_build {page : Page} (built : build applet preferences = .ok page) :
    ∀ entry ∈ page.parameters.entries, ∀ c ∈ entry.1.toList, c.toNat < 0x80 := by
  obtain ⟨boards, pieces, -, -, entries⟩ := entries_of_build built
  have fixed : fixedKeys.all (fun name => name.toList.all fun c => c.toNat < 0x80) = true := by
    decide
  intro entry member
  rw [entries] at member
  rcases mem_entriesFor member with known | plugin
  · exact ascii_of_all (List.all_eq_true.mp fixed entry.1 known)
  · exact ascii_pluginEntries 0 applet.plugins entry plugin

theorem plugins_of_build {page : Page} (built : build applet preferences = .ok page) :
    page.parameters.plugins = Plugin.readBack applet.plugins := by
  obtain ⟨boards, pieces, -, -, entries⟩ := entries_of_build built
  have count : (Plugin.countKey, toString applet.plugins.length) ∈ page.parameters.entries := by
    rw [entries, entriesFor]
    simp
  refine ParameterSet.plugins_eq_readBack (ParameterSet.get?_of_mem count) ?_
  intro entry member
  have among : entry ∈ page.parameters.entries := by
    rw [entries, entriesFor]
    simp [member]
  exact ParameterSet.get?_of_mem among

theorem numbers_of_build {page : Page} (built : build applet preferences = .ok page) :
    page.width = applet.width ∧ page.height = applet.height := by
  rw [build] at built
  split at built
  · cases built
  · cases built
    exact ⟨rfl, rfl⟩

/-- A built page has a document just if its width and height are not too long. The document gives
the plugins of the applet back, each without blanks around it, exactly if none of them is blank and
they are not more than a count can tell; so it gives the very plugins exactly if none has blanks
around it, either. A blank plugin is missed, the first of them first. -/
theorem plugins_document {page : Page} (built : build applet preferences = .ok page) :
    ((∃ document, page.render = .ok document) ↔
      IsShort applet.width ∧ IsShort applet.height) ∧
    ∀ document, page.render = .ok document →
      ∃ read, parseBytes document = .ok read ∧
        (∀ names, read.plugins = .ok names ↔
          Plugin.countDigits applet.plugins ≤ Json.digitLimit ∧
            (∀ name ∈ applet.plugins, trim name ≠ "") ∧ names = applet.plugins.map trim) ∧
        (read.plugins = .ok applet.plugins ↔
          Plugin.countDigits applet.plugins ≤ Json.digitLimit ∧
            ∀ name ∈ applet.plugins, trim name ≠ "" ∧ trim name = name) ∧
        ∀ index (inside : index < applet.plugins.length),
          Plugin.countDigits applet.plugins ≤ Json.digitLimit → trim applet.plugins[index] = "" →
          (∀ earlier (before : earlier < index), trim applet.plugins[earlier] ≠ "") →
          read.plugins = .error (.missing index applet.plugins.length) := by
  obtain ⟨width, height⟩ := numbers_of_build built
  rw [← width, ← height]
  refine ⟨exists_render_iff, fun document rendered => ?_⟩
  rw [(render_eq_ok_iff.mp rendered).2]
  refine ⟨page.parameters, parseBytes_bytes page, ?_, ?_, ?_⟩
  · intro names
    rw [plugins_of_build built, Plugin.readBack_eq_ok_iff]
  · rw [plugins_of_build built, Plugin.readBack_eq_ok_self_iff]
  · intro index inside short blank first
    rw [plugins_of_build built, Plugin.readBack_eq_missing short inside blank first]

/-- A plugin with blanks around it is read without them. -/
theorem plugins_document_spaced :
    ∃ page document read, build { plugins := [" chess.Console"] } none = .ok page ∧
      page.render = .ok document ∧ parseBytes document = .ok read ∧
      read.plugins = .ok ["chess.Console"] := by
  have made : (build { plugins := [" chess.Console"] } none).toOption.isSome = true := by
    decide
  cases built : build { plugins := [" chess.Console"] } none with
  | error error => rw [built] at made; cases made
  | ok page =>
      obtain ⟨rendered, gives⟩ := plugins_document built
      obtain ⟨document, done⟩ := rendered.mpr ⟨by decide, by decide⟩
      obtain ⟨read, parsed, plugins, -⟩ := gives document done
      have short : Plugin.countDigits [" chess.Console"] ≤ Json.digitLimit := by decide
      exact ⟨page, document, read, rfl, done, parsed,
        (plugins _).mpr ⟨short, by decide, by decide⟩⟩

/-- So the configured plugins are not always what the document gives. -/
theorem not_plugins_document :
    ¬ ∀ value config page, Config.ofJson value = .ok config →
      build config.applet (some config.preferences) = .ok page →
      ∃ document read, page.render = .ok document ∧ parseBytes document = .ok read ∧
        read.plugins = .ok config.applet.plugins := by
  intro claimed
  let config : Config := { applet := { plugins := [" a "] } }
  have accepted : Config.ofJson
      (.object [("applet", .object [("plugins", .array [.string " a "])])]) = .ok config := by rfl
  have made : (build config.applet (some config.preferences)).toOption.isSome = true := by
    decide
  cases built : build config.applet (some config.preferences) with
  | error error => rw [built] at made; cases made
  | ok page =>
      obtain ⟨document, read, rendered, parsed, plugins⟩ := claimed _ _ page accepted built
      rw [(render_eq_ok_iff.mp rendered).2, parseBytes_bytes] at parsed
      cases parsed
      rw [plugins_of_build built] at plugins
      have trimmed : Plugin.readBack [" a "] ≠ .ok [" a "] := by
        intro same
        have kept := (Plugin.readBack_eq_ok_self_iff.mp same).2 " a " List.mem_cons_self
        exact absurd kept.2 (by decide)
      exact trimmed plugins

end AppletPage.Page
