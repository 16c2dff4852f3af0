import AppletPage.Proofs.Page.Build
import AppletPage.Proofs.Parameter.Joining
import AppletPage.Proofs.Parameter.Listing

/-! The parameters that a page is built with: when there are any, and under which names. -/

namespace AppletPage

open Text

theorem Text.toLower_of_isDigit {c : Char} (digit : isDigit c = true) : c.toLower = c := by
  have codes : ∀ n < 0x3a, 0x30 ≤ n → (Char.ofNat n).toLower = Char.ofNat n := by decide
  have bounds := toNat_of_isDigit digit
  have small := codes c.toNat (by omega) bounds.1
  rwa [Char.ofNat_toNat] at small

namespace Plugin

/-- A name under which a class name stands: a number between two fixed texts. -/
def NamesClass (name : String) : Prop :=
  ∃ digits : List Char, digits ≠ [] ∧ (∀ c ∈ digits, isDigit c = true) ∧
    name.toList = "plugins.".toList ++ digits ++ ".classname".toList

def numberIn (name : String) : List Char :=
  (name.toList.drop "plugins.".length).takeWhile isDigit

theorem namesClass_iff {name : String} :
    NamesClass name ↔ numberIn name ≠ [] ∧
      name.toList = "plugins.".toList ++ numberIn name ++ ".classname".toList := by
  constructor
  · rintro ⟨digits, nonempty, number, shape⟩
    have inside : numberIn name = digits := by
      rw [numberIn, shape, List.append_assoc, List.drop_left' (by rfl),
        List.takeWhile_append_of_pos number]
      exact List.append_nil digits
    rw [inside]
    exact ⟨nonempty, shape⟩
  · rintro ⟨nonempty, shape⟩
    exact ⟨numberIn name, nonempty, List.all_eq_true.mp List.all_takeWhile, shape⟩

instance : DecidablePred NamesClass := fun _ => decidable_of_iff _ namesClass_iff.symm

theorem namesClass_classnameKey (index : Nat) : NamesClass (classnameKey index) :=
  ⟨Nat.toDigits 10 index, Nat.toDigits_ne_nil, fun _ => isDigit_of_mem_toDigits,
    toList_classnameKey index⟩

theorem trim_toString (n : Nat) : trim (toString n) = toString n := by
  rw [trim, toList_toString, trimBy_toDigits, ← toList_toString, String.ofList_toList]

theorem isNumber_toString (n : Nat) : IsNumber (toString n) := by
  have chars : (trim (toString n)).toList = Nat.toDigits 10 n := by
    rw [trim_toString, toList_toString]
  refine ⟨fun empty => ?_, fun c member => ?_⟩
  · rw [empty] at chars
    exact Nat.toDigits_ne_nil chars.symm
  · rw [chars] at member
    exact isDigit_of_mem_toDigits member

theorem numberOf_toString (n : Nat) : numberOf (toString n) = n := by
  rw [numberOf, trim_toString, toList_toString, natOfDigits_toDigits]

theorem lower_classnameKey (index : Nat) : lower (classnameKey index) = classnameKey index := by
  have digits : (Nat.toDigits 10 index).map Char.toLower = Nat.toDigits 10 index := by
    rw [List.map_congr_left fun c member => toLower_of_isDigit (isDigit_of_mem_toDigits member)]
    exact List.map_id _
  have small : (classnameKey index).toList.map Char.toLower = (classnameKey index).toList := by
    rw [toList_classnameKey, List.map_append, List.map_append, digits]
    rfl
  rw [lower_of_ascii (Page.ascii_classnameKey index), small, String.ofList_toList]

theorem wellNamed_classnameKey (index : Nat) : WellNamed (classnameKey index) := by
  have chars := toList_classnameKey index
  refine ⟨fun empty => ?_, ?_⟩
  · rw [empty] at chars
    cases chars
  · have digits : (Nat.toDigits 10 index).any isBlank = false :=
      List.any_eq_false.mpr fun c member =>
        Bool.not_eq_true _ ▸ isBlank_of_isDigit (isDigit_of_mem_toDigits member)
    rw [hasBlank, chars, List.any_append, List.any_append, digits]
    decide

end Plugin

namespace Page

/-! Names. -/

def urlNames (preferences : Option Config.Preferences) : List String :=
  ([("savePrefsUrl", preferences.bind (·.savePrefsUrl)),
    ("reserveSpaceUrl", preferences.bind (·.reserveSpaceUrl))].filter
      fun entry => entry.2.getD "" ≠ "").map (·.1)

def namesFor (count : Nat) (preferences : Option Config.Preferences) : List String :=
  ["port", "server.classname", "plugins.count"]
    ++ (List.range count).map (fun index => "plugins." ++ toString index ++ ".classname")
    ++ ["resources.boards", "resources.pieces"]
    ++ urlNames preferences

variable {applet : Config.Applet} {preferences : Option Config.Preferences}

theorem names_pluginEntries (index : Nat) (names : List String) :
    (pluginEntries index names).map (·.1) =
      (List.range' index names.length).map Plugin.classnameKey := by
  induction names generalizing index with
  | nil => rfl
  | cons name rest ih =>
      rw [pluginEntries, List.map_cons, ih, List.length_cons, List.range'_succ, List.map_cons]

theorem names_urlEntry (name : String) (url : Option String) :
    (urlEntry name url).map (·.1) = if url.getD "" = "" then [] else [name] := by
  cases url with
  | none => rfl
  | some text =>
      rw [urlEntry, Option.getD_some]
      split <;> rfl

theorem names_preferenceEntries :
    (preferenceEntries preferences).map (·.1) = urlNames preferences := by
  cases preferences with
  | none => rfl
  | some given =>
      simp only [preferenceEntries, List.map_append, names_urlEntry, urlNames, Option.bind_some,
        List.filter_cons, List.filter_nil, ne_eq, decide_not, Bool.not_eq_true',
        decide_eq_false_iff_not, savePrefsKey, reserveSpaceKey]
      by_cases save : given.savePrefsUrl.getD "" = "" <;>
        by_cases reserve : given.reserveSpaceUrl.getD "" = "" <;> simp [save, reserve]

theorem names_entriesFor {boards pieces : String} :
    (entriesFor applet preferences boards pieces).map (·.1) =
      namesFor applet.plugins.length preferences := by
  simp only [entriesFor, namesFor, List.map_append, names_pluginEntries, names_preferenceEntries,
    List.range_eq_range']
  rfl

def fixedFor (preferences : Option Config.Preferences) : List String :=
  ["port", "server.classname", "plugins.count", "resources.boards", "resources.pieces"]
    ++ urlNames preferences

theorem fixedFor_sublist : (fixedFor preferences).Sublist fixedKeys :=
  List.Sublist.append_left (List.filter_sublist.map _)
    ["port", "server.classname", "plugins.count", "resources.boards", "resources.pieces"]

theorem namesFor_perm (count : Nat) :
    (namesFor count preferences).Perm
      (fixedFor preferences ++ (List.range count).map Plugin.classnameKey) := by
  have moved : ((List.range count).map Plugin.classnameKey
        ++ (["resources.boards", "resources.pieces"] ++ urlNames preferences)).Perm
      (["resources.boards", "resources.pieces"] ++ urlNames preferences
        ++ (List.range count).map Plugin.classnameKey) := List.perm_append_comm
  rw [namesFor, List.append_assoc, List.append_assoc]
  exact moved.append_left ["port", "server.classname", "plugins.count"]

theorem nodup_lower_namesFor (count : Nat) :
    ((namesFor count preferences).map lower).Nodup := by
  have keys : ((List.range count).map Plugin.classnameKey).map lower =
      (List.range count).map Plugin.classnameKey := by
    rw [List.map_map]
    exact List.map_congr_left fun index _ => Plugin.lower_classnameKey index
  have fixed : ∀ name ∈ fixedKeys.map lower, ¬ Plugin.NamesClass name := by decide
  have inside : ((fixedFor preferences).map lower).Sublist (fixedKeys.map lower) :=
    fixedFor_sublist.map lower
  rw [((namesFor_perm count).map lower).nodup_iff, List.map_append, keys, List.nodup_append]
  refine ⟨inside.nodup (by decide), ?_, ?_⟩
  · exact List.nodup_range.map fun _ _ => Plugin.classnameKey_injective
  · intro name member key listed same
    subst same
    obtain ⟨index, -, rfl⟩ := List.mem_map.mp listed
    exact fixed _ (inside.subset member) (Plugin.namesClass_classnameKey index)

theorem wellNamed_of_mem_namesFor {count : Nat} {name : String}
    (member : name ∈ namesFor count preferences) : WellNamed name := by
  have fixed : ∀ name ∈ fixedKeys, WellNamed name := by decide
  rcases List.mem_append.mp ((namesFor_perm count).mem_iff.mp member) with known | key
  · exact fixed name (fixedFor_sublist.subset known)
  · obtain ⟨index, -, rfl⟩ := List.mem_map.mp key
    exact Plugin.wellNamed_classnameKey index

theorem filter_namesFor (count : Nat) :
    ((namesFor count preferences).filter (Plugin.NamesClass ·)).length = count := by
  have fixed : ∀ name ∈ fixedKeys, ¬ Plugin.NamesClass name := by decide
  have none : (fixedFor preferences).filter (Plugin.NamesClass ·) = [] := by
    simp only [List.filter_eq_nil_iff, decide_eq_true_eq]
    exact fun name member => fixed name (fixedFor_sublist.subset member)
  have all : ((List.range count).map Plugin.classnameKey).filter (Plugin.NamesClass ·) =
      (List.range count).map Plugin.classnameKey := by
    simp only [List.filter_eq_self, List.mem_map, decide_eq_true_eq]
    rintro name ⟨index, -, rfl⟩
    exact Plugin.namesClass_classnameKey index
  rw [((namesFor_perm count).filter _).length_eq, List.filter_append, none, all, List.nil_append,
    List.length_map, List.length_range]

/-! Parameters. -/

theorem exists_ofList_entriesFor (boards pieces : String) :
    ∃ set, ParameterSet.ofList (entriesFor applet preferences boards pieces) = .ok set ∧
      set.entries = entriesFor applet preferences boards pieces := by
  have named : ∀ entry ∈ entriesFor applet preferences boards pieces, WellNamed entry.1 := by
    intro entry member
    have among : entry.1 ∈ (entriesFor applet preferences boards pieces).map (·.1) :=
      List.mem_map_of_mem member
    rw [names_entriesFor] at among
    exact wellNamed_of_mem_namesFor among
  have distinct : (foldedNames (entriesFor applet preferences boards pieces)).Nodup := by
    have folded := @nodup_lower_namesFor preferences applet.plugins.length
    rwa [← @names_entriesFor applet preferences boards pieces, List.map_map] at folded
  exact ⟨⟨_, named, distinct⟩, ParameterSet.ofList_entries ⟨_, named, distinct⟩, rfl⟩

theorem parametersFor_eq_ok_iff {set : ParameterSet} :
    parametersFor applet preferences = .ok set ↔
      Token.Joinable applet.boards ∧ Token.Joinable applet.pieces ∧
        set.entries = entriesFor applet preferences (Token.spaced applet.boards)
          (Token.spaced applet.pieces) := by
  constructor
  · intro made
    cases boarded : joinTokens applet.boards with
    | error error => rw [parametersFor, boarded] at made; cases made
    | ok boards =>
        cases pieced : joinTokens applet.pieces with
        | error error => rw [parametersFor, boarded, pieced] at made; cases made
        | ok pieces =>
            rw [parametersFor_eq boarded pieced] at made
            obtain ⟨boardsJoined, rfl⟩ := joinTokens_eq_ok_iff.mp boarded
            obtain ⟨piecesJoined, rfl⟩ := joinTokens_eq_ok_iff.mp pieced
            exact ⟨boardsJoined, piecesJoined, ParameterSet.entries_of_ofList made⟩
  · rintro ⟨boards, pieces, entries⟩
    rw [parametersFor_eq (joinTokens_eq_ok_iff.mpr ⟨boards, rfl⟩)
      (joinTokens_eq_ok_iff.mpr ⟨pieces, rfl⟩), ← entries]
    exact set.ofList_entries

theorem parametersFor_eq_error_iff {error : ParameterError} :
    parametersFor applet preferences = .error error ↔
      Token.FirstOffence applet.boards error ∨
        Token.Joinable applet.boards ∧ Token.FirstOffence applet.pieces error := by
  rw [← joinTokens_eq_error_iff, ← joinTokens_eq_error_iff, joinable_iff]
  cases boarded : joinTokens applet.boards with
  | error other =>
      have refused : parametersFor applet preferences = .error other := by
        rw [parametersFor, boarded]
        rfl
      simp [refused]
  | ok boards =>
      cases pieced : joinTokens applet.pieces with
      | error other =>
          have refused : parametersFor applet preferences = .error other := by
            rw [parametersFor, boarded, pieced]
            rfl
          simp [refused]
      | ok pieces =>
          obtain ⟨set, made, -⟩ := @exists_ofList_entriesFor applet preferences boards pieces
          rw [parametersFor_eq boarded pieced, made]
          simp

theorem get?_countKey {set : ParameterSet} (made : parametersFor applet preferences = .ok set) :
    set.get? Plugin.countKey = some (toString applet.plugins.length) := by
  obtain ⟨-, -, entries⟩ := parametersFor_eq_ok_iff.mp made
  have held : (Plugin.countKey, toString applet.plugins.length) ∈ set.entries := by
    rw [entries, entriesFor]
    simp
  exact ParameterSet.get?_of_mem held

/-- There are parameters exactly if the boards and the pieces can be joined. Otherwise the first
offending token is refused, that of the boards before that of the pieces; no name is ever doubled.
The names are the fixed ones in their order, with one for each plugin, and the count of plugins is
the number of these. -/
theorem parametersFor_outcome (applet : Config.Applet) (preferences : Option Config.Preferences) :
    ((∃ set, parametersFor applet preferences = .ok set) ↔
      Token.Joinable applet.boards ∧ Token.Joinable applet.pieces) ∧
    (∀ error, parametersFor applet preferences = .error error ↔
      Token.FirstOffence applet.boards error ∨
        Token.Joinable applet.boards ∧ Token.FirstOffence applet.pieces error) ∧
    (∀ name, parametersFor applet preferences ≠ .error (.duplicateName name)) ∧
    ∀ set, parametersFor applet preferences = .ok set →
      set.names = namesFor applet.plugins.length preferences ∧
      ∃ count, set.get? "plugins.count" = some count ∧ Plugin.IsNumber count ∧
        Plugin.numberOf count = (set.names.filter (Plugin.NamesClass ·)).length := by
  refine ⟨⟨?_, ?_⟩, fun error => parametersFor_eq_error_iff, fun name refused => ?_,
    fun set made => ?_⟩
  · rintro ⟨set, made⟩
    obtain ⟨boards, pieces, -⟩ := parametersFor_eq_ok_iff.mp made
    exact ⟨boards, pieces⟩
  · rintro ⟨boards, pieces⟩
    obtain ⟨set, -, entries⟩ := @exists_ofList_entriesFor applet preferences
      (Token.spaced applet.boards) (Token.spaced applet.pieces)
    exact ⟨set, parametersFor_eq_ok_iff.mpr ⟨boards, pieces, entries⟩⟩
  · rcases parametersFor_eq_error_iff.mp refused with boards | ⟨-, pieces⟩
    · exact boards.ne_duplicateName name rfl
    · exact pieces.ne_duplicateName name rfl
  · have names : set.names = namesFor applet.plugins.length preferences := by
      obtain ⟨-, -, entries⟩ := parametersFor_eq_ok_iff.mp made
      rw [ParameterSet.names, entries, names_entriesFor]
    refine ⟨names, _, get?_countKey made, Plugin.isNumber_toString _, ?_⟩
    rw [names, filter_namesFor, Plugin.numberOf_toString]

end Page

end AppletPage
