import AppletPage.Config.Reader
import AppletPage.Proofs.Json.Digits

/-! A configuration that has been read is within its bounds, and its numbers have no more digits
than are read again. -/

namespace AppletPage.Config

open Json (Short digitLimit)
open Number Text

/-- A number that is positive and has no more digits than are read. -/
structure IsSize (size : Int) : Prop where
  positive : 1 ≤ size
  fits : size.natAbs < Nat.pow 10 digitLimit

structure Applet.Lasting (applet : Applet) : Prop where
  port : IsPort applet.port
  width : IsSize applet.width
  height : IsSize applet.height
  code : applet.code ≠ ""
  serverClassname : applet.serverClassname ≠ ""

structure Logging.Lasting (logging : Logging) : Prop where
  maxSize : IsSize logging.maxSize
  backupCount : IsSize logging.backupCount

/-- A configuration that is read back after it has been written. -/
structure Lasting (config : Config) : Prop where
  httpPort : IsPort config.network.httpPort
  applet : config.applet.Lasting
  logging : config.logging.Lasting

theorem Lasting.withinBounds {config : Config} (lasting : Lasting config) : WithinBounds config :=
  ⟨lasting.httpPort, lasting.applet.port, lasting.applet.width.positive,
    lasting.applet.height.positive, lasting.logging.maxSize.positive,
    lasting.logging.backupCount.positive, lasting.applet.code, lasting.applet.serverClassname⟩

/-! Integers. -/

theorem lt_of_word {value : Int} (above : -wordBound < value) (below : value < wordBound) :
    value.natAbs < Nat.pow 10 digitLimit := by
  have word : wordBound = 9223372036854775808 := by decide
  have small : value.natAbs < Nat.pow 10 19 := by
    have power : Nat.pow 10 19 = 10000000000000000000 := by decide
    omega
  exact lt_pow_of_le small (by decide)

theorem IsPort.isSize {port : Int} (valid : IsPort port) : IsSize port := by
  have word : wordBound = 9223372036854775808 := by decide
  obtain ⟨positive, bounded⟩ := valid
  exact ⟨positive, lt_of_word (by omega) (by omega)⟩

theorem isSize_of_small {size : Int} (positive : 1 ≤ size) (small : size ≤ 65535) : IsSize size :=
  IsPort.isSize ⟨positive, small⟩

theorem plainDigits_fits {text : List Char} {value : Int}
    (read : plainDigits text = .value value) : value.natAbs < Nat.pow 10 digitLimit := by
  simp only [plainDigits] at read
  split at read
  · cases read
  · split at read
    · cases read
    · next fits =>
      split at read
      · cases read
      · cases read
        exact lt_pow_of_le (natOfDigits_lt (List.all_eq_true.mp List.all_takeWhile))
          (Nat.not_lt.mp fits)

theorem plainInteger_fits {text : List Char} {value : Int}
    (read : plainInteger text = .value value) : value.natAbs < Nat.pow 10 digitLimit := by
  unfold plainInteger at read
  split at read
  · split at read
    · next digits =>
      cases read
      rw [Int.natAbs_neg]
      exact plainDigits_fits digits
    · next noValue => exact absurd read (noValue value)
  · exact plainDigits_fits read

theorem integerOfText_fits {text : List Char} {value : Int}
    (read : integerOfText text = .ok value) : value.natAbs < Nat.pow 10 digitLimit := by
  unfold integerOfText at read
  split at read
  · next plain => cases read; exact plainInteger_fits plain
  · cases read
  · split at read
    · next tidied =>
      cases read
      obtain ⟨plain, -, plainRead⟩ := Option.map_eq_some_iff.mp tidied
      exact plainInteger_fits plainRead
    · cases read

theorem integerOfReal_fits {real : Binary64} {value : Int}
    (read : integerOfReal real = .ok value) : value.natAbs < Nat.pow 10 digitLimit := by
  unfold integerOfReal at read
  split at read
  · cases read
  · split at read
    · cases read
    · split at read
      · next inside =>
        cases read
        simp only [Bool.and_eq_true, decide_eq_true_eq] at inside
        exact lt_of_word inside.1 inside.2
      · cases read

theorem integer_fits {given : Json} {value : Int} (short : Short given)
    (read : integer given = .ok value) : value.natAbs < Nat.pow 10 digitLimit := by
  cases given with
  | bool truth =>
      cases read
      cases truth <;> exact lt_of_word (by decide) (by decide)
  | integer _ =>
      cases read
      cases short with
      | integer fits => exact fits
  | real _ => exact integerOfReal_fits read
  | string _ => exact integerOfText_fits read
  | null => cases read
  | array _ => cases read
  | object _ => cases read

theorem positive_isSize {given : Json} {value : Int} (short : Short given)
    (read : positive given = .ok value) : IsSize value := by
  unfold positive atLeast at read
  split at read
  · next integerRead =>
    split at read
    · cases read
    · next enough =>
      cases read
      exact ⟨Int.not_lt.mp enough, integer_fits short integerRead⟩
  · cases read

theorem port_isPort {given : Json} {value : Int} (short : Short given)
    (read : port given = .ok value) : IsPort value := by
  unfold port atMost at read
  split at read
  · next positiveRead =>
    split at read
    · cases read
    · next within =>
      cases read
      exact ⟨(positive_isSize short positiveRead).positive, Int.not_lt.mp within⟩
  · cases read

theorem nonemptyText_ne {given : Json} {value : String} (read : nonemptyText given = .ok value) :
    value ≠ "" := by
  unfold nonemptyText at read
  split at read
  · split at read
    · cases read
    · next nonempty => cases read; exact nonempty
  · cases read

/-! Fields and records. -/

section

variable {α β : Type}

theorem apply_eq_ok {function : Checked (α → β)} {argument : Checked α} {result : β}
    (done : function.apply argument = .ok result) :
    ∃ f x, function = .ok f ∧ argument = .ok x ∧ result = f x := by
  unfold Checked.apply at done
  split at done
  · next f x => cases done; exact ⟨f, x, rfl, rfl, rfl⟩
  · cases done
  · cases done
  · cases done

variable {fields : List (String × Json)} {name : String} {usual result : α}
  {check : Json → Checked α} {P : α → Prop}

theorem field_holds (short : ∀ entry ∈ fields, Short entry.2) (holds : P usual)
    (checked : ∀ {given : Json} {value : α}, Short given → check given = .ok value → P value)
    (read : field fields name usual check = .ok result) : P result := by
  unfold field at read
  split at read
  · cases read
    exact holds
  · next given found =>
    have member := List.mem_of_find?_eq_some (Option.map_eq_some_iff.mp found).choose_spec.1
    have same := (Option.map_eq_some_iff.mp found).choose_spec.2
    have givenShort : Short given := same ▸ short _ member
    unfold Checked.under at read
    cases outcome : check given with
    | error issues => rw [outcome] at read; cases read
    | ok value =>
        rw [outcome] at read
        cases read
        exact checked givenShort outcome

theorem record_holds {build : List (String × Json) → Checked α} {given : Json}
    (short : Short given)
    (built : ∀ {fields : List (String × Json)} {value : α}, (∀ entry ∈ fields, Short entry.2) →
      build fields = .ok value → P value)
    (read : record name build given = .ok result) : P result := by
  unfold record at read
  split at read
  · cases short with
    | object each => exact built each read
  · cases read

/-- What holds of a part whatever it is built of holds of a field that is such a part. A part that
is missing is built of nothing. -/
theorem part_holds {build : List (String × Json) → Checked α} {recordName : String}
    (short : ∀ entry ∈ fields, Short entry.2)
    (built : ∀ {fields : List (String × Json)} {value : α}, (∀ entry ∈ fields, Short entry.2) →
      build fields = .ok value → P value)
    (missing : build [] = .ok usual)
    (read : field fields name usual (record recordName build) = .ok result) : P result :=
  have none : ∀ entry ∈ ([] : List (String × Json)), Short entry.2 := nofun
  field_holds short (built none missing) (fun given => record_holds given built) read

end

/-! The parts of a configuration, and the whole. -/

variable {fields : List (String × Json)}

theorem readNetwork_isPort {network : Network} (short : ∀ entry ∈ fields, Short entry.2)
    (read : readNetwork fields = .ok network) : IsPort network.httpPort := by
  obtain ⟨_, httpPort, upToBindHost, httpPortRead, rfl⟩ := apply_eq_ok read
  obtain ⟨_, bindHost, given, -, rfl⟩ := apply_eq_ok upToBindHost
  cases given
  exact field_holds short ⟨by decide, by decide⟩ port_isPort httpPortRead

theorem readApplet_lasting {applet : Applet} (short : ∀ entry ∈ fields, Short entry.2)
    (read : readApplet fields = .ok applet) : applet.Lasting := by
  obtain ⟨_, pieces, upToBoards, -, rfl⟩ := apply_eq_ok read
  obtain ⟨_, boards, upToPlugins, -, rfl⟩ := apply_eq_ok upToBoards
  obtain ⟨_, plugins, upToServerClassname, -, rfl⟩ := apply_eq_ok upToPlugins
  obtain ⟨_, serverClassname, upToPort, classnameRead, rfl⟩ := apply_eq_ok upToServerClassname
  obtain ⟨_, port, upToFallbackText, portRead, rfl⟩ := apply_eq_ok upToPort
  obtain ⟨_, fallbackText, upToHeight, -, rfl⟩ := apply_eq_ok upToFallbackText
  obtain ⟨_, height, upToWidth, heightRead, rfl⟩ := apply_eq_ok upToHeight
  obtain ⟨_, width, upToArchive, widthRead, rfl⟩ := apply_eq_ok upToWidth
  obtain ⟨_, archive, upToCode, -, rfl⟩ := apply_eq_ok upToArchive
  obtain ⟨_, code, upToTitle, codeRead, rfl⟩ := apply_eq_ok upToCode
  obtain ⟨_, title, given, -, rfl⟩ := apply_eq_ok upToTitle
  cases given
  exact {
    port := field_holds short ⟨by decide, by decide⟩ port_isPort portRead
    width := field_holds short (isSize_of_small (by decide) (by decide)) positive_isSize widthRead
    height := field_holds short (isSize_of_small (by decide) (by decide)) positive_isSize heightRead
    code := field_holds (P := (· ≠ "")) short (by decide) (fun _ => nonemptyText_ne) codeRead
    serverClassname := field_holds (P := (· ≠ "")) short (by decide) (fun _ => nonemptyText_ne)
      classnameRead }

theorem readLogging_lasting {logging : Logging} (short : ∀ entry ∈ fields, Short entry.2)
    (read : readLogging fields = .ok logging) : logging.Lasting := by
  obtain ⟨_, backupCount, upToMaxSize, backupCountRead, rfl⟩ := apply_eq_ok read
  obtain ⟨_, maxSize, given, maxSizeRead, rfl⟩ := apply_eq_ok upToMaxSize
  cases given
  exact {
    maxSize :=
      field_holds short (isSize_of_small (by decide) (by decide)) positive_isSize maxSizeRead
    backupCount :=
      field_holds short (isSize_of_small (by decide) (by decide)) positive_isSize backupCountRead }

theorem readFields_lasting {config : Config} (short : ∀ entry ∈ fields, Short entry.2)
    (read : readFields fields = .ok config) : Lasting config := by
  obtain ⟨_, logging, upToDirectories, loggingRead, rfl⟩ := apply_eq_ok read
  obtain ⟨_, directories, upToPreferences, -, rfl⟩ := apply_eq_ok upToDirectories
  obtain ⟨_, preferences, upToApplet, -, rfl⟩ := apply_eq_ok upToPreferences
  obtain ⟨_, applet, upToNetwork, appletRead, rfl⟩ := apply_eq_ok upToApplet
  obtain ⟨_, network, upToVersion, networkRead, rfl⟩ := apply_eq_ok upToNetwork
  obtain ⟨_, version, given, -, rfl⟩ := apply_eq_ok upToVersion
  cases given
  exact {
    httpPort := part_holds (P := fun network : Network => IsPort network.httpPort) short
      readNetwork_isPort rfl networkRead
    applet := part_holds short readApplet_lasting rfl appletRead
    logging := part_holds short readLogging_lasting rfl loggingRead }

theorem lasting_of_read {text : String} {given : Json} {config : Config}
    (read : Json.read text = .ok given) (valid : ofJson given = .ok config) : Lasting config :=
  record_holds (Json.short_of_read read) readFields_lasting valid

end AppletPage.Config
