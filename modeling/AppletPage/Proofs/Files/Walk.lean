import AppletPage.Files.Place

/-! Where names lead. A name leads through directories to its last part, or to a link on its way,
behind which it goes on as another name. -/

namespace AppletPage

open Text

def Node.IsFile : Node → Prop
  | .file _ => True
  | _ => False

namespace Files

/-! The tree. -/

theorem get?_put (files : Files) {path : Path} (below : path ≠ []) (node : Node) (other : Path) :
    (files.put path node).get? other = if path = other then some node else files.get? other := by
  cases other with
  | nil => rw [if_neg below]; rfl
  | cons name rest => exact Mapping.get?_put files.nodes path (name :: rest) node

theorem put_of_get? {files : Files} {path : Path} {node : Node}
    (there : files.get? path = some node) (below : path ≠ []) : files.put path node = files := by
  rw [get?, List.isEmpty_eq_false_iff.mpr below, if_neg Bool.false_ne_true] at there
  rw [put, Mapping.put_of_get? there]

theorem get?_of_not_mem {files : Files} {path : Path} (below : path ≠ [])
    (missing : path ∉ Mapping.keys files.nodes) : files.get? path = none := by
  have absent : files.nodes.find? (·.1 = path) = none := by
    rw [List.find?_eq_none]
    intro entry member same
    exact missing (of_decide_eq_true same ▸ List.mem_map_of_mem member)
  rw [get?, List.isEmpty_eq_false_iff.mpr below, if_neg Bool.false_ne_true, Mapping.get?, absent]
  rfl

theorem concat_ne_nil (directory : Path) (name : String) : directory ++ [name] ≠ [] :=
  List.append_ne_nil_of_right_ne_nil directory (List.cons_ne_nil name [])

/-- What names lead through, directories and links, is kept from some files to others, and where a
file was there still is one. -/
structure WaysKept (a b : Files) : Prop where
  kept : ∀ path node, a.get? path = some node → ¬ node.IsFile → b.get? path = some node
  files : ∀ path node, a.get? path = some node → node.IsFile →
    ∃ other, b.get? path = some other ∧ other.IsFile

theorem WaysKept.refl (files : Files) : WaysKept files files :=
  ⟨fun _ _ there _ => there, fun _ node there file => ⟨node, there, file⟩⟩

theorem WaysKept.trans {a b c : Files} (first : WaysKept a b) (second : WaysKept b c) :
    WaysKept a c := by
  refine ⟨fun path node there way => second.kept path node (first.kept path node there way) way, ?_⟩
  intro path node there file
  obtain ⟨other, found, otherFile⟩ := first.files path node there file
  exact second.files path other found otherFile

theorem waysKept_of_kept {a b : Files}
    (kept : ∀ place node, a.get? place = some node → b.get? place = some node) : WaysKept a b :=
  ⟨fun place node there _ => kept place node there,
    fun place node there file => ⟨node, kept place node there, file⟩⟩

theorem waysKept_put {files : Files} {path : Path} (below : path ≠ []) {node : Node}
    (free : ∀ old, files.get? path = some old → old.IsFile ∧ node.IsFile) :
    WaysKept files (files.put path node) := by
  refine ⟨fun other way there notFile => ?_, fun other old there file => ?_⟩
  · rw [get?_put files below]
    split
    · next same => exact absurd (free way (same ▸ there)).1 notFile
    · exact there
  · rw [get?_put files below]
    split
    · next same => exact ⟨node, rfl, (free old (same ▸ there)).2⟩
    · exact ⟨old, there, file⟩

/-! Ways through directories alone. -/

structure IsName (name : String) : Prop where
  noPoint : name ≠ "."
  noUp : name ≠ ".."
  short : (Utf8.encode name).length ≤ partLimit

/-- Parts lead from one directory to another, through no link. -/
inductive Walk (files : Files) : Path → List String → Path → Prop where
  | nil {here : Path} : Walk files here [] here
  | point {here there : Path} {rest : List String} (walk : Walk files here rest there) :
      Walk files here ("." :: rest) there
  | up {here there : Path} {rest : List String} (walk : Walk files here.dropLast rest there) :
      Walk files here (".." :: rest) there
  | name {here there : Path} {name : String} {rest : List String} (named : IsName name)
      (found : files.get? (here ++ [name]) = some .directory)
      (walk : Walk files (here ++ [name]) rest there) : Walk files here (name :: rest) there

variable {files : Files} {ending : Ending} {slash : Bool} {here there place : Path} {name : String}
  {parts rest : List String}

def entered (files : Files) (ending : Ending) (slash : Bool) (here : Path) (name : String)
    (rest : List String) : Option Node → Advance
  | none => .stopped (if rest.isEmpty then .vacant here name else .nowhere .notFound)
  | some (.link target) =>
      if rest.isEmpty && ending = .kept then .stopped (.present (here ++ [name]) (.link target))
      else .link here target rest
  | some node => advance files ending slash (here ++ [name]) 0 node rest

theorem advance_point (gone : Nat) :
    advance files ending slash here gone .directory ("." :: rest) =
      advance files ending slash here gone .directory rest := by
  rw [advance, if_neg (not_not_intro rfl), if_pos rfl]

theorem advance_up (gone : Nat) :
    advance files ending slash here gone .directory (".." :: rest) =
      advance files ending slash here.dropLast (gone - 1) .directory rest := by
  rw [advance, if_neg (not_not_intro rfl), if_neg (by decide), if_pos rfl]

theorem advance_name (named : IsName name)
    (usable : (ending = .created && slash && rest.isEmpty) = false) :
    advance files ending slash here 0 .directory (name :: rest) =
      entered files ending slash here name rest (files.get? (here ++ [name])) := by
  rw [advance, if_neg (not_not_intro rfl), if_neg named.noPoint, if_neg named.noUp, usable,
    if_neg Bool.false_ne_true, if_neg (not_not_intro rfl), if_neg (Nat.not_lt.mpr named.short)]
  cases files.get? (here ++ [name]) with
  | none => rfl
  | some node => cases node <;> rfl

theorem Walk.advance_append (walk : Walk files here parts there) (more : rest ≠ []) :
    advance files ending slash here 0 .directory (parts ++ rest) =
      advance files ending slash there 0 .directory rest := by
  induction walk with
  | nil => rfl
  | point walk ih => rw [List.cons_append, advance_point, ih]
  | up walk ih => rw [List.cons_append, advance_up, ih]
  | @name here there name others named found walk ih =>
      have behind : (others ++ rest).isEmpty = false :=
        List.isEmpty_eq_false_iff.mpr (List.append_ne_nil_of_right_ne_nil others more)
      rw [List.cons_append, advance_name named (by rw [behind, Bool.and_false]), found]
      exact ih

theorem Walk.advance_eq (walk : Walk files here parts there)
    (usable : (ending = .created && slash) = false) :
    advance files ending slash here 0 .directory parts = .stopped (.present there .directory) := by
  induction walk with
  | nil => rfl
  | point walk ih => rw [advance_point, ih]
  | up walk ih => rw [advance_up, ih]
  | name named found walk ih =>
      rw [advance_name named (by rw [usable, Bool.false_and]), found]
      exact ih

theorem Walk.advance_last {node : Node} (walk : Walk files here parts there) (named : IsName name)
    (found : files.get? (there ++ [name]) = some node) (notLink : ∀ target, node ≠ .link target)
    (usable : (ending = .created && slash) = false) :
    advance files ending slash here 0 .directory (parts ++ [name]) =
      .stopped (.present (there ++ [name]) node) := by
  rw [walk.advance_append (List.cons_ne_nil name []),
    advance_name named (by rw [usable, Bool.false_and]), found]
  cases node with
  | link target => exact absurd rfl (notLink target)
  | directory => rfl
  | file content => rfl

theorem Walk.advance_kept {target : String} (walk : Walk files here parts there)
    (named : IsName name) (found : files.get? (there ++ [name]) = some (.link target)) :
    advance files .kept slash here 0 .directory (parts ++ [name]) =
      .stopped (.present (there ++ [name]) (.link target)) := by
  rw [walk.advance_append (List.cons_ne_nil name []), advance_name named rfl, found]
  rfl

theorem advance_congr {a b : Files} (same : ∀ path, a.get? path = b.get? path) (ending : Ending)
    (slash : Bool) (here : Path) (gone : Nat) (node : Node) (parts : List String) :
    advance a ending slash here gone node parts = advance b ending slash here gone node parts := by
  induction parts generalizing here gone node with
  | nil => rfl
  | cons name rest ih => simp only [advance, same, ih]

inductive Arrival (files : Files) (ending : Ending) (slash : Bool) (here : Path) :
    List String → Advance → Prop where
  | nowhere {parts : List String} (cause : FileCause) :
      Arrival files ending slash here parts (.stopped (.nowhere cause))
  | directory {parts : List String} {there : Path} (walk : Walk files here parts there) :
      Arrival files ending slash here parts (.stopped (.present there .directory))
  | vacant {parts : List String} {there : Path} {name : String} (walk : Walk files here parts there)
      (named : IsName name) (usable : (ending = .created && slash) = false)
      (missing : files.get? (there ++ [name]) = none) :
      Arrival files ending slash here (parts ++ [name]) (.stopped (.vacant there name))
  | file {parts : List String} {there : Path} {name : String} {content : Bytes}
      (walk : Walk files here parts there) (named : IsName name)
      (usable : (ending = .created && slash) = false)
      (found : files.get? (there ++ [name]) = some (.file content)) :
      Arrival files ending slash here (parts ++ [name])
        (.stopped (.present (there ++ [name]) (.file content)))
  | kept {parts : List String} {there : Path} {name target : String}
      (walk : Walk files here parts there) (named : IsName name) (kept : ending = .kept)
      (found : files.get? (there ++ [name]) = some (.link target)) :
      Arrival files ending slash here (parts ++ [name])
        (.stopped (.present (there ++ [name]) (.link target)))
  | link {parts rest : List String} {there : Path} {name target : String}
      (walk : Walk files here parts there) (named : IsName name)
      (usable : (ending = .created && slash && rest.isEmpty) = false)
      (followed : (rest.isEmpty && ending = .kept) = false)
      (found : files.get? (there ++ [name]) = some (.link target)) :
      Arrival files ending slash here (parts ++ name :: rest) (.link there target rest)

theorem Arrival.behind {outcome : Advance} {first : String}
    (step : ∀ {parts place}, Walk files there parts place → Walk files here (first :: parts) place)
    (arrival : Arrival files ending slash there parts outcome) :
    Arrival files ending slash here (first :: parts) outcome := by
  cases arrival with
  | nowhere cause => exact .nowhere cause
  | directory walk => exact .directory (step walk)
  | vacant walk named usable missing => exact .vacant (step walk) named usable missing
  | file walk named usable found => exact .file (step walk) named usable found
  | kept walk named kept found => exact .kept (step walk) named kept found
  | link walk named usable followed found => exact .link (step walk) named usable followed found

theorem advance_file_ne_nil {content : Bytes} (more : rest ≠ []) :
    advance files ending slash here 0 (.file content) rest = .stopped (.nowhere .notDirectory) := by
  cases rest with
  | nil => exact absurd rfl more
  | cons name others => rw [advance, if_pos nofun]

theorem arrival_advance (files : Files) (ending : Ending) (slash : Bool) (here : Path)
    (parts : List String) :
    Arrival files ending slash here parts (advance files ending slash here 0 .directory parts) := by
  induction parts generalizing here with
  | nil => exact .directory .nil
  | cons name rest ih =>
      by_cases point : name = "."
      · rw [point, advance_point]
        exact (ih here).behind .point
      by_cases up : name = ".."
      · rw [up, advance_up]
        exact (ih here.dropLast).behind .up
      -- A file that is to be made has no slash behind its name.
      cases usable : (ending = .created && slash && rest.isEmpty) with
      | true =>
          rw [advance, if_neg (not_not_intro rfl), if_neg point, if_neg up, usable, if_pos rfl]
          exact .nowhere .isDirectory
      | false =>
          by_cases long : partLimit < (Utf8.encode name).length
          · rw [advance, if_neg (not_not_intro rfl), if_neg point, if_neg up, usable,
              if_neg Bool.false_ne_true, if_neg (not_not_intro rfl), if_pos long]
            exact .nowhere .nameTooLong
          have named : IsName name := ⟨point, up, Nat.not_lt.mp long⟩
          have last (empty : rest = []) : (ending = .created && slash) = false := by
            rwa [empty, List.isEmpty_nil, Bool.and_true] at usable
          rw [advance_name named usable]
          cases found : files.get? (here ++ [name]) with
          | none =>
              cases rest with
              | nil => exact .vacant .nil named (last rfl) found
              | cons next others => exact .nowhere .notFound
          | some node =>
              cases node with
              | directory =>
                  exact (ih (here ++ [name])).behind fun walk => .name named found walk
              | file content =>
                  cases rest with
                  | nil => exact .file .nil named (last rfl) found
                  | cons next others =>
                      rw [entered, advance_file_ne_nil (List.cons_ne_nil next others)]
                      · exact .nowhere .notDirectory
                      · intro target same
                        cases same
              | link target =>
                  rw [entered]
                  cases kept : (rest.isEmpty && ending = .kept) with
                  | false =>
                      rw [if_neg Bool.false_ne_true]
                      exact .link .nil named usable kept found
                  | true =>
                      rw [if_pos rfl]
                      simp only [Bool.and_eq_true, List.isEmpty_iff, decide_eq_true_eq] at kept
                      obtain ⟨rfl, kept⟩ := kept
                      exact .kept .nil named kept found

end Files

end AppletPage
