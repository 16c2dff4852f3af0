/-! Values under distinct keys, in the order in which the keys first came. -/

namespace AppletPage

abbrev Mapping (κ ν : Type) := List (κ × ν)

namespace Mapping

variable {κ ν : Type}

/-- Puts a value under a key that `same` accepts: a key that is there keeps its place and form. -/
def putBy (same : κ → Bool) (key : κ) (value : ν) : Mapping κ ν → Mapping κ ν
  | [] => [(key, value)]
  | (k, v) :: rest => if same k then (k, value) :: rest else (k, v) :: putBy same key value rest

def put [DecidableEq κ] (entries : Mapping κ ν) (key : κ) (value : ν) : Mapping κ ν :=
  putBy (· = key) key value entries

/-- The last value of each key, at the place of its first. -/
def ofList [DecidableEq κ] (pairs : List (κ × ν)) : Mapping κ ν :=
  pairs.foldl (fun entries pair => put entries pair.1 pair.2) []

def get? [DecidableEq κ] (entries : Mapping κ ν) (key : κ) : Option ν :=
  (entries.find? (·.1 = key)).map (·.2)

def erase [DecidableEq κ] (entries : Mapping κ ν) (key : κ) : Mapping κ ν :=
  entries.filter (·.1 ≠ key)

def keys (entries : Mapping κ ν) : List κ := entries.map (·.1)

def insertBy (le : κ → κ → Bool) (entry : κ × ν) : Mapping κ ν → Mapping κ ν
  | [] => [entry]
  | other :: rest =>
      if le entry.1 other.1 then entry :: other :: rest else other :: insertBy le entry rest

def sortBy (le : κ → κ → Bool) : Mapping κ ν → Mapping κ ν
  | [] => []
  | entry :: rest => insertBy le entry (sortBy le rest)

@[simp] theorem put_nil [DecidableEq κ] (key : κ) (value : ν) :
    put [] key value = [(key, value)] := rfl

theorem put_cons [DecidableEq κ] (entry : κ × ν) (rest : Mapping κ ν) (key : κ) (value : ν) :
    put (entry :: rest) key value =
      if entry.1 = key then (entry.1, value) :: rest else entry :: put rest key value := by
  simp [put, putBy]

theorem get?_put [DecidableEq κ] (entries : Mapping κ ν) (key other : κ) (value : ν) :
    get? (put entries key value) other =
      if key = other then some value else get? entries other := by
  induction entries with
  | nil => simp [get?, eq_comm]
  | cons entry rest ih =>
      rw [put_cons]
      by_cases found : entry.1 = key
      · by_cases asked : key = other <;> simp_all [get?]
      · by_cases here : entry.1 = other
        · simp_all [get?, eq_comm]
        · simp_all [get?]

theorem put_of_get? [DecidableEq κ] {entries : Mapping κ ν} {key : κ} {value : ν}
    (there : get? entries key = some value) : put entries key value = entries := by
  induction entries with
  | nil => cases there
  | cons entry rest ih =>
      rw [put_cons]
      by_cases here : entry.1 = key
      · rw [get?, List.find?_cons_of_pos (by simpa using here)] at there
        cases there
        rw [if_pos here]
      · rw [get?, List.find?_cons_of_neg (by simpa using here)] at there
        rw [if_neg here, ih there]

theorem get?_erase [DecidableEq κ] (entries : Mapping κ ν) (key other : κ) :
    get? (erase entries key) other = if key = other then none else get? entries other := by
  rw [get?, erase, List.find?_filter]
  split
  · next same =>
    rw [Option.map_eq_none_iff, List.find?_eq_none]
    intro entry _ found
    simp only [decide_eq_true_eq] at found
    exact found.1 (found.2.trans same.symm)
  · next apart =>
    rw [get?]
    congr 2
    funext entry
    by_cases found : entry.1 = other
    · simp [found, Ne.symm apart]
    · simp [found]

theorem isSome_get?_iff [DecidableEq κ] (entries : Mapping κ ν) (key : κ) :
    (get? entries key).isSome = true ↔ key ∈ keys entries := by
  rw [get?, Option.isSome_map, List.find?_isSome, keys, List.mem_map]
  simp only [decide_eq_true_eq]

/-- The last of the pairs under a key is the one that counts. -/
theorem get?_foldl_put [DecidableEq κ] (pairs : List (κ × ν)) (before : Mapping κ ν) (key : κ) :
    get? (pairs.foldl (fun entries pair => put entries pair.1 pair.2) before) key =
      ((pairs.reverse.find? (·.1 = key)).map (·.2)).or (get? before key) := by
  induction pairs generalizing before with
  | nil => rfl
  | cons pair rest ih =>
      rw [List.foldl_cons, ih, get?_put, List.reverse_cons, List.find?_append]
      cases rest.reverse.find? (·.1 = key) with
      | some later => rfl
      | none => by_cases here : pair.1 = key <;> simp [here]

theorem get?_ofList [DecidableEq κ] (pairs : List (κ × ν)) (key : κ) :
    get? (ofList pairs) key = (pairs.reverse.find? (·.1 = key)).map (·.2) := by
  rw [ofList, get?_foldl_put]
  exact Option.or_none

theorem put_of_not_mem [DecidableEq κ] {entries : Mapping κ ν} {key : κ}
    (new : key ∉ entries.map (·.1)) (value : ν) :
    put entries key value = entries ++ [(key, value)] := by
  induction entries with
  | nil => rfl
  | cons entry rest ih =>
      rw [List.map_cons, List.mem_cons, not_or] at new
      rw [put_cons, if_neg (Ne.symm new.1), ih new.2, List.cons_append]

theorem foldl_put [DecidableEq κ] {before entries : Mapping κ ν}
    (distinct : ((before ++ entries).map (·.1)).Nodup) :
    entries.foldl (fun made pair => put made pair.1 pair.2) before = before ++ entries := by
  induction entries generalizing before with
  | nil => exact (List.append_nil before).symm
  | cons entry rest ih =>
      have new : entry.1 ∉ before.map (·.1) := by
        rw [List.map_append, List.map_cons, List.nodup_append] at distinct
        exact fun member => distinct.2.2 _ member _ List.mem_cons_self rfl
      have parts : before ++ entry :: rest = before ++ [(entry.1, entry.2)] ++ rest := by
        rw [List.append_assoc]
        rfl
      rw [parts] at distinct ⊢
      rw [List.foldl_cons, put_of_not_mem new, ih distinct]

theorem ofList_of_nodup [DecidableEq κ] {entries : List (κ × ν)}
    (distinct : (entries.map (·.1)).Nodup) : ofList entries = entries :=
  @foldl_put κ ν _ [] entries distinct

/-! What holds of every value. -/

theorem forall_put [DecidableEq κ] {P : ν → Prop} {entries : Mapping κ ν}
    (each : ∀ entry ∈ entries, P entry.2) (key : κ) {value : ν} (holds : P value) :
    ∀ entry ∈ put entries key value, P entry.2 := by
  induction entries with
  | nil => simpa using holds
  | cons first rest ih =>
      obtain ⟨here, others⟩ := List.forall_mem_cons.mp each
      rw [put_cons]
      split
      · exact List.forall_mem_cons.mpr ⟨holds, others⟩
      · exact List.forall_mem_cons.mpr ⟨here, ih others⟩

theorem forall_foldl_put [DecidableEq κ] {P : ν → Prop} {before : Mapping κ ν}
    {pairs : List (κ × ν)} (held : ∀ entry ∈ before, P entry.2)
    (each : ∀ entry ∈ pairs, P entry.2) :
    ∀ entry ∈ pairs.foldl (fun entries pair => put entries pair.1 pair.2) before, P entry.2 := by
  induction pairs generalizing before with
  | nil => exact held
  | cons pair rest ih =>
      obtain ⟨here, others⟩ := List.forall_mem_cons.mp each
      exact ih (forall_put held pair.1 here) others

theorem forall_ofList [DecidableEq κ] {P : ν → Prop} {pairs : List (κ × ν)}
    (each : ∀ entry ∈ pairs, P entry.2) : ∀ entry ∈ ofList pairs, P entry.2 :=
  forall_foldl_put nofun each

end Mapping

def codeOrder (a b : String) : Bool := decide (a ≤ b)

end AppletPage
