import AppletPage.Proofs.Files.Directory

/-! Files as a tree: whatever there is stands in a directory. Making directories keeps it so. -/

namespace AppletPage

open Text

namespace Files

def IsTree (files : Files) : Prop :=
  ∀ (path : Path) (name : String) (node : Node),
    files.get? (path ++ [name]) = some node → files.get? path = some .directory

variable {a b files : Files} {ending : Ending} {here there place directory : Path}
  {name : String} {node : Node} {links left : Nat} {slash slash' : Bool}
  {parts parts' : List String} {path : Pathname}

theorem isTree_of_all (all : ∀ entry ∈ files.nodes,
    files.get? entry.1.dropLast = some .directory) : files.IsTree := by
  intro path name node there
  have member : path ++ [name] ∈ Mapping.keys files.nodes := by
    refine Classical.byContradiction fun missing => ?_
    rw [get?_of_not_mem (concat_ne_nil path name) missing] at there
    cases there
  obtain ⟨entry, inNodes, same⟩ := List.mem_map.mp member
  have above := all entry inNodes
  rwa [same, List.dropLast_concat] at above

theorem IsTree.get?_above (tree : files.IsTree) {rest : Path} (below : rest ≠ [])
    (there : files.get? (place ++ rest) = some node) : files.get? place = some .directory := by
  induction rest generalizing place with
  | nil => exact absurd rfl below
  | cons name others ih =>
      rw [List.append_cons] at there
      by_cases last : others = []
      · rw [last, List.append_nil] at there
        exact tree _ _ _ there
      · exact tree _ _ _ (ih last there)

theorem IsTree.get?_of_prefix (tree : files.IsTree) (start : place <+: there)
    (standing : files.get? there = some .directory) : files.get? place = some .directory := by
  obtain ⟨rest, rfl⟩ := start
  by_cases whole : rest = []
  · rwa [whole, List.append_nil] at standing
  · exact tree.get?_above whole standing

theorem IsTree.get?_dropLast (tree : files.IsTree) (standing : files.get? here = some .directory) :
    files.get? here.dropLast = some .directory :=
  tree.get?_of_prefix (List.dropLast_prefix here) standing

theorem IsTree.put (tree : files.IsTree) (standing : files.get? directory = some .directory)
    (free : files.get? (directory ++ [name]) ≠ some .directory) (node : Node) :
    (files.put (directory ++ [name]) node).IsTree := by
  have apart : directory ++ [name] ≠ directory := by simp
  intro path other found there
  rw [get?_put files (concat_ne_nil directory name)] at there ⊢
  split at there
  · next same =>
    obtain ⟨rfl, -⟩ := List.append_inj' same rfl
    rwa [if_neg apart]
  · have above := tree _ _ _ there
    rw [if_neg]
    · exact above
    · rintro rfl
      exact free above

/-! Ways in a tree. -/

theorem Walk.prefix_of_noUps (walk : Walk files here parts there) (noUps : ".." ∉ parts) :
    here <+: there := by
  induction walk with
  | nil => exact List.prefix_refl _
  | point walk ih => exact ih fun member => noUps (List.mem_cons_of_mem _ member)
  | up walk ih => exact absurd List.mem_cons_self noUps
  | @name here there name rest named found walk ih =>
      exact (List.prefix_append here [name]).trans
        (ih fun member => noUps (List.mem_cons_of_mem _ member))

/-- A way down to a directory leads there in every tree that has that directory. -/
theorem Walk.of_tree (walk : Walk b here parts there) (noUps : ".." ∉ parts) (tree : a.IsTree)
    (standing : a.get? there = some .directory) : Walk a here parts there := by
  induction walk with
  | nil => exact .nil
  | point walk ih =>
      exact .point (ih (fun member => noUps (List.mem_cons_of_mem _ member)) standing)
  | up walk ih => exact absurd List.mem_cons_self noUps
  | name named found walk ih =>
      have behind := fun member => noUps (List.mem_cons_of_mem _ member)
      exact .name named (tree.get?_of_prefix (walk.prefix_of_noUps behind) standing)
        (ih behind standing)

theorem Walk.standing (walk : Walk files here parts there) (tree : files.IsTree)
    (start : files.get? here = some .directory) : files.get? there = some .directory := by
  induction walk with
  | nil => exact start
  | point walk ih => exact ih start
  | up walk ih => exact ih (tree.get?_dropLast start)
  | name named found walk ih => exact ih found

theorem Hops.standing (hops : Hops files ending links here slash parts left there slash' parts')
    (tree : files.IsTree) (start : files.get? here = some .directory) :
    files.get? there = some .directory := by
  induction hops with
  | stay => exact start
  | hop walk named usable followed found hops ih =>
      apply ih
      split
      · rfl
      · exact walk.standing tree start

theorem directory_of_vacant (tree : files.IsTree) (absolute : path.isAbsolute = true)
    (located : files.locate path ending = .vacant directory name) :
    files.get? directory = some .directory := by
  have short := short_of_locate located nofun
  rw [locate_absolute absolute short] at located
  obtain ⟨left, last, slash, parts', hops, arrival⟩ := exists_hops_arrival located nofun
  cases arrival with
  | vacant walk named usable missing => exact walk.standing tree (hops.standing tree rfl)

end Files

namespace FileAction

variable {files : Files} {path : Pathname}

theorem isTree_makeDirectory (absolute : path.isAbsolute = true) (tree : files.IsTree) :
    ((makeDirectory path).run files).2.IsTree := by
  rw [run_makeDirectory]
  split
  · exact tree
  · cases located : files.locate path .kept with
    | present other node => exact tree
    | vacant directory name =>
        refine tree.put (Files.directory_of_vacant tree absolute located) ?_ .directory
        rw [Files.get?_of_vacant located]
        exact nofun
    | nowhere cause => exact tree

theorem isTree_makeDirectories (absolute : path.isAbsolute = true) (tree : files.IsTree) :
    ((makeDirectories path).run files).2.IsTree :=
  rel_run_makeDirectories (fun a b => a.IsTree → b.IsTree)
    (fun first second tree => second (first tree))
    (fun _ _ _ tree => isTree_makeDirectory absolute tree) files tree

end FileAction

end AppletPage
