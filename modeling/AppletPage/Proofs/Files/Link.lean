import AppletPage.Proofs.Files.Grown
import AppletPage.Proofs.Files.Tree

/-! The links at names. Under names that have no link on their way, new directories and new files
bring no link to light. -/

namespace AppletPage

open Text

namespace Pathname

theorem length_toText_of_prefix {path : Pathname} {parts : List String} (named : parts ≠ [])
    (start : parts <+: path.parts) :
    (Utf8.encode { path with parts }.toText).length ≤ (Utf8.encode path.toText).length := by
  obtain ⟨rest, whole⟩ := start
  have written (parts : List String) (named : parts ≠ []) :
      { path with parts }.toText = rootText path.root ++ String.intercalate "/" parts := by
    rw [toText, List.isEmpty_eq_false_iff.mpr named, Bool.and_false, if_neg Bool.false_ne_true]
  have same : path = { path with parts := parts ++ rest } := by rw [whole]
  rw [same, written parts named, written _ (List.append_ne_nil_of_left_ne_nil named rest)]
  by_cases empty : rest = []
  · exact Nat.le_of_eq (by rw [empty, List.append_nil])
  · rw [String.intercalate_append_of_ne_nil named empty]
    simp only [Utf8.encode_append, List.length_append]
    omega

end Pathname

namespace Files

variable {a b files : Files} {ending : Ending} {path : Pathname} {here there place : Path}
  {gone : Nat} {node : Node} {slash : Bool} {name target : String} {parts names rest : List String}

def linkAt? (files : Files) (path : Pathname) : Option String :=
  match files.locate path .kept with
  | .present _ (.link target) => some target
  | _ => none

theorem linkAt?_eq_some_iff :
    files.linkAt? path = some target ↔
      ∃ place, files.locate path .kept = .present place (.link target) := by
  rw [linkAt?]
  cases files.locate path .kept with
  | present other node => cases node <;> simp
  | vacant directory name => simp
  | nowhere cause => simp

def goneOf (files : Files) (path : Pathname) : Nat := if path.isAbsolute then 0 else files.gone

theorem locate_of_short (short : ¬ nameLimit < (Utf8.encode path.toText).length)
    (ending : Ending) :
    files.locate path ending =
      follow files ending linkLimit (files.startOf path) (files.goneOf path) false path.parts := by
  rw [locate, if_neg short, startOf, goneOf]
  cases path.isAbsolute with
  | true => rfl
  | false => rfl

theorem linkAt?_of_stopped (short : ¬ nameLimit < (Utf8.encode path.toText).length)
    (stopped : advance files .kept false (files.startOf path) (files.goneOf path) .directory
      path.parts = .stopped (.present place (.link target))) :
    files.linkAt? path = some target := by
  refine linkAt?_eq_some_iff.mpr ⟨place, ?_⟩
  rw [locate_of_short short, follow, stopped]
  rfl

/-- Where a link has to be followed, the parts up to it stop there if it is kept. -/
theorem exists_stopped_of_link
    (linked : advance files ending slash here gone .directory parts = .link there target rest) :
    ∃ before name, parts = before ++ name :: rest ∧
      advance files .kept slash here gone .directory (before ++ [name]) =
        .stopped (.present (there ++ [name]) (.link target)) := by
  -- As long as the start is gone there are only points; from a directory that is there on, the way
  -- to the link is known.
  induction parts generalizing here gone with
  | nil => cases linked
  | cons name others ih =>
      by_cases standing : gone = 0
      · subst standing
        have arrival := arrival_advance files ending slash here (name :: others)
        rw [linked] at arrival
        generalize name :: others = parts at arrival
        cases arrival with
        | @link before _ _ name _ walk named usable followed found =>
            exact ⟨before, name, rfl, walk.advance_kept named found⟩
      by_cases point : name = "."
      · rw [point, advance_point] at linked
        obtain ⟨before, last, rfl, stopped⟩ := ih linked
        exact ⟨name :: before, last, rfl, by rw [point, List.cons_append, advance_point, stopped]⟩
      by_cases up : name = ".."
      · rw [up, advance_up] at linked
        obtain ⟨before, last, rfl, stopped⟩ := ih linked
        exact ⟨name :: before, last, rfl, by rw [up, List.cons_append, advance_up, stopped]⟩
      rw [advance, if_neg (not_not_intro rfl), if_neg point, if_neg up, if_pos standing] at linked
      split at linked
      · cases linked
      · cases linked

/-- No start of a name is a link, and neither is the name. -/
def Unlinked (files : Files) (path : Pathname) : Prop :=
  ∀ parts, parts <+: path.parts → files.linkAt? { path with parts } = none

theorem Unlinked.exists_stopped (unlinked : files.Unlinked path)
    (short : ¬ nameLimit < (Utf8.encode (path.child name).toText).length) :
    ∃ place, advance files .kept false (files.startOf path) (files.goneOf path) .directory
      (path.parts ++ [name]) = .stopped place := by
  cases arrived : advance files .kept false (files.startOf path) (files.goneOf path) .directory
      (path.parts ++ [name]) with
  | stopped place => exact ⟨place, rfl⟩
  | link there target rest =>
      obtain ⟨before, last, whole, stopped⟩ := exists_stopped_of_link arrived
      by_cases ends : rest = []
      · rw [ends] at whole
        rw [← whole, arrived] at stopped
        cases stopped
      · -- The link stands before the last part, and so on the way.
        have whole' : path.parts = before ++ [last] ++ rest.dropLast := by
          have shorter := congrArg List.dropLast whole
          rwa [List.dropLast_concat, List.dropLast_append_of_ne_nil (List.cons_ne_nil last rest),
            List.dropLast_cons_of_ne_nil ends, List.append_cons] at shorter
        have start : before ++ [last] <+: path.parts := ⟨rest.dropLast, whole'.symm⟩
        have onWay : before ++ [last] <+: (path.child name).parts :=
          start.trans (List.prefix_append path.parts [name])
        have shorter := Pathname.length_toText_of_prefix (concat_ne_nil before last) onWay
        have linked : files.linkAt? { path with parts := before ++ [last] } = some _ :=
          linkAt?_of_stopped (fun long => short (Nat.lt_of_lt_of_le long shorter)) stopped
        rw [unlinked _ start] at linked
        cases linked

/-- The link at an entry of an unlinked name is where the way to the entry stops. -/
theorem Unlinked.linkAt?_child_iff (unlinked : files.Unlinked path)
    (short : ¬ nameLimit < (Utf8.encode (path.child name).toText).length) :
    files.linkAt? (path.child name) = some target ↔
      ∃ place, advance files .kept false (files.startOf path) (files.goneOf path) .directory
        (path.parts ++ [name]) = .stopped (.present place (.link target)) := by
  obtain ⟨place, stopped⟩ := unlinked.exists_stopped short
  have child : advance files .kept false (files.startOf (path.child name))
      (files.goneOf (path.child name)) .directory (path.child name).parts = .stopped place :=
    stopped
  have located : files.locate (path.child name) .kept = ended false place := by
    rw [locate_of_short short, follow, child]
    cases place <;> rfl
  rw [linkAt?_eq_some_iff, located, stopped]
  cases place with
  | present other node => simp [ended]
  | vacant directory other => simp [ended]
  | nowhere cause => simp [ended]

/-! Names of which pairs of points stand at the start. -/

/-- Pairs of points stand at the start alone. -/
def UpsFirst (parts : List String) : Prop :=
  ∃ count names, parts = List.replicate count ".." ++ names ∧ ".." ∉ names

theorem exists_above (slash : Bool) (here : Path) (gone count : Nat) :
    ∃ there left, ∀ (files : Files) (ending : Ending) (rest : List String),
      advance files ending slash here gone .directory (List.replicate count ".." ++ rest) =
        advance files ending slash there left .directory rest := by
  induction count generalizing here gone with
  | zero => exact ⟨here, gone, fun files ending rest => rfl⟩
  | succ count ih =>
      obtain ⟨there, left, same⟩ := ih here.dropLast (gone - 1)
      refine ⟨there, left, fun files ending rest => ?_⟩
      rw [List.replicate_succ, List.cons_append, advance_up, same]

theorem advance_gone_ne_link (noUps : ".." ∉ names) (left : gone ≠ 0) :
    advance files .kept slash here gone .directory names ≠
      .stopped (.present place (.link target)) := by
  induction names with
  | nil => intro linked; cases linked
  | cons name others ih =>
      have noUp : name ≠ ".." := fun same => noUps (same ▸ List.mem_cons_self)
      by_cases point : name = "."
      · rw [point, advance_point]
        exact ih fun member => noUps (List.mem_cons_of_mem name member)
      · rw [advance, if_neg (not_not_intro rfl), if_neg point, if_neg noUp, if_pos left]
        intro linked
        split at linked
        · cases linked
        · cases linked

/-- A way that stops at a link stops there in other files that keep the ways, and in a tree that the
link comes from. -/
theorem advance_link_iff (grown : Grown a b) (tree : a.IsTree) (first : UpsFirst parts) :
    advance a .kept slash here gone .directory parts = .stopped (.present place (.link target)) ↔
      advance b .kept slash here gone .directory parts =
        .stopped (.present place (.link target)) := by
  obtain ⟨count, names, rfl, noUps⟩ := first
  obtain ⟨there, left, above⟩ := exists_above slash here gone count
  rw [above, above]
  by_cases gone : left ≠ 0
  · exact iff_of_false (advance_gone_ne_link noUps gone) (advance_gone_ne_link noUps gone)
  rw [Classical.not_not.mp gone]
  constructor
  · intro stopped
    have arrival := arrival_advance a .kept slash there names
    rw [stopped] at arrival
    cases arrival with
    | kept walk named _ found =>
        exact (walk.mono grown.ways).advance_kept named (grown.ways.kept _ _ found id)
  · intro stopped
    have arrival := arrival_advance b .kept slash there names
    rw [stopped] at arrival
    cases arrival with
    | kept walk named _ found =>
        have before := grown.links _ _ found
        have down : ".." ∉ _ := fun member => noUps (List.mem_append_left _ member)
        exact (walk.of_tree down tree (tree _ _ _ before)).advance_kept named before

/-! Names that have no link on their way, neither in some files nor in others. -/

theorem linkAt?_of_long (long : nameLimit < (Utf8.encode path.toText).length) :
    files.linkAt? path = none := by
  rw [linkAt?, locate, if_pos long]

theorem linkAt?_of_ups {count : Nat} (ups : path.parts = List.replicate count "..") :
    files.linkAt? path = none := by
  by_cases long : nameLimit < (Utf8.encode path.toText).length
  · exact linkAt?_of_long long
  · obtain ⟨there, left, above⟩ :=
      exists_above false (files.startOf path) (files.goneOf path) count
    have stopped := above files .kept []
    rw [List.append_nil, ← ups] at stopped
    rw [linkAt?, locate_of_short long, follow, stopped]
    rfl

theorem unlinked_of_ups {count : Nat} (ups : path.parts = List.replicate count "..") :
    files.Unlinked path := by
  intro parts start
  rw [ups] at start
  exact linkAt?_of_ups (List.prefix_replicate_iff.mp start).2

theorem Unlinked.child (unlinked : files.Unlinked path)
    (free : files.linkAt? (path.child name) = none) : files.Unlinked (path.child name) := by
  intro parts start
  rcases List.prefix_concat_iff.mp start with whole | onWay
  · rw [whole]
    exact free
  · exact unlinked parts onWay

theorem Unlinked.parent (unlinked : files.Unlinked path) : files.Unlinked path.parent :=
  fun parts start => unlinked parts (start.trans (List.dropLast_prefix path.parts))

theorem UpsFirst.child (first : UpsFirst parts) (noUp : name ≠ "..") :
    UpsFirst (parts ++ [name]) := by
  obtain ⟨count, names, rfl, noUps⟩ := first
  refine ⟨count, names ++ [name], List.append_assoc .., fun member => ?_⟩
  rcases List.mem_append.mp member with before | last
  · exact noUps before
  · exact noUp (List.mem_singleton.mp last).symm

theorem UpsFirst.dropLast (first : UpsFirst parts) : UpsFirst parts.dropLast := by
  obtain ⟨count, names, rfl, noUps⟩ := first
  by_cases ends : names = []
  · refine ⟨count - 1, [], ?_, List.not_mem_nil⟩
    rw [ends, List.append_nil, List.append_nil, List.dropLast_replicate]
  · refine ⟨count, names.dropLast, List.dropLast_append_of_ne_nil ends, fun member => ?_⟩
    exact noUps (List.dropLast_subset names member)

theorem UpsFirst.eq_replicate (first : UpsFirst parts) (last : parts.getLast? = some "..") :
    ∃ count, parts = List.replicate count ".." := by
  obtain ⟨count, names, rfl, noUps⟩ := first
  by_cases ends : names = []
  · exact ⟨count, by rw [ends, List.append_nil]⟩
  · rw [List.getLast?_append, List.getLast?_eq_some_getLast ends, Option.some_or,
      Option.some.injEq] at last
    exact absurd (last ▸ List.getLast_mem ends) noUps

/-- A name with pairs of points at most at its start that has no link on its way in either of two
file systems. -/
structure Surveyed (a b : Files) (path : Pathname) : Prop where
  first : UpsFirst path.parts
  before : a.Unlinked path
  after : b.Unlinked path

theorem surveyed_of_ups {count : Nat} (ups : path.parts = List.replicate count "..") :
    Surveyed a b path :=
  ⟨⟨count, [], by rw [ups, List.append_nil], List.not_mem_nil⟩, unlinked_of_ups ups,
    unlinked_of_ups ups⟩

theorem surveyed_of_empty (empty : path.parts = []) : Surveyed a b path := by
  have ups : path.parts = List.replicate 0 ".." := empty
  exact surveyed_of_ups ups

theorem Surveyed.above (surveyed : Surveyed a b path) : Surveyed a b path.above := by
  rw [Pathname.above]
  split
  · next last =>
    have ups : (path.child "..").parts = List.replicate 1 ".." := by
      rw [Pathname.child, List.getLast?_eq_none_iff.mp last]
      rfl
    exact surveyed_of_ups ups
  · next last =>
    obtain ⟨count, ups⟩ := surveyed.first.eq_replicate last
    have further : (path.child "..").parts = List.replicate (count + 1) ".." := by
      rw [Pathname.child, ups, List.replicate_succ']
    exact surveyed_of_ups further
  · exact ⟨surveyed.first.dropLast, surveyed.before.parent, surveyed.after.parent⟩

/-- What no link leads to has the same links in two file systems, one of which has come from the
other, a tree, without new links. -/
theorem Surveyed.linkAt?_child (surveyed : Surveyed a b path) (grown : Grown a b)
    (tree : a.IsTree) (noUp : name ≠ "..") :
    a.linkAt? (path.child name) = b.linkAt? (path.child name) := by
  by_cases long : nameLimit < (Utf8.encode (path.child name).toText).length
  · rw [linkAt?_of_long long, linkAt?_of_long long]
  have start : b.startOf path = a.startOf path := by
    rw [startOf, startOf, grown.start.workingDirectory]
  have gone : b.goneOf path = a.goneOf path := by rw [goneOf, goneOf, grown.start.gone]
  refine Option.ext fun target => ?_
  rw [surveyed.before.linkAt?_child_iff long, surveyed.after.linkAt?_child_iff long, start, gone]
  exact exists_congr fun place => advance_link_iff grown tree (surveyed.first.child noUp)

theorem Surveyed.child (surveyed : Surveyed a b path) (grown : Grown a b) (tree : a.IsTree)
    (noUp : name ≠ "..") (free : a.linkAt? (path.child name) = none) :
    Surveyed a b (path.child name) :=
  ⟨surveyed.first.child noUp, surveyed.before.child free,
    surveyed.after.child (surveyed.linkAt?_child grown tree noUp ▸ free)⟩

end Files

end AppletPage
