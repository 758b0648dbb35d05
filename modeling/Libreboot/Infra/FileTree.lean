import Libreboot.Infra.Shell

/-!
# Files in directories

A path is walked component by component, and all but the last one have to be directories. `rm -f`
removes the file that a path leads to. It does not mind a path that leads nowhere, and fails for a
directory. Directories are never removed, so every path leads to the same place for the whole run,
and the files that are left do not depend on the order.

* `removeAll_eq_some_iff` — what is left after several paths
* `prefix_of_locate` — a path without `..` stays below where it begins
-/

namespace Libreboot.Infra

/-- A place in the file system, as its components from the root. -/
abbrev Path := List Text

/-- The directories, and the one that paths begin in. There are no symbolic links. -/
structure Directories where
  dirs : List Path
  cwd : Path
  cwd_mem : cwd ∈ dirs
  parent_mem : ∀ d ∈ dirs, d.dropLast ∈ dirs

namespace Directories

def components (path : Text) : List Text := path.splitOn '/'

/-- What a component leads to. -/
def enter (d : Path) (name : Text) : Path :=
  if name = [] ∨ name = ".".toList then d
  else if name = "..".toList then d.dropLast
  else d ++ [name]

variable (tree : Directories)

/-- The directory that the components lead to. -/
def walk : Path → List Text → Option Path
  | d, [] => some d
  | d, name :: names => if enter d name ∈ tree.dirs then walk (enter d name) names else none

/-- The place that a path leads to, if all but its last component are directories. -/
def locate (path : Text) : Option Path :=
  (tree.walk tree.cwd (components path).dropLast).map
    (enter · ((components path).getLast (List.splitOn_ne_nil _ _)))

/-- `rm -f` -/
def remove (files : List Path) (path : Text) : Option (List Path) :=
  match tree.locate path with
  | none => some files
  | some place => if place ∈ tree.dirs then none else some (files.filter (· ≠ place))

def removeAll (paths : List Text) (files : List Path) : Option (List Path) :=
  paths.foldlM tree.remove files

variable {tree}

/-! ## Removing files -/

/-- What one path does. -/
theorem remove_eq_some_iff {files final : List Path} {path : Text} :
    tree.remove files path = some final ↔
      (∀ place, tree.locate path = some place → place ∉ tree.dirs) ∧
      final = files.filter (fun f => tree.locate path ≠ some f) := by
  unfold remove
  cases hlocate : tree.locate path with
  | none => simp [eq_comm]
  | some place =>
    have hfilter : files.filter (fun f => some place ≠ some f) = files.filter (· ≠ place) := by
      refine List.filter_congr fun f _ => ?_
      simp [eq_comm]
    rw [hfilter]
    by_cases hdir : place ∈ tree.dirs
    · simp [hdir]
    · simp [hdir, eq_comm]

/-- **The files that are left are those that no path leads to.** -/
theorem removeAll_eq_some_iff {paths : List Text} {files final : List Path} :
    tree.removeAll paths files = some final ↔
      (∀ path ∈ paths, ∀ place, tree.locate path = some place → place ∉ tree.dirs) ∧
      final = files.filter (fun f => ∀ path ∈ paths, tree.locate path ≠ some f) := by
  induction paths generalizing files with
  | nil => simp [removeAll, eq_comm]
  | cons path paths ih =>
    have hfilter : (files.filter fun f => tree.locate path ≠ some f).filter
        (fun f => ∀ q ∈ paths, tree.locate q ≠ some f)
        = files.filter fun f => ∀ q ∈ path :: paths, tree.locate q ≠ some f := by
      rw [List.filter_filter]
      refine List.filter_congr fun f _ => ?_
      simp [Bool.and_comm]
    rw [removeAll, List.foldlM_cons, Option.bind_eq_bind, Option.bind_eq_some_iff]
    constructor
    · rintro ⟨mid, hmid, hrest⟩
      obtain ⟨hplace, rfl⟩ := remove_eq_some_iff.mp hmid
      obtain ⟨hplaces, hfinal⟩ := ih.mp hrest
      rw [hfilter] at hfinal
      refine ⟨fun q hq => ?_, hfinal⟩
      rcases List.mem_cons.mp hq with rfl | hq
      · exact hplace
      · exact hplaces q hq
    · rintro ⟨hplaces, hfinal⟩
      refine ⟨_, remove_eq_some_iff.mpr ⟨hplaces path List.mem_cons_self, rfl⟩, ?_⟩
      refine ih.mpr ⟨fun q hq => hplaces q (List.mem_cons_of_mem _ hq), ?_⟩
      rw [hfilter]
      exact hfinal

theorem removeAll_append (ps qs : List Text) (files : List Path) :
    tree.removeAll (ps ++ qs) files = (tree.removeAll ps files).bind (tree.removeAll qs) :=
  List.foldlM_append

/-! ## Paths without `..` -/

theorem walk_append (d : Path) (as bs : List Text) :
    tree.walk d (as ++ bs) = (tree.walk d as).bind fun e => tree.walk e bs := by
  induction as generalizing d with
  | nil => rfl
  | cons a as ih =>
    simp only [List.cons_append, walk]
    split
    · exact ih _
    · rfl

/-- A component other than `..` does not lead upwards. -/
theorem prefix_enter (d : Path) {name : Text} (h : name ≠ "..".toList) : d <+: enter d name := by
  unfold enter
  rw [if_neg h]
  split
  · exact List.prefix_refl d
  · exact List.prefix_append d [name]

theorem prefix_of_walk {d e : Path} {names : List Text} (h : ∀ name ∈ names, name ≠ "..".toList)
    (hwalk : tree.walk d names = some e) : d <+: e := by
  induction names generalizing d with
  | nil =>
    cases hwalk
    exact List.prefix_refl _
  | cons name names ih =>
    simp only [walk] at hwalk
    split at hwalk
    · exact (prefix_enter d (h name List.mem_cons_self)).trans
        (ih (fun n hn => h n (List.mem_cons_of_mem _ hn)) hwalk)
    · cases hwalk

/-- The directory that a path leads to. -/
def directory (tree : Directories) (path : Text) : Option Path :=
  tree.walk tree.cwd (components path)

theorem mem_dirs_of_walk {d e : Path} {names : List Text} (hd : d ∈ tree.dirs)
    (hwalk : tree.walk d names = some e) : e ∈ tree.dirs := by
  induction names generalizing d with
  | nil =>
    cases hwalk
    exact hd
  | cons name names ih =>
    simp only [walk] at hwalk
    split at hwalk
    · next hmem => exact ih hmem hwalk
    · cases hwalk

/-- A path that ends with a slash leads to a directory. -/
theorem mem_dirs_of_locate_slash {root : Text} {place : Path}
    (hlocate : tree.locate (root ++ ['/']) = some place) : place ∈ tree.dirs := by
  have hsplit : components (root ++ ['/']) = components root ++ [[]] :=
    List.splitOn_append_cons_self root []
  obtain ⟨e, hwalk, rfl⟩ := Option.map_eq_some_iff.mp hlocate
  simp only [hsplit, List.dropLast_concat, List.getLast_concat] at hwalk ⊢
  rw [enter, if_pos (Or.inl rfl)]
  exact mem_dirs_of_walk tree.cwd_mem hwalk

/-- **What is below a directory is found below it.** -/
theorem prefix_of_locate {root path : Text} {place : Path}
    (h : ∀ name ∈ components path, name ≠ "..".toList)
    (hlocate : tree.locate (root ++ '/' :: path) = some place) :
    ∃ d, tree.directory root = some d ∧ d <+: place := by
  have hsplit : components (root ++ '/' :: path) = components root ++ components path :=
    List.splitOn_append_cons_self root path
  have hne : components path ≠ [] := List.splitOn_ne_nil _ _
  obtain ⟨e, hwalk, rfl⟩ := Option.map_eq_some_iff.mp hlocate
  simp only [hsplit, List.dropLast_append_of_ne_nil hne, List.getLast_append_of_ne_nil _ hne]
    at hwalk ⊢
  rw [walk_append, Option.bind_eq_some_iff] at hwalk
  obtain ⟨d, hroot, hbelow⟩ := hwalk
  have hdown : d <+: e := prefix_of_walk (fun n hn => h n (List.dropLast_subset _ hn)) hbelow
  exact ⟨d, hroot, hdown.trans (prefix_enter e (h _ (List.getLast_mem hne)))⟩

end Directories

end Libreboot.Infra
