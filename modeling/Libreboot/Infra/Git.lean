import Libreboot.Infra.Script

/-!
# Branches and patches

A git repository as scripts use it. A branch is a series of patches on top of the first commit, and
whether a patch applies depends on the series below it. Which names git takes for a branch is an
argument: it refuses `a..b`, `x.lock` and many others.

* `Appends` — commands that put a series on top of the branch that is checked out
* `makeBranch_eq_ok` — a branch with its patches
-/

namespace Libreboot.Infra

open Script

structure Repository (P : Type) where
  branches : String → Option (List P)
  head : String

namespace Repository

variable {P : Type}

def master : String := "master"

/-- `git init`, `git add -A .` and `git commit`, in a directory that is no repository. -/
def init : Repository P where
  branches := Function.update (fun _ => none) master (some [])
  head := master

/-- A branch of this name, instead of an old one. -/
def withBranch (name : String) (series : List P) (repo : Repository P) : Repository P :=
  { repo with branches := Function.update repo.branches name (some series) }

@[simp] theorem withBranch_head (name : String) (series : List P) (repo : Repository P) :
    (repo.withBranch name series).head = repo.head := rfl

@[simp] theorem withBranch_self (name : String) (series : List P) (repo : Repository P) :
    (repo.withBranch name series).branches name = some series := Function.update_self _ _ _

theorem withBranch_of_ne {name other : String} (hne : other ≠ name) (series : List P)
    (repo : Repository P) : (repo.withBranch name series).branches other = repo.branches other :=
  Function.update_of_ne hne _ _

@[simp] theorem withBranch_withBranch (name : String) (series series' : List P)
    (repo : Repository P) :
    (repo.withBranch name series).withBranch name series' = repo.withBranch name series' := by
  unfold withBranch
  rw [Function.update_idem]

/-! ## The commands -/

/-- `git branch name` -/
def branch (takes : String → Bool) (name : String) : Command (Repository P) := fun repo =>
  match repo.branches repo.head, repo.branches name with
  | some series, none => if takes name then .ok (repo.withBranch name series) else .error repo
  | _, _ => .error repo

/-- `git checkout name` -/
def checkout (name : String) : Command (Repository P) := fun repo =>
  if (repo.branches name).isSome then .ok { repo with head := name } else .error repo

theorem checkout_eq_ok {name : String} {repo repo' : Repository P} :
    checkout name repo = .ok repo' ↔
      (∃ series, repo.branches name = some series) ∧ repo' = { repo with head := name } := by
  unfold checkout
  cases repo.branches name with
  | none => simp
  | some series => simp [eq_comm]

section Am

variable (applies : List P → P → Bool)

/-- `git am patch` -/
def am (patch : P) : Command (Repository P) := fun repo =>
  match repo.branches repo.head with
  | none => .error repo
  | some series =>
    if applies series patch then .ok (repo.withBranch repo.head (series ++ [patch]))
    else .error repo

/-- All patches of a series apply, one after the other. -/
def Applies (series : List P) : List P → Prop
  | [] => True
  | patch :: patches => applies series patch = true ∧ Applies (series ++ [patch]) patches

/-- The branch that is checked out gets a series on top, or the script ends. -/
def Appends (patches : List P) (command : Command (Repository P)) : Prop :=
  ∀ repo repo' series, repo.branches repo.head = some series →
    (command repo = .ok repo' ↔
      Applies applies series patches ∧ repo' = repo.withBranch repo.head (series ++ patches))

variable {applies} {patches patches' : List P}

theorem applies_append : ∀ {patches series : List P},
    Applies applies series (patches ++ patches') ↔
      Applies applies series patches ∧ Applies applies (series ++ patches) patches'
  | [], series => by
    rw [List.nil_append, List.append_nil]
    exact (and_iff_right trivial).symm
  | patch :: patches, series => by
    show (_ ∧ Applies applies _ (patches ++ patches')) ↔ (_ ∧ Applies applies _ patches) ∧ _
    rw [applies_append, List.append_assoc, List.singleton_append, and_assoc]

theorem appends_ok : Appends applies [] (.ok : Command (Repository P)) := by
  intro repo repo' series hseries
  have hsame : repo.withBranch repo.head (series ++ []) = repo := by
    rw [List.append_nil, withBranch, ← hseries, Function.update_eq_self]
  rw [hsame]
  exact ⟨fun h => ⟨trivial, (Except.ok.inj h).symm⟩, fun h => by rw [h.2]⟩

theorem appends_am (patch : P) : Appends applies [patch] (am applies patch) := by
  intro repo repo' series hseries
  unfold am
  rw [hseries]
  by_cases h : applies series patch = true
  · simp [Applies, h, eq_comm]
  · simp [Applies, h]

/-- **One series after the other.** -/
theorem Appends.both {first second : Command (Repository P)} (hfirst : Appends applies patches first)
    (hsecond : Appends applies patches' second) :
    Appends applies (patches ++ patches') (both first second) := by
  intro repo repo' series hseries
  have hrest := hsecond (repo.withBranch repo.head (series ++ patches)) repo' (series ++ patches)
    (withBranch_self _ _ _)
  rw [withBranch_head, withBranch_withBranch, List.append_assoc] at hrest
  rw [both_eq_ok, applies_append, and_assoc]
  constructor
  · rintro ⟨mid, hrun, hsecond⟩
    obtain ⟨happlies, rfl⟩ := (hfirst repo mid series hseries).mp hrun
    exact ⟨happlies, hrest.mp hsecond⟩
  · rintro ⟨happlies, hsecond⟩
    exact ⟨_, (hfirst repo _ series hseries).mpr ⟨happlies, rfl⟩, hrest.mpr hsecond⟩

/-- A loop whose rounds append a series each. -/
theorem appends_forEach {α : Type} {body : α → Command (Repository P)} {series : α → List P}
    {xs : List α} (h : ∀ x ∈ xs, Appends applies (series x) (body x)) :
    Appends applies (xs.flatMap series) (forEach body xs) := by
  induction xs with
  | nil => exact appends_ok
  | cons x xs ih =>
    rw [List.flatMap_cons]
    exact (h x List.mem_cons_self).both (ih fun y hy => h y (List.mem_cons_of_mem _ hy))

end Am

/-! ## A branch with its patches -/

/-- The first commit is checked out, and nothing has been put on top of it. -/
structure OnMaster (repo : Repository P) : Prop where
  head : repo.head = master
  pristine : repo.branches master = some []

theorem onMaster_init : OnMaster (init : Repository P) :=
  ⟨rfl, by simp [init]⟩

/-- Make a branch, put patches on it, and go back. -/
def makeBranch (takes : String → Bool) (name : String) (apply : Command (Repository P)) :
    Command (Repository P) :=
  both (branch takes name) <|
  both (checkout name) <|
  both (checkout master) <|
  both (checkout name) <|
  both apply <|
  checkout master

variable {takes : String → Bool} {applies : List P → P → Bool} {patches : List P}
  {apply : Command (Repository P)} {name : String} {repo repo' : Repository P}

/-- The patches have been put on the branch if the script goes on. -/
theorem apply_of_makeBranch (h : makeBranch takes name apply repo = .ok repo') :
    ∃ u v, apply u = .ok v := by
  unfold makeBranch at h
  simp only [both_eq_ok] at h
  obtain ⟨_, -, _, -, _, -, onBranch, -, patched, happly, -⟩ := h
  exact ⟨onBranch, patched, happly⟩

theorem OnMaster.withBranch (h : OnMaster repo) (hname : name ≠ master) (series : List P) :
    OnMaster (repo.withBranch name series) :=
  ⟨h.head, by rw [withBranch_of_ne hname.symm, h.pristine]⟩

theorem branch_eq_ok (h : OnMaster repo) :
    branch takes name repo = .ok repo' ↔
      takes name = true ∧ repo.branches name = none ∧ repo' = repo.withBranch name [] := by
  unfold branch
  rw [h.head, h.pristine]
  cases repo.branches name with
  | none => cases takes name <;> simp [eq_comm]
  | some series => simp

/-- **A branch with its patches.** It is made if git takes the name, there is no branch of this name and
the patches apply. -/
theorem makeBranch_eq_ok (h : OnMaster repo) (happly : Appends applies patches apply) :
    makeBranch takes name apply repo = .ok repo' ↔
      takes name = true ∧ repo.branches name = none ∧ Applies applies [] patches
        ∧ repo' = repo.withBranch name patches := by
  have happly := fun made => happly { repo.withBranch name [] with head := name } made []
    (withBranch_self _ _ _)
  -- the branch as it is left
  have hback : ({ ({ repo.withBranch name [] with head := name } : Repository P).withBranch name
      ([] ++ patches) with head := master } : Repository P) = repo.withBranch name patches := by
    rw [List.nil_append, ← h.head]
    exact withBranch_withBranch name [] patches repo
  unfold makeBranch
  simp only [both_eq_ok, branch_eq_ok h, checkout_eq_ok]
  constructor
  · rintro ⟨_, ⟨htakes, hnone, rfl⟩, _, ⟨-, rfl⟩, _, ⟨-, rfl⟩, _, ⟨-, rfl⟩, made, hmade, -, rfl⟩
    obtain ⟨happlies, rfl⟩ := (happly made).mp hmade
    exact ⟨htakes, hnone, happlies, hback⟩
  · rintro ⟨htakes, hnone, happlies, rfl⟩
    have hne : master ≠ name := by
      rintro rfl
      rw [h.pristine] at hnone
      cases hnone
    have hpristine : ∀ series,
        (repo.withBranch name series).branches master = some [] := fun series => by
      rw [withBranch_of_ne hne, h.pristine]
    refine ⟨_, ⟨htakes, hnone, rfl⟩, _, ⟨⟨[], withBranch_self _ _ _⟩, rfl⟩, _,
      ⟨⟨[], hpristine []⟩, rfl⟩, _, ⟨⟨[], withBranch_self _ _ _⟩, rfl⟩, _,
      (happly _).mpr ⟨happlies, rfl⟩, ⟨[], ?_⟩, hback.symm⟩
    rw [withBranch_of_ne hne]
    exact hpristine []

end Repository

end Libreboot.Infra
