import Libreboot.Coreboot.Branches

/-!
# The sources of the revisions

The loop of `helpers/download/coreboot`. One clone of coreboot, with vboot in it, is copied once for
each revision, and both are reset in the copy. The first board of a revision does this, so that its vboot
revision is the one that all boards of the revision get. Nothing checks that they agree.

* `download_eq_ok` — the copies
* `download_agrees` — when every board gets what its configuration says
-/

namespace Libreboot.Coreboot

open Infra Script

/-- What has been downloaded. -/
structure Clone where
  head : Part → String
  /-- The commits that `git reset --hard` finds. -/
  knows : Part → String → Bool

/-- The commits of a copy. -/
abbrev Checkout := Part → String

/-- `coreboot/${cbrevision}/${cbrevision}/` -/
abbrev Directories := String → Option Checkout

section Script

variable (clone : Clone)

/-- `git reset --hard` -/
def reset (part : Part) (revision : String) : Command (Option Checkout)
  | none => .error none
  | some checkout =>
    if clone.knows part revision then .ok (some (Function.update checkout part revision))
    else .error (some checkout)

def makeCorebootSrcDirectory (cbrevision vbootrevision : String) : Command (Option Checkout) :=
  both (fun _ => .ok (some clone.head)) <|
  both (reset clone .coreboot cbrevision) <|
  if vbootrevision ≠ "no_vboot_revision" then reset clone .vboot vbootrevision else .ok

/-- The old version has been removed, and coreboot has been cloned. -/
def download (boardconfigs : List BoardConfig) : Except Directories Directories :=
  forEach (withRevisions fun board => onEntry board.cbrevision
    (ifAbsent (makeCorebootSrcDirectory clone board.cbrevision board.vbootrevision))) boardconfigs
    fun _ => none

end Script

/-! ## What the boards ask for -/

section Boards

variable (clone : Clone)

/-- The commits that the configuration of a board names. -/
def Board.checkout (board : Board) : Checkout
  | .coreboot => board.cbrevision
  | .vboot => if board.vbootrevision ≠ "no_vboot_revision" then board.vbootrevision
    else clone.head .vboot

/-- They can be found. -/
def Board.Known (board : Board) : Prop :=
  clone.knows .coreboot board.cbrevision = true
    ∧ (board.vbootrevision ≠ "no_vboot_revision" → clone.knows .vboot board.vbootrevision = true)

/-- All boards of a revision of coreboot name the same revision of vboot. -/
def Agree (boards : List Board) : Prop :=
  ∀ board ∈ boards, ∀ board' ∈ boards, board.cbrevision = board'.cbrevision →
    board.checkout clone = board'.checkout clone

variable {clone} {boardconfigs : List BoardConfig} {boards : List Board}
  {directories : Directories}

theorem reset_eq_ok {part : Part} {revision : String} {checkout : Checkout} {v : Option Checkout} :
    reset clone part revision (some checkout) = .ok v ↔
      clone.knows part revision = true ∧ v = some (Function.update checkout part revision) := by
  unfold reset
  cases clone.knows part revision <;> simp [eq_comm]

theorem makeCorebootSrcDirectory_eq_ok (board : Board) (v : Option Checkout) :
    makeCorebootSrcDirectory clone board.cbrevision board.vbootrevision none = .ok v ↔
      board.Known clone ∧ v = some (board.checkout clone) := by
  have hcopy : makeCorebootSrcDirectory clone board.cbrevision board.vbootrevision none = .ok v ↔
      clone.knows .coreboot board.cbrevision = true
        ∧ (if board.vbootrevision ≠ "no_vboot_revision" then reset clone .vboot board.vbootrevision
          else .ok) (some (Function.update clone.head .coreboot board.cbrevision)) = .ok v := by
    unfold makeCorebootSrcDirectory
    rw [both_eq_ok]
    simp only [Except.ok.injEq, exists_eq_left', both_eq_ok, reset_eq_ok, and_assoc,
      exists_and_left, exists_eq_left]
  rw [hcopy, Board.Known, and_assoc]
  refine and_congr_right fun _ => ?_
  by_cases hvboot : board.vbootrevision ≠ "no_vboot_revision"
  · have hboth : Function.update (Function.update clone.head .coreboot board.cbrevision) .vboot
        board.vbootrevision = board.checkout clone := by
      funext part
      cases part <;> simp [Board.checkout, hvboot]
    rw [if_pos hvboot, reset_eq_ok, hboth]
    exact and_congr_left fun _ => ⟨fun h _ => h, fun h => h hvboot⟩
  · have hone : Function.update clone.head .coreboot board.cbrevision = board.checkout clone := by
      funext part
      cases part <;> simp [Board.checkout, hvboot]
    rw [if_neg hvboot, hone]
    exact ⟨fun h => ⟨fun hne => absurd hne hvboot, (Except.ok.inj h).symm⟩, fun h => by rw [h.2]⟩

/-- **The first board of each revision** says what is in its copy. -/
theorem download_eq_ok :
    download clone boardconfigs = .ok directories ↔
      ∃ boards, Reads boardconfigs boards
        ∧ (∀ revision board, boards.find? (fun board => board.cbrevision = revision) = some board →
          board.Known clone)
        ∧ ∀ revision, directories revision =
          (boards.find? fun board => board.cbrevision = revision).map (Board.checkout clone) := by
  unfold download
  rw [forEach_withRevisions_eq_ok]
  refine exists_congr fun boards => and_congr_right fun _ => ?_
  rw [forEach_ifAbsent_eq_ok makeCorebootSrcDirectory_eq_ok]
  simp only [Option.none_or, forall_const]

theorem first_of_revision {revision : String} {first : Board}
    (h : boards.find? (fun board => board.cbrevision = revision) = some first) :
    first ∈ boards ∧ first.cbrevision = revision :=
  ⟨List.mem_of_find?_eq_some h, by simpa using List.find?_some h⟩

/--
**Every board gets its own commits** exactly if the boards of a revision agree. There is a copy for each
of their revisions, and no other one.
-/
theorem download_agrees (hrun : download clone boardconfigs = .ok directories) :
    ∃ boards, Reads boardconfigs boards
      ∧ (∀ revision, directories revision ≠ none ↔ ∃ board ∈ boards, board.cbrevision = revision)
      ∧ ((∀ board ∈ boards, directories board.cbrevision = some (board.checkout clone)) ↔
        Agree clone boards) := by
  obtain ⟨boards, hreads, -, hcopies⟩ := download_eq_ok.mp hrun
  have hfirst : ∀ board ∈ boards, ∃ first ∈ boards, first.cbrevision = board.cbrevision
      ∧ directories board.cbrevision = some (first.checkout clone) := by
    intro board hboard
    cases hfind : boards.find? (fun other => other.cbrevision = board.cbrevision) with
    | none =>
      have hnone := List.find?_eq_none.mp hfind board hboard
      simp at hnone
    | some first =>
      obtain ⟨hmem, hrevision⟩ := first_of_revision hfind
      refine ⟨first, hmem, hrevision, ?_⟩
      rw [hcopies, hfind, Option.map_some]
  refine ⟨boards, hreads, fun revision => ⟨fun hne => ?_, ?_⟩, fun hall => ?_, fun hagree => ?_⟩
  · rw [hcopies] at hne
    obtain ⟨_, hsome⟩ := Option.ne_none_iff_exists'.mp hne
    obtain ⟨first, hfind, -⟩ := Option.map_eq_some_iff.mp hsome
    exact ⟨first, first_of_revision hfind⟩
  · rintro ⟨board, hboard, rfl⟩
    obtain ⟨first, -, -, hcopy⟩ := hfirst board hboard
    rw [hcopy]
    exact Option.some_ne_none _
  · intro board hboard board' hboard' hrevision
    have hsame := hall board hboard
    rw [hrevision, hall board' hboard'] at hsame
    exact (Option.some.inj hsame).symm
  · intro board hboard
    obtain ⟨first, hmem, hrevision, hcopy⟩ := hfirst board hboard
    rw [hcopy, hagree first hmem board hboard hrevision]

/-- `resources/libreboot/config/` -/
def configuredBoards : List Board :=
  ⟨"depthcharge", "veyron_speedy", "33fb4cf0ffb01be8bcb6b488872c87eb50e7d77f",
    "fbf631c845c08299f0bcbae3f311c5807d34c0d6"⟩
  :: ["d510mo", "ga-g41m-es2l", "macbook21", "qemu_i440fx_piix4", "qemu_q35_ich9", "r400_4mb",
      "r400_8mb", "t400_4mb", "t400_8mb", "t500_4mb", "t500_8mb", "t60", "x200_4mb", "x200_8mb",
      "x60"].map (fun boardname => ⟨"grub", boardname, "2a3434757ef425dbdfedf1fc69e1a033a6e7310d",
        "d187cd3fc792f8bcefbee4587c83eafbd08441fc"⟩)
  ++ ["kcma-d8", "kfsn4-dre", "kgpe-d16"].map (fun boardname =>
      ⟨"seabios", boardname, "15fca66bf08db45937ce88b950491963654805b9",
        "d187cd3fc792f8bcefbee4587c83eafbd08441fc"⟩)

/-- The boards of libreboot agree. -/
theorem agree_configuredBoards (clone : Clone) : Agree clone configuredBoards := by
  have hall : ∀ board ∈ configuredBoards, ∀ board' ∈ configuredBoards,
      board.cbrevision = board'.cbrevision → board.vbootrevision = board'.vbootrevision := by
    decide +kernel
  intro board hboard board' hboard' hrevision
  funext part
  cases part with
  | coreboot => exact hrevision
  | vboot => simp only [Board.checkout, hall board hboard board' hboard' hrevision]

theorem download_agrees_configured : ∃ directories,
    download ⟨fun _ => "master", fun _ _ => true⟩ (configuredBoards.map Board.config)
        = .ok directories
      ∧ ∀ board ∈ configuredBoards, directories board.cbrevision
        = some (board.checkout ⟨fun _ => "master", fun _ _ => true⟩) := by
  have hreads := reads_config configuredBoards
  obtain ⟨directories, hrun⟩ : ∃ directories, download ⟨fun _ => "master", fun _ _ => true⟩
      (configuredBoards.map Board.config) = .ok directories :=
    ⟨_, download_eq_ok.mpr ⟨_, hreads, fun _ _ _ => ⟨rfl, fun _ => rfl⟩, fun _ => rfl⟩⟩
  obtain ⟨boards, hreads', -, hagrees⟩ := download_agrees hrun
  obtain rfl := hreads.unique hreads'
  exact ⟨directories, hrun, hagrees.mpr (agree_configuredBoards _)⟩

end Boards

end Libreboot.Coreboot
