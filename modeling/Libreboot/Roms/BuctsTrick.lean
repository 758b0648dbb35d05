import Libreboot.Infra.Dd
import Libreboot.Infra.Script
import Libreboot.Infra.Stdio
import Libreboot.Infra.TopSwap

/-!
# The dd of the bucts trick

The loop of `helpers/build/roms/withgrub` over the i945 boards. In every image the last 64 KiB are
copied over the 64 KiB below, by way of the file `top64k.bin`.

The order of the names that `*` stands for is an argument (`Shell`). In an empty directory it stands for
itself, and a `top64k.bin` that an interrupted run has left is one of the names. Sizes are those of
files, far below what the arithmetic of the shell can hold, and no name begins with a dash, which
`stat` would take for an option.

* `round_onEntries` — what a round does to an image
* `copyTop64k_top64k` — a round for `top64k.bin` ends the script
* `buctsTrick_eq_ok_iff`, `buctsTrick_error` — when the loop over a directory gets through, and what
  is left if it does not
* `i945_eq_ok` — all boards
-/

namespace Libreboot.Roms

open Infra Script

/-- 64 KiB -/
def blockSize : Nat := 0x10000

def top64k : String := "top64k.bin"

/-! ## Names -/

/-- A name without a dot at the beginning. -/
def Visible (name : String) : Prop := name.toList.head? ≠ some '.'

instance (name : String) : Decidable (Visible name) :=
  inferInstanceAs (Decidable (name.toList.head? ≠ some '.'))

/-- A directory with finitely many files. -/
def FiniteFiles (dir : Files) : Prop := ∃ names : List String, ∀ name, dir name ≠ none → name ∈ names

/-- The names that `*` stands for, in the order of the shell. -/
structure Shell where
  star : Files → List String
  star_none : ∀ dir, (∀ name, Visible name → dir name = none) → star dir = ["*"]
  mem_star : ∀ dir, FiniteFiles dir → ∀ rom, Visible rom → dir rom ≠ none →
    ∀ name, name ∈ star dir ↔ Visible name ∧ dir name ≠ none

/-! ## The loop -/

/-- `$(stat -c %s …)`. If the file is missing, nothing is printed, and the shell reads that as 0. -/
def stat (file : Option Bytes) : Int := (file.map List.length).getD 0

/-- `dd if="${i945rom}" of=top64k.bin bs=1 skip=$[$(stat -c %s "${i945rom}") - 0x10000] count=64k` -/
def takeTop64k (i945rom : String) : Command Files := fun files =>
  match Dd.operand (stat (files i945rom) - 0x10000), files i945rom with
  | some skip, some image =>
    -- the output is emptied before anything is read
    let input := if i945rom = top64k then [] else image
    .ok (Function.update files top64k (some (Dd.read 1 skip 0x10000 input)))
  | _, _ => .error files

/--
`dd if=top64k.bin of="${i945rom}" bs=1 seek=$[$(stat -c %s "${i945rom}") - 0x20000] count=64k
conv=notrunc`
-/
def putTop64k (i945rom : String) : Command Files := fun files =>
  match Dd.operand (stat (files i945rom) - 0x20000), files top64k with
  | some seek, some copy =>
    .ok (Function.update files i945rom
      (some (Dd.write seek (Dd.read 1 0 0x10000 copy) ((files i945rom).getD []))))
  | _, _ => .error files

/-- `rm -f top64k.bin` -/
def removeTop64k : Command Files := fun files => .ok (Function.update files top64k none)

/-- The body of the loop over the images of a board. -/
def copyTop64k (i945rom : String) : Command Files :=
  both (both (takeTop64k i945rom) (putTop64k i945rom)) removeTop64k

/-- `for i945rom in *` -/
def buctsTrick (roms : List String) : Command Files := forEach copyTop64k roms

/-- The directories of `bin/grub`. -/
abbrev Bin := String → Option Files

def i945Boards : List String := ["x60", "t60"]

/-- `for i945board in "x60" "t60"` -/
def i945 (shell : Shell) : Command Bin :=
  forEach (fun i945board =>
    onEntry i945board (ifPresent fun dir => buctsTrick (shell.star dir) dir)) i945Boards

/-! ## One image -/

/-- What a round makes of an image. It ends the script if the image has less than two blocks. -/
def mirrorImage : Command (Option Bytes)
  | none => .error none
  | some image =>
    if 2 * blockSize ≤ image.length then .ok (some (TopSwap.mirror blockSize image))
    else .error (some image)

section Image

variable {image : Bytes}

/-- The copied block is put over the one below. -/
theorem write_top64k (h : 2 * blockSize ≤ image.length) :
    Dd.write (image.length - 0x20000)
        (Dd.read 1 0 0x10000 (Dd.read 1 (image.length - 0x10000) 0x10000 image)) image
      = TopSwap.mirror blockSize image := by
  have htop : Dd.read 1 0 0x10000 (Dd.read 1 (image.length - 0x10000) 0x10000 image)
      = TopSwap.top blockSize image := by
    have hlen : (image.drop (image.length - 0x10000)).length ≤ 0x10000 * 1 := by
      rw [List.length_drop]
      omega
    simp only [Dd.read, Nat.mul_one, List.drop_zero] at hlen ⊢
    rw [List.take_of_length_le hlen, List.take_of_length_le hlen, TopSwap.top, blockSize]
  have hlength : (TopSwap.top blockSize image).length = 0x10000 := TopSwap.length_top h
  have hsize : 0x20000 ≤ image.length := h
  rw [htop, Dd.write_eq_splice (by rw [hlength]; omega)]
  have hstop : image.length - 0x20000 + (TopSwap.top blockSize image).length
      = image.length - 0x10000 := by
    rw [hlength]
    omega
  have htwo : 2 * blockSize = 0x20000 := rfl
  have hbehind : image.drop (image.length - 0x10000) = TopSwap.top blockSize image := by
    rw [TopSwap.top, blockSize]
  rw [Patch.splice, Patch.stop, hstop, hbehind, TopSwap.mirror, TopSwap.rest, htwo]

theorem mirrorImage_eq_ok_iff {file : Option Bytes} {v : Option Bytes} :
    mirrorImage file = .ok v ↔ ∃ image, file = some image ∧ 2 * blockSize ≤ image.length
      ∧ v = some (TopSwap.mirror blockSize image) := by
  cases file with
  | none => simp [mirrorImage]
  | some image =>
    by_cases h : 2 * blockSize ≤ image.length
    · simp [mirrorImage, h, eq_comm]
    · simp [mirrorImage, h]

/-- A second round changes nothing. -/
theorem mirrorImage_again {u v : Option Bytes} (h : mirrorImage u = .ok v) :
    mirrorImage v = .ok v := by
  obtain ⟨image, -, hlen, rfl⟩ := mirrorImage_eq_ok_iff.mp h
  refine mirrorImage_eq_ok_iff.mpr ⟨_, rfl, ?_, ?_⟩
  · rw [TopSwap.length_mirror hlen]
    exact hlen
  · rw [TopSwap.mirror_mirror hlen]

end Image

/-! ## One round -/

/-- The only file that a round uses besides the image. -/
def isTop64k (name : String) : Prop := name = top64k

section Round

variable {i945rom : String} {files : Files} {image : Bytes}

/-- An image with two blocks goes through all three commands. -/
theorem copyTop64k_of_le (hname : i945rom ≠ top64k) (hfile : files i945rom = some image)
    (h : 2 * blockSize ≤ image.length) :
    copyTop64k i945rom files
      = .ok (Function.update (Function.update
          (Function.update files top64k
            (some (Dd.read 1 (image.length - 0x10000) 0x10000 image)))
          i945rom (some (TopSwap.mirror blockSize image))) top64k none) := by
  have hsize : 0x20000 ≤ image.length := h
  have hskip : Dd.operand ((image.length : Int) - 0x10000) = some (image.length - 0x10000) := by
    rw [Dd.operand_of_nonneg (by omega),
      show ((image.length : Int) - 0x10000).toNat = image.length - 0x10000 by omega]
  have hseek : Dd.operand ((image.length : Int) - 0x20000) = some (image.length - 0x20000) := by
    rw [Dd.operand_of_nonneg (by omega),
      show ((image.length : Int) - 0x20000).toNat = image.length - 0x20000 by omega]
  have htake : takeTop64k i945rom files = .ok (Function.update files top64k
      (some (Dd.read 1 (image.length - 0x10000) 0x10000 image))) := by
    simp only [takeTop64k, stat, hfile, Option.map_some, Option.getD_some, hskip, if_neg hname]
  refine both_eq_ok.mpr ⟨_, both_eq_ok.mpr ⟨_, htake, ?_⟩, rfl⟩
  simp only [putTop64k, stat, Function.update_of_ne hname, Function.update_self, hfile,
    Option.map_some, Option.getD_some, hseek]
  rw [write_top64k h]

theorem takeTop64k_frame {i945rom : String} {files files' : Files}
    (h : takeTop64k i945rom files = .ok files') :
    ∀ name, name ≠ top64k → files' name = files name := by
  unfold takeTop64k at h
  split at h <;> cases h
  exact fun name hne => Function.update_of_ne hne _ _

theorem takeTop64k_error {i945rom : String} {files files' : Files}
    (h : takeTop64k i945rom files = .error files') : files' = files := by
  unfold takeTop64k at h
  split at h <;> cases h
  rfl

/-- If the first `dd` leaves less than two blocks to write to, the second one ends the script. -/
theorem copyTop64k_ends
    (h : ∀ mid, takeTop64k i945rom files = .ok mid → stat (mid i945rom) < 0x20000) :
    ∃ files', copyTop64k i945rom files = .error files'
      ∧ ∀ name, name ≠ top64k → files' name = files name := by
  unfold copyTop64k
  cases htake : takeTop64k i945rom files with
  | error files' =>
    obtain rfl := takeTop64k_error htake
    exact ⟨files', both_eq_error.mpr (.inl (both_eq_error.mpr (.inl htake))), fun _ _ => rfl⟩
  | ok mid =>
    have hsmall := h mid htake
    have hput : putTop64k i945rom mid = .error mid := by
      unfold putTop64k
      rw [Dd.operand_of_neg (by omega)]
    exact ⟨mid, both_eq_error.mpr (.inl (both_eq_error.mpr (.inr ⟨mid, htake, hput⟩))),
      takeTop64k_frame htake⟩

/-- A short image ends the script, and a missing one does. At most `top64k.bin` is written. -/
theorem copyTop64k_of_not (hname : i945rom ≠ top64k)
    (h : ∀ image, files i945rom = some image → ¬ 2 * blockSize ≤ image.length) :
    ∃ files', copyTop64k i945rom files = .error files'
      ∧ ∀ name, name ≠ top64k → files' name = files name := by
  refine copyTop64k_ends fun mid htake => ?_
  rw [takeTop64k_frame htake i945rom hname]
  cases hfile : files i945rom with
  | none => exact (by decide : (0 : Int) < 0x20000)
  | some image =>
    have hlt := h image hfile
    have hsize : ¬ 0x20000 ≤ image.length := hlt
    show (image.length : Int) < 0x20000
    omega

/-- **A `top64k.bin` among the images ends the script,** whatever is in it. -/
theorem copyTop64k_top64k (files : Files) :
    ∃ files', copyTop64k top64k files = .error files'
      ∧ ∀ name, name ≠ top64k → files' name = files name := by
  refine copyTop64k_ends fun mid htake => ?_
  -- the first `dd` has emptied it
  have hempty : mid top64k = some [] := by
    unfold takeTop64k at htake
    split at htake <;> cases htake
    simp [Dd.read]
  rw [hempty]
  exact (by decide : (0 : Int) < 0x20000)

end Round

/-- **A round mirrors its image** and touches no other file that stays. -/
theorem round_onEntries :
    OnEntries isTop64k (fun _ => True) (fun _ => mirrorImage) copyTop64k where
  goes_on i945rom files v hname _ hok := by
    obtain ⟨image, hfile, hlen, rfl⟩ := mirrorImage_eq_ok_iff.mp hok
    refine ⟨_, copyTop64k_of_le hname hfile hlen, trivial, ?_, fun name htop hne => ?_⟩
    · rw [Function.update_of_ne hname, Function.update_self]
    · rw [Function.update_of_ne htop, Function.update_of_ne hne, Function.update_of_ne htop]
  ends i945rom files v hname _ herror := by
    have hshort : ∀ image, files i945rom = some image → ¬ 2 * blockSize ≤ image.length := by
      intro image hfile hlen
      rw [mirrorImage_eq_ok_iff.mpr ⟨image, hfile, hlen, rfl⟩] at herror
      cases herror
    obtain ⟨files', hended, hframe⟩ := copyTop64k_of_not hname hshort
    refine ⟨files', hended, ?_, fun name htop _ => hframe name htop⟩
    rw [hframe i945rom hname]
    unfold mirrorImage at herror
    split at herror
    · next hnone => rw [hnone]; cases herror; rfl
    · next hsome =>
      split at herror <;> cases herror
      exact hsome

/-! ## The loop over a directory -/

/-- What the loop does to a directory. -/
structure Mirrors (roms : List String) (files files' : Files) : Prop where
  image : ∀ rom ∈ roms, ∃ image, files rom = some image ∧ 2 * blockSize ≤ image.length
    ∧ files' rom = some (TopSwap.mirror blockSize image)
  other : ∀ name, name ≠ top64k → name ∉ roms → files' name = files name
  no_copy : roms ≠ [] → files' top64k = none

theorem repeatable_mirrorImage (roms : List String) :
    Repeatable (fun _ => mirrorImage) roms :=
  .inr fun _ _ _ h => mirrorImage_again h

section Directory

variable {roms : List String} {files files' : Files}

/-- If the loop gets through, `top64k.bin` is not one of the names. -/
theorem top64k_not_mem (h : buctsTrick roms files = .ok files') : top64k ∉ roms := by
  intro hmem
  obtain ⟨u, v, hround⟩ := rounds_of_forEach h top64k hmem
  obtain ⟨files', herror, -⟩ := copyTop64k_top64k u
  rw [hround] at herror
  cases herror

theorem not_isTop64k (hroms : top64k ∉ roms) : ∀ rom ∈ roms, ¬ isTop64k rom :=
  fun _ hrom heq => hroms (heq ▸ hrom)

/-- **The loop goes on exactly if every name is that of an image with two blocks,** and none is
`top64k.bin`. -/
theorem buctsTrick_eq_ok_iff :
    (∃ files', buctsTrick roms files = .ok files') ↔
      top64k ∉ roms ∧ ∀ rom ∈ roms, ∃ image, files rom = some image
        ∧ 2 * blockSize ≤ image.length := by
  have hall : top64k ∉ roms → ((∃ files', buctsTrick roms files = .ok files') ↔
      ∀ rom ∈ roms, ∃ v, mirrorImage (files rom) = .ok v) := fun hroms =>
    round_onEntries.forEach_eq_ok_iff (fun ys _ => repeatable_mirrorImage ys) (not_isTop64k hroms)
      trivial
  constructor
  · rintro ⟨files', h⟩
    have hroms := top64k_not_mem h
    refine ⟨hroms, fun rom hrom => ?_⟩
    obtain ⟨v, hv⟩ := (hall hroms).mp ⟨files', h⟩ rom hrom
    obtain ⟨image, hfile, hlen, -⟩ := mirrorImage_eq_ok_iff.mp hv
    exact ⟨image, hfile, hlen⟩
  · rintro ⟨hroms, himages⟩
    refine (hall hroms).mpr fun rom hrom => ?_
    obtain ⟨image, hfile, hlen⟩ := himages rom hrom
    exact ⟨_, mirrorImage_eq_ok_iff.mpr ⟨image, hfile, hlen, rfl⟩⟩

/-- **Then it mirrors them.** -/
theorem buctsTrick_mirrors (h : buctsTrick roms files = .ok files') :
    Mirrors roms files files' := by
  have hvisible := not_isTop64k (top64k_not_mem h)
  have hall := (round_onEntries.forEach_eq_ok_iff (fun ys _ => repeatable_mirrorImage ys) hvisible
    trivial).mp ⟨files', h⟩
  obtain ⟨files'', hloop, -, hwritten, hframe⟩ :=
    round_onEntries.forEach_ok (repeatable_mirrorImage roms) hvisible trivial hall
  cases h.symm.trans hloop
  refine ⟨fun rom hrom => mirrorImage_eq_ok_iff.mp (hwritten rom hrom),
    fun name htop hmem => hframe name htop hmem, fun hne => ?_⟩
  refine forEach_last (Q := fun s => s top64k = none) hne ?_ h
  rintro rom _ s s' hround
  obtain ⟨mid, -, hremove⟩ := both_eq_ok.mp hround
  cases hremove
  exact Function.update_self _ _ _

/-- If `top64k.bin` is not one of the names, an image that is too short or missing ends the loop. -/
theorem buctsTrick_error_of_not_mem (hroms : top64k ∉ roms)
    (h : buctsTrick roms files = .error files') :
    ∃ before rom after, roms = before ++ rom :: after
      ∧ (∀ image, files rom = some image → ¬ 2 * blockSize ≤ image.length)
      ∧ (∀ r ∈ before, ∃ image, files r = some image ∧ 2 * blockSize ≤ image.length
        ∧ files' r = some (TopSwap.mirror blockSize image))
      ∧ ∀ name, name ≠ top64k → name ∉ before → files' name = files name := by
  have hvisible := not_isTop64k hroms
  rcases OnEntries.ok_or_error (fun _ => mirrorImage) roms files with
    hall | ⟨before, rom, after, v, rfl, hnot, hbefore, herror⟩
  · obtain ⟨files'', hloop, -⟩ :=
      round_onEntries.forEach_ok (repeatable_mirrorImage roms) hvisible trivial hall
    cases h.symm.trans hloop
  · obtain ⟨files'', hloop, hwritten, hself, hframe⟩ := round_onEntries.forEach_error
      (repeatable_mirrorImage before) hvisible trivial hnot hbefore herror
    cases h.symm.trans hloop
    have hshort : ∀ image, files rom = some image → ¬ 2 * blockSize ≤ image.length := by
      intro image hfile hlen
      rw [mirrorImage_eq_ok_iff.mpr ⟨image, hfile, hlen, rfl⟩] at herror
      cases herror
    refine ⟨before, rom, after, rfl, hshort,
      fun r hr => mirrorImage_eq_ok_iff.mp (hwritten r hr), fun name htop hmem => ?_⟩
    by_cases heq : name = rom
    · subst heq
      rw [hself]
      unfold mirrorImage at herror
      split at herror
      · next hnone => rw [hnone]; cases herror; rfl
      · next hsome =>
        split at herror <;> cases herror
        exact hsome.symm
    · exact hframe name htop hmem heq

/--
**Otherwise it ends at the first image that is too short or missing, or at `top64k.bin`.** The images
before are mirrored, and nothing else is written but `top64k.bin`.
-/
theorem buctsTrick_error (h : buctsTrick roms files = .error files') :
    ∃ before rom after, roms = before ++ rom :: after
      ∧ (rom = top64k ∨ ∀ image, files rom = some image → ¬ 2 * blockSize ≤ image.length)
      ∧ (∀ r ∈ before, ∃ image, files r = some image ∧ 2 * blockSize ≤ image.length
        ∧ files' r = some (TopSwap.mirror blockSize image))
      ∧ ∀ name, name ≠ top64k → name ∉ before → files' name = files name := by
  by_cases hroms : top64k ∈ roms
  · obtain ⟨front, back, rfl, hfront⟩ := List.eq_append_cons_of_mem hroms
    rw [buctsTrick, forEach_append] at h
    cases hloop : buctsTrick front files with
    | error mid =>
      rw [buctsTrick] at hloop
      rw [hloop] at h
      cases h
      obtain ⟨before, rom, after, rfl, hshort, hdone⟩ := buctsTrick_error_of_not_mem hfront hloop
      exact ⟨before, rom, after ++ top64k :: back, by simp, .inr hshort, hdone⟩
    | ok mid =>
      have hmirrors := buctsTrick_mirrors hloop
      obtain ⟨last, herror, hframe⟩ := copyTop64k_top64k mid
      rw [buctsTrick] at hloop
      rw [hloop] at h
      cases h.symm.trans (both_eq_error.mpr (.inl herror) :
        both (copyTop64k top64k) (forEach copyTop64k back) mid = .error last)
      refine ⟨front, top64k, back, rfl, .inl rfl, fun r hr => ?_, fun name htop hmem => ?_⟩
      · obtain ⟨image, hfile, hlen, hnew⟩ := hmirrors.image r hr
        exact ⟨image, hfile, hlen, (hframe r fun heq => hfront (heq ▸ hr)).trans hnew⟩
      · rw [hframe name htop, hmirrors.other name htop hmem]
  · obtain ⟨before, rom, after, heq, hshort, hdone⟩ := buctsTrick_error_of_not_mem hroms h
    exact ⟨before, rom, after, heq, .inr hshort, hdone⟩

end Directory

/-! ## A directory -/

/-- What the loop needs of a directory. -/
structure Mirrorable (files : Files) : Prop where
  image : ∃ rom, Visible rom ∧ files rom ≠ none
  no_copy : files top64k = none
  long : ∀ rom image, Visible rom → files rom = some image → 2 * blockSize ≤ image.length

/-- What becomes of a directory. -/
structure Mirrored (files files' : Files) : Prop where
  image : ∀ rom image, Visible rom → files rom = some image →
    files' rom = some (TopSwap.mirror blockSize image)
  other : ∀ name, ¬ Visible name ∨ files name = none → files' name = files name

section Star

variable {shell : Shell} {files files' : Files}

/-- **When the loop gets through a directory.** -/
theorem buctsTrick_star_eq_ok_iff (hfinite : FiniteFiles files) :
    (∃ files', buctsTrick (shell.star files) files = .ok files') ↔ Mirrorable files := by
  rw [buctsTrick_eq_ok_iff]
  constructor
  · rintro ⟨htop, himages⟩
    have hrom : ∃ rom, Visible rom ∧ files rom ≠ none := by
      -- otherwise there is a round for the pattern
      by_contra hempty
      have hnone : ∀ name, Visible name → files name = none := fun name hvisible => by
        by_contra hne
        exact hempty ⟨name, hvisible, hne⟩
      obtain ⟨image, hfile, -⟩ := himages "*" (shell.star_none files hnone ▸ List.mem_cons_self)
      rw [hnone "*" (by decide)] at hfile
      cases hfile
    obtain ⟨rom, hvisible, hne⟩ := hrom
    have hmem := shell.mem_star files hfinite rom hvisible hne
    refine ⟨⟨rom, hvisible, hne⟩, ?_, fun rom image hrom hfile => ?_⟩
    · by_contra hcopy
      exact htop ((hmem top64k).mpr ⟨by decide, hcopy⟩)
    · obtain ⟨image', hfile', hlen⟩ := himages rom ((hmem rom).mpr ⟨hrom, by simp [hfile]⟩)
      obtain rfl := Option.some.inj (hfile.symm.trans hfile')
      exact hlen
  · rintro ⟨⟨rom, hvisible, hne⟩, hcopy, hlong⟩
    have hmem := shell.mem_star files hfinite rom hvisible hne
    refine ⟨fun htop => ((hmem top64k).mp htop).2 hcopy, fun rom hrom => ?_⟩
    obtain ⟨hvisible, hsome⟩ := (hmem rom).mp hrom
    obtain ⟨image, hfile⟩ := Option.ne_none_iff_exists'.mp hsome
    exact ⟨image, hfile, hlong rom image hvisible hfile⟩

/-- **What it leaves there.** -/
theorem mirrored_of_star (hfinite : FiniteFiles files)
    (h : buctsTrick (shell.star files) files = .ok files') : Mirrored files files' := by
  have hmirrorable := (buctsTrick_star_eq_ok_iff hfinite).mp ⟨files', h⟩
  obtain ⟨rom, hvisible, hne⟩ := hmirrorable.image
  have hmem := shell.mem_star files hfinite rom hvisible hne
  have hmirrors := buctsTrick_mirrors h
  refine ⟨fun rom image hrom hfile => ?_, fun name hname => ?_⟩
  · obtain ⟨image', hfile', -, hnew⟩ := hmirrors.image rom ((hmem rom).mpr ⟨hrom, by simp [hfile]⟩)
    obtain rfl := Option.some.inj (hfile.symm.trans hfile')
    exact hnew
  · by_cases htop : name = top64k
    · rw [htop, hmirrorable.no_copy, hmirrors.no_copy (List.ne_nil_of_mem ((hmem rom).mpr
        ⟨hvisible, hne⟩))]
    · refine hmirrors.other name htop fun hstar => ?_
      obtain ⟨hvisible, hsome⟩ := (hmem name).mp hstar
      exact hname.elim (absurd hvisible) hsome

theorem Mirrored.ne_none_iff (h : Mirrored files files') (name : String) :
    files' name ≠ none ↔ files name ≠ none := by
  by_cases hname : ¬ Visible name ∨ files name = none
  · rw [h.other name hname]
  · obtain ⟨hvisible, hsome⟩ := not_or.mp hname
    obtain ⟨image, hfile⟩ := Option.ne_none_iff_exists'.mp hsome
    rw [h.image name image (not_not.mp hvisible) hfile, hfile]
    simp

/-- **A second run changes nothing.** -/
theorem Mirrored.again (hfinite : FiniteFiles files) (hmirrorable : Mirrorable files)
    (h : Mirrored files files') : buctsTrick (shell.star files') files' = .ok files' := by
  have hold : ∀ rom image, Visible rom → files' rom = some image → ∃ before,
      files rom = some before ∧ 2 * blockSize ≤ before.length
        ∧ image = TopSwap.mirror blockSize before := by
    intro rom image hvisible hfile
    obtain ⟨before, hbefore⟩ := Option.ne_none_iff_exists'.mp
      ((h.ne_none_iff rom).mp (by simp [hfile]))
    refine ⟨before, hbefore, hmirrorable.long rom before hvisible hbefore, ?_⟩
    exact Option.some.inj (hfile.symm.trans (h.image rom before hvisible hbefore))
  have hfinite' : FiniteFiles files' :=
    hfinite.imp fun names hnames name hne => hnames name ((h.ne_none_iff name).mp hne)
  have hmirrorable' : Mirrorable files' := by
    refine ⟨hmirrorable.image.imp fun rom => And.imp_right (h.ne_none_iff rom).mpr, ?_, ?_⟩
    · rw [h.other top64k (.inr hmirrorable.no_copy), hmirrorable.no_copy]
    · intro rom image hvisible hfile
      obtain ⟨before, -, hlen, hmirror⟩ := hold rom image hvisible hfile
      rw [hmirror, TopSwap.length_mirror hlen]
      exact hlen
  obtain ⟨files'', hagain⟩ := (@buctsTrick_star_eq_ok_iff shell _ hfinite').mpr hmirrorable'
  have hsecond := mirrored_of_star hfinite' hagain
  rw [hagain]
  congr 1
  funext name
  by_cases hname : ¬ Visible name ∨ files' name = none
  · exact hsecond.other name hname
  · obtain ⟨hvisible, hsome⟩ := not_or.mp hname
    obtain ⟨image, hfile⟩ := Option.ne_none_iff_exists'.mp hsome
    obtain ⟨before, -, hlen, hmirror⟩ := hold name image (not_not.mp hvisible) hfile
    rw [hsecond.image name image (not_not.mp hvisible) hfile, hfile, hmirror,
      TopSwap.mirror_mirror hlen]

end Star

/-! ## All boards -/

theorem nodup_i945Boards : (i945Boards.map id).Nodup := by decide

section Boards

variable {shell : Shell} {bin bin' : Bin}

/-- What becomes of the directories. -/
theorem i945_directories (h : i945 shell bin = .ok bin') :
    (∀ board, board ∉ i945Boards ∨ bin board = none → bin' board = bin board)
      ∧ (∀ board ∈ i945Boards, ∀ files, bin board = some files →
        ∃ files', bin' board = some files' ∧ buctsTrick (shell.star files) files = .ok files') := by
  obtain ⟨hboards, hframe⟩ := (forEach_onEntry_eq_ok nodup_i945Boards).mp h
  rw [List.map_id] at hframe
  refine ⟨fun board hboard => ?_, fun board hmem files hfiles => ?_⟩
  · by_cases hmem : board ∈ i945Boards
    · have hnone := hboard.resolve_left (not_not.mpr hmem)
      rcases ifPresent_eq_ok.mp (hboards board hmem) with ⟨-, hnew⟩ | ⟨files, files', hold, -, -⟩
      · rw [hnone]
        exact hnew
      · cases hold.symm.trans hnone
    · exact hframe board hmem
  · rcases ifPresent_eq_ok.mp (hboards board hmem) with
      ⟨hnone, -⟩ | ⟨files₀, files', hold, hrun, hnew⟩
    · rw [id, hfiles] at hnone
      cases hnone
    · obtain rfl := Option.some.inj (hold.symm.trans hfiles)
      exact ⟨files', hnew, hrun⟩

/-- It gets through if the loops over the directories do. -/
theorem exists_i945 :
    (∃ bin', i945 shell bin = .ok bin') ↔ ∀ board ∈ i945Boards, ∀ files, bin board = some files →
      ∃ files', buctsTrick (shell.star files) files = .ok files' := by
  refine (exists_forEach_onEntry nodup_i945Boards).trans ?_
  refine forall₂_congr fun board _ => ?_
  show (∃ v, ifPresent _ (bin board) = .ok v) ↔ _
  cases hboard : bin board with
  | none => simp [ifPresent]
  | some files =>
    simp only [ifPresent_eq_ok, reduceCtorEq, false_and, false_or, Option.some.injEq, forall_eq']
    constructor
    · rintro ⟨_, _, files', rfl, hrun, -⟩
      exact ⟨files', hrun⟩
    · rintro ⟨files', hrun⟩
      exact ⟨some files', files, files', rfl, hrun, rfl⟩

/--
**The dd of the bucts trick.** The loop over the boards gets through exactly if every directory has an
image, all files in it have at least 128 KiB and no run has left a `top64k.bin`. Then the last two
64 KiB of each image are the same and the rest of it is as it was, no other file has changed, and a
second run changes nothing.
-/
theorem i945_eq_ok
    (hfinite : ∀ board ∈ i945Boards, ∀ files, bin board = some files → FiniteFiles files) :
    ((∃ bin', i945 shell bin = .ok bin') ↔
        ∀ board ∈ i945Boards, ∀ files, bin board = some files → Mirrorable files)
      ∧ ∀ bin', i945 shell bin = .ok bin' →
        (∀ board, board ∉ i945Boards ∨ bin board = none → bin' board = bin board)
          ∧ (∀ board ∈ i945Boards, ∀ files, bin board = some files →
            ∃ files', bin' board = some files' ∧ Mirrored files files')
          ∧ i945 shell bin' = .ok bin' := by
  refine ⟨?_, fun bin' h => ?_⟩
  · rw [exists_i945]
    exact forall₂_congr fun board hmem => forall₂_congr fun files hfiles =>
      buctsTrick_star_eq_ok_iff (hfinite board hmem files hfiles)
  · obtain ⟨hframe, hdirectories⟩ := i945_directories h
    refine ⟨hframe, fun board hmem files hfiles => ?_, ?_⟩
    · obtain ⟨files', hnew, hrun⟩ := hdirectories board hmem files hfiles
      exact ⟨files', hnew, mirrored_of_star (hfinite board hmem files hfiles) hrun⟩
    · refine (forEach_onEntry_eq_ok nodup_i945Boards).mpr ⟨fun board hmem => ?_, fun _ _ => rfl⟩
      cases hboard : bin board with
      | none =>
        have hnew : bin' board = none := (hframe board (.inr hboard)).trans hboard
        exact ifPresent_eq_ok.mpr (.inl ⟨hnew, hnew⟩)
      | some files =>
        obtain ⟨files', hnew, hrun⟩ := hdirectories board hmem files hboard
        have hfin := hfinite board hmem files hboard
        have hmirrorable := (buctsTrick_star_eq_ok_iff hfin).mp ⟨files', hrun⟩
        exact ifPresent_eq_ok.mpr (.inr ⟨files', files', hnew,
          (mirrored_of_star hfin hrun).again hfin hmirrorable, hnew⟩)

end Boards

/-! ## A directory with one image -/

theorem nonempty_shell : Nonempty Shell := by
  classical
  have hchoice : ∀ dir : Files, ∃ names : List String,
      ((∀ name, Visible name → dir name = none) → names = ["*"]) ∧
        (FiniteFiles dir → ∀ rom, Visible rom → dir rom ≠ none →
          ∀ name, name ∈ names ↔ Visible name ∧ dir name ≠ none) := by
    intro dir
    by_cases hempty : ∀ name, Visible name → dir name = none
    · exact ⟨["*"], fun _ => rfl, fun _ rom hrom hne => absurd (hempty rom hrom) hne⟩
    · by_cases hfinite : FiniteFiles dir
      · obtain ⟨names, hnames⟩ := hfinite
        refine ⟨names.filter fun name => Visible name ∧ dir name ≠ none, fun h => absurd h hempty,
          fun _ _ _ _ name => ?_⟩
        rw [List.mem_filter, decide_eq_true_iff]
        exact and_iff_right_of_imp fun h => hnames name h.2
      · exact ⟨[], fun h => absurd h hempty, fun h => absurd h hfinite⟩
  choose star hstar using hchoice
  exact ⟨star, fun dir => (hstar dir).1, fun dir => (hstar dir).2⟩

/-- Three blocks, each filled with its number. -/
def sampleImage : Bytes := [1, 2, 3].flatMap (List.replicate blockSize)

theorem mirror_sampleImage :
    TopSwap.mirror blockSize sampleImage = [1, 3, 3].flatMap (List.replicate blockSize) := by
  have hsplit : sampleImage = List.replicate blockSize 1 ++ List.replicate blockSize 2
      ++ List.replicate blockSize 3 := by simp [sampleImage]
  rw [hsplit, TopSwap.mirror, TopSwap.rest_append List.length_replicate List.length_replicate,
    TopSwap.top_append List.length_replicate]
  simp

def sampleName : String := "x60_usqwerty_txtmode.rom"

/-- A directory of the X60 with one image. -/
def sampleBin : Bin := fun board =>
  if board = "x60" then some fun name => if name = sampleName then some sampleImage else none
  else none

/-- A run goes through it, and the block in the middle is gone. -/
theorem i945_eq_ok_sample : ∃ (shell : Shell) (bin' : Bin) (files' : Files),
    i945 shell sampleBin = .ok bin' ∧ bin' "x60" = some files'
      ∧ files' sampleName = some ([1, 3, 3].flatMap (List.replicate blockSize)) := by
  obtain ⟨shell⟩ := nonempty_shell
  have hdirectory : ∀ board files, sampleBin board = some files →
      files = fun name => if name = sampleName then some sampleImage else none := by
    intro board files hfiles
    unfold sampleBin at hfiles
    split at hfiles <;> cases hfiles
    rfl
  have hlength : 3 * blockSize = sampleImage.length := by simp [sampleImage]; rfl
  have hthrough := @i945_eq_ok shell sampleBin fun board _ files hfiles =>
    ⟨[sampleName], fun name hne => by
      rw [hdirectory board files hfiles] at hne
      simpa using hne⟩
  obtain ⟨bin', hrun⟩ := hthrough.1.mpr fun board _ files hfiles => by
    obtain rfl := hdirectory board files hfiles
    refine ⟨⟨sampleName, by decide, by simp⟩, by simp [top64k, sampleName], ?_⟩
    intro rom image _ himage
    obtain ⟨-, rfl⟩ := by simpa using himage
    omega
  obtain ⟨-, hmirrored, -⟩ := hthrough.2 bin' hrun
  obtain ⟨files', hfiles', hmirror⟩ := hmirrored "x60" (by decide) _ rfl
  refine ⟨shell, bin', files', hrun, hfiles', ?_⟩
  rw [hmirror.image sampleName sampleImage (by decide) (if_pos rfl), mirror_sampleImage]

end Libreboot.Roms
