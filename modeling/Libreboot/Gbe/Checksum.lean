import Libreboot.Gbe.Struct
import Libreboot.Infra.Checksum

/-!
# The GbE checksum and the GbE rewrite

The functions of `gbe/gbe.c` that compute the checksum and repair a factory GbE region.

* `sum_words_fixed` — a block with the computed checksum adds up to the wanted total
* `deblobbedGbe_idem` — repairing a repaired region changes nothing
* `deblobbedGbe_congr` — the main block of the factory region has no influence
-/

namespace Libreboot

open Infra

/-! ## The checksum -/

/-- The checksum that brings the words from `gbeRegionBase` on to `desiredValue`. -/
def gbeGetChecksumFrom4kBuffer (gbeWord : Nat → BitVec 16) (desiredValue : BitVec 16)
    (gbeRegionBase : Nat) : BitVec 16 :=
  desiredValue - wordSum (fun wordOffset => gbeWord (wordOffset + gbeRegionBase >>> 1)) 0x3F

def gbeGetChecksumFrom4kStruct (gbeStruct4k : GbeRegionRecord4k) (desiredValue : BitVec 16) :
    BitVec 16 :=
  gbeGetChecksumFrom4kBuffer (word16 gbeStruct4k.toBytes) desiredValue 0

namespace GbeRegionRecord4k

variable (g : GbeRegionRecord4k)

/-- The block with another checksum. -/
def withCheckSum (checkSum : BitVec 16) : GbeRegionRecord4k := { g with checkSum := checkSum }

/-- The block with erased padding. -/
def erased : GbeRegionRecord4k := { g with padding := Vector.replicate 3968 0xFF }

/-- The block with the right checksum. -/
def fixed : GbeRegionRecord4k := g.withCheckSum (gbeGetChecksumFrom4kStruct g GBECHECKSUMTOTAL)

theorem withCheckSum_withCheckSum (c c' : BitVec 16) :
    (g.withCheckSum c).withCheckSum c' = g.withCheckSum c' := rfl

theorem erased_withCheckSum (c : BitVec 16) :
    (g.withCheckSum c).erased = g.erased.withCheckSum c := by
  unfold erased withCheckSum
  generalize Vector.replicate 3968 (0xFF : BitVec 8) = padding
  rfl

theorem erased_erased : g.erased.erased = g.erased := by
  unfold erased
  generalize Vector.replicate 3968 (0xFF : BitVec 8) = padding
  rfl

/-! ## Where the checksum lies -/

theorem checkSum_at : uint16.StoredAt g.toBytes 126 g.checkSum :=
  (Overlay.StoredAt.encode overlay g).member (·.checkSum) 126

/-- The last word of the configuration is the checksum. -/
theorem word16_checkSum : word16 g.toBytes 0x3F = g.checkSum := g.checkSum_at.decode

/-- The words in front of the checksum do not depend on it. -/
theorem take_toBytes_withCheckSum (c : BitVec 16) :
    (g.withCheckSum c).toBytes.take 126 = g.toBytes.take 126 :=
  (Overlay.StoredAt.encode overlay (g.withCheckSum c)).members.left.left.trans
    (Overlay.StoredAt.encode overlay g).members.left.left.symm

/-- The computed checksum does not depend on what the checksum word holds. -/
theorem checksum_withCheckSum (c desiredValue : BitVec 16) :
    gbeGetChecksumFrom4kStruct (g.withCheckSum c) desiredValue
      = gbeGetChecksumFrom4kStruct g desiredValue := by
  have hwords : ∀ i < 0x3F, word16 (g.withCheckSum c).toBytes (i + 0 >>> 1)
      = word16 g.toBytes (i + 0 >>> 1) := fun i hi =>
    word16_congr (g.take_toBytes_withCheckSum c) (by simp only [Nat.zero_shiftRight]; omega)
  exact congrArg (desiredValue - ·) (wordSum_congr hwords)

theorem checksum_eq (desiredValue : BitVec 16) :
    gbeGetChecksumFrom4kStruct g desiredValue = desiredValue - wordSum (word16 g.toBytes) 0x3F := by
  unfold gbeGetChecksumFrom4kStruct gbeGetChecksumFrom4kBuffer
  simp only [Nat.zero_shiftRight, Nat.add_zero]

/-- **A block adds up exactly if it has the computed checksum.** -/
theorem sum_words_eq_iff (desiredValue : BitVec 16) :
    wordSum (word16 g.toBytes) 64 = desiredValue
      ↔ g.checkSum = gbeGetChecksumFrom4kStruct g desiredValue := by
  rw [wordSum_succ, g.word16_checkSum, checksum_eq, BitVec.eq_sub_iff_add_eq, BitVec.add_comm]

theorem sum_words_of_checkSum (desiredValue : BitVec 16)
    (h : g.checkSum = gbeGetChecksumFrom4kStruct g desiredValue) :
    wordSum (word16 g.toBytes) 64 = desiredValue :=
  (g.sum_words_eq_iff desiredValue).mpr h

theorem sum_words_fixed : wordSum (word16 g.fixed.toBytes) 64 = GBECHECKSUMTOTAL :=
  sum_words_of_checkSum _ _ (g.checksum_withCheckSum _ _).symm

theorem fixed_withCheckSum (c : BitVec 16) : (g.withCheckSum c).fixed = g.fixed := by
  rw [fixed, fixed, checksum_withCheckSum, withCheckSum_withCheckSum]

theorem repaired_repaired : g.erased.fixed.erased.fixed = g.erased.fixed :=
  calc g.erased.fixed.erased.fixed
      = (g.erased.erased.withCheckSum _).fixed := congrArg fixed (g.erased.erased_withCheckSum _)
    _ = g.erased.erased.fixed := g.erased.erased.fixed_withCheckSum _
    _ = g.erased.fixed := by rw [erased_erased]

end GbeRegionRecord4k

/-! ## The rewrite -/

/-- Repair the backup block and put it over the main block. -/
def deblobbedGbeStructFromFactory (gbeStruct8k : GbeRegionRecord8k) : GbeRegionRecord8k :=
  let gbeStruct8k := { gbeStruct8k with backup.padding := Vector.replicate 3968 0xFF }
  let gbeStruct8k := { gbeStruct8k with
    backup.checkSum := gbeGetChecksumFrom4kStruct gbeStruct8k.backup GBECHECKSUMTOTAL }
  { gbeStruct8k with main := gbeStruct8k.backup }

/-- Both blocks become the repaired backup block. -/
theorem deblobbedGbe_eq (g : GbeRegionRecord8k) :
    deblobbedGbeStructFromFactory g = ⟨g.backup.erased.fixed, g.backup.erased.fixed⟩ := rfl

/-- The main block is overwritten, whatever it held. -/
theorem deblobbedGbe_congr {g g' : GbeRegionRecord8k} (h : g.backup = g'.backup) :
    deblobbedGbeStructFromFactory g = deblobbedGbeStructFromFactory g' := by
  rw [deblobbedGbe_eq, deblobbedGbe_eq, h]

/-- **Repairing a repaired region changes nothing.** -/
theorem deblobbedGbe_idem (g : GbeRegionRecord8k) :
    deblobbedGbeStructFromFactory (deblobbedGbeStructFromFactory g)
      = deblobbedGbeStructFromFactory g := by
  rw [deblobbedGbe_eq g, deblobbedGbe_eq, GbeRegionRecord4k.repaired_repaired]

end Libreboot
