import Libreboot.Ich9gen.MkGbe

/-!
# The GbE rewrite on bytes

What `deblobbedGbeStructFromFactory` does to the 8192 bytes of a GbE region.

* `Repaired backup block` — the block has the configuration of the backup block, erased padding and
  the one checksum that makes the words add up
* `gbe_repair` — both blocks of the result are that block, and nothing else has an influence
-/

namespace Libreboot

open Infra

/-- The GbE region that comes out, as bytes. -/
def deblobbedGbeBytes (region : Bytes) : Bytes :=
  (deblobbedGbeStructFromFactory (.ofBytes region)).toBytes

/-- The words of the configuration add up. -/
def AddsUp (block : Bytes) : Prop := wordSum (word16 block) 64 = 0xBABA

/-- Nothing lies behind the configuration. -/
def PaddingErased (block : Bytes) : Prop := block.drop 0x80 = List.replicate 0xF80 0xFF

structure Repaired (backup block : Bytes) : Prop where
  length : block.length = 4096
  configuration : block.take 0x7E = backup.take 0x7E
  padding : PaddingErased block
  checkSum : ∀ v : BitVec 16,
    AddsUp (block.take 0x7E ++ leBytes 2 v.toNat ++ block.drop 0x80) ↔ v = word16 block 0x3F
  sum : AddsUp block

namespace GbeRegionRecord4k

variable (g : GbeRegionRecord4k)

/-- The padding is the last member. -/
theorem drop_toBytes : g.toBytes.drop 0x80 = g.padding.toList := by
  have h : (g.toBytes.drop 0x80).take 3968 = (uint8s 3968).encode g.padding :=
    (Overlay.StoredAt.encode overlay g).members.right
  rw [encode_uint8s, List.take_of_length_le (by rw [List.length_drop, length_toBytes])] at h
  exact h

/-- The configuration in front of it does not change when it is erased. -/
theorem take_toBytes_erased : g.erased.toBytes.take 0x80 = g.toBytes.take 0x80 :=
  (Overlay.StoredAt.encode overlay g.erased).members.left.trans
    (Overlay.StoredAt.encode overlay g).members.left.symm

theorem paddingErased_iff : PaddingErased g.toBytes ↔ g.erased = g := by
  rw [PaddingErased, drop_toBytes, ← Vector.toList_replicate, Vector.toList_inj, erased]
  generalize Vector.replicate 3968 (0xFF : BitVec 8) = padding
  constructor
  · intro h
    rw [← h]
  · intro h
    exact (congrArg GbeRegionRecord4k.padding h).symm

theorem erased_repaired : g.erased.fixed.erased = g.erased.fixed := by
  rw [fixed, erased_withCheckSum, erased_erased]

/-- A block whose words add up has the right checksum already. -/
theorem fixed_of_addsUp (h : AddsUp g.toBytes) : g.fixed = g := by
  have hchecksum := (g.sum_words_eq_iff GBECHECKSUMTOTAL).mp h
  rw [fixed, ← hchecksum]
  rfl

/-- **The repaired block,** on bytes. -/
theorem repaired_toBytes : Repaired g.toBytes g.erased.fixed.toBytes where
  length := length_toBytes _
  configuration := by
    have herased := congrArg (List.take 0x7E) g.take_toBytes_erased
    rw [List.take_take, List.take_take] at herased
    rw [fixed, take_toBytes_withCheckSum]
    exact herased
  padding := g.erased.fixed.paddingErased_iff.mpr g.erased_repaired
  checkSum := by
    intro v
    let block := g.erased.fixed.toBytes
    have hlen : (block.take 0x7E).length = 2 * 0x3F := by
      rw [List.length_take, length_toBytes]
      rfl
    have hfront : wordSum (word16 (block.take 0x7E)) 0x3F = wordSum (word16 block) 0x3F :=
      wordSum_congr fun i hi =>
        word16_congr (k := 0x7E) (by rw [List.take_take, Nat.min_self]) (by omega)
    -- the sum over the other words leaves one value, and it is the one that is stored
    rw [AddsUp, wordSum_stored_eq_iff hlen, hfront, word16_checkSum]
    have hsum := (g.erased.fixed.sum_words_eq_iff GBECHECKSUMTOTAL).mp g.erased.sum_words_fixed
    rw [hsum, checksum_eq]
    rfl
  sum := g.erased.sum_words_fixed

end GbeRegionRecord4k

/-! ## The region -/

theorem toBytes_backup {region : Bytes} (h : region.length = 8192) :
    (GbeRegionRecord8k.ofBytes region).backup.toBytes = region.drop 4096 := by
  have hregion := GbeRegionRecord8k.toBytes_ofBytes (Nat.le_of_eq h.symm)
  rw [List.take_of_length_le (Nat.le_of_eq h), GbeRegionRecord8k.toBytes_eq] at hregion
  conv_rhs => rw [← hregion]
  rw [List.drop_left' (GbeRegionRecord4k.length_toBytes _)]

theorem deblobbedGbeBytes_eq (region : Bytes) :
    let block := (GbeRegionRecord8k.ofBytes region).backup.erased.fixed.toBytes
    deblobbedGbeBytes region = block ++ block := by
  rw [deblobbedGbeBytes, deblobbedGbe_eq, GbeRegionRecord8k.toBytes_eq]

theorem deblobbedGbeBytes_idem (region : Bytes) :
    deblobbedGbeBytes (deblobbedGbeBytes region) = deblobbedGbeBytes region := by
  have hback := (deblobbedGbeStructFromFactory (.ofBytes region)).ofBytes_toBytes_append []
  rw [List.append_nil] at hback
  rw [deblobbedGbeBytes, deblobbedGbeBytes, hback, deblobbedGbe_idem]

/--
**The repair of a GbE region.** Both blocks of the result are the repaired backup block. What the
main block was has no influence, another repair changes nothing, and a backup block in order stays
as it is.
-/
theorem gbe_repair (region : Bytes) (h : region.length = 8192) :
    ∃ block, deblobbedGbeBytes region = block ++ block
      ∧ Repaired (region.drop 4096) block
      ∧ (∀ other : Bytes, other.length = 8192 → other.drop 4096 = region.drop 4096 →
        deblobbedGbeBytes other = block ++ block)
      ∧ deblobbedGbeBytes (block ++ block) = block ++ block
      ∧ (AddsUp (region.drop 4096) → PaddingErased (region.drop 4096) →
        block = region.drop 4096) := by
  have hbackup := toBytes_backup h
  refine ⟨_, deblobbedGbeBytes_eq region, ?_, ?_, ?_, ?_⟩
  · rw [← hbackup]
    exact GbeRegionRecord4k.repaired_toBytes _
  · intro other hother heq
    have hsame : (GbeRegionRecord8k.ofBytes other).backup
        = (GbeRegionRecord8k.ofBytes region).backup := by
      rw [GbeRegionRecord8k.backup_ofBytes, heq, GbeRegionRecord8k.backup_ofBytes]
    rw [deblobbedGbeBytes, deblobbedGbe_congr hsame]
    exact deblobbedGbeBytes_eq region
  · rw [← deblobbedGbeBytes_eq region]
    exact deblobbedGbeBytes_idem region
  · intro hsum hpadding
    rw [← hbackup] at hsum hpadding ⊢
    rw [(GbeRegionRecord4k.paddingErased_iff _).mp hpadding,
      GbeRegionRecord4k.fixed_of_addsUp _ hsum]

/-- The shipped block is taken from behind a lost main block, and a checksum of zero in it is
replaced. -/
theorem gbe_repair_shipped :
    let block := generatedGbeStruct4k.toBytes
    let changed := { generatedGbeStruct4k with checkSum := 0 }.toBytes
    deblobbedGbeBytes (List.replicate 4096 0 ++ block) = block ++ block
      ∧ ¬ AddsUp changed
      ∧ ∃ repaired, deblobbedGbeBytes (block ++ changed) = repaired ++ repaired
        ∧ Repaired changed repaired
        ∧ deblobbedGbeBytes (repaired ++ repaired) = repaired ++ repaired := by
  intro block changed
  have hblock : block.length = 4096 := GbeRegionRecord4k.length_toBytes _
  have hchanged : changed.length = 4096 := GbeRegionRecord4k.length_toBytes _
  have hlost : (List.replicate 4096 0 ++ block).drop 4096 = block :=
    List.drop_left' List.length_replicate
  have hsum : AddsUp block := generatedGbeStruct4k.sum_words_of_checkSum _ checksum_generated.symm
  have hpadding : PaddingErased block := generatedGbeStruct4k.paddingErased_iff.mpr rfl
  refine ⟨?_, fun hadds => ?_, ?_⟩
  · obtain ⟨repaired, hrepair, -, -, -, hkept⟩ := gbe_repair (List.replicate 4096 0 ++ block)
      (by rw [List.length_append, List.length_replicate, hblock])
    rw [hlost] at hkept
    rw [hrepair, hkept hsum hpadding]
  · have hstored := (GbeRegionRecord4k.sum_words_eq_iff _ GBECHECKSUMTOTAL).mp hadds
    exact absurd hstored (by decide +kernel)
  · obtain ⟨repaired, hrepair, hrepaired, -, hagain, -⟩ := gbe_repair (block ++ changed)
      (by rw [List.length_append, hblock, hchanged])
    rw [List.drop_left' hblock] at hrepaired
    exact ⟨repaired, hrepair, hrepaired, hagain⟩

end Libreboot
