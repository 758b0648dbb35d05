import Libreboot.Descriptor.Absorb
import Libreboot.Infra.PageRange

/-!
# The region map

What the region registers mean, and which map `ich9deblob` writes: descriptor, then GbE if there
is one, then BIOS up to the end of the ROM.

The map is right exactly for the sizes in `region_map`. Below one page behind the start of BIOS the
limit wraps or lies before the start. Above 32 MiB it no longer fits its 13 bits. A size that is no
multiple of a page leaves its last bytes outside.
-/

namespace Libreboot

open Infra

/-- The pages that a region register names. -/
def FlReg.pages (g : FlReg) : PageRange := ⟨g.base.toNat, g.limit.toNat⟩

/-- The flash addresses of a region. -/
def FlReg.region (g : FlReg) : Set Nat := g.pages.addresses (2 ^ FLREGIONBITSHIFT)

theorem page_eq : 2 ^ FLREGIONBITSHIFT = 4096 := by decide

theorem page_pos : 0 < 2 ^ FLREGIONBITSHIFT := by decide

/-- A register describes the 8 KiB from its base on exactly if it ends with the second page. -/
theorem FlReg.region_eq_iff (r : FlReg) :
    r.region = Set.Ico (r.base.toNat * 4096) (r.base.toNat * 4096 + 8192)
      ↔ r.limit.toNat = r.base.toNat + 1 := by
  have hlt : r.base.toNat * 4096 < r.base.toNat * 4096 + 8192 := by omega
  rw [FlReg.region, PageRange.addresses_eq_Ico page_pos, page_eq, FlReg.pages, eq_comm,
    Set.Ico_eq_Ico_iff (Or.inl hlt)]
  dsimp only
  constructor
  · rintro ⟨-, h⟩
    omega
  · intro h
    exact ⟨rfl, by omega⟩

/-! ## The registers after the rewrite -/

/-- A removed region is unused. -/
theorem FlReg.region_removed (g : FlReg) : (g.withRange 0x1FFF 0).region = ∅ :=
  PageRange.addresses_eq_empty (show (0 : BitVec 13).toNat < (0x1FFF : BitVec 13).toNat by decide)

/-- Region section and region count, as the whole rewrite leaves them. -/
theorem librebootDescriptor_regions (d : DescriptorRegionRecord) (romSize : BitVec 32) :
    (librebootDescriptorStructFromFactory d romSize).regionSection
        = d.regionSection.libreboot (definesGbe d) romSize
      ∧ (librebootDescriptorStructFromFactory d romSize).flMaps.flMap0.nr
        = bif definesGbe d then 2 else 1 := by
  have h := deblobbedDescriptor_eq d romSize
  exact ⟨congrArg (·.regionSection) h, congrArg (·.flMaps.flMap0.nr) h⟩

/-! ## The last page of BIOS -/

/-- The stored limit is the last page of the ROM for exactly these sizes. -/
theorem biosLimit_iff (romSize : BitVec 32) (start : Nat) (hstart : 0 < start) :
    start ≤ (biosLimit romSize).toNat ∧ romSize.toNat = ((biosLimit romSize).toNat + 1) * 4096
      ↔ romSize.toNat % 4096 = 0 ∧ start * 4096 < romSize.toNat ∧ romSize.toNat ≤ 2 ^ 25 := by
  have hlt := romSize.isLt
  rw [toNat_biosLimit]
  omega

/-! ## The whole map -/

section Map

variable (s : RegionSectionRecord) (romSize : BitVec 32)

/-- The GbE region is the 8 KiB behind the descriptor. -/
theorem RegionSectionRecord.gbe_region :
    (s.libreboot true romSize).flReg3.region = Set.Icc 4096 12287 := by
  have hgbe : (s.libreboot true romSize).flReg3.pages = ⟨1, 2⟩ := rfl
  unfold FlReg.region
  rw [hgbe, PageRange.addresses_eq_Ico page_pos]
  ext a
  simp only [FLREGIONBITSHIFT, Set.mem_Ico, Set.mem_Icc]
  omega

/-- With GbE, the pages behind the descriptor are GbE and then BIOS. -/
theorem RegionSectionRecord.covers_iff_of_gbe :
    ((s.libreboot true romSize).flReg1.region.Nonempty
        ∧ Disjoint (s.libreboot true romSize).flReg3.region (s.libreboot true romSize).flReg1.region
        ∧ (s.libreboot true romSize).flReg3.region ∪ (s.libreboot true romSize).flReg1.region
            = Set.Ico 4096 romSize.toNat)
      ↔ romSize.toNat % 4096 = 0 ∧ 12288 < romSize.toNat ∧ romSize.toNat ≤ 2 ^ 25 := by
  have hgbe : (s.libreboot true romSize).flReg3.pages = ⟨1, 2⟩ := rfl
  have hbios : (s.libreboot true romSize).flReg1.pages = ⟨3, (biosLimit romSize).toNat⟩ := rfl
  unfold FlReg.region
  rw [hgbe, hbios]
  exact (PageRange.covers_iff_of_adjacent page_pos (by decide) rfl romSize.toNat).trans
    (biosLimit_iff romSize 3 (by decide))

/-- Without GbE, the pages behind the descriptor are BIOS. -/
theorem RegionSectionRecord.covers_iff_of_no_gbe :
    ((s.libreboot false romSize).flReg1.region.Nonempty
        ∧ Disjoint (s.libreboot false romSize).flReg3.region
            (s.libreboot false romSize).flReg1.region
        ∧ (s.libreboot false romSize).flReg3.region ∪ (s.libreboot false romSize).flReg1.region
            = Set.Ico 4096 romSize.toNat)
      ↔ romSize.toNat % 4096 = 0 ∧ 4096 < romSize.toNat ∧ romSize.toNat ≤ 2 ^ 25 := by
  have hgbe : (s.libreboot false romSize).flReg3.region = ∅ := s.flReg3.region_removed
  have hbios : (s.libreboot false romSize).flReg1.pages = ⟨1, (biosLimit romSize).toNat⟩ := rfl
  have hcovers := PageRange.addresses_eq_Ico_iff page_pos
    ⟨1, (biosLimit romSize).toNat⟩ romSize.toNat
  simp only [page_eq, Nat.one_mul] at hcovers
  rw [hgbe, Set.empty_union]
  simp only [Set.empty_disjoint, true_and]
  unfold FlReg.region
  rw [hbios, page_eq]
  exact hcovers.trans (biosLimit_iff romSize 1 (by decide))

end Map

/--
**The region map and the sizes it is right for.** ME and platform data are unused and the
descriptor region is left alone. With GbE the regions are descriptor, GbE and BIOS, otherwise
descriptor and BIOS. BIOS and GbE together cover the rest of the ROM, each address once and
nothing else, if and only if the size is a whole number of pages that leaves room for BIOS and
is at most 32 MiB.
-/
theorem region_map (factory : DescriptorRegionRecord) (romSize : BitVec 32) :
    let d := librebootDescriptorStructFromFactory factory romSize
    let biosStart := if descriptorDefinesGbeRegion factory ≠ 0 then 12288 else 4096
    d.regionSection.flReg2.region = ∅
      ∧ d.regionSection.flReg4.region = ∅
      ∧ (descriptorDefinesGbeRegion factory ≠ 0 →
          d.regionSection.flReg3.region = Set.Icc 4096 12287 ∧ d.flMaps.flMap0.nr = 2)
      ∧ (descriptorDefinesGbeRegion factory = 0 →
          d.regionSection.flReg3.region = ∅ ∧ d.flMaps.flMap0.nr = 1)
      ∧ d.regionSection.flReg1.base.toNat * 4096 = biosStart
      ∧ d.regionSection.flReg0 = factory.regionSection.flReg0
      ∧ ((d.regionSection.flReg1.region.Nonempty
            ∧ Disjoint d.regionSection.flReg3.region d.regionSection.flReg1.region
            ∧ d.regionSection.flReg3.region ∪ d.regionSection.flReg1.region
                = Set.Ico 4096 romSize.toNat)
          ↔ romSize.toNat % 4096 = 0 ∧ biosStart < romSize.toNat ∧ romSize.toNat ≤ 2 ^ 25) := by
  intro d biosStart
  obtain ⟨hregions, hnr⟩ := librebootDescriptor_regions factory romSize
  have htest := descriptorDefinesGbeRegion_eq factory
  simp only [d, biosStart, hregions, hnr, htest]
  cases definesGbe factory with
  | true =>
    simp only [cond_true, if_pos (show (1 : BitVec 32) ≠ 0 by decide)]
    exact ⟨FlReg.region_removed _, FlReg.region_removed _,
      fun _ => ⟨factory.regionSection.gbe_region romSize, trivial⟩, fun h => absurd h (by decide),
      show (3 : BitVec 13).toNat * 4096 = 12288 by decide, rfl,
      factory.regionSection.covers_iff_of_gbe romSize⟩
  | false =>
    simp only [cond_false, if_neg (show ¬ (0 : BitVec 32) ≠ 0 by decide)]
    exact ⟨FlReg.region_removed _, FlReg.region_removed _, fun h => absurd rfl h,
      fun _ => ⟨FlReg.region_removed _, trivial⟩,
      show (1 : BitVec 13).toNat * 4096 = 4096 by decide, rfl,
      factory.regionSection.covers_iff_of_no_gbe romSize⟩

end Libreboot
