import Libreboot.Descriptor.Absorb
import Libreboot.Descriptor.Layout

/-!
# Which bits are rewritten

The effect of the tools on the 4096 bytes, bit by bit.

* `rewrittenBits` — the bits that `ich9deblob` may change
* `deblobbedAs_sameBits` — it changes no other bit
* `deblobbed_bits_exact` — what it writes where the outcome does not depend on the input

The frame is first proved for each record, in bits of that record, and then moved to the place
where the record lies.
-/

namespace Libreboot

open Infra

/-! ## Places -/

namespace DescriptorRegionRecord

variable (d : DescriptorRegionRecord)

theorem flMstr2_at : FlMstr.overlay.StoredAt d.toBytes 0x64 d.masterAccessSection.flMstr2 :=
  d.sectionsAt.masterAccessSection.member (·.flMstr2) 4

theorem magicString_at : (uint8s 8).StoredAt d.toBytes 0xF00 d.oemSection.magicString :=
  d.sectionsAt.oemSection.member (·.magicString) 0

variable {d} {d' : DescriptorRegionRecord} {touched : Nat → Prop}

/-- A difference in a descriptor is a difference in one of its sections, where that lies. -/
theorem sameBits_sections (hflValSig : FlValSig.overlay.SameBits 0 touched d.flValSig d'.flValSig)
    (hflMaps : FlMaps.overlay.SameBits 0x04 touched d.flMaps d'.flMaps)
    (hcomponents : ComponentSectionRecord.overlay.SameBits 0x10 touched
      d.componentSection d'.componentSection)
    (hregions : RegionSectionRecord.overlay.SameBits 0x40 touched
      d.regionSection d'.regionSection)
    (hmasters : MasterAccessSectionRecord.overlay.SameBits 0x60 touched
      d.masterAccessSection d'.masterAccessSection)
    (hichStraps : IchStrapsRecord.overlay.SameBits 0x100 touched d.ichStraps d'.ichStraps)
    (hmchStraps : MchStrapsRecord.overlay.SameBits 0x200 touched d.mchStraps d'.mchStraps)
    (hmeVscc : MeVsccTableRecord.overlay.SameBits 0xEE0 touched d.meVsccTable d'.meVsccTable)
    (hmap2 : DescriptorMap2Record.overlay.SameBits 0xEFC touched
      d.descriptor2Map d'.descriptor2Map)
    (hoem : OemSectionRecord.overlay.SameBits 0xF00 touched d.oemSection d'.oemSection) :
    overlay.SameBits 0 touched d d' :=
  .struct <| .seq (.seq (.seq (.seq (.seq (.seq (.seq (.seq (.seq hflValSig hflMaps) hcomponents)
    hregions) hmasters) hichStraps) hmchStraps) hmeVscc) hmap2) hoem

end DescriptorRegionRecord

/-! ## Registers -/

theorem FlMap0.sameBits_nr (m : FlMap0) (off : Nat) (nr : BitVec 3) :
    FlMap0.overlay.SameBits off (inBits (off + 3) 0 2) { m with nr := nr } m := by
  refine .struct (.bitFields fun p ht => ?_)
  simp only [inBits] at ht
  exact ⟨fun _ _ => rfl, fun _ _ => rfl, fun _ _ => rfl, fun _ _ => rfl,
    fun (h1 : 24 ≤ p) (h2 : p < 27) => by omega, fun _ _ => rfl, trivial⟩

/-- The bits of the two density codes. -/
theorem FlComp.sameBits_densities (c : FlComp) (off : Nat) (density1 density2 : BitVec 3) :
    FlComp.overlay.SameBits off (inBits off 0 5)
      { c with component1Density := density1, component2Density := density2 } c := by
  refine .struct (.bitFields fun p ht => ?_)
  simp only [inBits] at ht
  exact ⟨fun (_ : 0 ≤ p) (_ : p < 3) => by omega, fun (_ : 3 ≤ p) (_ : p < 6) => by omega,
    fun _ _ => rfl, fun _ _ => rfl, fun _ _ => rfl, fun _ _ => rfl, fun _ _ => rfl,
    fun _ _ => rfl, fun _ _ => rfl, fun _ _ => rfl, fun _ _ => rfl, trivial⟩

theorem FlReg.sameBits_withRange (g : FlReg) (off : Nat) (base limit : BitVec 13) :
    FlReg.overlay.SameBits off (fun p => inBits off 0 12 p ∨ inBits off 16 28 p)
      (g.withRange base limit) g := by
  refine .struct (.bitFields fun p ht => ?_)
  simp only [inBits] at ht
  exact ⟨fun (_ : 0 ≤ p) (_ : p < 13) => by omega, fun _ _ => rfl,
    fun (_ : 16 ≤ p) (_ : p < 29) => by omega, fun _ _ => rfl, trivial⟩

theorem FlMstr.sameBits_withAccess (m : FlMstr) (off : Nat) (access : BitVec 1) :
    FlMstr.overlay.SameBits off (fun p => inBits (off + 2) 0 4 p ∨ inBits (off + 3) 0 4 p)
      (m.withAccess access) m := by
  refine .struct (.bitFields fun p ht => ?_)
  simp only [inBits] at ht
  exact ⟨fun _ _ => rfl, fun (_ : 16 ≤ p) (_ : p < 17) => by omega,
    fun (_ : 17 ≤ p) (_ : p < 18) => by omega, fun (_ : 18 ≤ p) (_ : p < 19) => by omega,
    fun (_ : 19 ≤ p) (_ : p < 20) => by omega, fun (_ : 20 ≤ p) (_ : p < 21) => by omega,
    fun _ _ => rfl, fun (_ : 24 ≤ p) (_ : p < 25) => by omega,
    fun (_ : 25 ≤ p) (_ : p < 26) => by omega, fun (_ : 26 ≤ p) (_ : p < 27) => by omega,
    fun (_ : 27 ≤ p) (_ : p < 28) => by omega, fun (_ : 28 ≤ p) (_ : p < 29) => by omega,
    fun _ _ => rfl, trivial⟩

theorem IchStrap0.sameBits_straps (s : IchStrap0) (off : Nat)
    (meDisable integratedGbe lanPhy : BitVec 1) :
    IchStrap0.overlay.SameBits off (fun p => inBits off 0 0 p ∨ inBits (off + 2) 3 4 p)
      { s with meDisable := meDisable, integratedGbe := integratedGbe, lanPhy := lanPhy } s := by
  refine .struct (.bitFields fun p ht => ?_)
  simp only [inBits] at ht
  exact ⟨fun (_ : 0 ≤ p) (_ : p < 1) => by omega, fun _ _ => rfl, fun _ _ => rfl, fun _ _ => rfl,
    fun _ _ => rfl, fun _ _ => rfl, fun _ _ => rfl, fun (_ : 19 ≤ p) (_ : p < 20) => by omega,
    fun (_ : 20 ≤ p) (_ : p < 21) => by omega, fun _ _ => rfl, fun _ _ => rfl, fun _ _ => rfl,
    trivial⟩

theorem MchStrap0.sameBits_straps (s : MchStrap0) (off : Nat) (meDisable tpmDisable : BitVec 1) :
    MchStrap0.overlay.SameBits off (fun p => inBits off 0 0 p ∨ inBits off 2 2 p)
      { s with meDisable := meDisable, tpmDisable := tpmDisable } s := by
  refine .struct (.bitFields fun p ht => ?_)
  simp only [inBits] at ht
  exact ⟨fun (_ : 0 ≤ p) (_ : p < 1) => by omega, fun _ _ => rfl,
    fun (_ : 2 ≤ p) (_ : p < 3) => by omega, fun _ _ => rfl, fun _ _ => rfl, fun _ _ => rfl,
    fun _ _ => rfl, fun _ _ => rfl, trivial⟩

/-- An array of bytes lies within its own bits. -/
theorem uint8s_sameBits {n : Nat} (off : Nat) (v v' : Vector (BitVec 8) n) :
    (uint8s n).SameBits off (inBits off 0 (8 * n - 1)) v v' := by
  refine .of_touched fun p hp => ?_
  have hsize : (uint8s n).size = n * 1 := rfl
  simp only [inBits]
  omega

/-! ## The frame of `ich9deblob` -/

/-- The bits that deblobbing may change. -/
def rewrittenBits : List (Nat × Nat × Nat) := [
  (0x07, 0, 2),
  (0x44, 0, 12), (0x44, 16, 28),
  (0x48, 0, 12), (0x48, 16, 28),
  (0x4C, 0, 12), (0x4C, 16, 28),
  (0x50, 0, 12), (0x50, 16, 28),
  (0x62, 0, 4), (0x63, 0, 4),
  (0x66, 0, 4), (0x67, 0, 4),
  (0x100, 0, 0), (0x102, 3, 4),
  (0x200, 0, 0), (0x200, 2, 2),
  (0xF00, 0, 63)]

theorem FlReg.sameBits_rewritten {off : Nat} (hbase : (off, 0, 12) ∈ rewrittenBits)
    (hlimit : (off, 16, 28) ∈ rewrittenBits) (g : FlReg) (base limit : BitVec 13) :
    FlReg.overlay.SameBits off (AmongBits rewrittenBits) (g.withRange base limit) g :=
  (g.sameBits_withRange off base limit).mono fun _ hp => hp.elim (.of hbase) (.of hlimit)

theorem RegionSectionRecord.sameBits_libreboot (s : RegionSectionRecord) (gbe : Bool)
    (romSize : BitVec 32) :
    RegionSectionRecord.overlay.SameBits 0x40 (AmongBits rewrittenBits)
      (s.libreboot gbe romSize) s := by
  refine .struct (.seq (.seq (.seq (.seq (.seq .refl ?_) ?_) ?_) ?_) .refl)
  · exact s.flReg1.sameBits_rewritten (by decide) (by decide) _ _
  · exact s.flReg2.sameBits_rewritten (by decide) (by decide) _ _
  · exact s.flReg3.sameBits_rewritten (by decide) (by decide) _ _
  · exact s.flReg4.sameBits_rewritten (by decide) (by decide) _ _

/-- The masters of the host and of the ME lose nothing but their access bits. -/
theorem MasterAccessSectionRecord.sameBits_access {touched : List (Nat × Nat × Nat)}
    (h : ∀ b ∈ [(0x62, 0, 4), (0x63, 0, 4), (0x66, 0, 4), (0x67, 0, 4)], b ∈ touched)
    (s : MasterAccessSectionRecord) :
    MasterAccessSectionRecord.overlay.SameBits 0x60 (AmongBits touched)
      { s with flMstr1 := s.flMstr1.withAccess 1, flMstr2 := s.flMstr2.withAccess 0 } s := by
  refine .struct (.seq (.seq (.seq ?_ ?_) .refl) .refl)
  · exact (s.flMstr1.sameBits_withAccess _ _).mono fun _ hp =>
      hp.elim (.of (h _ (by decide))) (.of (h _ (by decide)))
  · exact (s.flMstr2.sameBits_withAccess _ _).mono fun _ hp =>
      hp.elim (.of (h _ (by decide))) (.of (h _ (by decide)))

theorem deblobbedAs_sameBits (gbe : Bool) (d : DescriptorRegionRecord) (romSize : BitVec 32) :
    DescriptorRegionRecord.overlay.SameBits 0 (AmongBits rewrittenBits)
      (deblobbedAs gbe d romSize) d := by
  refine DescriptorRegionRecord.sameBits_sections .refl ?_ .refl ?_ ?_ ?_ ?_ .refl .refl ?_
  · exact .struct (.seq (.seq ((d.flMaps.flMap0.sameBits_nr _ _).mono fun _ => .of (by decide))
      .refl) .refl)
  · exact d.regionSection.sameBits_libreboot gbe romSize
  · exact d.masterAccessSection.sameBits_access (by decide)
  · exact .struct (.seq (.seq ((d.ichStraps.ichStrap0.sameBits_straps _ _ _ _).mono fun _ hp =>
      hp.elim (.of (by decide)) (.of (by decide))) .refl) .refl)
  · exact .struct (.seq ((d.mchStraps.mchStrap0.sameBits_straps _ _ _).mono fun _ hp =>
      hp.elim (.of (by decide)) (.of (by decide))) .refl)
  · exact .struct (.seq ((uint8s_sameBits _ _ _).mono fun _ => .of (by decide)) .refl)

/-! ## The frame of `demefactory` -/

/-- The bits that `demefactory` may change. -/
def disabledMeBits : List (Nat × Nat × Nat) := [
  (0x62, 0, 4), (0x63, 0, 4),
  (0x66, 0, 4), (0x67, 0, 4),
  (0x100, 0, 0),
  (0x200, 0, 0), (0x200, 2, 2)]

theorem IchStrap0.sameBits_meDisable (s : IchStrap0) (off : Nat) (meDisable : BitVec 1) :
    IchStrap0.overlay.SameBits off (inBits off 0 0) { s with meDisable := meDisable } s := by
  refine .struct (.bitFields fun p ht => ?_)
  simp only [inBits] at ht
  exact ⟨fun (_ : 0 ≤ p) (_ : p < 1) => by omega, fun _ _ => rfl, fun _ _ => rfl, fun _ _ => rfl,
    fun _ _ => rfl, fun _ _ => rfl, fun _ _ => rfl, fun _ _ => rfl, fun _ _ => rfl,
    fun _ _ => rfl, fun _ _ => rfl, fun _ _ => rfl, trivial⟩

theorem disabledMe_sameBits (d : DescriptorRegionRecord) :
    DescriptorRegionRecord.overlay.SameBits 0 (AmongBits disabledMeBits)
      (disabledMeDescriptor d) d := by
  rw [disabledMeDescriptor_eq]
  refine DescriptorRegionRecord.sameBits_sections .refl .refl .refl .refl ?_ ?_ ?_
    .refl .refl .refl
  · exact d.masterAccessSection.sameBits_access (by decide)
  · exact .struct (.seq (.seq ((d.ichStraps.ichStrap0.sameBits_meDisable _ _).mono fun _ =>
      .of (by decide)) .refl) .refl)
  · exact .struct (.seq ((d.mchStraps.mchStrap0.sameBits_straps _ _ _).mono fun _ hp =>
      hp.elim (.of (by decide)) (.of (by decide))) .refl)

/-! ## The density codes -/

theorem withDensities_sameBits (d : DescriptorRegionRecord) (density : BitVec 3) :
    DescriptorRegionRecord.overlay.SameBits 0 (inBits 0x10 0 5)
      (d.withDensities density) d := by
  refine DescriptorRegionRecord.sameBits_sections .refl .refl ?_ .refl .refl .refl .refl
    .refl .refl .refl
  exact .struct (.seq (.seq (.seq (d.componentSection.flcomp.sameBits_densities _ _ _) .refl)
    .refl) .refl)

/-! ## What is written -/

/-- The access bits of a master with uniform access. -/
theorem FlMstr.bit_withAccess (m : FlMstr) (access : BitVec 1) {p : Nat}
    (hp : inBits 2 0 4 p ∨ inBits 3 0 4 p) :
    bit (FlMstr.overlay.encode (m.withAccess access)) p = access.getLsbD 0 := by
  have hbit : ∀ (k : Nat) (flag : FlMstr → BitVec 1), ⟨k, 1, flag⟩ ∈ FlMstr.fields.list →
      flag (m.withAccess access) = access →
      bit (FlMstr.overlay.encode (m.withAccess access)) k = access.getLsbD 0 := by
    intro k flag hmem hflag
    rw [FlMstr.fields.bit_flag _ flag hmem, hflag]
  obtain rfl | rfl | rfl | rfl | rfl | rfl | rfl | rfl | rfl | rfl :
      p = 16 ∨ p = 17 ∨ p = 18 ∨ p = 19 ∨ p = 20 ∨ p = 24 ∨ p = 25 ∨ p = 26 ∨ p = 27 ∨ p = 28 := by
    simp only [inBits] at hp
    omega
  · exact hbit 16 fdRegionReadAccess (by simp [fields, Fields.named]) rfl
  · exact hbit 17 biosRegionReadAccess (by simp [fields, Fields.named]) rfl
  · exact hbit 18 meRegionReadAccess (by simp [fields, Fields.named]) rfl
  · exact hbit 19 gbeRegionReadAccess (by simp [fields, Fields.named]) rfl
  · exact hbit 20 pdRegionReadAccess (by simp [fields, Fields.named]) rfl
  · exact hbit 24 fdRegionWriteAccess (by simp [fields, Fields.named]) rfl
  · exact hbit 25 biosRegionWriteAccess (by simp [fields, Fields.named]) rfl
  · exact hbit 26 meRegionWriteAccess (by simp [fields, Fields.named]) rfl
  · exact hbit 27 gbeRegionWriteAccess (by simp [fields, Fields.named]) rfl
  · exact hbit 28 pdRegionWriteAccess (by simp [fields, Fields.named]) rfl

theorem IchStrap0.bit_meDisable (s : IchStrap0) :
    bit (IchStrap0.overlay.encode s) 0 = s.meDisable.getLsbD 0 :=
  IchStrap0.fields.bit_flag s meDisable (by simp [fields, Fields.named])

theorem MchStrap0.bit_meDisable (s : MchStrap0) :
    bit (MchStrap0.overlay.encode s) 0 = s.meDisable.getLsbD 0 :=
  MchStrap0.fields.bit_flag s meDisable (by simp [fields, Fields.named])

theorem MchStrap0.bit_tpmDisable (s : MchStrap0) :
    bit (MchStrap0.overlay.encode s) 2 = s.tpmDisable.getLsbD 0 :=
  MchStrap0.fields.bit_flag s tpmDisable (by simp [fields, Fields.named])

section Written

variable (d : DescriptorRegionRecord) (romSize : BitVec 32)

/-- The host may access every region. -/
theorem bit_deblobbed_host {p : Nat} (hp : inBits 0x62 0 4 p ∨ inBits 0x63 0 4 p) :
    bit (deblobbedDescriptor d romSize).toBytes p = true := by
  simp only [inBits] at hp
  have hsize : FlMstr.overlay.size = 4 := rfl
  rw [(deblobbedDescriptor d romSize).sectionsAt.flMstr1.bit_eq (by omega) (by omega),
    deblobbedDescriptor_eq]
  refine (d.masterAccessSection.flMstr1.bit_withAccess 1 ?_).trans rfl
  simp only [inBits]
  omega

/-- The ME may access no region. -/
theorem bit_deblobbed_me {p : Nat} (hp : inBits 0x66 0 4 p ∨ inBits 0x67 0 4 p) :
    bit (deblobbedDescriptor d romSize).toBytes p = false := by
  simp only [inBits] at hp
  have hsize : FlMstr.overlay.size = 4 := rfl
  rw [(deblobbedDescriptor d romSize).flMstr2_at.bit_eq (by omega) (by omega),
    deblobbedDescriptor_eq]
  refine (d.masterAccessSection.flMstr2.bit_withAccess 0 ?_).trans rfl
  simp only [inBits]
  omega

/-- The ME is disabled in both places, and the TPM is disabled. -/
theorem bit_deblobbed_straps :
    bit (deblobbedDescriptor d romSize).toBytes (8 * 0x100) = true
      ∧ bit (deblobbedDescriptor d romSize).toBytes (8 * 0x200) = true
      ∧ bit (deblobbedDescriptor d romSize).toBytes (8 * 0x200 + 2) = true := by
  refine ⟨?_, ?_, ?_⟩
  · rw [(deblobbedDescriptor d romSize).sectionsAt.ichStrap0.bit_eq (by decide) (by decide),
      deblobbedDescriptor_eq]
    exact (IchStrap0.bit_meDisable _).trans (show (1 : BitVec 1).getLsbD 0 = true by decide)
  · rw [(deblobbedDescriptor d romSize).sectionsAt.mchStrap0.bit_eq (by decide) (by decide),
      deblobbedDescriptor_eq]
    exact (MchStrap0.bit_meDisable _).trans (show (1 : BitVec 1).getLsbD 0 = true by decide)
  · rw [(deblobbedDescriptor d romSize).sectionsAt.mchStrap0.bit_eq (by decide) (by decide),
      deblobbedDescriptor_eq]
    exact (MchStrap0.bit_tpmDisable _).trans (show (1 : BitVec 1).getLsbD 0 = true by decide)

/-- The OEM section begins with the magic string. -/
theorem take_deblobbed_oem :
    ((deblobbedDescriptor d romSize).toBytes.drop 0xF00).take 8 = ascii "LIBERATE" := by
  refine (deblobbedDescriptor d romSize).magicString_at.trans ?_
  show (uint8s 8).encode oemString = ascii "LIBERATE"
  decide

end Written

/--
**The rewrite is bit-exact.** For every buffer and every ROM size, only the bits of `rewrittenBits`
may change. The access bits, the disabling straps and the OEM string come out as stated, whatever
the buffer held.
-/
theorem deblobbed_bits_exact (b : Vector Byte 4096) (romSize : BitVec 32) :
    let out := (deblobbedDescriptor (.ofBytes b.toList) romSize).toBytes
    out.length = 4096
      ∧ (∀ p < 8 * 4096, ¬ AmongBits rewrittenBits p → bit out p = bit b.toList p)
      ∧ (∀ p, inBits 0x62 0 4 p ∨ inBits 0x63 0 4 p → bit out p = true)
      ∧ (∀ p, inBits 0x66 0 4 p ∨ inBits 0x67 0 4 p → bit out p = false)
      ∧ bit out (8 * 0x100) = true
      ∧ bit out (8 * 0x200) = true
      ∧ bit out (8 * 0x200 + 2) = true
      ∧ (out.drop 0xF00).take 8 = ascii "LIBERATE" := by
  intro out
  obtain ⟨hich, hmch, htpm⟩ := bit_deblobbed_straps (.ofBytes b.toList) romSize
  refine ⟨DescriptorRegionRecord.length_toBytes _, ?_, fun p hp => bit_deblobbed_host _ _ hp,
    fun p hp => bit_deblobbed_me _ _ hp, hich, hmch, htpm, take_deblobbed_oem _ _⟩
  intro p hp htouched
  have hlen : b.toList.length = DescriptorRegionRecord.overlay.size := Vector.length_toList
  have hframe := deblobbedAs_sameBits (definesGbe (.ofBytes b.toList)) (.ofBytes b.toList) romSize
    p hp (by simpa using htouched)
  rw [← deblobbedDescriptor_eq, DescriptorRegionRecord.overlay.encode_decode_of_length hlen]
    at hframe
  exact hframe

end Libreboot
