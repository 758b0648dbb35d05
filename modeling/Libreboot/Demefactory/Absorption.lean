import Libreboot.Demefactory.Main
import Libreboot.Descriptor.Frame
import Libreboot.Ich9deblob.Runs

/-!
# ich9deblob absorbs demefactory

Putting the output of `demefactory` in front of an image makes no difference to `ich9deblob`. On
descriptors this is the absorption of one rewriting by the other. On images there is one more thing
to see: if the descriptor says that the GbE region lies at the beginning of the image, the patch
changes the main block of that region. But only the backup block is used.
-/

namespace Libreboot

open Infra

/-! ## What disabling the ME leaves alone -/

/-- Everything but the access bits of the host and the ME and the three disable straps. -/
structure LeavesLayout (d d' : DescriptorRegionRecord) : Prop where
  flValSig : d'.flValSig = d.flValSig
  flMaps : d'.flMaps = d.flMaps
  componentSection : d'.componentSection = d.componentSection
  regionSection : d'.regionSection = d.regionSection
  requesterId1 : d'.masterAccessSection.flMstr1.requesterId
    = d.masterAccessSection.flMstr1.requesterId
  reserved1_1 : d'.masterAccessSection.flMstr1.reserved1 = d.masterAccessSection.flMstr1.reserved1
  reserved1_2 : d'.masterAccessSection.flMstr1.reserved2 = d.masterAccessSection.flMstr1.reserved2
  requesterId2 : d'.masterAccessSection.flMstr2.requesterId
    = d.masterAccessSection.flMstr2.requesterId
  reserved2_1 : d'.masterAccessSection.flMstr2.reserved1 = d.masterAccessSection.flMstr2.reserved1
  reserved2_2 : d'.masterAccessSection.flMstr2.reserved2 = d.masterAccessSection.flMstr2.reserved2
  flMstr3 : d'.masterAccessSection.flMstr3 = d.masterAccessSection.flMstr3
  masterPadding : d'.masterAccessSection.padding = d.masterAccessSection.padding
  ichStrap0 : { d'.ichStraps.ichStrap0 with meDisable := d.ichStraps.ichStrap0.meDisable }
    = d.ichStraps.ichStrap0
  ichStrap1 : d'.ichStraps.ichStrap1 = d.ichStraps.ichStrap1
  ichPadding : d'.ichStraps.padding = d.ichStraps.padding
  mchStrap0 : { d'.mchStraps.mchStrap0 with
    meDisable := d.mchStraps.mchStrap0.meDisable
    tpmDisable := d.mchStraps.mchStrap0.tpmDisable } = d.mchStraps.mchStrap0
  mchPadding : d'.mchStraps.padding = d.mchStraps.padding
  meVsccTable : d'.meVsccTable = d.meVsccTable
  descriptor2Map : d'.descriptor2Map = d.descriptor2Map
  oemSection : d'.oemSection = d.oemSection

theorem leavesLayout_disabledMe (d : DescriptorRegionRecord) :
    LeavesLayout d (disabledMeDescriptor d) := by
  rw [disabledMeDescriptor_eq]
  constructor <;> rfl

namespace Ich9deblob

/-! ## The patched image -/

/-- An image whose first 4 KiB are replaced by the output of `demefactory`. -/
def withDisabledMe (fp : Bytes) : Bytes :=
  (disabledMeDescriptor (.ofBytes fp)).toBytes ++ fp.drop 4096

variable {fp : Bytes}

theorem length_withDisabledMe (h : 4096 ≤ fp.length) :
    (withDisabledMe fp).length = fp.length := by
  rw [withDisabledMe, List.length_append, DescriptorRegionRecord.length_toBytes, List.length_drop]
  omega

variable (fp)

theorem ofBytes_withDisabledMe :
    DescriptorRegionRecord.ofBytes (withDisabledMe fp) = disabledMeDescriptor (.ofBytes fp) := by
  rw [withDisabledMe, DescriptorRegionRecord.ofBytes_toBytes_append]

theorem definesGbeRegion_withDisabledMe :
    descriptorDefinesGbeRegion (.ofBytes (withDisabledMe fp))
      = descriptorDefinesGbeRegion (.ofBytes fp) := by
  rw [ofBytes_withDisabledMe]
  exact descriptorDefinesGbeRegion_congr (definesGbe_disabledMe _)

theorem gbeRegionStart_withDisabledMe :
    gbeRegionStart (.ofBytes (withDisabledMe fp)) = gbeRegionStart (.ofBytes fp) := by
  rw [ofBytes_withDisabledMe, disabledMeDescriptor_eq]
  rfl

/-- From the second page on the image is the same. -/
theorem drop_withDisabledMe (n : Nat) :
    (withDisabledMe fp).drop (n + 4096) = fp.drop (n + 4096) := by
  have hfirst : (withDisabledMe fp).drop 4096 = fp.drop 4096 :=
    List.drop_left' (DescriptorRegionRecord.length_toBytes _)
  rw [Nat.add_comm, ← List.drop_drop, hfirst, List.drop_drop]

/-- The backup block begins at least one page into the image. -/
theorem outputGbe_withDisabledMe : outputGbe (withDisabledMe fp) = outputGbe fp := by
  refine deblobbedGbe_congr ?_
  rw [GbeRegionRecord8k.backup_ofBytes, GbeRegionRecord8k.backup_ofBytes,
    gbeRegionStart_withDisabledMe, List.drop_drop, List.drop_drop, drop_withDisabledMe]

variable {fp}

theorem outputDescriptor_withDisabledMe (h : 4096 ≤ fp.length) :
    outputDescriptor (withDisabledMe fp) = outputDescriptor fp := by
  rw [outputDescriptor, outputDescriptor, ofBytes_withDisabledMe, length_withDisabledMe h,
    deblobbed_disabledMe]

theorem complete_withDisabledMe_iff (h : 4096 ≤ fp.length) :
    Complete (withDisabledMe fp) ↔ Complete fp := by
  unfold Complete
  rw [definesGbeRegion_withDisabledMe, gbeRegionStart_withDisabledMe, List.length_drop,
    List.length_drop, length_withDisabledMe h]

/-! ## Two runs -/

/-- A run on the patched image does what a run on the original image does. -/
theorem main_withDisabledMe (lib : CLib) (h : 4096 ≤ fp.length) (w : World)
    (d d' : DescriptorRegionRecord) (g g' : GbeRegionRecord8k) :
    (main lib d' g' (w.setFile romFilename (some (withDisabledMe fp)))).1
        = (main lib d g (w.setFile romFilename (some fp))).1
      ∧ ∀ name, name ≠ romFilename →
        (main lib d' g' (w.setFile romFilename (some (withDisabledMe fp)))).2.files name
          = (main lib d g (w.setFile romFilename (some fp))).2.files name := by
  have hsame : ∀ content content' : Bytes, CFun.AgreeOn (· ≠ romFilename)
      (w.setFile romFilename (some content)) (w.setFile romFilename (some content')) :=
    fun _ _ name hname => by
      rw [World.files_setFile_of_ne hname, World.files_setFile_of_ne hname]
  cases hopens : (lib romFilename).opens with
  | false =>
    -- neither run gets past opening the image
    have hclosed : ∀ (d : DescriptorRegionRecord) (g : GbeRegionRecord8k) (w : World),
        (main lib d g w).1 = none ∧ (main lib d g w).2.files = w.files := by
      intro d g w
      have hopen : fopenRead lib romFilename w = none := by
        rw [fopenRead, hopens]
        rfl
      rw [main, systemOrCompilerIncompatible_eq, CFun.orReturn1_return0, withFactoryRom, hopen]
      exact ⟨rfl, rfl⟩
    obtain ⟨hstatus, hfiles⟩ := hclosed d g (w.setFile romFilename (some fp))
    obtain ⟨hstatus', hfiles'⟩ := hclosed d' g' (w.setFile romFilename (some (withDisabledMe fp)))
    refine ⟨hstatus'.trans hstatus.symm, fun name hname => ?_⟩
    rw [hfiles, hfiles']
    exact hsame _ _ name hname
  | true =>
    have hopen : ∀ content : Bytes,
        fopenRead lib romFilename (w.setFile romFilename (some content)) = some content := by
      intro content
      rw [fopenRead, if_pos hopens, World.files_setFile_self]
    by_cases hcomplete : Complete fp
    · -- both runs go on to create files, from the same structs
      obtain ⟨w₁, hw₁, hmain⟩ := main_of_complete d g (hopen fp) hcomplete
      obtain ⟨w₂, hw₂, hmain'⟩ := main_of_complete d' g' (hopen (withDisabledMe fp))
        ((complete_withDisabledMe_iff h).mpr hcomplete)
      have hagree : CFun.AgreeOn (· ≠ romFilename) w₂ w₁ := fun name hname => by
        rw [hw₁, hw₂]
        exact hsame _ _ name hname
      rw [hmain, hmain', outputDescriptor_withDisabledMe h, outputGbe_withDisabledMe]
      exact createFiles_agrees _ _ (by decide) (by decide) w₂ w₁ hagree
    · obtain ⟨hstatus, hfiles⟩ := main_of_not_complete d g (hopen fp) hcomplete
      obtain ⟨hstatus', hfiles'⟩ := main_of_not_complete d' g' (hopen (withDisabledMe fp))
        (fun hc => hcomplete ((complete_withDisabledMe_iff h).mp hc))
      refine ⟨hstatus'.trans hstatus.symm, fun name hname => ?_⟩
      rw [hfiles, hfiles']
      exact hsame _ _ name hname

end Ich9deblob

/--
**`ich9deblob` absorbs `demefactory`, in either order.** Disabling the ME twice is disabling it
once, deblobbing makes no difference between a descriptor and the one with the ME disabled, and
finds nothing left to disable. Outside ten access bits for each of the host and the ME and three
straps, disabling the ME changes no bit. A run of `ich9deblob` on an image that begins with what
`demefactory` wrote ends in the same way, with the same files, as a run on the original image.
-/
theorem ich9deblob_absorbs_demefactory (F : DescriptorRegionRecord) (romSize : BitVec 32)
    (I : Bytes) (hI : 4096 ≤ I.length) :
    disabledMeDescriptor (disabledMeDescriptor F) = disabledMeDescriptor F
      ∧ deblobbedDescriptor (disabledMeDescriptor F) romSize = deblobbedDescriptor F romSize
      ∧ disabledMeDescriptor (deblobbedDescriptor F romSize) = deblobbedDescriptor F romSize
      ∧ LeavesLayout F (disabledMeDescriptor F)
      ∧ (∀ p < 8 * 4096, ¬ AmongBits disabledMeBits p →
        bit (disabledMeDescriptor F).toBytes p = bit F.toBytes p)
      ∧ (∀ (lib : CLib) (w : World) (d : DescriptorRegionRecord),
        (lib Demefactory.descriptorFilename).NoSilentLoss → w.files romFilename = some I →
        (Demefactory.main lib d w).1 = some 0 →
        (Demefactory.main lib d w).2.files Demefactory.descriptorFilename
          = some (disabledMeDescriptor (.ofBytes I)).toBytes)
      ∧ ∀ (lib : CLib) (w : World) (d d' : DescriptorRegionRecord) (g g' : GbeRegionRecord8k),
        let run := Ich9deblob.main lib d g (w.setFile romFilename (some I))
        let run' := Ich9deblob.main lib d' g' (w.setFile romFilename
          (some ((disabledMeDescriptor (.ofBytes I)).toBytes ++ I.drop 4096)))
        run'.1 = run.1 ∧ ∀ name, name ≠ romFilename → run'.2.files name = run.2.files name := by
  refine ⟨disabledMe_disabledMe F, deblobbed_disabledMe F romSize, disabledMe_deblobbed F romSize,
    leavesLayout_disabledMe F, fun p hp hbits => ?_, fun lib w d hlib hrom hzero => ?_,
    fun lib w d d' g g' => Ich9deblob.main_withDisabledMe lib hI w d d' g g'⟩
  · exact disabledMe_sameBits F p hp (by simpa using hbits)
  · exact (Demefactory.main_creates_descriptor hlib hrom d hzero).2

/-- The shipped descriptor with the ME in use. -/
def enabledMe : DescriptorRegionRecord :=
  { generatedDescriptorStruct (BitVec.ofNat 32 ROMSIZE_4MB) 1 with
    ichStraps.ichStrap0.meDisable := 0
    mchStraps.mchStrap0.meDisable := 0 }

namespace Ich9deblob

def enabledMeImage : Bytes := enabledMe.toBytes ++ generatedGbeStruct8k.toBytes

/-- Running `demefactory` on this image first makes a difference to its descriptor, but none to the
image that is created. -/
theorem ich9deblob_absorbs_demefactory_shipped :
    disabledMeDescriptor enabledMe ≠ enabledMe
      ∧ deblobbedDescriptor (disabledMeDescriptor enabledMe) 0x400000
        = deblobbedDescriptor enabledMe 0x400000
      ∧ (main .reliable (.ofBytes []) (.ofBytes [])
        ((World.holding []).setFile romFilename (some (withDisabledMe enabledMeImage)))).1 = some 0
      ∧ ∃ image,
        (main .reliable (.ofBytes []) (.ofBytes [])
          ((World.holding []).setFile romFilename (some enabledMeImage))).2.files
            descriptorGbeFilename = some image
        ∧ (main .reliable (.ofBytes []) (.ofBytes [])
          ((World.holding []).setFile romFilename (some (withDisabledMe enabledMeImage)))).2.files
            descriptorGbeFilename = some image := by
  have hcomplete : Complete enabledMeImage := complete_append rfl generatedGbeStruct8k
  obtain ⟨-, habsorbs, -, -, -, -, hruns⟩ :=
    ich9deblob_absorbs_demefactory enabledMe 0x400000 enabledMeImage hcomplete.1
  obtain ⟨hstatus, hfiles⟩ := hruns .reliable (.holding []) (.ofBytes []) (.ofBytes [])
    (.ofBytes []) (.ofBytes [])
  rw [← withDisabledMe] at hstatus hfiles
  obtain ⟨hzero, hcreated⟩ := main_creates_image (.ofBytes []) (.ofBytes [])
    CLib.reliable_reliable (World.files_setFile_self romFilename _ (.holding [])) hcomplete
  have hname : imageFilename (outputDescriptor enabledMeImage) = descriptorGbeFilename := by
    have hdef : descriptorDefinesGbeRegion enabledMe ≠ 0 := by decide
    rw [imageFilename_output, enabledMeImage, enabledMe.ofBytes_toBytes_append, imageFilename,
      if_pos hdef]
  rw [hname] at hcreated
  refine ⟨fun h => ?_, habsorbs, hstatus.trans hzero, _, hcreated, ?_⟩
  · exact absurd (congrArg (·.ichStraps.ichStrap0.meDisable) h) (by decide)
  · exact (hfiles descriptorGbeFilename (by decide)).trans hcreated

end Ich9deblob

end Libreboot
