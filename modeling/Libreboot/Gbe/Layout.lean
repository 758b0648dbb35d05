import Libreboot.Descriptor.Layout
import Libreboot.Gbe.Struct

/-!
# The layout of the GbE region

The bits of every field of `gbe/gbe.h`, in the same way as those of the descriptor, and the words
of the datasheet.

* `GbeRegionRecord8k.fields` — all fields of the GbE region, from the first bit to the last
* `GbeRegionRecord4k.wordsAt` — word `n` lies at bytes `2 * n` and `2 * n + 1` of its block
* `overlays_bijective` — both structs are bijective codecs of their regions
-/

namespace Libreboot

open Infra

/-! ## Configuration words -/

def GbeReservedWord03h.fields : Fields GbeReservedWord03h.overlay :=
  Fields.bitFields.struct.named
    [⟨0, 8, reserved1_0⟩, ⟨8, 3, reserved1_1⟩, ⟨11, 1, ibaLom⟩, ⟨12, 4, reserved2⟩]

def GbePciInitializationControlWord.fields : Fields GbePciInitializationControlWord.overlay :=
  Fields.bitFields.struct.named
    [⟨0, 1, loadVendorDeviceId⟩, ⟨1, 1, loadSubsystemId⟩, ⟨2, 1, reserved1⟩, ⟨3, 3, reserved2⟩,
     ⟨6, 1, pmEnable⟩, ⟨7, 1, auxPwr⟩, ⟨8, 4, reserved3⟩, ⟨12, 4, reserved4⟩]

def GbeLanPowerConsumption.fields : Fields GbeLanPowerConsumption.overlay :=
  Fields.bitFields.struct.named
    [⟨0, 5, lanD3Power⟩, ⟨5, 3, reserved⟩, ⟨8, 8, lanD0Power⟩]

def GbeSharedInitializationControlWord.fields : Fields GbeSharedInitializationControlWord.overlay :=
  Fields.bitFields.struct.named
    [⟨0, 3, reserved1⟩, ⟨3, 1, forceDuplex⟩, ⟨4, 1, forceSpeedEnable⟩, ⟨5, 3, reserved2_0⟩,
     ⟨8, 1, reserved2_1⟩, ⟨9, 1, phyPowerDownEnable⟩, ⟨10, 1, reserved3⟩, ⟨11, 3, reserved4⟩,
     ⟨14, 2, sign⟩]

def GbeExtendedConfigurationControlWord1.fields :
    Fields GbeExtendedConfigurationControlWord1.overlay :=
  Fields.bitFields.struct.named
    [⟨0, 12, extendedConfigurationPointer⟩, ⟨12, 1, oemWriteEnable⟩, ⟨13, 1, reserved1⟩,
     ⟨14, 1, reserved2⟩, ⟨15, 1, reserved3⟩]

def GbeExtendedConfigurationControlWord2.fields :
    Fields GbeExtendedConfigurationControlWord2.overlay :=
  Fields.bitFields.struct.named
    [⟨0, 8, reserved⟩, ⟨8, 8, extendedPhyLength⟩]

def LedCtl1.fields : Fields LedCtl1.overlay :=
  Fields.bitFields.struct.named
    [⟨0, 4, led1Mode⟩, ⟨4, 1, reserved1⟩, ⟨5, 1, led1BlinkMode⟩, ⟨6, 1, led1Invert⟩,
     ⟨7, 1, led1Blink⟩, ⟨8, 1, reserved2⟩, ⟨9, 1, lpluEnable⟩, ⟨10, 1, lpluEnableNonD0a⟩,
     ⟨11, 1, gbeDisableNonD0a⟩, ⟨12, 2, reserved3⟩, ⟨14, 1, gbeDisable⟩, ⟨15, 1, reserved4⟩]

def LedCtl02.fields : Fields LedCtl02.overlay :=
  Fields.bitFields.struct.named
    [⟨0, 4, led0Mode⟩, ⟨4, 1, reserved1⟩, ⟨5, 1, led0BlinkMode⟩, ⟨6, 1, led0Invert⟩,
     ⟨7, 1, led0Blink⟩, ⟨8, 4, led2Mode⟩, ⟨12, 1, reserved2⟩, ⟨13, 1, led2BlinkMode⟩,
     ⟨14, 1, led2Invert⟩, ⟨15, 1, led2Blink⟩]

def GbePxeBootAgentMainSetupOptions.fields : Fields GbePxeBootAgentMainSetupOptions.overlay :=
  Fields.bitFields.struct.named
    [⟨0, 2, protocolSelect⟩, ⟨2, 1, reserved1⟩, ⟨3, 2, defaultBootSelection⟩, ⟨5, 1, reserved2⟩,
     ⟨6, 2, promptTime⟩, ⟨8, 1, displaySetupMessage⟩, ⟨9, 1, reserved3⟩, ⟨10, 2, forceSpeed⟩,
     ⟨12, 1, forceFullDuplex⟩, ⟨13, 1, reserved4⟩, ⟨14, 1, efiPresence⟩, ⟨15, 1, pxePresence⟩]

def GbePxeBootAgentConfigurationCustomizationOptions31h.fields :
    Fields GbePxeBootAgentConfigurationCustomizationOptions31h.overlay :=
  Fields.bitFields.struct.named
    [⟨0, 1, disableSetupMenu⟩, ⟨1, 1, disableTitleMessage⟩, ⟨2, 1, disableProtocolSelect⟩,
     ⟨3, 1, disableBootSelection⟩, ⟨4, 1, disableLegacyWakeupSupport⟩, ⟨5, 1, disableFlashUpdate⟩,
     ⟨6, 2, reserved1⟩, ⟨8, 3, ibaBootOrderSetupMode⟩, ⟨11, 3, reserved2⟩, ⟨14, 2, signature⟩]

def GbePxeBootAgentConfigurationCustomizationOptions32h.fields :
    Fields GbePxeBootAgentConfigurationCustomizationOptions32h.overlay :=
  Fields.bitFields.struct.named
    [⟨0, 8, buildNumber⟩, ⟨8, 4, minorVersionNumber⟩, ⟨12, 4, majorVersionNumber⟩]

def GbePxeIbaCapabilities.fields : Fields GbePxeIbaCapabilities.overlay :=
  Fields.bitFields.struct.named
    [⟨0, 1, baseCodePresent⟩, ⟨1, 1, undiCapabilityPresent⟩, ⟨2, 1, reserved1⟩,
     ⟨3, 1, efiUndiCapabilityPresent⟩, ⟨4, 4, reserved2_0⟩, ⟨8, 6, reserved2_1⟩, ⟨14, 2, signature⟩]

/-! ## Blocks -/

def GbePxeSoftwareRegion.fields : Fields GbePxeSoftwareRegion.overlay :=
  GbePxeBootAgentMainSetupOptions.fields
    |>.seq GbePxeBootAgentConfigurationCustomizationOptions31h.fields
    |>.seq GbePxeBootAgentConfigurationCustomizationOptions32h.fields
    |>.seq GbePxeIbaCapabilities.fields |>.seq uint16s.fields |>.struct

def GbeRegionRecord4k.fields : Fields GbeRegionRecord4k.overlay :=
  uint8s.fields |>.seq GbeReservedWord03h.fields |>.seq uint16.fields |>.seq uint16.fields
    |>.seq uint16s.fields |>.seq uint16.fields |>.seq uint16.fields
    |>.seq GbePciInitializationControlWord.fields |>.seq uint16.fields |>.seq uint16.fields
    |>.seq uint16.fields |>.seq uint16.fields |>.seq uint16.fields
    |>.seq GbeLanPowerConsumption.fields |>.seq uint16s.fields
    |>.seq GbeSharedInitializationControlWord.fields
    |>.seq GbeExtendedConfigurationControlWord1.fields
    |>.seq GbeExtendedConfigurationControlWord2.fields |>.seq uint16.fields |>.seq LedCtl1.fields
    |>.seq LedCtl02.fields |>.seq uint16.fields |>.seq uint16.fields |>.seq uint16.fields
    |>.seq uint16.fields |>.seq uint16.fields |>.seq uint16.fields |>.seq uint16.fields
    |>.seq uint16.fields |>.seq uint16.fields |>.seq uint16.fields |>.seq uint16.fields
    |>.seq uint16s.fields |>.seq GbePxeSoftwareRegion.fields |>.seq uint16.fields
    |>.seq uint8s.fields |>.struct

def GbeRegionRecord8k.fields : Fields GbeRegionRecord8k.overlay :=
  GbeRegionRecord4k.fields |>.seq GbeRegionRecord4k.fields |>.struct

/-! ## The words of the datasheet -/

/-- The block that starts at byte `half` holds `x` from word `n` on. -/
abbrev AtWord {α : Type} (l : Bytes) (half n : Nat) (o : Overlay α) (x : α) : Prop :=
  o.StoredAt l (half + 2 * n) x

/-- Element `i` of an array of words. -/
theorem AtWord.element {l : Bytes} {half n count : Nat} {v : Vector (BitVec 16) count}
    (h : AtWord l half n (uint16s count) v) (i : Fin count) :
    AtWord l half (n + i) uint16 (v.get i) := by
  have hat : uint16.StoredAt l (half + 2 * n + i * 2) (v.get i) := Overlay.StoredAt.element h i
  have hword : half + 2 * (n + i) = half + 2 * n + i * 2 := by omega
  rwa [AtWord, hword]

/-- The words of the datasheet, in the block that starts at byte `half`. -/
structure GbeRegionRecord4k.WordsAt (l : Bytes) (half : Nat) (g : GbeRegionRecord4k) : Prop where
  macAddress : AtWord l half 0x00 (uint8s 6) g.macAddress
  reservedWord03h : AtWord l half 0x03 GbeReservedWord03h.overlay g.reservedWord03h
  reservedWord04h : AtWord l half 0x04 uint16 g.reservedWord04h
  imageVersionInformation : AtWord l half 0x05 uint16 g.imageVersionInformation
  reservedWords06h07h : ∀ i : Fin 2, AtWord l half (0x06 + i) uint16 (g.reservedWords06h07h.get i)
  pbaLow : AtWord l half 0x08 uint16 g.pbaLow
  pbaHigh : AtWord l half 0x09 uint16 g.pbaHigh
  pciInitializationControlWord :
    AtWord l half 0x0A GbePciInitializationControlWord.overlay g.pciInitializationControlWord
  subsystemId : AtWord l half 0x0B uint16 g.subsystemId
  subsystemVendorId : AtWord l half 0x0C uint16 g.subsystemVendorId
  deviceId : AtWord l half 0x0D uint16 g.deviceId
  vendorId : AtWord l half 0x0E uint16 g.vendorId
  deviceRevId : AtWord l half 0x0F uint16 g.deviceRevId
  lanPowerConsumption : AtWord l half 0x10 GbeLanPowerConsumption.overlay g.lanPowerConsumption
  reservedWords11h12h : ∀ i : Fin 2, AtWord l half (0x11 + i) uint16 (g.reservedWords11h12h.get i)
  sharedInitializationControlWord :
    AtWord l half 0x13 GbeSharedInitializationControlWord.overlay g.sharedInitializationControlWord
  extendedConfigurationControlWord1 :
    AtWord l half 0x14 GbeExtendedConfigurationControlWord1.overlay
      g.extendedConfigurationControlWord1
  extendedConfigurationControlWord2 :
    AtWord l half 0x15 GbeExtendedConfigurationControlWord2.overlay
      g.extendedConfigurationControlWord2
  extendedConfigurationControlWord3 : AtWord l half 0x16 uint16 g.extendedConfigurationControlWord3
  ledCtl1 : AtWord l half 0x17 LedCtl1.overlay g.ledCtl1
  ledCtl02 : AtWord l half 0x18 LedCtl02.overlay g.ledCtl02
  reservedWord19h : AtWord l half 0x19 uint16 g.reservedWord19h
  reservedWord1Ah : AtWord l half 0x1A uint16 g.reservedWord1Ah
  reservedWord1Bh : AtWord l half 0x1B uint16 g.reservedWord1Bh
  reservedWord1Ch : AtWord l half 0x1C uint16 g.reservedWord1Ch
  reservedWord1Dh : AtWord l half 0x1D uint16 g.reservedWord1Dh
  _82567lmDeviceId : AtWord l half 0x1E uint16 g._82567lmDeviceId
  _82567lfDeviceId : AtWord l half 0x1F uint16 g._82567lfDeviceId
  reservedWord20h : AtWord l half 0x20 uint16 g.reservedWord20h
  _82567vDeviceId : AtWord l half 0x21 uint16 g._82567vDeviceId
  reservedWord22h : AtWord l half 0x22 uint16 g.reservedWord22h
  reservedWord23h : AtWord l half 0x23 uint16 g.reservedWord23h
  reservedWords24to2Fh :
    ∀ i : Fin 12, AtWord l half (0x24 + i) uint16 (g.reservedWords24to2Fh.get i)
  bootAgentMainSetupOptions :
    AtWord l half 0x30 GbePxeBootAgentMainSetupOptions.overlay
      g.pxeSoftwareRegion.bootAgentMainSetupOptions
  bootAgentConfigurationCustomizationOptions31h :
    AtWord l half 0x31 GbePxeBootAgentConfigurationCustomizationOptions31h.overlay
      g.pxeSoftwareRegion.bootAgentConfigurationCustomizationOptions31h
  bootAgentConfigurationCustomizationOptions32h :
    AtWord l half 0x32 GbePxeBootAgentConfigurationCustomizationOptions32h.overlay
      g.pxeSoftwareRegion.bootAgentConfigurationCustomizationOptions32h
  ibaCapabilities :
    AtWord l half 0x33 GbePxeIbaCapabilities.overlay g.pxeSoftwareRegion.ibaCapabilities
  paddingWords34hTo3Eh :
    ∀ i : Fin 11, AtWord l half (0x34 + i) uint16 (g.pxeSoftwareRegion.paddingWords34hTo3Eh.get i)
  checkSum : AtWord l half 0x3F uint16 g.checkSum
  padding : AtWord l half 0x40 (uint8s 3968) g.padding

/-- **A block has every word of the datasheet at its place.** -/
theorem GbeRegionRecord4k.wordsAt {l : Bytes} {half : Nat} {g : GbeRegionRecord4k}
    (hat : GbeRegionRecord4k.overlay.StoredAt l half g) : WordsAt l half g := by
  have hpxe : AtWord l half 0x30 GbePxeSoftwareRegion.overlay g.pxeSoftwareRegion :=
    hat.member (·.pxeSoftwareRegion) (2 * 0x30)
  exact
    { macAddress := hat.member (·.macAddress) (2 * 0x00)
      reservedWord03h := hat.member (·.reservedWord03h) (2 * 0x03)
      reservedWord04h := hat.member (·.reservedWord04h) (2 * 0x04)
      imageVersionInformation := hat.member (·.imageVersionInformation) (2 * 0x05)
      reservedWords06h07h := AtWord.element (hat.member (·.reservedWords06h07h) (2 * 0x06))
      pbaLow := hat.member (·.pbaLow) (2 * 0x08)
      pbaHigh := hat.member (·.pbaHigh) (2 * 0x09)
      pciInitializationControlWord := hat.member (·.pciInitializationControlWord) (2 * 0x0A)
      subsystemId := hat.member (·.subsystemId) (2 * 0x0B)
      subsystemVendorId := hat.member (·.subsystemVendorId) (2 * 0x0C)
      deviceId := hat.member (·.deviceId) (2 * 0x0D)
      vendorId := hat.member (·.vendorId) (2 * 0x0E)
      deviceRevId := hat.member (·.deviceRevId) (2 * 0x0F)
      lanPowerConsumption := hat.member (·.lanPowerConsumption) (2 * 0x10)
      reservedWords11h12h := AtWord.element (hat.member (·.reservedWords11h12h) (2 * 0x11))
      sharedInitializationControlWord := hat.member (·.sharedInitializationControlWord) (2 * 0x13)
      extendedConfigurationControlWord1 :=
        hat.member (·.extendedConfigurationControlWord1) (2 * 0x14)
      extendedConfigurationControlWord2 :=
        hat.member (·.extendedConfigurationControlWord2) (2 * 0x15)
      extendedConfigurationControlWord3 :=
        hat.member (·.extendedConfigurationControlWord3) (2 * 0x16)
      ledCtl1 := hat.member (·.ledCtl1) (2 * 0x17)
      ledCtl02 := hat.member (·.ledCtl02) (2 * 0x18)
      reservedWord19h := hat.member (·.reservedWord19h) (2 * 0x19)
      reservedWord1Ah := hat.member (·.reservedWord1Ah) (2 * 0x1A)
      reservedWord1Bh := hat.member (·.reservedWord1Bh) (2 * 0x1B)
      reservedWord1Ch := hat.member (·.reservedWord1Ch) (2 * 0x1C)
      reservedWord1Dh := hat.member (·.reservedWord1Dh) (2 * 0x1D)
      _82567lmDeviceId := hat.member (·._82567lmDeviceId) (2 * 0x1E)
      _82567lfDeviceId := hat.member (·._82567lfDeviceId) (2 * 0x1F)
      reservedWord20h := hat.member (·.reservedWord20h) (2 * 0x20)
      _82567vDeviceId := hat.member (·._82567vDeviceId) (2 * 0x21)
      reservedWord22h := hat.member (·.reservedWord22h) (2 * 0x22)
      reservedWord23h := hat.member (·.reservedWord23h) (2 * 0x23)
      reservedWords24to2Fh := AtWord.element (hat.member (·.reservedWords24to2Fh) (2 * 0x24))
      bootAgentMainSetupOptions := hpxe.member (·.bootAgentMainSetupOptions) 0
      bootAgentConfigurationCustomizationOptions31h :=
        hpxe.member (·.bootAgentConfigurationCustomizationOptions31h) 2
      bootAgentConfigurationCustomizationOptions32h :=
        hpxe.member (·.bootAgentConfigurationCustomizationOptions32h) 4
      ibaCapabilities := hpxe.member (·.ibaCapabilities) 6
      paddingWords34hTo3Eh := AtWord.element (hpxe.member (·.paddingWords34hTo3Eh) 8)
      checkSum := hat.member (·.checkSum) (2 * 0x3F)
      padding := hat.member (·.padding) (2 * 0x40) }

/-! ## Both regions -/

/--
**The struct overlays are bijective codecs of the flash formats.** Every 4096-byte buffer is one
descriptor and every 8192-byte buffer is one GbE region; their fields take each bit exactly once;
the sections and the words lie where the datasheets have them.
-/
theorem overlays_bijective :
    DescriptorRegionRecord.overlay.size = 4096
      ∧ BijectiveCodec DescriptorRegionRecord.overlay DescriptorRegionRecord.fields.list
      ∧ (∀ d : DescriptorRegionRecord, DescriptorRegionRecord.SectionsAt d.toBytes d)
      ∧ GbeRegionRecord8k.overlay.size = 8192
      ∧ BijectiveCodec GbeRegionRecord8k.overlay GbeRegionRecord8k.fields.list
      ∧ ∀ g : GbeRegionRecord8k, GbeRegionRecord4k.WordsAt g.toBytes 0 g.main
        ∧ GbeRegionRecord4k.WordsAt g.toBytes 0x1000 g.backup := by
  refine ⟨rfl, DescriptorRegionRecord.fields.bijectiveCodec, DescriptorRegionRecord.sectionsAt, rfl,
    GbeRegionRecord8k.fields.bijectiveCodec, fun g => ?_⟩
  have hat := Overlay.StoredAt.encode GbeRegionRecord8k.overlay g
  exact ⟨GbeRegionRecord4k.wordsAt (hat.member (·.main) 0),
    GbeRegionRecord4k.wordsAt (hat.member (·.backup) 0x1000)⟩

end Libreboot
