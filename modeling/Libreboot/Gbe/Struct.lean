import Libreboot.Descriptor.Struct

/-!
# The GbE region

The structs of `gbe/gbe.h`, in the same way as those of the descriptor. A GbE block is 64 words of
configuration, the last of which is a checksum, and padding up to 4 KiB.
-/

namespace Libreboot

open Infra

/-! ## Sizes and constants -/

/-- What the words of a block up to the checksum add up to. -/
def GBECHECKSUMTOTAL : BitVec 16 := 0xBABA

/-! ## Configuration words -/

/-- Word 03h. -/
@[ext] structure GbeReservedWord03h where
  reserved1_0 : BitVec 8
  reserved1_1 : BitVec 3
  ibaLom : BitVec 1
  reserved2 : BitVec 4

def GbeReservedWord03h.overlay : Overlay GbeReservedWord03h :=
  (Overlay.bitFields [u8 8, u8 3, u8 1, u8 4] 2).struct
    (fun s => (s.reserved1_0, s.reserved1_1, s.ibaLom, s.reserved2, ()))
    (fun (a, b, c, d, ()) => ⟨a, b, c, d⟩)

/-- Word 0Ah. -/
@[ext] structure GbePciInitializationControlWord where
  loadVendorDeviceId : BitVec 1
  loadSubsystemId : BitVec 1
  reserved1 : BitVec 1
  reserved2 : BitVec 3
  pmEnable : BitVec 1
  auxPwr : BitVec 1
  reserved3 : BitVec 4
  reserved4 : BitVec 4

def GbePciInitializationControlWord.overlay : Overlay GbePciInitializationControlWord :=
  (Overlay.bitFields [u8 1, u8 1, u8 1, u8 3, u8 1, u8 1, u8 4, u8 4] 2).struct
    (fun s => (s.loadVendorDeviceId, s.loadSubsystemId, s.reserved1, s.reserved2, s.pmEnable,
      s.auxPwr, s.reserved3, s.reserved4, ()))
    (fun (a, b, c, d, e, f, g, h, ()) => ⟨a, b, c, d, e, f, g, h⟩)

/-- Word 10h. -/
@[ext] structure GbeLanPowerConsumption where
  lanD3Power : BitVec 5
  reserved : BitVec 3
  lanD0Power : BitVec 8

def GbeLanPowerConsumption.overlay : Overlay GbeLanPowerConsumption :=
  (Overlay.bitFields [u8 5, u8 3, u8 8] 2).struct
    (fun s => (s.lanD3Power, s.reserved, s.lanD0Power, ()))
    (fun (a, b, c, ()) => ⟨a, b, c⟩)

/-- Word 13h. -/
@[ext] structure GbeSharedInitializationControlWord where
  reserved1 : BitVec 3
  forceDuplex : BitVec 1
  forceSpeedEnable : BitVec 1
  reserved2_0 : BitVec 3
  reserved2_1 : BitVec 1
  phyPowerDownEnable : BitVec 1
  reserved3 : BitVec 1
  reserved4 : BitVec 3
  sign : BitVec 2

def GbeSharedInitializationControlWord.overlay : Overlay GbeSharedInitializationControlWord :=
  (Overlay.bitFields [u8 3, u8 1, u8 1, u8 3, u8 1, u8 1, u8 1, u8 3, u8 2] 2).struct
    (fun s => (s.reserved1, s.forceDuplex, s.forceSpeedEnable, s.reserved2_0, s.reserved2_1,
      s.phyPowerDownEnable, s.reserved3, s.reserved4, s.sign, ()))
    (fun (a, b, c, d, e, f, g, h, i, ()) => ⟨a, b, c, d, e, f, g, h, i⟩)

/-- Word 14h. A 12-bit member of a 16-bit type, followed by members of an 8-bit type. -/
@[ext] structure GbeExtendedConfigurationControlWord1 where
  extendedConfigurationPointer : BitVec 12
  oemWriteEnable : BitVec 1
  reserved1 : BitVec 1
  reserved2 : BitVec 1
  reserved3 : BitVec 1

def GbeExtendedConfigurationControlWord1.overlay : Overlay GbeExtendedConfigurationControlWord1 :=
  (Overlay.bitFields [u16 12, u8 1, u8 1, u8 1, u8 1] 2).struct
    (fun s => (s.extendedConfigurationPointer, s.oemWriteEnable, s.reserved1, s.reserved2,
      s.reserved3, ()))
    (fun (a, b, c, d, e, ()) => ⟨a, b, c, d, e⟩)

/-- Word 15h. -/
@[ext] structure GbeExtendedConfigurationControlWord2 where
  reserved : BitVec 8
  extendedPhyLength : BitVec 8

def GbeExtendedConfigurationControlWord2.overlay : Overlay GbeExtendedConfigurationControlWord2 :=
  (Overlay.bitFields [u8 8, u8 8] 2).struct
    (fun s => (s.reserved, s.extendedPhyLength, ()))
    (fun (a, b, ()) => ⟨a, b⟩)

/-- Word 17h. -/
@[ext] structure LedCtl1 where
  led1Mode : BitVec 4
  reserved1 : BitVec 1
  led1BlinkMode : BitVec 1
  led1Invert : BitVec 1
  led1Blink : BitVec 1
  reserved2 : BitVec 1
  lpluEnable : BitVec 1
  lpluEnableNonD0a : BitVec 1
  gbeDisableNonD0a : BitVec 1
  reserved3 : BitVec 2
  gbeDisable : BitVec 1
  reserved4 : BitVec 1

def LedCtl1.overlay : Overlay LedCtl1 :=
  (Overlay.bitFields [u8 4, u8 1, u8 1, u8 1, u8 1, u8 1, u8 1, u8 1, u8 1, u8 2, u8 1, u8 1]
    2).struct
    (fun s => (s.led1Mode, s.reserved1, s.led1BlinkMode, s.led1Invert, s.led1Blink, s.reserved2,
      s.lpluEnable, s.lpluEnableNonD0a, s.gbeDisableNonD0a, s.reserved3, s.gbeDisable, s.reserved4,
      ()))
    (fun (a, b, c, d, e, f, g, h, i, j, k, l, ()) => ⟨a, b, c, d, e, f, g, h, i, j, k, l⟩)

/-- Word 18h. -/
@[ext] structure LedCtl02 where
  led0Mode : BitVec 4
  reserved1 : BitVec 1
  led0BlinkMode : BitVec 1
  led0Invert : BitVec 1
  led0Blink : BitVec 1
  led2Mode : BitVec 4
  reserved2 : BitVec 1
  led2BlinkMode : BitVec 1
  led2Invert : BitVec 1
  led2Blink : BitVec 1

def LedCtl02.overlay : Overlay LedCtl02 :=
  (Overlay.bitFields [u8 4, u8 1, u8 1, u8 1, u8 1, u8 4, u8 1, u8 1, u8 1, u8 1] 2).struct
    (fun s => (s.led0Mode, s.reserved1, s.led0BlinkMode, s.led0Invert, s.led0Blink, s.led2Mode,
      s.reserved2, s.led2BlinkMode, s.led2Invert, s.led2Blink, ()))
    (fun (a, b, c, d, e, f, g, h, i, j, ()) => ⟨a, b, c, d, e, f, g, h, i, j⟩)

/-- Word 30h. -/
@[ext] structure GbePxeBootAgentMainSetupOptions where
  protocolSelect : BitVec 2
  reserved1 : BitVec 1
  defaultBootSelection : BitVec 2
  reserved2 : BitVec 1
  promptTime : BitVec 2
  displaySetupMessage : BitVec 1
  reserved3 : BitVec 1
  forceSpeed : BitVec 2
  forceFullDuplex : BitVec 1
  reserved4 : BitVec 1
  efiPresence : BitVec 1
  pxePresence : BitVec 1

def GbePxeBootAgentMainSetupOptions.overlay : Overlay GbePxeBootAgentMainSetupOptions :=
  (Overlay.bitFields [u8 2, u8 1, u8 2, u8 1, u8 2, u8 1, u8 1, u8 2, u8 1, u8 1, u8 1,
    u8 1] 2).struct
    (fun s => (s.protocolSelect, s.reserved1, s.defaultBootSelection, s.reserved2, s.promptTime,
      s.displaySetupMessage, s.reserved3, s.forceSpeed, s.forceFullDuplex, s.reserved4,
      s.efiPresence, s.pxePresence, ()))
    (fun (a, b, c, d, e, f, g, h, i, j, k, l, ()) => ⟨a, b, c, d, e, f, g, h, i, j, k, l⟩)

/-- Word 31h. -/
@[ext] structure GbePxeBootAgentConfigurationCustomizationOptions31h where
  disableSetupMenu : BitVec 1
  disableTitleMessage : BitVec 1
  disableProtocolSelect : BitVec 1
  disableBootSelection : BitVec 1
  disableLegacyWakeupSupport : BitVec 1
  disableFlashUpdate : BitVec 1
  reserved1 : BitVec 2
  ibaBootOrderSetupMode : BitVec 3
  reserved2 : BitVec 3
  signature : BitVec 2

def GbePxeBootAgentConfigurationCustomizationOptions31h.overlay :
    Overlay GbePxeBootAgentConfigurationCustomizationOptions31h :=
  (Overlay.bitFields [u8 1, u8 1, u8 1, u8 1, u8 1, u8 1, u8 2, u8 3, u8 3, u8 2] 2).struct
    (fun s => (s.disableSetupMenu, s.disableTitleMessage, s.disableProtocolSelect,
      s.disableBootSelection, s.disableLegacyWakeupSupport, s.disableFlashUpdate, s.reserved1,
      s.ibaBootOrderSetupMode, s.reserved2, s.signature, ()))
    (fun (a, b, c, d, e, f, g, h, i, j, ()) => ⟨a, b, c, d, e, f, g, h, i, j⟩)

/-- Word 32h. -/
@[ext] structure GbePxeBootAgentConfigurationCustomizationOptions32h where
  buildNumber : BitVec 8
  minorVersionNumber : BitVec 4
  majorVersionNumber : BitVec 4

def GbePxeBootAgentConfigurationCustomizationOptions32h.overlay :
    Overlay GbePxeBootAgentConfigurationCustomizationOptions32h :=
  (Overlay.bitFields [u8 8, u8 4, u8 4] 2).struct
    (fun s => (s.buildNumber, s.minorVersionNumber, s.majorVersionNumber, ()))
    (fun (a, b, c, ()) => ⟨a, b, c⟩)

/-- Word 33h. -/
@[ext] structure GbePxeIbaCapabilities where
  baseCodePresent : BitVec 1
  undiCapabilityPresent : BitVec 1
  reserved1 : BitVec 1
  efiUndiCapabilityPresent : BitVec 1
  reserved2_0 : BitVec 4
  reserved2_1 : BitVec 6
  signature : BitVec 2

def GbePxeIbaCapabilities.overlay : Overlay GbePxeIbaCapabilities :=
  (Overlay.bitFields [u8 1, u8 1, u8 1, u8 1, u8 4, u8 6, u8 2] 2).struct
    (fun s => (s.baseCodePresent, s.undiCapabilityPresent, s.reserved1, s.efiUndiCapabilityPresent,
      s.reserved2_0, s.reserved2_1, s.signature, ()))
    (fun (a, b, c, d, e, f, g, ()) => ⟨a, b, c, d, e, f, g⟩)

/-! ## Blocks -/

/-- Words 30h to 3Eh. -/
@[ext] structure GbePxeSoftwareRegion where
  bootAgentMainSetupOptions : GbePxeBootAgentMainSetupOptions
  bootAgentConfigurationCustomizationOptions31h :
    GbePxeBootAgentConfigurationCustomizationOptions31h
  bootAgentConfigurationCustomizationOptions32h :
    GbePxeBootAgentConfigurationCustomizationOptions32h
  ibaCapabilities : GbePxeIbaCapabilities
  paddingWords34hTo3Eh : Vector (BitVec 16) 11

def GbePxeSoftwareRegion.overlay : Overlay GbePxeSoftwareRegion :=
  GbePxeBootAgentMainSetupOptions.overlay
    |>.seq GbePxeBootAgentConfigurationCustomizationOptions31h.overlay
    |>.seq GbePxeBootAgentConfigurationCustomizationOptions32h.overlay
    |>.seq GbePxeIbaCapabilities.overlay |>.seq (uint16s 11) |>.struct
    (fun s => ((((s.bootAgentMainSetupOptions, s.bootAgentConfigurationCustomizationOptions31h),
      s.bootAgentConfigurationCustomizationOptions32h), s.ibaCapabilities), s.paddingWords34hTo3Eh))
    (fun ((((a, b), c), d), e) => ⟨a, b, c, d, e⟩)

/-- A block of 4 KiB: words 00h to 3Eh, the checksum in word 3Fh, and padding. -/
@[ext] structure GbeRegionRecord4k where
  macAddress : Vector (BitVec 8) 6
  reservedWord03h : GbeReservedWord03h
  reservedWord04h : BitVec 16
  imageVersionInformation : BitVec 16
  reservedWords06h07h : Vector (BitVec 16) 2
  pbaLow : BitVec 16
  pbaHigh : BitVec 16
  pciInitializationControlWord : GbePciInitializationControlWord
  subsystemId : BitVec 16
  subsystemVendorId : BitVec 16
  deviceId : BitVec 16
  vendorId : BitVec 16
  deviceRevId : BitVec 16
  lanPowerConsumption : GbeLanPowerConsumption
  reservedWords11h12h : Vector (BitVec 16) 2
  sharedInitializationControlWord : GbeSharedInitializationControlWord
  extendedConfigurationControlWord1 : GbeExtendedConfigurationControlWord1
  extendedConfigurationControlWord2 : GbeExtendedConfigurationControlWord2
  extendedConfigurationControlWord3 : BitVec 16
  ledCtl1 : LedCtl1
  ledCtl02 : LedCtl02
  reservedWord19h : BitVec 16
  reservedWord1Ah : BitVec 16
  reservedWord1Bh : BitVec 16
  reservedWord1Ch : BitVec 16
  reservedWord1Dh : BitVec 16
  _82567lmDeviceId : BitVec 16
  _82567lfDeviceId : BitVec 16
  reservedWord20h : BitVec 16
  _82567vDeviceId : BitVec 16
  reservedWord22h : BitVec 16
  reservedWord23h : BitVec 16
  reservedWords24to2Fh : Vector (BitVec 16) 12
  pxeSoftwareRegion : GbePxeSoftwareRegion
  checkSum : BitVec 16
  padding : Vector (BitVec 8) 3968

def GbeRegionRecord4k.overlay : Overlay GbeRegionRecord4k :=
  uint8s 6 |>.seq GbeReservedWord03h.overlay |>.seq uint16 |>.seq uint16 |>.seq (uint16s 2)
    |>.seq uint16 |>.seq uint16 |>.seq GbePciInitializationControlWord.overlay |>.seq uint16
    |>.seq uint16 |>.seq uint16 |>.seq uint16 |>.seq uint16 |>.seq GbeLanPowerConsumption.overlay
    |>.seq (uint16s 2) |>.seq GbeSharedInitializationControlWord.overlay
    |>.seq GbeExtendedConfigurationControlWord1.overlay
    |>.seq GbeExtendedConfigurationControlWord2.overlay |>.seq uint16 |>.seq LedCtl1.overlay
    |>.seq LedCtl02.overlay |>.seq uint16 |>.seq uint16 |>.seq uint16 |>.seq uint16 |>.seq uint16
    |>.seq uint16 |>.seq uint16 |>.seq uint16 |>.seq uint16 |>.seq uint16 |>.seq uint16
    |>.seq (uint16s 12) |>.seq GbePxeSoftwareRegion.overlay |>.seq uint16 |>.seq (uint8s 3968)
    |>.struct
    (fun s => (((((((((((((((((((((((((((((((((((s.macAddress, s.reservedWord03h),
      s.reservedWord04h), s.imageVersionInformation), s.reservedWords06h07h), s.pbaLow), s.pbaHigh),
      s.pciInitializationControlWord), s.subsystemId), s.subsystemVendorId), s.deviceId),
      s.vendorId), s.deviceRevId), s.lanPowerConsumption), s.reservedWords11h12h),
      s.sharedInitializationControlWord), s.extendedConfigurationControlWord1),
      s.extendedConfigurationControlWord2), s.extendedConfigurationControlWord3), s.ledCtl1),
      s.ledCtl02), s.reservedWord19h), s.reservedWord1Ah), s.reservedWord1Bh), s.reservedWord1Ch),
      s.reservedWord1Dh), s._82567lmDeviceId), s._82567lfDeviceId), s.reservedWord20h),
      s._82567vDeviceId), s.reservedWord22h), s.reservedWord23h), s.reservedWords24to2Fh),
      s.pxeSoftwareRegion), s.checkSum), s.padding))
    (fun (((((((((((((((((((((((((((((((((((a, b), c), d), e), f), g), h), i), j), k), l), m), n),
      o), p), q), r), s), t), u), v), w), x), y), z), aa), ab), ac), ad), ae), af), ag), ah), ai),
      aj) => ⟨a, b, c, d, e, f, g, h, i, j, k, l, m, n, o, p, q, r, s, t, u, v, w, x, y, z, aa, ab,
      ac, ad, ae, af, ag, ah, ai, aj⟩)

/-- The GbE region: a main block and a backup block. -/
@[ext] structure GbeRegionRecord8k where
  main : GbeRegionRecord4k
  backup : GbeRegionRecord4k

def GbeRegionRecord8k.overlay : Overlay GbeRegionRecord8k :=
  GbeRegionRecord4k.overlay |>.seq GbeRegionRecord4k.overlay |>.struct
    (fun s => (s.main, s.backup))
    (fun (a, b) => ⟨a, b⟩)

namespace GbeRegionRecord4k

/-- The memory of a block. -/
abbrev toBytes (g : GbeRegionRecord4k) : Bytes := overlay.encode g

@[simp] theorem length_toBytes (g : GbeRegionRecord4k) : g.toBytes.length = 4096 :=
  overlay.length_encode g

end GbeRegionRecord4k

namespace GbeRegionRecord8k

/-- `sizeof (struct GBEREGIONRECORD_8K)`. -/
theorem overlay_size : overlay.size = GBEREGIONSIZE_8K := rfl

/-- The memory of a GbE region. -/
abbrev toBytes (g : GbeRegionRecord8k) : Bytes := overlay.encode g

/-- The GbE region at the beginning of a buffer. -/
abbrev ofBytes (l : Bytes) : GbeRegionRecord8k := overlay.decode l

@[simp] theorem length_toBytes (g : GbeRegionRecord8k) : g.toBytes.length = 8192 :=
  overlay.length_encode g

theorem toBytes_eq (g : GbeRegionRecord8k) : g.toBytes = g.main.toBytes ++ g.backup.toBytes := rfl

theorem ofBytes_toBytes_append (g : GbeRegionRecord8k) (rest : Bytes) :
    ofBytes (g.toBytes ++ rest) = g := overlay.decode_encode_append g rest

theorem toBytes_ofBytes {l : Bytes} (h : 8192 ≤ l.length) : (ofBytes l).toBytes = l.take 8192 :=
  overlay.encode_decode l h

/-- The backup block is the second half. -/
theorem backup_ofBytes (l : Bytes) :
    (ofBytes l).backup = GbeRegionRecord4k.overlay.decode (l.drop 4096) := rfl

end GbeRegionRecord8k

end Libreboot
