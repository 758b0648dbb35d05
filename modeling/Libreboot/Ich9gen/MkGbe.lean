import Libreboot.Gbe.Checksum
import Libreboot.Gbe.Generator

/-!
# The GbE region that ich9gen ships

`ich9gen/mkgbe.c` is output of the GbE code generator. It assigns every member of its local struct
exactly once and has no arguments, so it is stated here as one struct value.

The checksum in it is the right one, so the block passes unchanged through the checksum function
and through the repair of `ich9deblob`.
-/

namespace Libreboot

open Infra

/-- The function `generatedGbeStruct4k` in `ich9gen/mkgbe.c`. -/
def generatedGbeStruct4k : GbeRegionRecord4k where
  macAddress := #v[0x00, 0xf5, 0xf0, 0x40, 0x71, 0xfe]
  reservedWord03h :=
    { reserved1_0 := 0x00
      reserved1_1 := 0x0
      ibaLom := 0x1
      reserved2 := 0x0 }
  reservedWord04h := 0xffff
  imageVersionInformation := 0x1083
  reservedWords06h07h := #v[0xffff, 0xffff]
  pbaLow := 0x1008
  pbaHigh := 0xffff
  pciInitializationControlWord :=
    { loadVendorDeviceId := 0x1
      loadSubsystemId := 0x1
      reserved1 := 0x0
      reserved2 := 0x0
      pmEnable := 0x1
      auxPwr := 0x1
      reserved3 := 0x0
      reserved4 := 0x1 }
  subsystemId := 0x20ee
  subsystemVendorId := 0x17aa
  deviceId := 0x10f5
  vendorId := 0x8086
  deviceRevId := 0x0000
  lanPowerConsumption :=
    { lanD3Power := 0x01
      reserved := 0x0
      lanD0Power := 0x0d }
  reservedWords11h12h := #v[0x0000, 0x0000]
  sharedInitializationControlWord :=
    { reserved1 := 0x5
      forceDuplex := 0x0
      forceSpeedEnable := 0x0
      reserved2_0 := 0x0
      reserved2_1 := 0x0
      phyPowerDownEnable := 0x1
      reserved3 := 0x1
      reserved4 := 0x0
      sign := 0x2 }
  extendedConfigurationControlWord1 :=
    { extendedConfigurationPointer := 0x020
      oemWriteEnable := 0x1
      reserved1 := 0x1
      reserved2 := 0x0
      reserved3 := 0x0 }
  extendedConfigurationControlWord2 :=
    { reserved := 0x00
      extendedPhyLength := 0x0a }
  extendedConfigurationControlWord3 := 0x0000
  ledCtl1 :=
    { led1Mode := 0xb
      reserved1 := 0x0
      led1BlinkMode := 0x0
      led1Invert := 0x0
      led1Blink := 0x1
      reserved2 := 0x1
      lpluEnable := 0x0
      lpluEnableNonD0a := 0x1
      gbeDisableNonD0a := 0x1
      reserved3 := 0x0
      gbeDisable := 0x0
      reserved4 := 0x1 }
  ledCtl02 :=
    { led0Mode := 0x2
      reserved1 := 0x0
      led0BlinkMode := 0x0
      led0Invert := 0x0
      led0Blink := 0x0
      led2Mode := 0x6
      reserved2 := 0x0
      led2BlinkMode := 0x0
      led2Invert := 0x0
      led2Blink := 0x0 }
  reservedWord19h := 0x2b40
  reservedWord1Ah := 0x0043
  reservedWord1Bh := 0x0000
  reservedWord1Ch := 0x10f5
  reservedWord1Dh := 0xbaad
  _82567lmDeviceId := 0x10f5
  _82567lfDeviceId := 0x10bf
  reservedWord20h := 0xbaad
  _82567vDeviceId := 0x10cb
  reservedWord22h := 0xbaad
  reservedWord23h := 0xbaad
  reservedWords24to2Fh := Vector.replicate 12 0x0000
  pxeSoftwareRegion.bootAgentMainSetupOptions :=
    { protocolSelect := 0x0
      reserved1 := 0x0
      defaultBootSelection := 0x0
      reserved2 := 0x0
      promptTime := 0x0
      displaySetupMessage := 0x1
      reserved3 := 0x0
      forceSpeed := 0x0
      forceFullDuplex := 0x0
      reserved4 := 0x0
      efiPresence := 0x0
      pxePresence := 0x0 }
  pxeSoftwareRegion.bootAgentConfigurationCustomizationOptions31h :=
    { disableSetupMenu := 0x0
      disableTitleMessage := 0x0
      disableProtocolSelect := 0x0
      disableBootSelection := 0x0
      disableLegacyWakeupSupport := 0x0
      disableFlashUpdate := 0x0
      reserved1 := 0x0
      ibaBootOrderSetupMode := 0x0
      reserved2 := 0x0
      signature := 0x1 }
  pxeSoftwareRegion.bootAgentConfigurationCustomizationOptions32h :=
    { buildNumber := 0x18
      minorVersionNumber := 0x3
      majorVersionNumber := 0x1 }
  pxeSoftwareRegion.ibaCapabilities :=
    { baseCodePresent := 0x1
      undiCapabilityPresent := 0x1
      reserved1 := 0x1
      efiUndiCapabilityPresent := 0x0
      reserved2_0 := 0x0
      reserved2_1 := 0x00
      signature := 0x1 }
  pxeSoftwareRegion.paddingWords34hTo3Eh := Vector.replicate 11 0xffff
  checkSum := 0x348a
  padding := Vector.replicate 3968 0xFF

/-- The function `generatedGbeStruct8k` in `ich9gen/mkgbe.c`. -/
def generatedGbeStruct8k : GbeRegionRecord8k where
  main := generatedGbeStruct4k
  backup := generatedGbeStruct4k

/-! ## The checksum -/

/-- **The shipped checksum is the right one.** -/
theorem checksum_generated :
    gbeGetChecksumFrom4kStruct generatedGbeStruct4k GBECHECKSUMTOTAL
      = generatedGbeStruct4k.checkSum := by
  decide +kernel

end Libreboot
