import Libreboot.Gbe.Struct
import Libreboot.Infra.CProgram

/-!
# Members of the GbE region

Every member of a 4 KiB block as an lvalue, in the same way as those of the descriptor.
-/

namespace Libreboot

open Infra

namespace GbeReservedWord03h.Member

def reserved1_0 : LValue GbeReservedWord03h (BitVec 8) :=
  .mk "reserved1_0" (fun s => s.reserved1_0) (fun v s => { s with reserved1_0 := v })
def reserved1_1 : LValue GbeReservedWord03h (BitVec 3) :=
  .mk "reserved1_1" (fun s => s.reserved1_1) (fun v s => { s with reserved1_1 := v })
def ibaLom : LValue GbeReservedWord03h (BitVec 1) :=
  .mk "ibaLom" (fun s => s.ibaLom) (fun v s => { s with ibaLom := v })
def reserved2 : LValue GbeReservedWord03h (BitVec 4) :=
  .mk "reserved2" (fun s => s.reserved2) (fun v s => { s with reserved2 := v })

end GbeReservedWord03h.Member

namespace GbePciInitializationControlWord.Member

def loadVendorDeviceId : LValue GbePciInitializationControlWord (BitVec 1) :=
  .mk "loadVendorDeviceId" (fun s => s.loadVendorDeviceId)
    (fun v s => { s with loadVendorDeviceId := v })
def loadSubsystemId : LValue GbePciInitializationControlWord (BitVec 1) :=
  .mk "loadSubsystemId" (fun s => s.loadSubsystemId) (fun v s => { s with loadSubsystemId := v })
def reserved1 : LValue GbePciInitializationControlWord (BitVec 1) :=
  .mk "reserved1" (fun s => s.reserved1) (fun v s => { s with reserved1 := v })
def reserved2 : LValue GbePciInitializationControlWord (BitVec 3) :=
  .mk "reserved2" (fun s => s.reserved2) (fun v s => { s with reserved2 := v })
def pmEnable : LValue GbePciInitializationControlWord (BitVec 1) :=
  .mk "pmEnable" (fun s => s.pmEnable) (fun v s => { s with pmEnable := v })
def auxPwr : LValue GbePciInitializationControlWord (BitVec 1) :=
  .mk "auxPwr" (fun s => s.auxPwr) (fun v s => { s with auxPwr := v })
def reserved3 : LValue GbePciInitializationControlWord (BitVec 4) :=
  .mk "reserved3" (fun s => s.reserved3) (fun v s => { s with reserved3 := v })
def reserved4 : LValue GbePciInitializationControlWord (BitVec 4) :=
  .mk "reserved4" (fun s => s.reserved4) (fun v s => { s with reserved4 := v })

end GbePciInitializationControlWord.Member

namespace GbeLanPowerConsumption.Member

def lanD3Power : LValue GbeLanPowerConsumption (BitVec 5) :=
  .mk "lanD3Power" (fun s => s.lanD3Power) (fun v s => { s with lanD3Power := v })
def reserved : LValue GbeLanPowerConsumption (BitVec 3) :=
  .mk "reserved" (fun s => s.reserved) (fun v s => { s with reserved := v })
def lanD0Power : LValue GbeLanPowerConsumption (BitVec 8) :=
  .mk "lanD0Power" (fun s => s.lanD0Power) (fun v s => { s with lanD0Power := v })

end GbeLanPowerConsumption.Member

namespace GbeSharedInitializationControlWord.Member

def reserved1 : LValue GbeSharedInitializationControlWord (BitVec 3) :=
  .mk "reserved1" (fun s => s.reserved1) (fun v s => { s with reserved1 := v })
def forceDuplex : LValue GbeSharedInitializationControlWord (BitVec 1) :=
  .mk "forceDuplex" (fun s => s.forceDuplex) (fun v s => { s with forceDuplex := v })
def forceSpeedEnable : LValue GbeSharedInitializationControlWord (BitVec 1) :=
  .mk "forceSpeedEnable" (fun s => s.forceSpeedEnable) (fun v s => { s with forceSpeedEnable := v })
def reserved2_0 : LValue GbeSharedInitializationControlWord (BitVec 3) :=
  .mk "reserved2_0" (fun s => s.reserved2_0) (fun v s => { s with reserved2_0 := v })
def reserved2_1 : LValue GbeSharedInitializationControlWord (BitVec 1) :=
  .mk "reserved2_1" (fun s => s.reserved2_1) (fun v s => { s with reserved2_1 := v })
def phyPowerDownEnable : LValue GbeSharedInitializationControlWord (BitVec 1) :=
  .mk "phyPowerDownEnable" (fun s => s.phyPowerDownEnable)
    (fun v s => { s with phyPowerDownEnable := v })
def reserved3 : LValue GbeSharedInitializationControlWord (BitVec 1) :=
  .mk "reserved3" (fun s => s.reserved3) (fun v s => { s with reserved3 := v })
def reserved4 : LValue GbeSharedInitializationControlWord (BitVec 3) :=
  .mk "reserved4" (fun s => s.reserved4) (fun v s => { s with reserved4 := v })
def sign : LValue GbeSharedInitializationControlWord (BitVec 2) :=
  .mk "sign" (fun s => s.sign) (fun v s => { s with sign := v })

end GbeSharedInitializationControlWord.Member

namespace GbeExtendedConfigurationControlWord1.Member

def extendedConfigurationPointer : LValue GbeExtendedConfigurationControlWord1 (BitVec 12) :=
  .mk "extendedConfigurationPointer" (fun s => s.extendedConfigurationPointer)
    (fun v s => { s with extendedConfigurationPointer := v })
def oemWriteEnable : LValue GbeExtendedConfigurationControlWord1 (BitVec 1) :=
  .mk "oemWriteEnable" (fun s => s.oemWriteEnable) (fun v s => { s with oemWriteEnable := v })
def reserved1 : LValue GbeExtendedConfigurationControlWord1 (BitVec 1) :=
  .mk "reserved1" (fun s => s.reserved1) (fun v s => { s with reserved1 := v })
def reserved2 : LValue GbeExtendedConfigurationControlWord1 (BitVec 1) :=
  .mk "reserved2" (fun s => s.reserved2) (fun v s => { s with reserved2 := v })
def reserved3 : LValue GbeExtendedConfigurationControlWord1 (BitVec 1) :=
  .mk "reserved3" (fun s => s.reserved3) (fun v s => { s with reserved3 := v })

end GbeExtendedConfigurationControlWord1.Member

namespace GbeExtendedConfigurationControlWord2.Member

def reserved : LValue GbeExtendedConfigurationControlWord2 (BitVec 8) :=
  .mk "reserved" (fun s => s.reserved) (fun v s => { s with reserved := v })
def extendedPhyLength : LValue GbeExtendedConfigurationControlWord2 (BitVec 8) :=
  .mk "extendedPhyLength" (fun s => s.extendedPhyLength)
    (fun v s => { s with extendedPhyLength := v })

end GbeExtendedConfigurationControlWord2.Member

namespace LedCtl1.Member

def led1Mode : LValue LedCtl1 (BitVec 4) :=
  .mk "led1Mode" (fun s => s.led1Mode) (fun v s => { s with led1Mode := v })
def reserved1 : LValue LedCtl1 (BitVec 1) :=
  .mk "reserved1" (fun s => s.reserved1) (fun v s => { s with reserved1 := v })
def led1BlinkMode : LValue LedCtl1 (BitVec 1) :=
  .mk "led1BlinkMode" (fun s => s.led1BlinkMode) (fun v s => { s with led1BlinkMode := v })
def led1Invert : LValue LedCtl1 (BitVec 1) :=
  .mk "led1Invert" (fun s => s.led1Invert) (fun v s => { s with led1Invert := v })
def led1Blink : LValue LedCtl1 (BitVec 1) :=
  .mk "led1Blink" (fun s => s.led1Blink) (fun v s => { s with led1Blink := v })
def reserved2 : LValue LedCtl1 (BitVec 1) :=
  .mk "reserved2" (fun s => s.reserved2) (fun v s => { s with reserved2 := v })
def lpluEnable : LValue LedCtl1 (BitVec 1) :=
  .mk "lpluEnable" (fun s => s.lpluEnable) (fun v s => { s with lpluEnable := v })
def lpluEnableNonD0a : LValue LedCtl1 (BitVec 1) :=
  .mk "lpluEnableNonD0a" (fun s => s.lpluEnableNonD0a) (fun v s => { s with lpluEnableNonD0a := v })
def gbeDisableNonD0a : LValue LedCtl1 (BitVec 1) :=
  .mk "gbeDisableNonD0a" (fun s => s.gbeDisableNonD0a) (fun v s => { s with gbeDisableNonD0a := v })
def reserved3 : LValue LedCtl1 (BitVec 2) :=
  .mk "reserved3" (fun s => s.reserved3) (fun v s => { s with reserved3 := v })
def gbeDisable : LValue LedCtl1 (BitVec 1) :=
  .mk "gbeDisable" (fun s => s.gbeDisable) (fun v s => { s with gbeDisable := v })
def reserved4 : LValue LedCtl1 (BitVec 1) :=
  .mk "reserved4" (fun s => s.reserved4) (fun v s => { s with reserved4 := v })

end LedCtl1.Member

namespace LedCtl02.Member

def led0Mode : LValue LedCtl02 (BitVec 4) :=
  .mk "led0Mode" (fun s => s.led0Mode) (fun v s => { s with led0Mode := v })
def reserved1 : LValue LedCtl02 (BitVec 1) :=
  .mk "reserved1" (fun s => s.reserved1) (fun v s => { s with reserved1 := v })
def led0BlinkMode : LValue LedCtl02 (BitVec 1) :=
  .mk "led0BlinkMode" (fun s => s.led0BlinkMode) (fun v s => { s with led0BlinkMode := v })
def led0Invert : LValue LedCtl02 (BitVec 1) :=
  .mk "led0Invert" (fun s => s.led0Invert) (fun v s => { s with led0Invert := v })
def led0Blink : LValue LedCtl02 (BitVec 1) :=
  .mk "led0Blink" (fun s => s.led0Blink) (fun v s => { s with led0Blink := v })
def led2Mode : LValue LedCtl02 (BitVec 4) :=
  .mk "led2Mode" (fun s => s.led2Mode) (fun v s => { s with led2Mode := v })
def reserved2 : LValue LedCtl02 (BitVec 1) :=
  .mk "reserved2" (fun s => s.reserved2) (fun v s => { s with reserved2 := v })
def led2BlinkMode : LValue LedCtl02 (BitVec 1) :=
  .mk "led2BlinkMode" (fun s => s.led2BlinkMode) (fun v s => { s with led2BlinkMode := v })
def led2Invert : LValue LedCtl02 (BitVec 1) :=
  .mk "led2Invert" (fun s => s.led2Invert) (fun v s => { s with led2Invert := v })
def led2Blink : LValue LedCtl02 (BitVec 1) :=
  .mk "led2Blink" (fun s => s.led2Blink) (fun v s => { s with led2Blink := v })

end LedCtl02.Member

namespace GbePxeBootAgentMainSetupOptions.Member

def protocolSelect : LValue GbePxeBootAgentMainSetupOptions (BitVec 2) :=
  .mk "protocolSelect" (fun s => s.protocolSelect) (fun v s => { s with protocolSelect := v })
def reserved1 : LValue GbePxeBootAgentMainSetupOptions (BitVec 1) :=
  .mk "reserved1" (fun s => s.reserved1) (fun v s => { s with reserved1 := v })
def defaultBootSelection : LValue GbePxeBootAgentMainSetupOptions (BitVec 2) :=
  .mk "defaultBootSelection" (fun s => s.defaultBootSelection)
    (fun v s => { s with defaultBootSelection := v })
def reserved2 : LValue GbePxeBootAgentMainSetupOptions (BitVec 1) :=
  .mk "reserved2" (fun s => s.reserved2) (fun v s => { s with reserved2 := v })
def promptTime : LValue GbePxeBootAgentMainSetupOptions (BitVec 2) :=
  .mk "promptTime" (fun s => s.promptTime) (fun v s => { s with promptTime := v })
def displaySetupMessage : LValue GbePxeBootAgentMainSetupOptions (BitVec 1) :=
  .mk "displaySetupMessage" (fun s => s.displaySetupMessage)
    (fun v s => { s with displaySetupMessage := v })
def reserved3 : LValue GbePxeBootAgentMainSetupOptions (BitVec 1) :=
  .mk "reserved3" (fun s => s.reserved3) (fun v s => { s with reserved3 := v })
def forceSpeed : LValue GbePxeBootAgentMainSetupOptions (BitVec 2) :=
  .mk "forceSpeed" (fun s => s.forceSpeed) (fun v s => { s with forceSpeed := v })
def forceFullDuplex : LValue GbePxeBootAgentMainSetupOptions (BitVec 1) :=
  .mk "forceFullDuplex" (fun s => s.forceFullDuplex) (fun v s => { s with forceFullDuplex := v })
def reserved4 : LValue GbePxeBootAgentMainSetupOptions (BitVec 1) :=
  .mk "reserved4" (fun s => s.reserved4) (fun v s => { s with reserved4 := v })
def efiPresence : LValue GbePxeBootAgentMainSetupOptions (BitVec 1) :=
  .mk "efiPresence" (fun s => s.efiPresence) (fun v s => { s with efiPresence := v })
def pxePresence : LValue GbePxeBootAgentMainSetupOptions (BitVec 1) :=
  .mk "pxePresence" (fun s => s.pxePresence) (fun v s => { s with pxePresence := v })

end GbePxeBootAgentMainSetupOptions.Member

namespace GbePxeBootAgentConfigurationCustomizationOptions31h.Member

def disableSetupMenu : LValue GbePxeBootAgentConfigurationCustomizationOptions31h (BitVec 1) :=
  .mk "disableSetupMenu" (fun s => s.disableSetupMenu) (fun v s => { s with disableSetupMenu := v })
def disableTitleMessage : LValue GbePxeBootAgentConfigurationCustomizationOptions31h (BitVec 1) :=
  .mk "disableTitleMessage" (fun s => s.disableTitleMessage)
    (fun v s => { s with disableTitleMessage := v })
def disableProtocolSelect : LValue GbePxeBootAgentConfigurationCustomizationOptions31h (BitVec 1) :=
  .mk "disableProtocolSelect" (fun s => s.disableProtocolSelect)
    (fun v s => { s with disableProtocolSelect := v })
def disableBootSelection : LValue GbePxeBootAgentConfigurationCustomizationOptions31h (BitVec 1) :=
  .mk "disableBootSelection" (fun s => s.disableBootSelection)
    (fun v s => { s with disableBootSelection := v })
def disableLegacyWakeupSupport :
    LValue GbePxeBootAgentConfigurationCustomizationOptions31h (BitVec 1) :=
  .mk "disableLegacyWakeupSupport" (fun s => s.disableLegacyWakeupSupport)
    (fun v s => { s with disableLegacyWakeupSupport := v })
def disableFlashUpdate : LValue GbePxeBootAgentConfigurationCustomizationOptions31h (BitVec 1) :=
  .mk "disableFlashUpdate" (fun s => s.disableFlashUpdate)
    (fun v s => { s with disableFlashUpdate := v })
def reserved1 : LValue GbePxeBootAgentConfigurationCustomizationOptions31h (BitVec 2) :=
  .mk "reserved1" (fun s => s.reserved1) (fun v s => { s with reserved1 := v })
def ibaBootOrderSetupMode : LValue GbePxeBootAgentConfigurationCustomizationOptions31h (BitVec 3) :=
  .mk "ibaBootOrderSetupMode" (fun s => s.ibaBootOrderSetupMode)
    (fun v s => { s with ibaBootOrderSetupMode := v })
def reserved2 : LValue GbePxeBootAgentConfigurationCustomizationOptions31h (BitVec 3) :=
  .mk "reserved2" (fun s => s.reserved2) (fun v s => { s with reserved2 := v })
def signature : LValue GbePxeBootAgentConfigurationCustomizationOptions31h (BitVec 2) :=
  .mk "signature" (fun s => s.signature) (fun v s => { s with signature := v })

end GbePxeBootAgentConfigurationCustomizationOptions31h.Member

namespace GbePxeBootAgentConfigurationCustomizationOptions32h.Member

def buildNumber : LValue GbePxeBootAgentConfigurationCustomizationOptions32h (BitVec 8) :=
  .mk "buildNumber" (fun s => s.buildNumber) (fun v s => { s with buildNumber := v })
def minorVersionNumber : LValue GbePxeBootAgentConfigurationCustomizationOptions32h (BitVec 4) :=
  .mk "minorVersionNumber" (fun s => s.minorVersionNumber)
    (fun v s => { s with minorVersionNumber := v })
def majorVersionNumber : LValue GbePxeBootAgentConfigurationCustomizationOptions32h (BitVec 4) :=
  .mk "majorVersionNumber" (fun s => s.majorVersionNumber)
    (fun v s => { s with majorVersionNumber := v })

end GbePxeBootAgentConfigurationCustomizationOptions32h.Member

namespace GbePxeIbaCapabilities.Member

def baseCodePresent : LValue GbePxeIbaCapabilities (BitVec 1) :=
  .mk "baseCodePresent" (fun s => s.baseCodePresent) (fun v s => { s with baseCodePresent := v })
def undiCapabilityPresent : LValue GbePxeIbaCapabilities (BitVec 1) :=
  .mk "undiCapabilityPresent" (fun s => s.undiCapabilityPresent)
    (fun v s => { s with undiCapabilityPresent := v })
def reserved1 : LValue GbePxeIbaCapabilities (BitVec 1) :=
  .mk "reserved1" (fun s => s.reserved1) (fun v s => { s with reserved1 := v })
def efiUndiCapabilityPresent : LValue GbePxeIbaCapabilities (BitVec 1) :=
  .mk "efiUndiCapabilityPresent" (fun s => s.efiUndiCapabilityPresent)
    (fun v s => { s with efiUndiCapabilityPresent := v })
def reserved2_0 : LValue GbePxeIbaCapabilities (BitVec 4) :=
  .mk "reserved2_0" (fun s => s.reserved2_0) (fun v s => { s with reserved2_0 := v })
def reserved2_1 : LValue GbePxeIbaCapabilities (BitVec 6) :=
  .mk "reserved2_1" (fun s => s.reserved2_1) (fun v s => { s with reserved2_1 := v })
def signature : LValue GbePxeIbaCapabilities (BitVec 2) :=
  .mk "signature" (fun s => s.signature) (fun v s => { s with signature := v })

end GbePxeIbaCapabilities.Member

namespace GbePxeSoftwareRegion.Member

def bootAgentMainSetupOptions : LValue GbePxeSoftwareRegion GbePxeBootAgentMainSetupOptions :=
  .mk "bootAgentMainSetupOptions" (fun s => s.bootAgentMainSetupOptions)
    (fun v s => { s with bootAgentMainSetupOptions := v })
def bootAgentConfigurationCustomizationOptions31h :
    LValue GbePxeSoftwareRegion GbePxeBootAgentConfigurationCustomizationOptions31h :=
  .mk "bootAgentConfigurationCustomizationOptions31h"
    (fun s => s.bootAgentConfigurationCustomizationOptions31h)
    (fun v s => { s with bootAgentConfigurationCustomizationOptions31h := v })
def bootAgentConfigurationCustomizationOptions32h :
    LValue GbePxeSoftwareRegion GbePxeBootAgentConfigurationCustomizationOptions32h :=
  .mk "bootAgentConfigurationCustomizationOptions32h"
    (fun s => s.bootAgentConfigurationCustomizationOptions32h)
    (fun v s => { s with bootAgentConfigurationCustomizationOptions32h := v })
def ibaCapabilities : LValue GbePxeSoftwareRegion GbePxeIbaCapabilities :=
  .mk "ibaCapabilities" (fun s => s.ibaCapabilities) (fun v s => { s with ibaCapabilities := v })
def paddingWords34hTo3Eh : LValue GbePxeSoftwareRegion (Vector (BitVec 16) 11) :=
  .mk "paddingWords34hTo3Eh" (fun s => s.paddingWords34hTo3Eh)
    (fun v s => { s with paddingWords34hTo3Eh := v })

end GbePxeSoftwareRegion.Member

namespace GbeRegionRecord4k.Member

def macAddress : LValue GbeRegionRecord4k (Vector (BitVec 8) 6) :=
  .mk "macAddress" (fun s => s.macAddress) (fun v s => { s with macAddress := v })
def reservedWord03h : LValue GbeRegionRecord4k GbeReservedWord03h :=
  .mk "reservedWord03h" (fun s => s.reservedWord03h) (fun v s => { s with reservedWord03h := v })
def reservedWord04h : LValue GbeRegionRecord4k (BitVec 16) :=
  .mk "reservedWord04h" (fun s => s.reservedWord04h) (fun v s => { s with reservedWord04h := v })
def imageVersionInformation : LValue GbeRegionRecord4k (BitVec 16) :=
  .mk "imageVersionInformation" (fun s => s.imageVersionInformation)
    (fun v s => { s with imageVersionInformation := v })
def reservedWords06h07h : LValue GbeRegionRecord4k (Vector (BitVec 16) 2) :=
  .mk "reservedWords06h07h" (fun s => s.reservedWords06h07h)
    (fun v s => { s with reservedWords06h07h := v })
def pbaLow : LValue GbeRegionRecord4k (BitVec 16) :=
  .mk "pbaLow" (fun s => s.pbaLow) (fun v s => { s with pbaLow := v })
def pbaHigh : LValue GbeRegionRecord4k (BitVec 16) :=
  .mk "pbaHigh" (fun s => s.pbaHigh) (fun v s => { s with pbaHigh := v })
def pciInitializationControlWord : LValue GbeRegionRecord4k GbePciInitializationControlWord :=
  .mk "pciInitializationControlWord" (fun s => s.pciInitializationControlWord)
    (fun v s => { s with pciInitializationControlWord := v })
def subsystemId : LValue GbeRegionRecord4k (BitVec 16) :=
  .mk "subsystemId" (fun s => s.subsystemId) (fun v s => { s with subsystemId := v })
def subsystemVendorId : LValue GbeRegionRecord4k (BitVec 16) :=
  .mk "subsystemVendorId" (fun s => s.subsystemVendorId)
    (fun v s => { s with subsystemVendorId := v })
def deviceId : LValue GbeRegionRecord4k (BitVec 16) :=
  .mk "deviceId" (fun s => s.deviceId) (fun v s => { s with deviceId := v })
def vendorId : LValue GbeRegionRecord4k (BitVec 16) :=
  .mk "vendorId" (fun s => s.vendorId) (fun v s => { s with vendorId := v })
def deviceRevId : LValue GbeRegionRecord4k (BitVec 16) :=
  .mk "deviceRevId" (fun s => s.deviceRevId) (fun v s => { s with deviceRevId := v })
def lanPowerConsumption : LValue GbeRegionRecord4k GbeLanPowerConsumption :=
  .mk "lanPowerConsumption" (fun s => s.lanPowerConsumption)
    (fun v s => { s with lanPowerConsumption := v })
def reservedWords11h12h : LValue GbeRegionRecord4k (Vector (BitVec 16) 2) :=
  .mk "reservedWords11h12h" (fun s => s.reservedWords11h12h)
    (fun v s => { s with reservedWords11h12h := v })
def sharedInitializationControlWord : LValue GbeRegionRecord4k GbeSharedInitializationControlWord :=
  .mk "sharedInitializationControlWord" (fun s => s.sharedInitializationControlWord)
    (fun v s => { s with sharedInitializationControlWord := v })
def extendedConfigurationControlWord1 :
    LValue GbeRegionRecord4k GbeExtendedConfigurationControlWord1 :=
  .mk "extendedConfigurationControlWord1" (fun s => s.extendedConfigurationControlWord1)
    (fun v s => { s with extendedConfigurationControlWord1 := v })
def extendedConfigurationControlWord2 :
    LValue GbeRegionRecord4k GbeExtendedConfigurationControlWord2 :=
  .mk "extendedConfigurationControlWord2" (fun s => s.extendedConfigurationControlWord2)
    (fun v s => { s with extendedConfigurationControlWord2 := v })
def extendedConfigurationControlWord3 : LValue GbeRegionRecord4k (BitVec 16) :=
  .mk "extendedConfigurationControlWord3" (fun s => s.extendedConfigurationControlWord3)
    (fun v s => { s with extendedConfigurationControlWord3 := v })
def ledCtl1 : LValue GbeRegionRecord4k LedCtl1 :=
  .mk "ledCtl1" (fun s => s.ledCtl1) (fun v s => { s with ledCtl1 := v })
def ledCtl02 : LValue GbeRegionRecord4k LedCtl02 :=
  .mk "ledCtl02" (fun s => s.ledCtl02) (fun v s => { s with ledCtl02 := v })
def reservedWord19h : LValue GbeRegionRecord4k (BitVec 16) :=
  .mk "reservedWord19h" (fun s => s.reservedWord19h) (fun v s => { s with reservedWord19h := v })
def reservedWord1Ah : LValue GbeRegionRecord4k (BitVec 16) :=
  .mk "reservedWord1Ah" (fun s => s.reservedWord1Ah) (fun v s => { s with reservedWord1Ah := v })
def reservedWord1Bh : LValue GbeRegionRecord4k (BitVec 16) :=
  .mk "reservedWord1Bh" (fun s => s.reservedWord1Bh) (fun v s => { s with reservedWord1Bh := v })
def reservedWord1Ch : LValue GbeRegionRecord4k (BitVec 16) :=
  .mk "reservedWord1Ch" (fun s => s.reservedWord1Ch) (fun v s => { s with reservedWord1Ch := v })
def reservedWord1Dh : LValue GbeRegionRecord4k (BitVec 16) :=
  .mk "reservedWord1Dh" (fun s => s.reservedWord1Dh) (fun v s => { s with reservedWord1Dh := v })
def _82567lmDeviceId : LValue GbeRegionRecord4k (BitVec 16) :=
  .mk "_82567lmDeviceId" (fun s => s._82567lmDeviceId) (fun v s => { s with _82567lmDeviceId := v })
def _82567lfDeviceId : LValue GbeRegionRecord4k (BitVec 16) :=
  .mk "_82567lfDeviceId" (fun s => s._82567lfDeviceId) (fun v s => { s with _82567lfDeviceId := v })
def reservedWord20h : LValue GbeRegionRecord4k (BitVec 16) :=
  .mk "reservedWord20h" (fun s => s.reservedWord20h) (fun v s => { s with reservedWord20h := v })
def _82567vDeviceId : LValue GbeRegionRecord4k (BitVec 16) :=
  .mk "_82567vDeviceId" (fun s => s._82567vDeviceId) (fun v s => { s with _82567vDeviceId := v })
def reservedWord22h : LValue GbeRegionRecord4k (BitVec 16) :=
  .mk "reservedWord22h" (fun s => s.reservedWord22h) (fun v s => { s with reservedWord22h := v })
def reservedWord23h : LValue GbeRegionRecord4k (BitVec 16) :=
  .mk "reservedWord23h" (fun s => s.reservedWord23h) (fun v s => { s with reservedWord23h := v })
def reservedWords24to2Fh : LValue GbeRegionRecord4k (Vector (BitVec 16) 12) :=
  .mk "reservedWords24to2Fh" (fun s => s.reservedWords24to2Fh)
    (fun v s => { s with reservedWords24to2Fh := v })
def pxeSoftwareRegion : LValue GbeRegionRecord4k GbePxeSoftwareRegion :=
  .mk "pxeSoftwareRegion" (fun s => s.pxeSoftwareRegion)
    (fun v s => { s with pxeSoftwareRegion := v })
def checkSum : LValue GbeRegionRecord4k (BitVec 16) :=
  .mk "checkSum" (fun s => s.checkSum) (fun v s => { s with checkSum := v })
def padding : LValue GbeRegionRecord4k (Vector (BitVec 8) 3968) :=
  .mk "padding" (fun s => s.padding) (fun v s => { s with padding := v })

end GbeRegionRecord4k.Member

end Libreboot
