import Libreboot.Descriptor.Struct
import Libreboot.Infra.CProgram

/-!
# Members of the descriptor

Every member of the structs of `descriptor/descriptor.h` as an lvalue: its name in C and how it is
read and written.
-/

namespace Libreboot

open Infra

namespace FlValSig.Member

def signature : LValue FlValSig (BitVec 32) :=
  .mk "signature" (fun s => s.signature) (fun v s => { s with signature := v })

end FlValSig.Member

namespace FlMap0.Member

def fcba : LValue FlMap0 (BitVec 8) :=
  .mk "FCBA" (fun s => s.fcba) (fun v s => { s with fcba := v })
def nc : LValue FlMap0 (BitVec 2) := .mk "NC" (fun s => s.nc) (fun v s => { s with nc := v })
def reserved1 : LValue FlMap0 (BitVec 6) :=
  .mk "reserved1" (fun s => s.reserved1) (fun v s => { s with reserved1 := v })
def frba : LValue FlMap0 (BitVec 8) :=
  .mk "FRBA" (fun s => s.frba) (fun v s => { s with frba := v })
def nr : LValue FlMap0 (BitVec 3) := .mk "NR" (fun s => s.nr) (fun v s => { s with nr := v })
def reserved2 : LValue FlMap0 (BitVec 5) :=
  .mk "reserved2" (fun s => s.reserved2) (fun v s => { s with reserved2 := v })

end FlMap0.Member

namespace FlMap1.Member

def fmba : LValue FlMap1 (BitVec 8) :=
  .mk "FMBA" (fun s => s.fmba) (fun v s => { s with fmba := v })
def nm : LValue FlMap1 (BitVec 3) := .mk "NM" (fun s => s.nm) (fun v s => { s with nm := v })
def reserved : LValue FlMap1 (BitVec 5) :=
  .mk "reserved" (fun s => s.reserved) (fun v s => { s with reserved := v })
def fisba : LValue FlMap1 (BitVec 8) :=
  .mk "FISBA" (fun s => s.fisba) (fun v s => { s with fisba := v })
def isl : LValue FlMap1 (BitVec 8) := .mk "ISL" (fun s => s.isl) (fun v s => { s with isl := v })

end FlMap1.Member

namespace FlMap2.Member

def fmsba : LValue FlMap2 (BitVec 8) :=
  .mk "FMSBA" (fun s => s.fmsba) (fun v s => { s with fmsba := v })
def msl : LValue FlMap2 (BitVec 8) := .mk "MSL" (fun s => s.msl) (fun v s => { s with msl := v })
def reserved : LValue FlMap2 (BitVec 16) :=
  .mk "reserved" (fun s => s.reserved) (fun v s => { s with reserved := v })

end FlMap2.Member

namespace FlMaps.Member

def flMap0 : LValue FlMaps FlMap0 :=
  .mk "flMap0" (fun s => s.flMap0) (fun v s => { s with flMap0 := v })
def flMap1 : LValue FlMaps FlMap1 :=
  .mk "flMap1" (fun s => s.flMap1) (fun v s => { s with flMap1 := v })
def flMap2 : LValue FlMaps FlMap2 :=
  .mk "flMap2" (fun s => s.flMap2) (fun v s => { s with flMap2 := v })

end FlMaps.Member

namespace FlComp.Member

def component1Density : LValue FlComp (BitVec 3) :=
  .mk "component1Density" (fun s => s.component1Density)
    (fun v s => { s with component1Density := v })
def component2Density : LValue FlComp (BitVec 3) :=
  .mk "component2Density" (fun s => s.component2Density)
    (fun v s => { s with component2Density := v })
def reserved1 : LValue FlComp (BitVec 2) :=
  .mk "reserved1" (fun s => s.reserved1) (fun v s => { s with reserved1 := v })
def reserved2 : LValue FlComp (BitVec 8) :=
  .mk "reserved2" (fun s => s.reserved2) (fun v s => { s with reserved2 := v })
def reserved3 : LValue FlComp (BitVec 1) :=
  .mk "reserved3" (fun s => s.reserved3) (fun v s => { s with reserved3 := v })
def readClockFrequency : LValue FlComp (BitVec 3) :=
  .mk "readClockFrequency" (fun s => s.readClockFrequency)
    (fun v s => { s with readClockFrequency := v })
def fastReadSupport : LValue FlComp (BitVec 1) :=
  .mk "fastReadSupport" (fun s => s.fastReadSupport) (fun v s => { s with fastReadSupport := v })
def fastreadClockFrequency : LValue FlComp (BitVec 3) :=
  .mk "fastreadClockFrequency" (fun s => s.fastreadClockFrequency)
    (fun v s => { s with fastreadClockFrequency := v })
def writeEraseClockFrequency : LValue FlComp (BitVec 3) :=
  .mk "writeEraseClockFrequency" (fun s => s.writeEraseClockFrequency)
    (fun v s => { s with writeEraseClockFrequency := v })
def readStatusClockFrequency : LValue FlComp (BitVec 3) :=
  .mk "readStatusClockFrequency" (fun s => s.readStatusClockFrequency)
    (fun v s => { s with readStatusClockFrequency := v })
def reserved4 : LValue FlComp (BitVec 2) :=
  .mk "reserved4" (fun s => s.reserved4) (fun v s => { s with reserved4 := v })

end FlComp.Member

namespace ComponentSectionRecord.Member

def flcomp : LValue ComponentSectionRecord FlComp :=
  .mk "flcomp" (fun s => s.flcomp) (fun v s => { s with flcomp := v })
def flill : LValue ComponentSectionRecord (BitVec 32) :=
  .mk "flill" (fun s => s.flill) (fun v s => { s with flill := v })
def flpb : LValue ComponentSectionRecord (BitVec 32) :=
  .mk "flpb" (fun s => s.flpb) (fun v s => { s with flpb := v })
def padding : LValue ComponentSectionRecord (Vector (BitVec 8) 36) :=
  .mk "padding" (fun s => s.padding) (fun v s => { s with padding := v })

end ComponentSectionRecord.Member

namespace FlReg.Member

def base : LValue FlReg (BitVec 13) :=
  .mk "BASE" (fun s => s.base) (fun v s => { s with base := v })
def reserved1 : LValue FlReg (BitVec 3) :=
  .mk "reserved1" (fun s => s.reserved1) (fun v s => { s with reserved1 := v })
def limit : LValue FlReg (BitVec 13) :=
  .mk "LIMIT" (fun s => s.limit) (fun v s => { s with limit := v })
def reserved2 : LValue FlReg (BitVec 3) :=
  .mk "reserved2" (fun s => s.reserved2) (fun v s => { s with reserved2 := v })

end FlReg.Member

namespace RegionSectionRecord.Member

def flReg0 : LValue RegionSectionRecord FlReg :=
  .mk "flReg0" (fun s => s.flReg0) (fun v s => { s with flReg0 := v })
def flReg1 : LValue RegionSectionRecord FlReg :=
  .mk "flReg1" (fun s => s.flReg1) (fun v s => { s with flReg1 := v })
def flReg2 : LValue RegionSectionRecord FlReg :=
  .mk "flReg2" (fun s => s.flReg2) (fun v s => { s with flReg2 := v })
def flReg3 : LValue RegionSectionRecord FlReg :=
  .mk "flReg3" (fun s => s.flReg3) (fun v s => { s with flReg3 := v })
def flReg4 : LValue RegionSectionRecord FlReg :=
  .mk "flReg4" (fun s => s.flReg4) (fun v s => { s with flReg4 := v })
def padding : LValue RegionSectionRecord (Vector (BitVec 8) 12) :=
  .mk "padding" (fun s => s.padding) (fun v s => { s with padding := v })

end RegionSectionRecord.Member

namespace FlMstr.Member

def requesterId : LValue FlMstr (BitVec 16) :=
  .mk "requesterId" (fun s => s.requesterId) (fun v s => { s with requesterId := v })
def fdRegionReadAccess : LValue FlMstr (BitVec 1) :=
  .mk "fdRegionReadAccess" (fun s => s.fdRegionReadAccess)
    (fun v s => { s with fdRegionReadAccess := v })
def biosRegionReadAccess : LValue FlMstr (BitVec 1) :=
  .mk "biosRegionReadAccess" (fun s => s.biosRegionReadAccess)
    (fun v s => { s with biosRegionReadAccess := v })
def meRegionReadAccess : LValue FlMstr (BitVec 1) :=
  .mk "meRegionReadAccess" (fun s => s.meRegionReadAccess)
    (fun v s => { s with meRegionReadAccess := v })
def gbeRegionReadAccess : LValue FlMstr (BitVec 1) :=
  .mk "gbeRegionReadAccess" (fun s => s.gbeRegionReadAccess)
    (fun v s => { s with gbeRegionReadAccess := v })
def pdRegionReadAccess : LValue FlMstr (BitVec 1) :=
  .mk "pdRegionReadAccess" (fun s => s.pdRegionReadAccess)
    (fun v s => { s with pdRegionReadAccess := v })
def reserved1 : LValue FlMstr (BitVec 3) :=
  .mk "reserved1" (fun s => s.reserved1) (fun v s => { s with reserved1 := v })
def fdRegionWriteAccess : LValue FlMstr (BitVec 1) :=
  .mk "fdRegionWriteAccess" (fun s => s.fdRegionWriteAccess)
    (fun v s => { s with fdRegionWriteAccess := v })
def biosRegionWriteAccess : LValue FlMstr (BitVec 1) :=
  .mk "biosRegionWriteAccess" (fun s => s.biosRegionWriteAccess)
    (fun v s => { s with biosRegionWriteAccess := v })
def meRegionWriteAccess : LValue FlMstr (BitVec 1) :=
  .mk "meRegionWriteAccess" (fun s => s.meRegionWriteAccess)
    (fun v s => { s with meRegionWriteAccess := v })
def gbeRegionWriteAccess : LValue FlMstr (BitVec 1) :=
  .mk "gbeRegionWriteAccess" (fun s => s.gbeRegionWriteAccess)
    (fun v s => { s with gbeRegionWriteAccess := v })
def pdRegionWriteAccess : LValue FlMstr (BitVec 1) :=
  .mk "pdRegionWriteAccess" (fun s => s.pdRegionWriteAccess)
    (fun v s => { s with pdRegionWriteAccess := v })
def reserved2 : LValue FlMstr (BitVec 3) :=
  .mk "reserved2" (fun s => s.reserved2) (fun v s => { s with reserved2 := v })

end FlMstr.Member

namespace MasterAccessSectionRecord.Member

def flMstr1 : LValue MasterAccessSectionRecord FlMstr :=
  .mk "flMstr1" (fun s => s.flMstr1) (fun v s => { s with flMstr1 := v })
def flMstr2 : LValue MasterAccessSectionRecord FlMstr :=
  .mk "flMstr2" (fun s => s.flMstr2) (fun v s => { s with flMstr2 := v })
def flMstr3 : LValue MasterAccessSectionRecord FlMstr :=
  .mk "flMstr3" (fun s => s.flMstr3) (fun v s => { s with flMstr3 := v })
def padding : LValue MasterAccessSectionRecord (Vector (BitVec 8) 148) :=
  .mk "padding" (fun s => s.padding) (fun v s => { s with padding := v })

end MasterAccessSectionRecord.Member

namespace IchStrap0.Member

def meDisable : LValue IchStrap0 (BitVec 1) :=
  .mk "meDisable" (fun s => s.meDisable) (fun v s => { s with meDisable := v })
def reserved1 : LValue IchStrap0 (BitVec 6) :=
  .mk "reserved1" (fun s => s.reserved1) (fun v s => { s with reserved1 := v })
def tcoMode : LValue IchStrap0 (BitVec 1) :=
  .mk "tcoMode" (fun s => s.tcoMode) (fun v s => { s with tcoMode := v })
def smBusAddress : LValue IchStrap0 (BitVec 7) :=
  .mk "smBusAddress" (fun s => s.smBusAddress) (fun v s => { s with smBusAddress := v })
def bmcMode : LValue IchStrap0 (BitVec 1) :=
  .mk "bmcMode" (fun s => s.bmcMode) (fun v s => { s with bmcMode := v })
def tripPointSelect : LValue IchStrap0 (BitVec 1) :=
  .mk "tripPointSelect" (fun s => s.tripPointSelect) (fun v s => { s with tripPointSelect := v })
def reserved2 : LValue IchStrap0 (BitVec 2) :=
  .mk "reserved2" (fun s => s.reserved2) (fun v s => { s with reserved2 := v })
def integratedGbe : LValue IchStrap0 (BitVec 1) :=
  .mk "integratedGbe" (fun s => s.integratedGbe) (fun v s => { s with integratedGbe := v })
def lanPhy : LValue IchStrap0 (BitVec 1) :=
  .mk "lanPhy" (fun s => s.lanPhy) (fun v s => { s with lanPhy := v })
def reserved3 : LValue IchStrap0 (BitVec 3) :=
  .mk "reserved3" (fun s => s.reserved3) (fun v s => { s with reserved3 := v })
def dmiRequesterId : LValue IchStrap0 (BitVec 1) :=
  .mk "dmiRequesterId" (fun s => s.dmiRequesterId) (fun v s => { s with dmiRequesterId := v })
def smBus2Address : LValue IchStrap0 (BitVec 7) :=
  .mk "smBus2Address" (fun s => s.smBus2Address) (fun v s => { s with smBus2Address := v })

end IchStrap0.Member

namespace IchStrap1.Member

def northMlink : LValue IchStrap1 (BitVec 1) :=
  .mk "northMlink" (fun s => s.northMlink) (fun v s => { s with northMlink := v })
def southMlink : LValue IchStrap1 (BitVec 1) :=
  .mk "southMlink" (fun s => s.southMlink) (fun v s => { s with southMlink := v })
def meSmbus : LValue IchStrap1 (BitVec 1) :=
  .mk "meSmbus" (fun s => s.meSmbus) (fun v s => { s with meSmbus := v })
def sstDynamic : LValue IchStrap1 (BitVec 1) :=
  .mk "sstDynamic" (fun s => s.sstDynamic) (fun v s => { s with sstDynamic := v })
def reserved1 : LValue IchStrap1 (BitVec 4) :=
  .mk "reserved1" (fun s => s.reserved1) (fun v s => { s with reserved1 := v })
def northMlink2 : LValue IchStrap1 (BitVec 1) :=
  .mk "northMlink2" (fun s => s.northMlink2) (fun v s => { s with northMlink2 := v })
def reserved2 : LValue IchStrap1 (BitVec 7) :=
  .mk "reserved2" (fun s => s.reserved2) (fun v s => { s with reserved2 := v })
def reserved3 : LValue IchStrap1 (BitVec 16) :=
  .mk "reserved3" (fun s => s.reserved3) (fun v s => { s with reserved3 := v })

end IchStrap1.Member

namespace IchStrapsRecord.Member

def ichStrap0 : LValue IchStrapsRecord IchStrap0 :=
  .mk "ichStrap0" (fun s => s.ichStrap0) (fun v s => { s with ichStrap0 := v })
def ichStrap1 : LValue IchStrapsRecord IchStrap1 :=
  .mk "ichStrap1" (fun s => s.ichStrap1) (fun v s => { s with ichStrap1 := v })
def padding : LValue IchStrapsRecord (Vector (BitVec 8) 248) :=
  .mk "padding" (fun s => s.padding) (fun v s => { s with padding := v })

end IchStrapsRecord.Member

namespace MchStrap0.Member

def meDisable : LValue MchStrap0 (BitVec 1) :=
  .mk "meDisable" (fun s => s.meDisable) (fun v s => { s with meDisable := v })
def meBootFromFlash : LValue MchStrap0 (BitVec 1) :=
  .mk "meBootFromFlash" (fun s => s.meBootFromFlash) (fun v s => { s with meBootFromFlash := v })
def tpmDisable : LValue MchStrap0 (BitVec 1) :=
  .mk "tpmDisable" (fun s => s.tpmDisable) (fun v s => { s with tpmDisable := v })
def reserved1 : LValue MchStrap0 (BitVec 3) :=
  .mk "reserved1" (fun s => s.reserved1) (fun v s => { s with reserved1 := v })
def spiFingerprint : LValue MchStrap0 (BitVec 1) :=
  .mk "spiFingerprint" (fun s => s.spiFingerprint) (fun v s => { s with spiFingerprint := v })
def meAlternateDisable : LValue MchStrap0 (BitVec 1) :=
  .mk "meAlternateDisable" (fun s => s.meAlternateDisable)
    (fun v s => { s with meAlternateDisable := v })
def reserved2 : LValue MchStrap0 (BitVec 8) :=
  .mk "reserved2" (fun s => s.reserved2) (fun v s => { s with reserved2 := v })
def reserved3 : LValue MchStrap0 (BitVec 16) :=
  .mk "reserved3" (fun s => s.reserved3) (fun v s => { s with reserved3 := v })

end MchStrap0.Member

namespace MchStrapsRecord.Member

def mchStrap0 : LValue MchStrapsRecord MchStrap0 :=
  .mk "mchStrap0" (fun s => s.mchStrap0) (fun v s => { s with mchStrap0 := v })
def padding : LValue MchStrapsRecord (Vector (BitVec 8) 3292) :=
  .mk "padding" (fun s => s.padding) (fun v s => { s with padding := v })

end MchStrapsRecord.Member

namespace MeVsccTableRecord.Member

def jid0 : LValue MeVsccTableRecord (BitVec 32) :=
  .mk "jid0" (fun s => s.jid0) (fun v s => { s with jid0 := v })
def vscc0 : LValue MeVsccTableRecord (BitVec 32) :=
  .mk "vscc0" (fun s => s.vscc0) (fun v s => { s with vscc0 := v })
def jid1 : LValue MeVsccTableRecord (BitVec 32) :=
  .mk "jid1" (fun s => s.jid1) (fun v s => { s with jid1 := v })
def vscc1 : LValue MeVsccTableRecord (BitVec 32) :=
  .mk "vscc1" (fun s => s.vscc1) (fun v s => { s with vscc1 := v })
def jid2 : LValue MeVsccTableRecord (BitVec 32) :=
  .mk "jid2" (fun s => s.jid2) (fun v s => { s with jid2 := v })
def vscc2 : LValue MeVsccTableRecord (BitVec 32) :=
  .mk "vscc2" (fun s => s.vscc2) (fun v s => { s with vscc2 := v })
def padding : LValue MeVsccTableRecord (Vector (BitVec 8) 4) :=
  .mk "padding" (fun s => s.padding) (fun v s => { s with padding := v })

end MeVsccTableRecord.Member

namespace DescriptorMap2Record.Member

def meVsccTableBaseAddress : LValue DescriptorMap2Record (BitVec 8) :=
  .mk "meVsccTableBaseAddress" (fun s => s.meVsccTableBaseAddress)
    (fun v s => { s with meVsccTableBaseAddress := v })
def meVsccTableLength : LValue DescriptorMap2Record (BitVec 8) :=
  .mk "meVsccTableLength" (fun s => s.meVsccTableLength)
    (fun v s => { s with meVsccTableLength := v })
def reserved : LValue DescriptorMap2Record (BitVec 16) :=
  .mk "reserved" (fun s => s.reserved) (fun v s => { s with reserved := v })

end DescriptorMap2Record.Member

namespace OemSectionRecord.Member

def magicString : LValue OemSectionRecord (Vector (BitVec 8) 8) :=
  .mk "magicString" (fun s => s.magicString) (fun v s => { s with magicString := v })
def padding : LValue OemSectionRecord (Vector (BitVec 8) 248) :=
  .mk "padding" (fun s => s.padding) (fun v s => { s with padding := v })

end OemSectionRecord.Member

namespace DescriptorRegionRecord.Member

def flValSig : LValue DescriptorRegionRecord FlValSig :=
  .mk "flValSig" (fun s => s.flValSig) (fun v s => { s with flValSig := v })
def flMaps : LValue DescriptorRegionRecord FlMaps :=
  .mk "flMaps" (fun s => s.flMaps) (fun v s => { s with flMaps := v })
def componentSection : LValue DescriptorRegionRecord ComponentSectionRecord :=
  .mk "componentSection" (fun s => s.componentSection) (fun v s => { s with componentSection := v })
def regionSection : LValue DescriptorRegionRecord RegionSectionRecord :=
  .mk "regionSection" (fun s => s.regionSection) (fun v s => { s with regionSection := v })
def masterAccessSection : LValue DescriptorRegionRecord MasterAccessSectionRecord :=
  .mk "masterAccessSection" (fun s => s.masterAccessSection)
    (fun v s => { s with masterAccessSection := v })
def ichStraps : LValue DescriptorRegionRecord IchStrapsRecord :=
  .mk "ichStraps" (fun s => s.ichStraps) (fun v s => { s with ichStraps := v })
def mchStraps : LValue DescriptorRegionRecord MchStrapsRecord :=
  .mk "mchStraps" (fun s => s.mchStraps) (fun v s => { s with mchStraps := v })
def meVsccTable : LValue DescriptorRegionRecord MeVsccTableRecord :=
  .mk "meVsccTable" (fun s => s.meVsccTable) (fun v s => { s with meVsccTable := v })
def descriptor2Map : LValue DescriptorRegionRecord DescriptorMap2Record :=
  .mk "descriptor2Map" (fun s => s.descriptor2Map) (fun v s => { s with descriptor2Map := v })
def oemSection : LValue DescriptorRegionRecord OemSectionRecord :=
  .mk "oemSection" (fun s => s.oemSection) (fun v s => { s with oemSection := v })

end DescriptorRegionRecord.Member

end Libreboot
