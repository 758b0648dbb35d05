import Libreboot.Infra.Overlay

/-!
# The flash descriptor

The structs of `descriptor/descriptor.h`. Every bit-field is a value of exactly its width, so
a struct value is what the 4 KiB of memory can hold and nothing more. The overlay of a struct
lists its members in declaration order with their declared types and widths.
-/

namespace Libreboot

open Infra

/-! ## Sizes and constants -/

def DESCRIPTORREGIONSIZE : Nat := 0x1000

/-- Size of the GbE region: a main block and a backup block of 4 KiB. -/
def GBEREGIONSIZE_8K : Nat := 0x2000

def ROMSIZE_512KB : Nat := 0x80000
def ROMSIZE_1MB : Nat := 0x100000
def ROMSIZE_2MB : Nat := 0x200000
def ROMSIZE_4MB : Nat := 0x400000
def ROMSIZE_8MB : Nat := 0x800000
def ROMSIZE_16MB : Nat := 0x1000000

/-- Regions are counted in units of `1 << FLREGIONBITSHIFT` bytes. -/
def FLREGIONBITSHIFT : Nat := 0xC

/-! ## Scalar members -/

def uint8 : Overlay (BitVec 8) := .uint 1
def uint16 : Overlay (BitVec 16) := .uint 2
def uint32 : Overlay (BitVec 32) := .uint 4

/-- The member `uint8_t name[n]`. -/
def uint8s (n : Nat) : Overlay (Vector (BitVec 8) n) := uint8.array n

/-- The member `uint16_t name[n]`. -/
def uint16s (n : Nat) : Overlay (Vector (BitVec 16) n) := uint16.array n

/-- The memory of a byte array is its elements. -/
theorem encode_uint8s {n : Nat} (v : Vector Byte n) : (uint8s n).encode v = v.toList := by
  have hbyte : uint8.encode = fun b : Byte => [b] := by
    funext b
    show [BitVec.ofNat 8 b.toNat] = [b]
    rw [BitVec.ofNat_toNat, BitVec.setWidth_eq]
  show v.toList.flatMap uint8.encode = v.toList
  rw [hbyte, List.flatMap_singleton']

/-! ## Flash valid signature and flash map -/

@[ext] structure FlValSig where
  signature : BitVec 32

theorem FlValSig.mk_signature (s : FlValSig) : FlValSig.mk s.signature = s := rfl

def FlValSig.overlay : Overlay FlValSig :=
  uint32.struct (fun s => s.signature) .mk FlValSig.mk_signature

@[ext] structure FlMap0 where
  fcba : BitVec 8
  nc : BitVec 2
  reserved1 : BitVec 6
  frba : BitVec 8
  nr : BitVec 3
  reserved2 : BitVec 5

def FlMap0.overlay : Overlay FlMap0 :=
  (Overlay.bitFields [u8 8, u8 2, u8 6, u8 8, u8 3, u8 5] 4).struct
    (fun s => (s.fcba, s.nc, s.reserved1, s.frba, s.nr, s.reserved2, ()))
    (fun (a, b, c, d, e, f, ()) => ⟨a, b, c, d, e, f⟩)

@[ext] structure FlMap1 where
  fmba : BitVec 8
  nm : BitVec 3
  reserved : BitVec 5
  fisba : BitVec 8
  isl : BitVec 8

def FlMap1.overlay : Overlay FlMap1 :=
  (Overlay.bitFields [u8 8, u8 3, u8 5, u8 8, u8 8] 4).struct
    (fun s => (s.fmba, s.nm, s.reserved, s.fisba, s.isl, ()))
    (fun (a, b, c, d, e, ()) => ⟨a, b, c, d, e⟩)

@[ext] structure FlMap2 where
  fmsba : BitVec 8
  msl : BitVec 8
  reserved : BitVec 16

def FlMap2.overlay : Overlay FlMap2 :=
  (Overlay.bitFields [u8 8, u8 8, u16 16] 4).struct
    (fun s => (s.fmsba, s.msl, s.reserved, ()))
    (fun (a, b, c, ()) => ⟨a, b, c⟩)

@[ext] structure FlMaps where
  flMap0 : FlMap0
  flMap1 : FlMap1
  flMap2 : FlMap2

def FlMaps.overlay : Overlay FlMaps :=
  FlMap0.overlay |>.seq FlMap1.overlay |>.seq FlMap2.overlay |>.struct
    (fun s => ((s.flMap0, s.flMap1), s.flMap2))
    (fun ((a, b), c) => ⟨a, b, c⟩)

/-! ## Component section -/

@[ext] structure FlComp where
  component1Density : BitVec 3
  component2Density : BitVec 3
  reserved1 : BitVec 2
  reserved2 : BitVec 8
  reserved3 : BitVec 1
  readClockFrequency : BitVec 3
  fastReadSupport : BitVec 1
  fastreadClockFrequency : BitVec 3
  writeEraseClockFrequency : BitVec 3
  readStatusClockFrequency : BitVec 3
  reserved4 : BitVec 2

def FlComp.overlay : Overlay FlComp :=
  (Overlay.bitFields [u8 3, u8 3, u8 2, u8 8, u8 1, u8 3, u8 1, u8 3, u8 3, u8 3, u8 2] 4).struct
    (fun s => (s.component1Density, s.component2Density, s.reserved1, s.reserved2, s.reserved3,
      s.readClockFrequency, s.fastReadSupport, s.fastreadClockFrequency, s.writeEraseClockFrequency,
      s.readStatusClockFrequency, s.reserved4, ()))
    (fun (a, b, c, d, e, f, g, h, i, j, k, ()) => ⟨a, b, c, d, e, f, g, h, i, j, k⟩)

@[ext] structure ComponentSectionRecord where
  flcomp : FlComp
  flill : BitVec 32
  flpb : BitVec 32
  padding : Vector (BitVec 8) 36

def ComponentSectionRecord.overlay : Overlay ComponentSectionRecord :=
  FlComp.overlay |>.seq uint32 |>.seq uint32 |>.seq (uint8s 36) |>.struct
    (fun s => (((s.flcomp, s.flill), s.flpb), s.padding))
    (fun (((a, b), c), d) => ⟨a, b, c, d⟩)

/-! ## Region section -/

@[ext] structure FlReg where
  base : BitVec 13
  reserved1 : BitVec 3
  limit : BitVec 13
  reserved2 : BitVec 3

def FlReg.overlay : Overlay FlReg :=
  (Overlay.bitFields [u16 13, u16 3, u16 13, u16 3] 4).struct
    (fun s => (s.base, s.reserved1, s.limit, s.reserved2, ()))
    (fun (a, b, c, d, ()) => ⟨a, b, c, d⟩)

/-- Where the regions begin and end: descriptor, BIOS, ME, GbE and platform data. -/
@[ext] structure RegionSectionRecord where
  flReg0 : FlReg
  flReg1 : FlReg
  flReg2 : FlReg
  flReg3 : FlReg
  flReg4 : FlReg
  padding : Vector (BitVec 8) 12

def RegionSectionRecord.overlay : Overlay RegionSectionRecord :=
  FlReg.overlay |>.seq FlReg.overlay |>.seq FlReg.overlay |>.seq FlReg.overlay |>.seq FlReg.overlay
    |>.seq (uint8s 12) |>.struct
    (fun s => (((((s.flReg0, s.flReg1), s.flReg2), s.flReg3), s.flReg4), s.padding))
    (fun (((((a, b), c), d), e), f) => ⟨a, b, c, d, e, f⟩)

/-! ## Master access section -/

@[ext] structure FlMstr where
  requesterId : BitVec 16
  fdRegionReadAccess : BitVec 1
  biosRegionReadAccess : BitVec 1
  meRegionReadAccess : BitVec 1
  gbeRegionReadAccess : BitVec 1
  pdRegionReadAccess : BitVec 1
  reserved1 : BitVec 3
  fdRegionWriteAccess : BitVec 1
  biosRegionWriteAccess : BitVec 1
  meRegionWriteAccess : BitVec 1
  gbeRegionWriteAccess : BitVec 1
  pdRegionWriteAccess : BitVec 1
  reserved2 : BitVec 3

def FlMstr.overlay : Overlay FlMstr :=
  (Overlay.bitFields [u16 16, u8 1, u8 1, u8 1, u8 1, u8 1, u8 3, u8 1, u8 1, u8 1, u8 1, u8 1,
    u8 3] 4).struct
    (fun s => (s.requesterId, s.fdRegionReadAccess, s.biosRegionReadAccess, s.meRegionReadAccess,
      s.gbeRegionReadAccess, s.pdRegionReadAccess, s.reserved1, s.fdRegionWriteAccess,
      s.biosRegionWriteAccess, s.meRegionWriteAccess, s.gbeRegionWriteAccess, s.pdRegionWriteAccess,
      s.reserved2, ()))
    (fun (a, b, c, d, e, f, g, h, i, j, k, l, m, ()) => ⟨a, b, c, d, e, f, g, h, i, j, k, l, m⟩)

/-- The masters: host CPU, ME and GbE. -/
@[ext] structure MasterAccessSectionRecord where
  flMstr1 : FlMstr
  flMstr2 : FlMstr
  flMstr3 : FlMstr
  padding : Vector (BitVec 8) 148

def MasterAccessSectionRecord.overlay : Overlay MasterAccessSectionRecord :=
  FlMstr.overlay |>.seq FlMstr.overlay |>.seq FlMstr.overlay |>.seq (uint8s 148) |>.struct
    (fun s => (((s.flMstr1, s.flMstr2), s.flMstr3), s.padding))
    (fun (((a, b), c), d) => ⟨a, b, c, d⟩)

/-! ## Soft straps -/

@[ext] structure IchStrap0 where
  meDisable : BitVec 1
  reserved1 : BitVec 6
  tcoMode : BitVec 1
  smBusAddress : BitVec 7
  bmcMode : BitVec 1
  tripPointSelect : BitVec 1
  reserved2 : BitVec 2
  integratedGbe : BitVec 1
  lanPhy : BitVec 1
  reserved3 : BitVec 3
  dmiRequesterId : BitVec 1
  smBus2Address : BitVec 7

def IchStrap0.overlay : Overlay IchStrap0 :=
  (Overlay.bitFields [u8 1, u8 6, u8 1, u8 7, u8 1, u8 1, u8 2, u8 1, u8 1, u8 3, u8 1, u8 7]
    4).struct
    (fun s => (s.meDisable, s.reserved1, s.tcoMode, s.smBusAddress, s.bmcMode, s.tripPointSelect,
      s.reserved2, s.integratedGbe, s.lanPhy, s.reserved3, s.dmiRequesterId, s.smBus2Address, ()))
    (fun (a, b, c, d, e, f, g, h, i, j, k, l, ()) => ⟨a, b, c, d, e, f, g, h, i, j, k, l⟩)

@[ext] structure IchStrap1 where
  northMlink : BitVec 1
  southMlink : BitVec 1
  meSmbus : BitVec 1
  sstDynamic : BitVec 1
  reserved1 : BitVec 4
  northMlink2 : BitVec 1
  reserved2 : BitVec 7
  reserved3 : BitVec 16

def IchStrap1.overlay : Overlay IchStrap1 :=
  (Overlay.bitFields [u8 1, u8 1, u8 1, u8 1, u8 4, u8 1, u8 7, u16 16] 4).struct
    (fun s => (s.northMlink, s.southMlink, s.meSmbus, s.sstDynamic, s.reserved1, s.northMlink2,
      s.reserved2, s.reserved3, ()))
    (fun (a, b, c, d, e, f, g, h, ()) => ⟨a, b, c, d, e, f, g, h⟩)

@[ext] structure IchStrapsRecord where
  ichStrap0 : IchStrap0
  ichStrap1 : IchStrap1
  padding : Vector (BitVec 8) 248

def IchStrapsRecord.overlay : Overlay IchStrapsRecord :=
  IchStrap0.overlay |>.seq IchStrap1.overlay |>.seq (uint8s 248) |>.struct
    (fun s => ((s.ichStrap0, s.ichStrap1), s.padding))
    (fun ((a, b), c) => ⟨a, b, c⟩)

@[ext] structure MchStrap0 where
  meDisable : BitVec 1
  meBootFromFlash : BitVec 1
  tpmDisable : BitVec 1
  reserved1 : BitVec 3
  spiFingerprint : BitVec 1
  meAlternateDisable : BitVec 1
  reserved2 : BitVec 8
  reserved3 : BitVec 16

def MchStrap0.overlay : Overlay MchStrap0 :=
  (Overlay.bitFields [u8 1, u8 1, u8 1, u8 3, u8 1, u8 1, u8 8, u16 16] 4).struct
    (fun s => (s.meDisable, s.meBootFromFlash, s.tpmDisable, s.reserved1, s.spiFingerprint,
      s.meAlternateDisable, s.reserved2, s.reserved3, ()))
    (fun (a, b, c, d, e, f, g, h, ()) => ⟨a, b, c, d, e, f, g, h⟩)

@[ext] structure MchStrapsRecord where
  mchStrap0 : MchStrap0
  padding : Vector (BitVec 8) 3292

def MchStrapsRecord.overlay : Overlay MchStrapsRecord :=
  MchStrap0.overlay |>.seq (uint8s 3292) |>.struct
    (fun s => (s.mchStrap0, s.padding))
    (fun (a, b) => ⟨a, b⟩)

/-! ## ME VSCC table, second map and OEM section -/

@[ext] structure MeVsccTableRecord where
  jid0 : BitVec 32
  vscc0 : BitVec 32
  jid1 : BitVec 32
  vscc1 : BitVec 32
  jid2 : BitVec 32
  vscc2 : BitVec 32
  padding : Vector (BitVec 8) 4

def MeVsccTableRecord.overlay : Overlay MeVsccTableRecord :=
  uint32 |>.seq uint32 |>.seq uint32 |>.seq uint32 |>.seq uint32 |>.seq uint32 |>.seq (uint8s 4)
    |>.struct
    (fun s => ((((((s.jid0, s.vscc0), s.jid1), s.vscc1), s.jid2), s.vscc2), s.padding))
    (fun ((((((a, b), c), d), e), f), g) => ⟨a, b, c, d, e, f, g⟩)

@[ext] structure DescriptorMap2Record where
  meVsccTableBaseAddress : BitVec 8
  meVsccTableLength : BitVec 8
  reserved : BitVec 16

def DescriptorMap2Record.overlay : Overlay DescriptorMap2Record :=
  (Overlay.bitFields [u8 8, u8 8, u16 16] 4).struct
    (fun s => (s.meVsccTableBaseAddress, s.meVsccTableLength, s.reserved, ()))
    (fun (a, b, c, ()) => ⟨a, b, c⟩)

@[ext] structure OemSectionRecord where
  magicString : Vector (BitVec 8) 8
  padding : Vector (BitVec 8) 248

def OemSectionRecord.overlay : Overlay OemSectionRecord :=
  uint8s 8 |>.seq (uint8s 248) |>.struct
    (fun s => (s.magicString, s.padding))
    (fun (a, b) => ⟨a, b⟩)

/-! ## The descriptor region -/

/-- The 4 KiB descriptor region at the beginning of the ROM image. -/
@[ext] structure DescriptorRegionRecord where
  flValSig : FlValSig
  flMaps : FlMaps
  componentSection : ComponentSectionRecord
  regionSection : RegionSectionRecord
  masterAccessSection : MasterAccessSectionRecord
  ichStraps : IchStrapsRecord
  mchStraps : MchStrapsRecord
  meVsccTable : MeVsccTableRecord
  descriptor2Map : DescriptorMap2Record
  oemSection : OemSectionRecord

def DescriptorRegionRecord.overlay : Overlay DescriptorRegionRecord :=
  FlValSig.overlay |>.seq FlMaps.overlay |>.seq ComponentSectionRecord.overlay
    |>.seq RegionSectionRecord.overlay |>.seq MasterAccessSectionRecord.overlay
    |>.seq IchStrapsRecord.overlay |>.seq MchStrapsRecord.overlay |>.seq MeVsccTableRecord.overlay
    |>.seq DescriptorMap2Record.overlay |>.seq OemSectionRecord.overlay |>.struct
    (fun s => (((((((((s.flValSig, s.flMaps), s.componentSection), s.regionSection),
      s.masterAccessSection), s.ichStraps), s.mchStraps), s.meVsccTable), s.descriptor2Map),
      s.oemSection))
    (fun (((((((((a, b), c), d), e), f), g), h), i), j) => ⟨a, b, c, d, e, f, g, h, i, j⟩)

namespace DescriptorRegionRecord

/-- `sizeof (struct DESCRIPTORREGIONRECORD)`. -/
theorem overlay_size : overlay.size = DESCRIPTORREGIONSIZE := rfl

/-- The memory of a descriptor. -/
abbrev toBytes (d : DescriptorRegionRecord) : Bytes := overlay.encode d

/-- The descriptor at the beginning of a buffer. -/
abbrev ofBytes (l : Bytes) : DescriptorRegionRecord := overlay.decode l

@[simp] theorem length_toBytes (d : DescriptorRegionRecord) : d.toBytes.length = 4096 :=
  overlay.length_encode d

theorem ofBytes_toBytes_append (d : DescriptorRegionRecord) (rest : Bytes) :
    ofBytes (d.toBytes ++ rest) = d := overlay.decode_encode_append d rest

theorem toBytes_ofBytes {l : Bytes} (h : 4096 ≤ l.length) : (ofBytes l).toBytes = l.take 4096 :=
  overlay.encode_decode l h

end DescriptorRegionRecord

end Libreboot
