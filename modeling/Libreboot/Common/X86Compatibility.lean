import Libreboot.Descriptor.Struct
import Libreboot.Gbe.Struct
import Libreboot.Infra.Hex
import Libreboot.Infra.OutputFile

/-!
# Compatibility checks

`common/x86compatibility.c`: each program begins by looking at how the compiler lays out the
structs. The layout of this development is the one the checks ask for, so they pass
(`systemOrCompilerIncompatible_eq`).
-/

namespace Libreboot

open Infra

/-! ## The checks -/

/-- Only the sizes of the two arguments are looked at. -/
def structSizesIncorrect : CFun :=
  let descriptorRegionStructSize := DescriptorRegionRecord.overlay.size
  let gbeRegion8kStructSize := GbeRegionRecord8k.overlay.size
  if DESCRIPTORREGIONSIZE ≠ descriptorRegionStructSize then
    .printf ["\nerror: compiler incompatibility: descriptor struct length is "
      ++ toString descriptorRegionStructSize ++ " bytes (should be "
      ++ toString DESCRIPTORREGIONSIZE ++ ")\n"] .return1
  else if GBEREGIONSIZE_8K ≠ gbeRegion8kStructSize then
    .printf ["\nerror: compiler incompatibility: gbe struct length is "
      ++ toString gbeRegion8kStructSize ++ " bytes (should be " ++ toString GBEREGIONSIZE_8K
      ++ ")\n"] .return1
  else .return0

/-- Compare the memory of a variable, and show it if it differs. -/
def memoryWrong (check : String) (expected : Bytes) (expectedText : String) (memory : Bytes) :
    CFun :=
  if memory.take expected.length ≠ expected then
    .printf (["\n" ++ check ++ " with junk/dummy data:", "\nShould be: " ++ expectedText,
        "\nAnd it is: "]
      ++ (memory.take expected.length).map (fun b => Hex.format 2 b.toNat ++ " ")
      ++ ["\nIncorrect order.\n"]) .return1
  else .return0

/-- Every member of the table is assigned first. -/
def structMembersWrongOrder : CFun :=
  let meVsccTable : MeVsccTableRecord :=
    { jid0 := 0x01020304
      vscc0 := 0x10203040
      jid1 := 0x11223344
      vscc1 := 0x05060708
      jid2 := 0x50607080
      vscc2 := 0x55667788
      padding := #v[0xAA, 0xBB, 0xCC, 0xDD] }
  memoryWrong "Struct member order check (descriptorDummy.meVsccTable)"
    [0x04, 0x03, 0x02, 0x01, 0x40, 0x30, 0x20, 0x10, 0x44, 0x33, 0x22, 0x11, 0x08, 0x07, 0x06,
      0x05, 0x80, 0x70, 0x60, 0x50, 0x88, 0x77, 0x66, 0x55, 0xAA, 0xBB, 0xCC, 0xDD]
    "04 03 02 01 40 30 20 10 44 33 22 11 08 07 06 05 80 70 60 50 88 77 66 55 aa bb cc dd "
    (MeVsccTableRecord.overlay.encode meVsccTable)

/-- Every bit-field of the register is assigned first. -/
def structBitfieldWrongOrder : CFun :=
  let flMap0 : FlMap0 :=
    { fcba := 0xA2
      nc := 0x02
      reserved1 := 0x38
      frba := 0xD2
      nr := 0x05
      reserved2 := 0x1C }
  memoryWrong "Bitfield order check (descriptorDummy.flMaps.flMaps0)"
    [0xA2, 0xE2, 0xD2, 0xE5] "a2 e2 d2 e5 " (FlMap0.overlay.encode flMap0)

/-- The word stored as the bytes `00 FF` is small where the high byte comes first. -/
def isBigEndian : Bool := leValue [0x00, 0xFF] < 0x100

def systemOrCompilerIncompatible : CFun :=
  .orReturn1 structSizesIncorrect <|
    -- this check comes before the orders are looked at
    if isBigEndian then .printf ["big endian not supported\n"] .return1
    else .orReturn1 structBitfieldWrongOrder <| .orReturn1 structMembersWrongOrder .return0

/-! ## They pass -/

theorem structSizesIncorrect_eq : structSizesIncorrect = .return0 := by
  unfold structSizesIncorrect
  rw [DescriptorRegionRecord.overlay_size, GbeRegionRecord8k.overlay_size]
  rfl

theorem memoryWrong_of_eq {check expectedText : String} {expected memory : Bytes}
    (h : memory = expected) : memoryWrong check expected expectedText memory = .return0 := by
  rw [memoryWrong, h, List.take_length]
  exact if_neg (fun hne => hne rfl)

theorem structMembersWrongOrder_eq : structMembersWrongOrder = .return0 :=
  memoryWrong_of_eq (by decide)

theorem structBitfieldWrongOrder_eq : structBitfieldWrongOrder = .return0 :=
  memoryWrong_of_eq (by decide)

/-- **The layout of the structs is the one the programs rely on.** -/
theorem systemOrCompilerIncompatible_eq : systemOrCompilerIncompatible = .return0 := by
  have hendian : isBigEndian = false := by decide
  rw [systemOrCompilerIncompatible, structSizesIncorrect_eq, structBitfieldWrongOrder_eq,
    structMembersWrongOrder_eq, hendian]
  rfl

end Libreboot
