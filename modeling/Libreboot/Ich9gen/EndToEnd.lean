import Libreboot.Descriptor.RegionMap
import Libreboot.Ich9gen.Main

/-!
# ich9gen end to end

What is in the four files after a successful run, as bytes.

* `GbeBlock` — a 4 KiB block of a GbE region adds up, has the given MAC address and is otherwise
  the shipped block
* `GbeImage`, `NoGbeImage` — the 12 KiB and the 4 KiB images
* `ich9gen_end_to_end` — a successful run leaves such files
-/

namespace Libreboot

open Infra

/-! ## The bytes of a block -/

namespace GbeRegionRecord4k

variable (g : GbeRegionRecord4k)

/-- The MAC address comes first. -/
theorem macAddress_at : (uint8s 6).StoredAt g.toBytes 0 g.macAddress :=
  (Overlay.StoredAt.encode overlay g).member (·.macAddress) 0

theorem getD_macAddress (i : Fin 6) : g.toBytes.getD i 0 = g.macAddress.get i := by
  have h : (g.toBytes.drop 0).take 6 = (uint8s 6).encode g.macAddress := g.macAddress_at
  rw [List.drop_zero, encode_uint8s] at h
  have hget : (g.toBytes.take 6).getD i 0 = g.toBytes.getD i 0 := by
    rw [List.getD_eq_getElem?_getD, List.getD_eq_getElem?_getD, List.getElem?_take, if_pos i.isLt]
  have hlen : (i : Nat) < g.macAddress.toList.length := by
    rw [Vector.length_toList]
    exact i.isLt
  rw [← hget, h, List.getD_eq_getElem _ _ hlen, Vector.getElem_toList]
  rfl

/-- The bits of the MAC address and of the checksum. -/
def macBits : List (Nat × Nat × Nat) := [(0, 0, 47), (126, 0, 15)]

theorem withMacAddress_sameBits (macAddress : Vector Byte 6) (c : BitVec 16) :
    overlay.SameBits 0 (AmongBits macBits)
      ({ g with macAddress := macAddress }.withCheckSum c) g := by
  refine .struct (.seq (.seq ?_ (.of_touched fun p hp => ?_)) .refl)
  · iterate 33 refine .seq ?_ .refl
    refine .of_touched fun p hp => .of (List.mem_cons_self) ?_
    have hsize : (uint8s 6).size = 6 := rfl
    simp only [inBits]
    omega
  · refine .of (List.mem_cons_of_mem _ List.mem_cons_self) ?_
    have hsize : uint16.size = 2 := rfl
    show inBits 126 0 15 (8 * 126 + p)
    simp only [inBits]
    omega

end GbeRegionRecord4k

namespace Ich9gen

/-! ## GbE blocks -/

/--
A block of a GbE region for a MAC address argument: the words add up, the address is the one that
was asked for, and the bytes besides address and checksum are those of the shipped block.
-/
structure GbeBlock (mac : Option CString) (block : Bytes) : Prop where
  sum : wordSum (word16 block) 64 = 0xBABA
  macAddress : ∀ argument, mac = some argument → ∀ i < 6,
    ∃ hi lo, hexValue (argument.char (3 * i)) = some hi
      ∧ hexValue (argument.char (3 * i + 1)) = some lo
      ∧ (block.getD i 0).toNat = 16 * hi + lo
  rest : ∀ i, (mac = none ∨ 6 ≤ i) → i ≠ 0x7E → i ≠ 0x7F →
    block.getD i 0 = generatedGbeStruct4k.toBytes.getD i 0

theorem gbeBlock_shipped : GbeBlock none generatedGbeStruct4k.toBytes where
  sum := generatedGbeStruct4k.sum_words_of_checkSum _ checksum_generated.symm
  macAddress := fun _ h => nomatch h
  rest := fun _ _ _ _ => rfl

theorem gbeBlock_withMacAddress {argument : CString} {old macAddress : Vector Byte 6}
    (hmac : readMacAddress argument old = some macAddress) :
    GbeBlock (some argument)
      { generatedGbeStruct4k with macAddress := macAddress }.fixed.toBytes where
  sum := GbeRegionRecord4k.sum_words_fixed _
  macAddress := by
    rintro _ ⟨⟩ i hi
    obtain ⟨high, low, hhigh, hlow, hvalue⟩ := readMacAddress_eq_some hmac ⟨i, hi⟩
    exact ⟨high, low, hhigh, hlow, by
      rw [GbeRegionRecord4k.getD_macAddress _ ⟨i, hi⟩]
      exact hvalue⟩
  rest := by
    rintro i (hnone | hi) h7E h7F
    · cases hnone
    by_cases hlen : i < 4096
    · -- the bits of this byte lie behind the address and outside the checksum
      refine getD_eq_of_bit_eq fun j hj => ?_
      refine generatedGbeStruct4k.withMacAddress_sameBits macAddress _ _ ?_ ?_
      · show 8 * i + j < 8 * 4096
        omega
      · rintro ⟨range, hrange, hin⟩
        simp only [GbeRegionRecord4k.macBits, List.mem_cons, List.not_mem_nil, or_false] at hrange
        rcases hrange with rfl | rfl <;> simp only [inBits] at hin <;> omega
    · rw [List.getD_eq_default _ _ (by rw [GbeRegionRecord4k.length_toBytes]; omega),
        List.getD_eq_default _ _ (by rw [GbeRegionRecord4k.length_toBytes]; omega)]

/-- Whichever region is selected, both blocks are the same and right. -/
theorem gbeBlock_of_selected {argv : List CString} {g : GbeRegionRecord8k}
    (h : Selected argv g) :
    g.main = g.backup ∧ GbeBlock (macArgument argv) g.main.toBytes := by
  cases h with
  | shipped harg => exact ⟨rfl, harg ▸ gbeBlock_shipped⟩
  | given harg _ hmac => exact ⟨rfl, harg ▸ gbeBlock_withMacAddress hmac⟩

/-! ## Images -/

/-- The file with descriptor and GbE region. -/
structure GbeImage (romSize : Nat) (mac : Option CString) (image : Bytes) : Prop where
  length : image.length = 12288
  descriptor : image.take 4096 = (descriptorStruct romSize WITHGBE).toBytes
  blocks :
    let d := DescriptorRegionRecord.ofBytes image
    let gbe := image.drop (d.regionSection.flReg3.base.toNat <<< 12)
    gbe.length = 8192 ∧ gbe.take 4096 = gbe.drop 4096 ∧ GbeBlock mac (gbe.take 4096)
  bios :
    let d := DescriptorRegionRecord.ofBytes image
    d.regionSection.flReg1.region
      = Set.Ico 12288 (2 ^ (19 + d.componentSection.flcomp.component1Density.toNat))

/-- The file with nothing but a descriptor. -/
structure NoGbeImage (romSize : Nat) (image : Bytes) : Prop where
  descriptor : image = (descriptorStruct romSize WITHOUTGBE).toBytes
  noGbe : descriptorDefinesGbeRegion (.ofBytes image) = 0
  bios :
    let d := DescriptorRegionRecord.ofBytes image
    d.regionSection.flReg1.region
      = Set.Ico 4096 (2 ^ (19 + d.componentSection.flcomp.component1Density.toNat))

/-- The two ROM sizes that files are made for. -/
def ShippedSize (romSize : Nat) : Prop := romSize = ROMSIZE_4MB ∨ romSize = ROMSIZE_8MB

/-- The first page of BIOS. -/
theorem biosBase_descriptorStruct (romSize : Nat) (hasGbe : BitVec 32) :
    (descriptorStruct romSize hasGbe).regionSection.flReg1.base
      = if hasGbe ≠ 0 then 3 else 1 := by
  show ((BitVec.ofNat 32 DESCRIPTORREGIONSIZE + gbeSizeIf hasGbe) >>> FLREGIONBITSHIFT).setWidth 13
    = if hasGbe ≠ 0 then 3 else 1
  unfold gbeSizeIf
  split <;> rfl

/-- The last page of BIOS is the last one of the announced capacity. -/
theorem biosLimit_descriptorStruct {romSize : Nat} (h : ShippedSize romSize)
    (hasGbe : BitVec 32) :
    ((descriptorStruct romSize hasGbe).regionSection.flReg1.limit.toNat + 1) * 4096
      = 2 ^ (19
        + (descriptorStruct romSize hasGbe).componentSection.flcomp.component1Density.toNat) := by
  show ((((BitVec.ofNat 32 romSize >>> FLREGIONBITSHIFT) - 1).setWidth 13).toNat + 1) * 4096
    = 2 ^ (19 + ((componentDensity (BitVec.ofNat 32 romSize)).setWidth 3).toNat)
  rcases h with rfl | rfl <;> decide

/-- BIOS starts behind the GbE region, if there is one, and ends with the announced capacity. -/
theorem bios_descriptorStruct {romSize : Nat} (h : ShippedSize romSize) (hasGbe : BitVec 32) :
    (descriptorStruct romSize hasGbe).regionSection.flReg1.region
      = Set.Ico (if hasGbe ≠ 0 then 12288 else 4096) (2 ^ (19
        + (descriptorStruct romSize hasGbe).componentSection.flcomp.component1Density.toNat)) := by
  have hlimit := biosLimit_descriptorStruct h hasGbe
  have hbase : (descriptorStruct romSize hasGbe).regionSection.flReg1.base.toNat * 4096
      = if hasGbe ≠ 0 then 12288 else 4096 := by
    rw [biosBase_descriptorStruct]
    split <;> rfl
  unfold FlReg.region
  rw [PageRange.addresses_eq_Ico page_pos, FlReg.pages, page_eq, hbase, hlimit]

/-- Descriptor and GbE region, one behind the other. -/
theorem gbeImage_append {romSize : Nat} (hsize : ShippedSize romSize) {argv : List CString}
    {g : GbeRegionRecord8k} (hg : Selected argv g) :
    GbeImage romSize (macArgument argv)
      ((descriptorStruct romSize WITHGBE).toBytes ++ g.toBytes) := by
  obtain ⟨hsame, hblock⟩ := gbeBlock_of_selected hg
  have hlength : (descriptorStruct romSize WITHGBE).toBytes.length = 4096 :=
    DescriptorRegionRecord.length_toBytes _
  have hd := (descriptorStruct romSize WITHGBE).ofBytes_toBytes_append g.toBytes
  have hstart : (descriptorStruct romSize WITHGBE).regionSection.flReg3.base.toNat <<< 12
      = 4096 := rfl
  have hgbe : ((descriptorStruct romSize WITHGBE).toBytes ++ g.toBytes).drop 4096
      = g.main.toBytes ++ g.main.toBytes := by
    rw [List.drop_left' hlength, GbeRegionRecord8k.toBytes_eq, ← hsame]
  refine ⟨?_, List.take_left' hlength, ?_, ?_⟩
  · rw [List.length_append, hlength, GbeRegionRecord8k.length_toBytes]
  · intro d gbe
    have hmain : g.main.toBytes.length = 4096 := GbeRegionRecord4k.length_toBytes _
    have hregion : gbe = g.main.toBytes ++ g.main.toBytes := by
      simp only [gbe, d, hd, hstart, hgbe]
    rw [hregion, List.take_left' hmain, List.drop_left' hmain]
    exact ⟨by rw [List.length_append, hmain], rfl, hblock⟩
  · intro d
    simp only [d, hd]
    exact bios_descriptorStruct hsize WITHGBE

theorem noGbeImage_toBytes {romSize : Nat} (hsize : ShippedSize romSize) :
    NoGbeImage romSize (descriptorStruct romSize WITHOUTGBE).toBytes := by
  have hd := (descriptorStruct romSize WITHOUTGBE).ofBytes_toBytes_append []
  rw [List.append_nil] at hd
  refine ⟨rfl, ?_, ?_⟩
  · have hnone : definesGbe (descriptorStruct romSize WITHOUTGBE) = false :=
      definesGbe_generated _ _
    rw [hd, descriptorDefinesGbeRegion_eq, hnone, cond_false]
  · intro d
    simp only [d, hd]
    exact bios_descriptorStruct hsize WITHOUTGBE

/-! ## Runs -/

/--
**What a successful run of ich9gen leaves behind.** If no loss goes unnoticed by the C library,
a run that returns 0 leaves the four files. Only the GbE regions depend on the MAC address, which
was 17 characters long.
-/
theorem ich9gen_end_to_end {lib : CLib} (hlib : ∀ name, (lib name).NoSilentLoss)
    (argv : List CString) (w : World) (h : (main lib argv w).1 = some 0) :
    (∀ argument, macArgument argv = some argument → argument.strlen = 17)
      ∧ (∃ image, (main lib argv w).2.files "ich9fdgbe_4m.bin" = some image
        ∧ GbeImage ROMSIZE_4MB (macArgument argv) image)
      ∧ (∃ image, (main lib argv w).2.files "ich9fdgbe_8m.bin" = some image
        ∧ GbeImage ROMSIZE_8MB (macArgument argv) image)
      ∧ (∃ image, (main lib argv w).2.files "ich9fdnogbe_4m.bin" = some image
        ∧ NoGbeImage ROMSIZE_4MB image)
      ∧ (∃ image, (main lib argv w).2.files "ich9fdnogbe_8m.bin" = some image
        ∧ NoGbeImage ROMSIZE_8MB image) := by
  obtain ⟨g, w₁, hg, hmain⟩ := main_eq_zero h
  obtain ⟨hgbe4, hgbe8, hnogbe4, hnogbe8⟩ := createImages_delivers hlib g
  rw [hmain] at h ⊢
  refine ⟨?_, ⟨_, hgbe4 w₁ h, gbeImage_append (.inl rfl) hg⟩,
    ⟨_, hgbe8 w₁ h, gbeImage_append (.inr rfl) hg⟩,
    ⟨_, hnogbe4 w₁ h, noGbeImage_toBytes (.inl rfl)⟩,
    ⟨_, hnogbe8 w₁ h, noGbeImage_toBytes (.inr rfl)⟩⟩
  rintro argument hargument
  cases hg with
  | shipped hnone => rw [hnone] at hargument; cases hargument
  | given hsome hlen _ => rw [hsome] at hargument; cases hargument; exact hlen

/-- `00:1a:2B:3c:4D:5e` -/
def sampleAddress : CString := ⟨ascii "00:1a:2B:3c:4D:5e", by decide⟩

def sampleArguments : List CString :=
  [⟨ascii "ich9gen", by decide⟩, ⟨ascii "--macaddress", by decide⟩, sampleAddress]

/-- A run with that MAC address. -/
theorem ich9gen_end_to_end_sample :
    ∃ image, (main .reliable sampleArguments (.holding [])).2.files "ich9fdgbe_8m.bin" = some image
      ∧ GbeImage ROMSIZE_8MB (some sampleAddress) image := by
  have hgiven : macArgument sampleArguments = some sampleAddress := rfl
  have hzero := (main_eq_zero_iff CLib.reliable_reliable sampleArguments (.holding [])).mpr (by
    intro argument hargument
    rw [hgiven] at hargument
    cases hargument
    decide)
  rw [← hgiven]
  exact (ich9gen_end_to_end (fun name => (CLib.reliable_reliable name).noSilentLoss) _ _
    hzero).2.2.1

end Ich9gen

end Libreboot
