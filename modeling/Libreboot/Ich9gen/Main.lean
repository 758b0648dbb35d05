import Libreboot.Common.DescriptorGbe
import Libreboot.Common.X86Compatibility
import Libreboot.Ich9gen.MacAddress
import Libreboot.Ich9gen.MkDescriptor
import Libreboot.Ich9gen.MkGbe

/-!
# ich9gen

The program `ich9gen.c`: create descriptor and GbE files from the shipped structs, without a
factory image. The MAC address can be replaced on the command line.

* `main_eq_zero` — a run that returns 0 creates the images, with the shipped GbE region or with one
  whose MAC address was read
* `accepted_iff` — which MAC addresses are accepted
* `main_eq_zero_iff` — if nothing fails, only the MAC address decides whether a run returns 0
-/

namespace Libreboot.Ich9gen

open Infra

def WITHGBE : BitVec 32 := 1

def WITHOUTGBE : BitVec 32 := 0

/-- The shipped descriptor for a ROM size. -/
def descriptorStruct (romSize : Nat) (hasGbe : BitVec 32) : DescriptorRegionRecord :=
  generatedDescriptorStruct (BitVec.ofNat 32 romSize) hasGbe

/-- The argument of `--macaddress`, which is looked at only if it is the last of three. -/
def macArgument (argv : List CString) : Option CString :=
  match argv with
  | [_, option, argument] => if option.equals "--macaddress" then some argument else none
  | _ => none

/-- The MAC address goes into the main block, and with the right checksum into the backup block. -/
def withMacAddress (gbeStruct8k : GbeRegionRecord8k) (macAddress : Vector Byte 6) :
    GbeRegionRecord8k :=
  let gbeStruct8k := { gbeStruct8k with main.macAddress := macAddress }
  let gbeStruct8k := { gbeStruct8k with
    main.checkSum := gbeGetChecksumFrom4kStruct gbeStruct8k.main GBECHECKSUMTOTAL }
  { gbeStruct8k with backup := gbeStruct8k.main }

/-- The 12 KiB files and the 4 KiB files, for both ROM sizes. -/
def createImages (lib : CLib) (gbeStruct8k : GbeRegionRecord8k) : CFun :=
  .orReturn1 (notCreatedDescriptorGbeFile lib (descriptorStruct ROMSIZE_4MB WITHGBE) gbeStruct8k
    "ich9fdgbe_4m.bin") <|
  .orReturn1 (notCreatedDescriptorGbeFile lib (descriptorStruct ROMSIZE_8MB WITHGBE) gbeStruct8k
    "ich9fdgbe_8m.bin") <|
  .orReturn1 (notCreated4kDescriptorFile lib (descriptorStruct ROMSIZE_4MB WITHOUTGBE)
    "ich9fdnogbe_4m.bin") <|
  .orReturn1 (notCreated4kDescriptorFile lib (descriptorStruct ROMSIZE_8MB WITHOUTGBE)
    "ich9fdnogbe_8m.bin") .return0

/-- Code for a GbE struct with another MAC address. -/
def createGbeSource (lib : CLib) (gbeStruct8k : GbeRegionRecord8k) (k : CFun) : CFun :=
  .orReturn1 (notCreatedHFileForGbeCFile lib "mkgbe.h" "mkgbe.c") <|
  .orReturn1 (notCreatedCFileFromGbeStruct4k lib gbeStruct8k.backup "mkgbe.c" "mkgbe.h") <|
  .printf ["You selected to change the MAC address in the Gbe section. This has been done.\n\n",
    "The modified gbe region has also been dumped as src files: mkgbe.c, mkgbe.h\n",
    "To use these in ich9gen, place them in src/ich9gen/ and re-build ich9gen.\n\n"] k

/-- `main`, linked with any function `generatedGbeStruct8k`. -/
def mainWith (generatedGbeStruct8k : GbeRegionRecord8k) (lib : CLib) (argv : List CString) : CFun :=
  .orReturn1 systemOrCompilerIncompatible <|
  match macArgument argv with
  | none => createImages lib generatedGbeStruct8k
  | some argument =>
    if argument.strlen ≠ 17 then
      .printf ["ich9gen: invalid mac address format (wrong length)\n"] .return1
    else if wrongSpacing argument then
      .printf ["ich9gen: invalid mac address format (non-colon characters used as spacing)\n"]
        .return1
    else
      match readMacAddress argument generatedGbeStruct8k.main.macAddress with
      | none => .printf ["ich9gen: invalid mac address format (non-hex characters)\n"] .return1
      | some macAddress =>
        let gbeStruct8k := withMacAddress generatedGbeStruct8k macAddress
        createGbeSource lib gbeStruct8k (createImages lib gbeStruct8k)

/-- The program as it is shipped. -/
def main : CLib → List CString → CFun := mainWith generatedGbeStruct8k

/-! ## The three kinds of runs -/

/-- The argument passes all checks. -/
def Accepted (argument : CString) : Prop :=
  argument.strlen = 17 ∧ wrongSpacing argument = false
    ∧ (readMacAddress argument generatedGbeStruct8k.main.macAddress).isSome

instance (argument : CString) : Decidable (Accepted argument) :=
  inferInstanceAs (Decidable (_ ∧ _))

section Runs

variable (lib : CLib) {argv : List CString} (w : World) {argument : CString}

/-- Without a MAC address argument, the region that the program was built with is written. -/
theorem mainWith_of_none (generated : GbeRegionRecord8k) (h : macArgument argv = none) :
    mainWith generated lib argv w = createImages lib generated w := by
  rw [mainWith, systemOrCompilerIncompatible_eq, CFun.orReturn1_return0, h]

theorem main_of_shipped (h : macArgument argv = none) :
    main lib argv w = createImages lib generatedGbeStruct8k w :=
  mainWith_of_none lib w generatedGbeStruct8k h

/-- With one that passes all checks. -/
theorem main_of_accepted (h : macArgument argv = some argument) (haccepted : Accepted argument) :
    ∃ macAddress, readMacAddress argument generatedGbeStruct8k.main.macAddress = some macAddress
      ∧ main lib argv w
        = createGbeSource lib (withMacAddress generatedGbeStruct8k macAddress)
          (createImages lib (withMacAddress generatedGbeStruct8k macAddress)) w := by
  obtain ⟨hlen, hspacing, hmac⟩ := haccepted
  obtain ⟨macAddress, hmac⟩ := Option.isSome_iff_exists.mp hmac
  refine ⟨macAddress, hmac, ?_⟩
  rw [main, mainWith, systemOrCompilerIncompatible_eq, CFun.orReturn1_return0, h]
  simp only [hlen, hspacing, hmac, ne_eq, not_true_eq_false, if_false, Bool.false_eq_true]

/-- **With any other one, the run returns 1 and touches no file.** -/
theorem main_of_not_accepted (h : macArgument argv = some argument) (hnot : ¬ Accepted argument) :
    (main lib argv w).1 = some 1 ∧ (main lib argv w).2.files = w.files := by
  rw [main, mainWith, systemOrCompilerIncompatible_eq, CFun.orReturn1_return0, h]
  by_cases hlen : argument.strlen = 17
  · cases hspacing : wrongSpacing argument with
    | true => simp [hlen, hspacing, CFun.printf, CFun.return1]
    | false =>
      cases hmac : readMacAddress argument generatedGbeStruct8k.main.macAddress with
      | none => simp [hlen, hspacing, hmac, CFun.printf, CFun.return1]
      | some macAddress => exact absurd ⟨hlen, hspacing, by rw [hmac]; rfl⟩ hnot
  · simp [hlen, CFun.printf, CFun.return1]

end Runs

/-! ## Successful runs -/

/-- The GbE region of a successful run. -/
inductive Selected (argv : List CString) : GbeRegionRecord8k → Prop
  | shipped (h : macArgument argv = none) : Selected argv generatedGbeStruct8k
  | given {argument : CString} {macAddress : Vector Byte 6} (h : macArgument argv = some argument)
      (hlen : argument.strlen = 17)
      (hmac : readMacAddress argument generatedGbeStruct8k.main.macAddress = some macAddress) :
      Selected argv (withMacAddress generatedGbeStruct8k macAddress)

/-- Nothing but the images matters once the GbE region is selected. -/
theorem createGbeSource_eq_zero {lib : CLib} {g : GbeRegionRecord8k} {k : CFun} {w : World}
    (h : (createGbeSource lib g k w).1 = some 0) :
    ∃ w₁, createGbeSource lib g k w = k w₁ := by
  unfold createGbeSource at h ⊢
  obtain ⟨w₁, -, hheader, hzero⟩ := CFun.orReturn1_eq_zero h
  obtain ⟨w₂, -, hsource, -⟩ := CFun.orReturn1_eq_zero hzero
  obtain ⟨w₃, -, hwords⟩ := CFun.printf_eq _ k w₂
  exact ⟨w₃, by rw [hheader, hsource, hwords]⟩

/-- **A run that returns 0 has created the images** for the selected GbE region. -/
theorem main_eq_zero {lib : CLib} {argv : List CString} {w : World}
    (h : (main lib argv w).1 = some 0) :
    ∃ g w₁, Selected argv g ∧ main lib argv w = createImages lib g w₁ := by
  cases harg : macArgument argv with
  | none => exact ⟨_, w, .shipped harg, main_of_shipped lib w harg⟩
  | some argument =>
    by_cases haccepted : Accepted argument
    · obtain ⟨macAddress, hmac, hmain⟩ := main_of_accepted lib w harg haccepted
      rw [hmain] at h ⊢
      obtain ⟨w₁, hw₁⟩ := createGbeSource_eq_zero h
      exact ⟨_, w₁, .given harg haccepted.1 hmac, hw₁⟩
    · rw [(main_of_not_accepted lib w harg haccepted).1] at h
      cases h

/-! ## The created files -/

/-- **If no loss goes unnoticed, a successful run leaves all four images.** -/
theorem createImages_delivers {lib : CLib} (hlib : ∀ name, (lib name).NoSilentLoss)
    (g : GbeRegionRecord8k) :
    (createImages lib g).Delivers "ich9fdgbe_4m.bin"
        ((descriptorStruct ROMSIZE_4MB WITHGBE).toBytes ++ g.toBytes)
      ∧ (createImages lib g).Delivers "ich9fdgbe_8m.bin"
        ((descriptorStruct ROMSIZE_8MB WITHGBE).toBytes ++ g.toBytes)
      ∧ (createImages lib g).Delivers "ich9fdnogbe_4m.bin"
        (descriptorStruct ROMSIZE_4MB WITHOUTGBE).toBytes
      ∧ (createImages lib g).Delivers "ich9fdnogbe_8m.bin"
        (descriptorStruct ROMSIZE_8MB WITHOUTGBE).toBytes := by
  have hother : ∀ {name other : String} (parts : List ImagePart) (report : List String),
      other ≠ name → (createImage lib parts report name).Preserves other :=
    fun parts report => createImage_preserves lib parts report _
  refine ⟨?_, ?_, ?_, ?_⟩
  · exact (descriptorGbeFile_delivers (hlib _) _ g).orReturn1_left <|
      (hother _ _ (by decide)).orReturn1 <| (hother _ _ (by decide)).orReturn1 <|
      (hother _ _ (by decide)).orReturn1 CFun.preserves_return0
  · exact .orReturn1_right <| (descriptorGbeFile_delivers (hlib _) _ g).orReturn1_left <|
      (hother _ _ (by decide)).orReturn1 <|
      (hother _ _ (by decide)).orReturn1 CFun.preserves_return0
  · exact .orReturn1_right <| .orReturn1_right <|
      (descriptor4kFile_delivers (hlib _) _).orReturn1_left <|
      (hother _ _ (by decide)).orReturn1 CFun.preserves_return0
  · exact .orReturn1_right <| .orReturn1_right <| .orReturn1_right <|
      (descriptor4kFile_delivers (hlib _) _).orReturn1_left CFun.preserves_return0

/-- If nothing fails, they are created. -/
theorem createImages_succeeds {lib : CLib} (hlib : ∀ name, (lib name).Reliable)
    (g : GbeRegionRecord8k) : (createImages lib g).Succeeds :=
  (createImage_succeeds _ _ (hlib _)).orReturn1 <| (createImage_succeeds _ _ (hlib _)).orReturn1 <|
  (createImage_succeeds _ _ (hlib _)).orReturn1 <| (createImage_succeeds _ _ (hlib _)).orReturn1
    CFun.succeeds_return0

/-! ## Accepted addresses -/

/-- **The accepted addresses:** 17 characters, four colons and twelve digits. Character 14 is free. -/
theorem accepted_iff (argument : CString) :
    Accepted argument ↔ argument.strlen = 17
      ∧ (∀ i ∈ [2, 5, 8, 11], argument.char i = 0x3A)
      ∧ ∀ i < 6, (hexValue (argument.char (3 * i))).isSome
        ∧ (hexValue (argument.char (3 * i + 1))).isSome := by
  have hspacing : wrongSpacing argument = false ↔ ∀ i ∈ [2, 5, 8, 11], argument.char i = 0x3A := by
    have hplaces : List.range' 2 4 3 = [2, 5, 8, 11] := rfl
    rw [wrongSpacing, hplaces, List.any_eq_false]
    simp only [ne_eq, decide_eq_true_eq, not_not]
  rw [Accepted, hspacing, readMacAddress_isSome]

theorem createGbeSource_succeeds {lib : CLib} (hlib : ∀ name, (lib name).Reliable)
    (g : GbeRegionRecord8k) {k : CFun} (hk : k.Succeeds) : (createGbeSource lib g k).Succeeds :=
  (writeTextFile_succeeds _ (hlib _)).orReturn1 <| (writeTextFile_succeeds _ (hlib _)).orReturn1 <|
    hk.printf _

/-- **If nothing fails, a run returns 0 exactly if the given MAC address is accepted.** -/
theorem main_eq_zero_iff {lib : CLib} (hlib : ∀ name, (lib name).Reliable) (argv : List CString)
    (w : World) :
    (main lib argv w).1 = some 0 ↔ ∀ argument, macArgument argv = some argument →
      Accepted argument := by
  cases harg : macArgument argv with
  | none =>
    rw [main_of_shipped lib w harg]
    exact iff_of_true (createImages_succeeds hlib _ w) (fun _ h => nomatch h)
  | some argument =>
    simp only [Option.some.injEq, forall_eq']
    by_cases haccepted : Accepted argument
    · obtain ⟨macAddress, -, hmain⟩ := main_of_accepted lib w harg haccepted
      rw [hmain]
      exact iff_of_true (createGbeSource_succeeds hlib _ (createImages_succeeds hlib _) w) haccepted
    · rw [(main_of_not_accepted lib w harg haccepted).1]
      exact iff_of_false (by decide) haccepted

end Libreboot.Ich9gen
