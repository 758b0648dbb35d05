import Libreboot.Ich9gen.EndToEnd

/-!
# The argument of --macaddress

The manual writes the address `XX:XX:XX:XX:XX:XX`, and the code says that the default one is used
only if the user does not provide one. The code checks four of the five colons, and it looks for
the option only if there are exactly two arguments.

* `treatedAsDocumented_iff` — everything but a wrong last separator is treated as documented
* `notReplaced_iff` — a requested address gives way to the shipped one exactly if something is
  missing or follows
-/

namespace Libreboot.Ich9gen

open Infra

/-! ## The documented syntax -/

/-- `XX:XX:XX:XX:XX:XX` -/
def Documented (argument : CString) : Prop :=
  argument.strlen = 17
    ∧ (∀ i ∈ [2, 5, 8, 11, 14], argument.char i = 0x3A)
    ∧ ∀ i < 6, (hexValue (argument.char (3 * i))).isSome
      ∧ (hexValue (argument.char (3 * i + 1))).isSome

instance (argument : CString) : Decidable (Documented argument) :=
  inferInstanceAs (Decidable (_ ∧ _))

/-- A documented address succeeds. Any other argument fails and leaves all files alone. -/
def TreatedAsDocumented (lib : CLib) (argv : List CString) (argument : CString) (w : World) :
    Prop :=
  (Documented argument → (main lib argv w).1 = some 0)
    ∧ (¬ Documented argument →
      (main lib argv w).1 = some 1 ∧ (main lib argv w).2.files = w.files)

/-- The loop over the separators ends in front of the last one. -/
theorem documented_iff (argument : CString) :
    Documented argument ↔ Accepted argument ∧ argument.char 14 = 0x3A := by
  rw [accepted_iff]
  constructor
  · rintro ⟨hlen, hcolons, hdigits⟩
    exact ⟨⟨hlen, fun i hi => hcolons i (List.mem_append_left [14] hi), hdigits⟩,
      hcolons 14 (by decide)⟩
  · rintro ⟨⟨hlen, hcolons, hdigits⟩, hlast⟩
    refine ⟨hlen, fun i hi => ?_, hdigits⟩
    rcases List.mem_append.mp (show i ∈ [2, 5, 8, 11] ++ [14] from hi) with hi | hi
    · exact hcolons i hi
    · rw [List.mem_singleton.mp hi]
      exact hlast

/--
**The syntax that is accepted is the documented one, but for the last separator.** If no call to
the C library fails, an argument is treated as documented exactly if it is not an address with
something else than a colon in front of its last two digits.
-/
theorem treatedAsDocumented_iff {lib : CLib} (hlib : ∀ name, (lib name).Reliable)
    (program option argument : CString) (hoption : option.equals "--macaddress" = true)
    (w : World) :
    TreatedAsDocumented lib [program, option, argument] argument w ↔
      ¬ (argument.strlen = 17
        ∧ (∀ i ∈ [2, 5, 8, 11], argument.char i = 0x3A)
        ∧ (∀ i < 6, (hexValue (argument.char (3 * i))).isSome
          ∧ (hexValue (argument.char (3 * i + 1))).isSome)
        ∧ argument.char 14 ≠ 0x3A) := by
  have harg : macArgument [program, option, argument] = some argument := if_pos hoption
  have hzero := main_eq_zero_iff hlib [program, option, argument] w
  simp only [harg, Option.some.injEq, forall_eq'] at hzero
  have hloose : (argument.strlen = 17
      ∧ (∀ i ∈ [2, 5, 8, 11], argument.char i = 0x3A)
      ∧ (∀ i < 6, (hexValue (argument.char (3 * i))).isSome
        ∧ (hexValue (argument.char (3 * i + 1))).isSome)
      ∧ argument.char 14 ≠ 0x3A) ↔ Accepted argument ∧ argument.char 14 ≠ 0x3A := by
    rw [accepted_iff, and_assoc, and_assoc]
  rw [hloose, TreatedAsDocumented, documented_iff, hzero]
  by_cases haccepted : Accepted argument
  · -- the run succeeds, which is right only if the last separator is a colon
    have hstatus : (main lib [program, option, argument] w).1 ≠ some 1 := by
      rw [hzero.mpr haccepted]
      decide
    simp [haccepted, hstatus]
  · simp [haccepted, main_of_not_accepted lib w harg haccepted]

/-- `00:1a:2B:3c:4D-5e` -/
def looseAddress : CString := ⟨ascii "00:1a:2B:3c:4D-5e", by decide⟩

theorem noNul_programName : (0 : Byte) ∉ ascii "ich9gen" := by decide

def programName : CString := ⟨ascii "ich9gen", noNul_programName⟩

theorem noNul_macaddressOption : (0 : Byte) ∉ ascii "--macaddress" := by decide

def macaddressOption : CString := ⟨ascii "--macaddress", noNul_macaddressOption⟩

/-- The digits of a documented address are read. -/
theorem treatedAsDocumented_sample :
    TreatedAsDocumented .reliable [programName, macaddressOption, sampleAddress] sampleAddress
      (.holding []) :=
  (treatedAsDocumented_iff CLib.reliable_reliable programName macaddressOption sampleAddress
    (by decide) (.holding [])).mpr (by decide)

/-- A wrong last separator goes through. -/
theorem loose_not_treatedAsDocumented :
    ¬ Documented looseAddress
      ∧ (main .reliable [programName, macaddressOption, looseAddress] (.holding [])).1 = some 0
      ∧ ¬ TreatedAsDocumented .reliable [programName, macaddressOption, looseAddress] looseAddress
        (.holding []) := by
  have hnot : ¬ Documented looseAddress := by decide
  have hzero := (main_eq_zero_iff CLib.reliable_reliable
    [programName, macaddressOption, looseAddress] (.holding [])).mpr (by
      intro argument hargument
      cases (show some looseAddress = some argument from hargument)
      decide)
  refine ⟨hnot, hzero, fun h => ?_⟩
  have hone := (h.2 hnot).1
  rw [hzero] at hone
  cases hone

/-! ## A requested address -/

/-- The six bytes that an accepted argument stands for. -/
def decoded (argument : CString) : Option (Vector Byte 6) :=
  if Accepted argument then readMacAddress argument generatedGbeStruct8k.main.macAddress else none

/-- Main and backup block of a 12 KiB file begin with the address. -/
def CarriesMac (macAddress : Vector Byte 6) (image : Bytes) : Prop :=
  ∀ start ∈ [0x1000, 0x2000], ∀ i : Fin 6, image.getD (start + i) 0 = macAddress.get i

def gbeImageNames : List String := ["ich9fdgbe_4m.bin", "ich9fdgbe_8m.bin"]

def noGbeImageNames : List String := ["ich9fdnogbe_4m.bin", "ich9fdnogbe_8m.bin"]

/-- The run fails and writes no image, or the images have the address in the second argument. -/
def NotReplaced (lib : CLib) (argv : List CString) (w : World) : Prop :=
  (∃ status, (main lib argv w).1 = some status ∧ status ≠ 0
      ∧ ∀ name ∈ gbeImageNames ++ noGbeImageNames, (main lib argv w).2.files name = w.files name)
    ∨ ∃ argument macAddress, argv[2]? = some argument ∧ decoded argument = some macAddress
      ∧ ∀ name ∈ gbeImageNames, ∃ image, (main lib argv w).2.files name = some image
        ∧ CarriesMac macAddress image

/-- The blocks lie behind the descriptor. -/
theorem carriesMac_append {d : DescriptorRegionRecord} {g : GbeRegionRecord8k}
    {macAddress : Vector Byte 6} :
    CarriesMac macAddress (d.toBytes ++ g.toBytes) ↔
      g.main.macAddress = macAddress ∧ g.backup.macAddress = macAddress := by
  have hd : d.toBytes.length = 4096 := DescriptorRegionRecord.length_toBytes d
  have hmain : ∀ i : Fin 6,
      (d.toBytes ++ g.toBytes).getD (0x1000 + i) 0 = g.main.macAddress.get i := by
    intro i
    have hi : (i : Nat) < g.main.toBytes.length := by
      rw [GbeRegionRecord4k.length_toBytes]
      omega
    rw [List.getD_append_right _ _ _ _ (by omega), hd, Nat.add_sub_cancel_left,
      GbeRegionRecord8k.toBytes_eq, List.getD_append _ _ _ _ hi,
      GbeRegionRecord4k.getD_macAddress]
  have hbackup : ∀ i : Fin 6,
      (d.toBytes ++ g.toBytes).getD (0x2000 + i) 0 = g.backup.macAddress.get i := by
    intro i
    have hlen := GbeRegionRecord4k.length_toBytes g.main
    rw [List.getD_append_right _ _ _ _ (by omega), hd, GbeRegionRecord8k.toBytes_eq,
      List.getD_append_right _ _ _ _ (by omega), hlen,
      show 0x2000 + (i : Nat) - 4096 - 4096 = i by omega, GbeRegionRecord4k.getD_macAddress]
  simp only [CarriesMac, List.forall_mem_cons, List.not_mem_nil, false_implies, implies_true,
    and_true, hmain, hbackup]
  constructor
  · rintro ⟨hm, hb⟩
    exact ⟨vector_ext_get hm, vector_ext_get hb⟩
  · rintro ⟨rfl, hb⟩
    exact ⟨fun _ => rfl, fun i => by rw [hb]⟩

/-- The images that a run leaves carry the address of the selected region. -/
theorem createImages_carriesMac {lib : CLib} (hlib : ∀ name, (lib name).Reliable)
    (g : GbeRegionRecord8k) (macAddress : Vector Byte 6) (w : World) :
    (∀ name ∈ gbeImageNames, ∃ image, (createImages lib g w).2.files name = some image
        ∧ CarriesMac macAddress image) ↔
      g.main.macAddress = macAddress ∧ g.backup.macAddress = macAddress := by
  obtain ⟨hgbe4, hgbe8, -, -⟩ := createImages_delivers (fun name => (hlib name).noSilentLoss) g
  have hzero := createImages_succeeds hlib g w
  simp only [gbeImageNames, List.forall_mem_cons, List.not_mem_nil, false_implies, implies_true,
    and_true, hgbe4 w hzero, hgbe8 w hzero, Option.some.injEq, exists_eq_left', carriesMac_append,
    and_self]

/-- If the option is not looked at, the run succeeds with the shipped address. -/
theorem notReplaced_of_ignored {lib : CLib} (hlib : ∀ name, (lib name).Reliable)
    {argv : List CString} (harg : macArgument argv = none) {w : World} :
    NotReplaced lib argv w ↔ ∃ argument, argv[2]? = some argument
      ∧ decoded argument = some generatedGbeStruct8k.main.macAddress := by
  rw [NotReplaced, main_of_shipped lib w harg]
  simp only [createImages_succeeds hlib generatedGbeStruct8k w, createImages_carriesMac hlib,
    Option.some.injEq]
  constructor
  · rintro (⟨status, hzero, hne, -⟩ | ⟨argument, macAddress, hargument, hdecoded, hmain, -⟩)
    · exact absurd hzero.symm hne
    · rw [← hmain] at hdecoded
      exact ⟨argument, hargument, hdecoded⟩
  · rintro ⟨argument, hargument, hdecoded⟩
    exact .inr ⟨argument, _, hargument, hdecoded, rfl, rfl⟩

/--
**When a requested address is not silently replaced.** If no call to the C library fails, the run
fails or uses the address exactly if the option has one argument, or has more and the first of them
asks for the shipped address anyway.
-/
theorem notReplaced_iff {lib : CLib} (hlib : ∀ name, (lib name).Reliable)
    (program option : CString) (hoption : option.equals "--macaddress" = true)
    (rest : List CString) (w : World) :
    NotReplaced lib (program :: option :: rest) w ↔
      rest.length = 1 ∨ ∃ argument, rest.head? = some argument
        ∧ decoded argument = some generatedGbeStruct8k.main.macAddress := by
  by_cases hlen : rest.length = 1
  · obtain ⟨argument, rfl⟩ := List.length_eq_one_iff.mp hlen
    refine iff_of_true ?_ (.inl hlen)
    have harg : macArgument [program, option, argument] = some argument := if_pos hoption
    by_cases haccepted : Accepted argument
    · obtain ⟨macAddress, hmac, hmain⟩ := main_of_accepted lib w harg haccepted
      obtain ⟨w₁, hw₁⟩ := createGbeSource_eq_zero
        (createGbeSource_succeeds hlib (withMacAddress generatedGbeStruct8k macAddress)
          (createImages_succeeds hlib (withMacAddress generatedGbeStruct8k macAddress)) w)
      refine .inr ⟨argument, macAddress, rfl, ?_, ?_⟩
      · rw [decoded, if_pos haccepted, hmac]
      · rw [hmain, hw₁]
        exact (createImages_carriesMac hlib _ macAddress w₁).mpr ⟨rfl, rfl⟩
    · obtain ⟨hone, hfiles⟩ := main_of_not_accepted lib w harg haccepted
      exact .inl ⟨1, hone, by decide, fun name _ => by rw [hfiles]⟩
  · have harg : macArgument (program :: option :: rest) = none := by
      match rest, hlen with
      | [], _ => rfl
      | _ :: _ :: _, _ => rfl
    rw [notReplaced_of_ignored hlib harg, or_iff_right hlen, List.head?_eq_getElem?]
    rfl

/-- Only one word may follow the option. -/
theorem notReplaced_sample :
    NotReplaced .reliable [programName, macaddressOption, sampleAddress] (.holding []) :=
  (notReplaced_iff CLib.reliable_reliable programName macaddressOption (by decide) [sampleAddress]
    (.holding [])).mpr (.inl rfl)

/-- With a second word, the shipped address is used and the run returns 0. -/
theorem sample_replaced :
    (main .reliable [programName, macaddressOption, sampleAddress, programName]
        (.holding [])).1 = some 0
      ∧ ¬ NotReplaced .reliable [programName, macaddressOption, sampleAddress, programName]
        (.holding []) := by
  refine ⟨?_, fun h => ?_⟩
  · rw [main_of_shipped _ _ rfl]
    exact createImages_succeeds CLib.reliable_reliable _ _
  · obtain ⟨argument, hargument, hdecoded⟩ :=
      (notReplaced_of_ignored CLib.reliable_reliable rfl).mp h
    cases (show some sampleAddress = some argument from hargument)
    revert hdecoded
    decide

end Libreboot.Ich9gen
