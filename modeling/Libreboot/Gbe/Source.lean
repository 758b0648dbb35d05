import Libreboot.Descriptor.Source
import Libreboot.Gbe.Generator

/-!
# Reading mkgbe.c

The two functions in `mkgbe.c` are read from the text of the file.

* `readGbeSource_file` — the statements in the file that the generator writes are the emitted ones,
  without the comments
* `runGbeSource_file` — so calling the functions in the file gives the block, once and twice
-/

namespace Libreboot

open Infra CText

/-! ## The members by name -/

def GbeReservedWord03h.table : Table GbeReservedWord03h :=
  .members [
    .scalar Member.reserved1_0, .scalar Member.reserved1_1, .scalar Member.ibaLom,
    .scalar Member.reserved2]

def GbePciInitializationControlWord.table : Table GbePciInitializationControlWord :=
  .members [
    .scalar Member.loadVendorDeviceId, .scalar Member.loadSubsystemId, .scalar Member.reserved1,
    .scalar Member.reserved2, .scalar Member.pmEnable, .scalar Member.auxPwr,
    .scalar Member.reserved3, .scalar Member.reserved4]

def GbeLanPowerConsumption.table : Table GbeLanPowerConsumption :=
  .members [.scalar Member.lanD3Power, .scalar Member.reserved, .scalar Member.lanD0Power]

def GbeSharedInitializationControlWord.table : Table GbeSharedInitializationControlWord :=
  .members [
    .scalar Member.reserved1, .scalar Member.forceDuplex, .scalar Member.forceSpeedEnable,
    .scalar Member.reserved2_0, .scalar Member.reserved2_1, .scalar Member.phyPowerDownEnable,
    .scalar Member.reserved3, .scalar Member.reserved4, .scalar Member.sign]

def GbeExtendedConfigurationControlWord1.table : Table GbeExtendedConfigurationControlWord1 :=
  .members [
    .scalar Member.extendedConfigurationPointer, .scalar Member.oemWriteEnable,
    .scalar Member.reserved1, .scalar Member.reserved2, .scalar Member.reserved3]

def GbeExtendedConfigurationControlWord2.table : Table GbeExtendedConfigurationControlWord2 :=
  .members [.scalar Member.reserved, .scalar Member.extendedPhyLength]

def LedCtl1.table : Table LedCtl1 :=
  .members [
    .scalar Member.led1Mode, .scalar Member.reserved1, .scalar Member.led1BlinkMode,
    .scalar Member.led1Invert, .scalar Member.led1Blink, .scalar Member.reserved2,
    .scalar Member.lpluEnable, .scalar Member.lpluEnableNonD0a, .scalar Member.gbeDisableNonD0a,
    .scalar Member.reserved3, .scalar Member.gbeDisable, .scalar Member.reserved4]

def LedCtl02.table : Table LedCtl02 :=
  .members [
    .scalar Member.led0Mode, .scalar Member.reserved1, .scalar Member.led0BlinkMode,
    .scalar Member.led0Invert, .scalar Member.led0Blink, .scalar Member.led2Mode,
    .scalar Member.reserved2, .scalar Member.led2BlinkMode, .scalar Member.led2Invert,
    .scalar Member.led2Blink]

def GbePxeBootAgentMainSetupOptions.table : Table GbePxeBootAgentMainSetupOptions :=
  .members [
    .scalar Member.protocolSelect, .scalar Member.reserved1, .scalar Member.defaultBootSelection,
    .scalar Member.reserved2, .scalar Member.promptTime, .scalar Member.displaySetupMessage,
    .scalar Member.reserved3, .scalar Member.forceSpeed, .scalar Member.forceFullDuplex,
    .scalar Member.reserved4, .scalar Member.efiPresence, .scalar Member.pxePresence]

def GbePxeBootAgentConfigurationCustomizationOptions31h.table :
    Table GbePxeBootAgentConfigurationCustomizationOptions31h :=
  .members [
    .scalar Member.disableSetupMenu, .scalar Member.disableTitleMessage,
    .scalar Member.disableProtocolSelect, .scalar Member.disableBootSelection,
    .scalar Member.disableLegacyWakeupSupport, .scalar Member.disableFlashUpdate,
    .scalar Member.reserved1, .scalar Member.ibaBootOrderSetupMode, .scalar Member.reserved2,
    .scalar Member.signature]

def GbePxeBootAgentConfigurationCustomizationOptions32h.table :
    Table GbePxeBootAgentConfigurationCustomizationOptions32h :=
  .members [
    .scalar Member.buildNumber, .scalar Member.minorVersionNumber,
    .scalar Member.majorVersionNumber]

def GbePxeIbaCapabilities.table : Table GbePxeIbaCapabilities :=
  .members [
    .scalar Member.baseCodePresent, .scalar Member.undiCapabilityPresent, .scalar Member.reserved1,
    .scalar Member.efiUndiCapabilityPresent, .scalar Member.reserved2_0,
    .scalar Member.reserved2_1, .scalar Member.signature]

def GbePxeSoftwareRegion.table : Table GbePxeSoftwareRegion :=
  Table.members [.array Member.paddingWords34hTo3Eh]
    |>.append (GbePxeBootAgentMainSetupOptions.table.within Member.bootAgentMainSetupOptions)
    |>.append
      (GbePxeBootAgentConfigurationCustomizationOptions31h.table.within
        Member.bootAgentConfigurationCustomizationOptions31h)
    |>.append
      (GbePxeBootAgentConfigurationCustomizationOptions32h.table.within
        Member.bootAgentConfigurationCustomizationOptions32h)
    |>.append (GbePxeIbaCapabilities.table.within Member.ibaCapabilities)

def GbeRegionRecord4k.table : Table GbeRegionRecord4k :=
  Table.members [
    .array Member.macAddress, .scalar Member.reservedWord04h,
    .scalar Member.imageVersionInformation, .array Member.reservedWords06h07h,
    .scalar Member.pbaLow, .scalar Member.pbaHigh, .scalar Member.subsystemId,
    .scalar Member.subsystemVendorId, .scalar Member.deviceId, .scalar Member.vendorId,
    .scalar Member.deviceRevId, .array Member.reservedWords11h12h,
    .scalar Member.extendedConfigurationControlWord3, .scalar Member.reservedWord19h,
    .scalar Member.reservedWord1Ah, .scalar Member.reservedWord1Bh, .scalar Member.reservedWord1Ch,
    .scalar Member.reservedWord1Dh, .scalar Member._82567lmDeviceId,
    .scalar Member._82567lfDeviceId, .scalar Member.reservedWord20h,
    .scalar Member._82567vDeviceId, .scalar Member.reservedWord22h, .scalar Member.reservedWord23h,
    .array Member.reservedWords24to2Fh, .scalar Member.checkSum, .array Member.padding]
    |>.append (GbeReservedWord03h.table.within Member.reservedWord03h)
    |>.append (GbePciInitializationControlWord.table.within Member.pciInitializationControlWord)
    |>.append (GbeLanPowerConsumption.table.within Member.lanPowerConsumption)
    |>.append
      (GbeSharedInitializationControlWord.table.within
        Member.sharedInitializationControlWord)
    |>.append
      (GbeExtendedConfigurationControlWord1.table.within
        Member.extendedConfigurationControlWord1)
    |>.append
      (GbeExtendedConfigurationControlWord2.table.within
        Member.extendedConfigurationControlWord2)
    |>.append (LedCtl1.table.within Member.ledCtl1)
    |>.append (LedCtl02.table.within Member.ledCtl02)
    |>.append (GbePxeSoftwareRegion.table.within Member.pxeSoftwareRegion)

/-! ## The statements can be read -/

variable {σ : Type} {t : Table σ}

theorem legible_emitGbePadding {n : Nat} {m : LValue σ (Vector (BitVec 8) n)}
    (hm : .array m ∈ t.places) (padding : Vector (BitVec 8) n) :
    Stmt.Legible [] t (emitGbePadding m padding) := by
  unfold emitGbePadding
  split
  · exact Stmt.legible_cons.mpr
      ⟨Stmt.readable_line (by decide +kernel), Stmt.legible_elements hm 2 padding⟩
  · have hfill : Fits ([] : List GenName) .cond (.hex ['F', 'F']) := by decide
    exact Stmt.legible_cons.mpr
      ⟨Stmt.readable_line (by decide +kernel), Stmt.legible_cons.mpr ⟨⟨hm, hfill⟩, Stmt.legible_nil⟩⟩

theorem GbeReservedWord03h.legible (s : GbeReservedWord03h) : Stmt.Legible [] table s.emit := by
  simp (disch := exact id (by simp [table, Table.mem_members])) only [emit, Stmt.legible_cons,
    Stmt.legible_nil, readable_printed, and_self]

theorem GbePciInitializationControlWord.legible (s : GbePciInitializationControlWord) :
    Stmt.Legible [] table s.emit := by
  simp (disch := exact id (by simp [table, Table.mem_members])) only [emit, Stmt.legible_cons,
    Stmt.legible_nil, readable_printed, and_self]

theorem GbeLanPowerConsumption.legible (s : GbeLanPowerConsumption) :
    Stmt.Legible [] table s.emit := by
  simp (disch := exact id (by simp [table, Table.mem_members])) only [emit, Stmt.legible_cons,
    Stmt.legible_nil, readable_printed, and_self]

theorem GbeSharedInitializationControlWord.legible (s : GbeSharedInitializationControlWord) :
    Stmt.Legible [] table s.emit := by
  simp (disch := exact id (by simp [table, Table.mem_members])) only [emit, Stmt.legible_cons,
    Stmt.legible_nil, readable_printed, and_self]

theorem GbeExtendedConfigurationControlWord1.legible (s : GbeExtendedConfigurationControlWord1) :
    Stmt.Legible [] table s.emit := by
  simp (disch := exact id (by simp [table, Table.mem_members])) only [emit, Stmt.legible_cons,
    Stmt.legible_nil, readable_printed, and_self]

theorem GbeExtendedConfigurationControlWord2.legible (s : GbeExtendedConfigurationControlWord2) :
    Stmt.Legible [] table s.emit := by
  simp (disch := exact id (by simp [table, Table.mem_members])) only [emit, Stmt.legible_cons,
    Stmt.legible_nil, readable_printed, and_self]

theorem LedCtl1.legible (s : LedCtl1) : Stmt.Legible [] table s.emit := by
  simp (disch := exact id (by simp [table, Table.mem_members])) only [emit, Stmt.legible_cons,
    Stmt.legible_nil, readable_printed, and_self]

theorem LedCtl02.legible (s : LedCtl02) : Stmt.Legible [] table s.emit := by
  simp (disch := exact id (by simp [table, Table.mem_members])) only [emit, Stmt.legible_cons,
    Stmt.legible_nil, readable_printed, and_self]

theorem GbePxeBootAgentMainSetupOptions.legible (s : GbePxeBootAgentMainSetupOptions) :
    Stmt.Legible [] table s.emit := by
  simp (disch := exact id (by simp [table, Table.mem_members])) only [emit, Stmt.legible_cons,
    Stmt.legible_nil, readable_printed, and_self]

theorem GbePxeBootAgentConfigurationCustomizationOptions31h.legible
    (s : GbePxeBootAgentConfigurationCustomizationOptions31h) :
    Stmt.Legible [] table s.emit := by
  simp (disch := exact id (by simp [table, Table.mem_members])) only [emit, Stmt.legible_cons,
    Stmt.legible_nil, readable_printed, and_self]

theorem GbePxeBootAgentConfigurationCustomizationOptions32h.legible
    (s : GbePxeBootAgentConfigurationCustomizationOptions32h) :
    Stmt.Legible [] table s.emit := by
  simp (disch := exact id (by simp [table, Table.mem_members])) only [emit, Stmt.legible_cons,
    Stmt.legible_nil, readable_printed, and_self]

theorem GbePxeIbaCapabilities.legible (s : GbePxeIbaCapabilities) :
    Stmt.Legible [] table s.emit := by
  simp (disch := exact id (by simp [table, Table.mem_members])) only [emit, Stmt.legible_cons,
    Stmt.legible_nil, readable_printed, and_self]

theorem GbePxeSoftwareRegion.legible (s : GbePxeSoftwareRegion) : Stmt.Legible [] table s.emit := by
  have hBootAgentMainSetupOptions : Stmt.Legible [] table
      (s.bootAgentMainSetupOptions.emit.map (.within Member.bootAgentMainSetupOptions)) :=
    s.bootAgentMainSetupOptions.legible.within fun m hm => by
      simp [table, Table.mem_append, Table.mem_within hm]
  have h31h : Stmt.Legible [] table
      (s.bootAgentConfigurationCustomizationOptions31h.emit.map
        (.within Member.bootAgentConfigurationCustomizationOptions31h)) :=
    s.bootAgentConfigurationCustomizationOptions31h.legible.within fun m hm => by
      simp [table, Table.mem_append, Table.mem_within hm]
  have h32h : Stmt.Legible [] table
      (s.bootAgentConfigurationCustomizationOptions32h.emit.map
        (.within Member.bootAgentConfigurationCustomizationOptions32h)) :=
    s.bootAgentConfigurationCustomizationOptions32h.legible.within fun m hm => by
      simp [table, Table.mem_append, Table.mem_within hm]
  have hIbaCapabilities : Stmt.Legible [] table
      (s.ibaCapabilities.emit.map (.within Member.ibaCapabilities)) :=
    s.ibaCapabilities.legible.within fun m hm => by
      simp [table, Table.mem_append, Table.mem_within hm]
  have hPaddingWords34hTo3Eh : .array Member.paddingWords34hTo3Eh ∈ table.places := by
    simp [table, Table.mem_append, Table.mem_members]
  simp (disch := decide) only [emit, Stmt.legible_append, Stmt.legible_cons,
    Stmt.legible_nil, Stmt.readable_line, hBootAgentMainSetupOptions, h31h, h32h, hIbaCapabilities,
    Stmt.legible_elements hPaddingWords34hTo3Eh, and_self]

theorem GbeRegionRecord4k.legibleWords00hTo0Fh (s : GbeRegionRecord4k) :
    Stmt.Legible [] table s.emitWords00hTo0Fh := by
  have hReservedWord03h : Stmt.Legible [] table
      (s.reservedWord03h.emit.map (.within Member.reservedWord03h)) :=
    s.reservedWord03h.legible.within fun m hm => by
      simp [table, Table.mem_append, Table.mem_within hm]
  have hPciInitializationControlWord : Stmt.Legible [] table
      (s.pciInitializationControlWord.emit.map (.within Member.pciInitializationControlWord)) :=
    s.pciInitializationControlWord.legible.within fun m hm => by
      simp [table, Table.mem_append, Table.mem_within hm]
  have hMacAddress : .array Member.macAddress ∈ table.places := by
    simp [table, Table.mem_append, Table.mem_members]
  have hReservedWords06h07h : .array Member.reservedWords06h07h ∈ table.places := by
    simp [table, Table.mem_append, Table.mem_members]
  simp (disch := first | decide | exact id (by simp [table, Table.mem_append, Table.mem_members]))
    only [emitWords00hTo0Fh, Stmt.legible_append, Stmt.legible_cons, Stmt.legible_nil,
    Stmt.readable_line, readable_printed, hReservedWord03h, hPciInitializationControlWord,
    Stmt.legible_elements hMacAddress, Stmt.legible_elements hReservedWords06h07h, and_self]

theorem GbeRegionRecord4k.legibleWords10hTo18h (s : GbeRegionRecord4k) :
    Stmt.Legible [] table s.emitWords10hTo18h := by
  have hLanPowerConsumption : Stmt.Legible [] table
      (s.lanPowerConsumption.emit.map (.within Member.lanPowerConsumption)) :=
    s.lanPowerConsumption.legible.within fun m hm => by
      simp [table, Table.mem_append, Table.mem_within hm]
  have hord : Stmt.Legible [] table
      (s.sharedInitializationControlWord.emit.map
        (.within Member.sharedInitializationControlWord)) :=
    s.sharedInitializationControlWord.legible.within fun m hm => by
      simp [table, Table.mem_append, Table.mem_within hm]
  have hrd1 : Stmt.Legible [] table
      (s.extendedConfigurationControlWord1.emit.map
        (.within Member.extendedConfigurationControlWord1)) :=
    s.extendedConfigurationControlWord1.legible.within fun m hm => by
      simp [table, Table.mem_append, Table.mem_within hm]
  have hrd2 : Stmt.Legible [] table
      (s.extendedConfigurationControlWord2.emit.map
        (.within Member.extendedConfigurationControlWord2)) :=
    s.extendedConfigurationControlWord2.legible.within fun m hm => by
      simp [table, Table.mem_append, Table.mem_within hm]
  have hLedCtl1 : Stmt.Legible [] table (s.ledCtl1.emit.map (.within Member.ledCtl1)) :=
    s.ledCtl1.legible.within fun m hm => by
      simp [table, Table.mem_append, Table.mem_within hm]
  have hLedCtl02 : Stmt.Legible [] table (s.ledCtl02.emit.map (.within Member.ledCtl02)) :=
    s.ledCtl02.legible.within fun m hm => by
      simp [table, Table.mem_append, Table.mem_within hm]
  have hReservedWords11h12h : .array Member.reservedWords11h12h ∈ table.places := by
    simp [table, Table.mem_append, Table.mem_members]
  simp (disch := first | decide | exact id (by simp [table, Table.mem_append, Table.mem_members]))
    only [emitWords10hTo18h, Stmt.legible_append, Stmt.legible_cons, Stmt.legible_nil,
    Stmt.readable_line, readable_printed, hLanPowerConsumption, hord, hrd1, hrd2, hLedCtl1,
    hLedCtl02, Stmt.legible_elements hReservedWords11h12h, and_self]

set_option maxRecDepth 2000 in
theorem GbeRegionRecord4k.legibleWords19hTo2Fh (s : GbeRegionRecord4k) :
    Stmt.Legible [] table s.emitWords19hTo2Fh := by
  have hReservedWords24to2Fh : .array Member.reservedWords24to2Fh ∈ table.places := by
    simp [table, Table.mem_append, Table.mem_members]
  simp (disch := first | decide | exact id (by simp [table, Table.mem_append, Table.mem_members]))
    only [emitWords19hTo2Fh, Stmt.legible_append, Stmt.legible_cons, Stmt.legible_nil,
    Stmt.readable_line, readable_printed, Stmt.legible_elements hReservedWords24to2Fh, and_self]

theorem GbeRegionRecord4k.legibleWords30hOn (s : GbeRegionRecord4k) :
    Stmt.Legible [] table s.emitWords30hOn := by
  have hPxeSoftwareRegion : Stmt.Legible [] table
      (s.pxeSoftwareRegion.emit.map (.within Member.pxeSoftwareRegion)) :=
    s.pxeSoftwareRegion.legible.within fun m hm => by
      simp [table, Table.mem_append, Table.mem_within hm]
  have hPadding : .array Member.padding ∈ table.places := by
    simp [table, Table.mem_append, Table.mem_members]
  simp (disch := first | decide | exact id (by simp [table, Table.mem_append, Table.mem_members]))
    only [emitWords30hOn, Stmt.legible_append, Stmt.legible_cons, Stmt.legible_nil,
    Stmt.readable_line, readable_printed, hPxeSoftwareRegion, legible_emitGbePadding hPadding,
    and_self]

theorem GbeRegionRecord4k.legible (s : GbeRegionRecord4k) : Stmt.Legible [] table s.emit := by
  simp only [emit, Stmt.legible_append, s.legibleWords00hTo0Fh, s.legibleWords10hTo18h,
    s.legibleWords19hTo2Fh, s.legibleWords30hOn, and_self]

/-! ## The second function -/

namespace GbeCopy

/-- A half of the local variable, by its name. -/
def readHalf (t : Token) : Option (LValue GbeRegionRecord8k GbeRegionRecord4k) :=
  [gbeStruct8kMain, gbeStruct8kBackup].find? fun lv => letters lv.text = t

def read : List Token → Option (GbeCopy × List Token)
  | [] => none
  | t :: ts =>
    match skip "memcpy(&" (t :: ts) with
    | some (dst :: ts) => do
      let dst ← readHalf dst
      match skip ", &" ts with
      | some (src :: ts) => some (.memcpy dst (← readHalf src), ← skip ", GBEREGIONSIZE_4K);" ts)
      | _ => none
    | some [] => none
    | none => do some (.call (← readHalf t), ← skip "= generatedGbeStruct4k();" ts)

/-- Statements up to the `return`. -/
def readBlock : Nat → List Token → Option (List GbeCopy × List Token)
  | 0, _ => none
  | fuel + 1, ts =>
    match skip "return" ts with
    | some _ => some ([], ts)
    | none => do
      let (c, ts) ← read ts
      let (p, ts) ← readBlock fuel ts
      some (c :: p, ts)

def tokens : GbeCopy → List Token
  | call lhs => letters lhs.text :: CText.tokens "= generatedGbeStruct4k();"
  | memcpy dst src =>
    CText.tokens "memcpy(&" ++ (letters dst.text :: (CText.tokens ", &"
      ++ (letters src.text :: CText.tokens ", GBEREGIONSIZE_4K);")))

theorem readHalf_main : readHalf (letters gbeStruct8kMain.text) = some gbeStruct8kMain := by
  rw [readHalf, List.find?_cons_of_pos (by simp)]

theorem readHalf_backup : readHalf (letters gbeStruct8kBackup.text) = some gbeStruct8kBackup := by
  have hne : letters gbeStruct8kMain.text ≠ letters gbeStruct8kBackup.text := by decide +kernel
  simp [readHalf, hne]

theorem read_call {lhs : LValue GbeRegionRecord8k GbeRegionRecord4k}
    (hlhs : readHalf (letters lhs.text) = some lhs) (hne : letters "memcpy" ≠ letters lhs.text)
    (rest : List Token) : read (tokens (.call lhs) ++ rest) = some (.call lhs, rest) := by
  have hmemcpy : CText.tokens "memcpy(&" = letters "memcpy" :: CText.tokens "(&" := by decide
  simp only [tokens, List.cons_append, read, skip_of_head_ne hmemcpy hne, hlhs, skip_tokens,
    Option.bind_eq_bind, Option.bind_some]

theorem read_memcpy {dst src : LValue GbeRegionRecord8k GbeRegionRecord4k}
    (hdst : readHalf (letters dst.text) = some dst) (hsrc : readHalf (letters src.text) = some src)
    (rest : List Token) :
    read (tokens (.memcpy dst src) ++ rest) = some (.memcpy dst src, rest) := by
  have hmemcpy : CText.tokens "memcpy(&" = letters "memcpy" :: CText.tokens "(&" := by decide
  have hskip := skip_tokens "memcpy(&" (letters dst.text :: (CText.tokens ", &"
    ++ (letters src.text :: (CText.tokens ", GBEREGIONSIZE_4K);" ++ rest))))
  rw [hmemcpy, List.cons_append] at hskip
  simp only [tokens, hmemcpy, List.append_assoc, List.cons_append, read, hskip, hdst, hsrc,
    skip_tokens, Option.bind_eq_bind, Option.bind_some]

/-- The second function is read back. -/
theorem readBlock_emit (fuel : Nat) :
    readBlock (fuel + 3) (emit.flatMap tokens ++ CText.tokens "return gbeStruct8k; \x7d")
      = some (emit, CText.tokens "return gbeStruct8k; \x7d") := by
  have hreturn : CText.tokens "return" = [letters "return"] := by decide
  have hmain : letters "memcpy" ≠ letters gbeStruct8kMain.text
      ∧ letters "return" ≠ letters gbeStruct8kMain.text := by decide +kernel
  have hfoot : CText.tokens "return gbeStruct8k; \x7d"
      = CText.tokens "return" ++ CText.tokens "gbeStruct8k; \x7d" := by decide
  have hcall : ∀ ts, skip "return" (tokens (.call gbeStruct8kMain) ++ ts) = none :=
    fun ts => skip_of_head_ne hreturn hmain.2
  have hmemcpy : ∀ ts, skip "return" (tokens (.memcpy gbeStruct8kBackup gbeStruct8kMain) ++ ts)
      = none := by
    intro ts
    have htokens : CText.tokens "memcpy(&" = letters "memcpy" :: CText.tokens "(&" := by decide
    rw [tokens, htokens]
    exact skip_of_head_ne hreturn (by decide)
  have hend : ∀ fuel, readBlock (fuel + 1) (CText.tokens "return gbeStruct8k; \x7d")
      = some ([], CText.tokens "return gbeStruct8k; \x7d") := by
    intro fuel
    rw [readBlock, hfoot, skip_tokens]
  rw [emit, List.flatMap_cons, List.flatMap_cons, List.flatMap_nil, List.append_nil,
    List.append_assoc, readBlock, hcall]
  simp only [read_call readHalf_main hmain.1, Option.bind_eq_bind, Option.bind_some]
  rw [readBlock, hmemcpy]
  simp only [read_memcpy readHalf_backup readHalf_main, hend, Option.bind_eq_bind,
    Option.bind_some]

end GbeCopy

/-! ## The file -/

/-- The two functions of a source file, `generatedGbeStruct4k` and `generatedGbeStruct8k`. -/
structure GbeProgram where
  body : List (GenStmt GbeRegionRecord4k)
  copies : List GbeCopy

namespace GbeProgram

/-- A call of the first function, from any contents of its local struct. -/
def generatedGbeStruct4k (p : GbeProgram) (gbeStruct4k : GbeRegionRecord4k) : GbeRegionRecord4k :=
  Stmt.exec (GenName.value 0 0) p.body gbeStruct4k

/-- A call of the second one, which calls the first. -/
def generatedGbeStruct8k (p : GbeProgram) (gbeStruct4k : GbeRegionRecord4k)
    (gbeStruct8k : GbeRegionRecord8k) : GbeRegionRecord8k :=
  p.copies.foldl (GbeCopy.step (p.generatedGbeStruct4k gbeStruct4k)) gbeStruct8k

end GbeProgram

/-- The members of the local variable of the first function. -/
def gbeStruct4kTable : Table GbeRegionRecord4k :=
  GbeRegionRecord4k.table.within (.var "gbeStruct4k")

def gbeStruct4kHead : String :=
  "struct GBEREGIONRECORD_4K generatedGbeStruct4k() \x7b int i;"
    ++ " struct GBEREGIONRECORD_4K gbeStruct4k;"

def gbeStruct8kHead : String :=
  "struct GBEREGIONRECORD_8K generatedGbeStruct8k() \x7b struct GBEREGIONRECORD_8K gbeStruct8k;"

/-- The functions in a source file, which must not hold anything else. -/
def readGbeSource (file : Bytes) : Option GbeProgram := do
  let (body, ts) ← readFunction gbeStruct4kTable.places [] GenName.text gbeStruct4kHead
    "return gbeStruct4k; \x7d" (lex (chars file))
  let ts ← skip gbeStruct8kHead ts
  let (copies, ts) ← GbeCopy.readBlock (ts.length + 1) ts
  if ts = tokens "return gbeStruct8k; \x7d" then some ⟨body, copies⟩ else none

/-- What `notCreatedCFileFromGbeStruct4k` writes for the names of the tools. -/
def gbeSourceFile (g : GbeRegionRecord4k) : Bytes :=
  (gbeSource g "mkgbe.c" "mkgbe.h").flatMap ascii

/-- If nothing fails, the file holds it. -/
theorem gbeSourceFile_written {lib : CLib} (h : (lib "mkgbe.c").Reliable) (g : GbeRegionRecord4k)
    (w : World) : (notCreatedCFileFromGbeStruct4k lib g "mkgbe.c" "mkgbe.h" w).2.files "mkgbe.c"
      = some (gbeSourceFile g) :=
  writeTextFile_delivers _ h w (writeTextFile_succeeds _ h w)

/-- The tokens behind the statements of the first function. -/
def gbeSourceRest : List Token :=
  tokens gbeStruct8kHead ++ (GbeCopy.emit.flatMap GbeCopy.tokens ++ tokens "return gbeStruct8k; \x7d")

theorem legible_gbeStruct4k (g : GbeRegionRecord4k) :
    Stmt.Legible [] gbeStruct4kTable (g.emit.map (.within (.var "gbeStruct4k"))) :=
  g.legible.within fun _ hm => Table.mem_within hm

theorem distinct_nil : Distinct ([] : List GenName) GenName.text :=
  ⟨List.nodup_nil, fun _ h => (nomatch h), fun _ h => (nomatch h)⟩

/-- The tokens of the file are those of the two functions. -/
theorem lexes_gbeSourceFile (g : GbeRegionRecord4k) :
    Lexes (chars (gbeSourceFile g))
      (tokens gbeStruct4kHead
        ++ ((g.emit.map (.within (.var "gbeStruct4k"))).flatMap (Stmt.tokens GenName.text)
          ++ (tokens "return gbeStruct4k; \x7d" ++ gbeSourceRest))) := by
  rw [gbeSourceFile, chars_flatMap_ascii, gbeSource, List.append_assoc, List.append_assoc,
    List.append_assoc, List.flatMap_append, List.flatMap_append]
  exact Closed.append_lexes (by decide +kernel)
    ((Stmt.closed_block distinct_nil (legible_gbeStruct4k g)).append_lexes (by decide +kernel))

/-- **The statements in the file are the emitted ones.** -/
theorem readGbeSource_file (g : GbeRegionRecord4k) :
    readGbeSource (gbeSourceFile g)
      = some ⟨(g.emit.map (.within (.var "gbeStruct4k"))).flatMap Stmt.code, GbeCopy.emit⟩ := by
  have hfree : gbeStruct4kTable.Free := by decide
  have hfoot : (tokens "return gbeStruct4k; \x7d").head? = some (letters "return") := by decide
  have hread := Stmt.readFunction_tokens distinct_nil hfree gbeStruct4kHead hfoot
    (legible_gbeStruct4k g) gbeSourceRest
  have hlength : 2 ≤ (GbeCopy.emit.flatMap GbeCopy.tokens
      ++ tokens "return gbeStruct8k; \x7d").length := by
    simp only [GbeCopy.emit, GbeCopy.tokens, List.flatMap_cons, List.length_append,
      List.length_cons]
    omega
  obtain ⟨k, hk⟩ := Nat.exists_eq_add_of_le' hlength
  rw [gbeSourceRest] at hread
  simp only [readGbeSource, gbeSourceRest, (lexes_gbeSourceFile g).2, hread, skip_tokens, hk,
    Nat.add_assoc, GbeCopy.readBlock_emit, Option.bind_eq_bind, Option.bind_some, if_true]

/-- **Calling the functions in the file gives the block,** whatever the local structs held. -/
theorem runGbeSource_file (g : GbeRegionRecord4k) :
    ∃ p, readGbeSource (gbeSourceFile g) = some p
      ∧ ∀ (gbeStruct4k : GbeRegionRecord4k) (gbeStruct8k : GbeRegionRecord8k),
        p.generatedGbeStruct4k gbeStruct4k = g
          ∧ p.generatedGbeStruct8k gbeStruct4k gbeStruct8k = ⟨g, g⟩ := by
  refine ⟨_, readGbeSource_file g, fun gbeStruct4k gbeStruct8k => ?_⟩
  have hblock : Stmt.exec (GenName.value 0 0)
      ((g.emit.map (.within (.var "gbeStruct4k"))).flatMap Stmt.code) gbeStruct4k = g := by
    rw [Stmt.exec_code, Stmt.exec_within, GbeRegionRecord4k.exec_emit]
    rfl
  refine ⟨hblock, ?_⟩
  rw [GbeProgram.generatedGbeStruct8k, GbeProgram.generatedGbeStruct4k, hblock]
  rfl

end Libreboot
