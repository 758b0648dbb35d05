import Libreboot.Descriptor.Regenerate
import Libreboot.Gbe.Members

/-!
# The GbE code generator

`notCreatedCFileFromGbeStruct4k` prints a C function that rebuilds a 4 KiB block, and a second one
that copies the block into both halves of a GbE region. No member depends on an argument, so the
printed function returns the block itself.

* `GbeRegionRecord4k.exec_emit` — the assignments of the printed function restore the block
-/

namespace Libreboot

open Infra

variable {σ : Type}

/-- The padding of a block: a loop if all bytes are `0xFF`, otherwise byte by byte. -/
def emitGbePadding {n : Nat} (m : LValue σ (Vector (BitVec 8) n)) (padding : Vector (BitVec 8) n) :
    List (GenStmt σ) :=
  if ∃ i : Fin n, padding.get i ≠ 0xFF then
    .line "    /* The rest of Gbe (word 40h or byte 80h onwards) is just padding */" ::
      Stmt.elements m 2 padding
  else [
    .line "    /* The rest of Gbe (word 40h or byte 80h onwards) is just padding (0xFF) */",
    .fill m (.hex ['F', 'F'])]

/-! ## The words of a block -/

def GbeReservedWord03h.emit (s : GbeReservedWord03h) : List (GenStmt GbeReservedWord03h) := [
  printed Member.reserved1_0 2 s,
  printed Member.reserved1_1 1 s,
  printed Member.ibaLom 1 s,
  printed Member.reserved2 1 s]

def GbePciInitializationControlWord.emit (s : GbePciInitializationControlWord) :
    List (GenStmt GbePciInitializationControlWord) := [
  printed Member.loadVendorDeviceId 1 s,
  printed Member.loadSubsystemId 1 s,
  printed Member.reserved1 1 s,
  printed Member.reserved2 1 s,
  printed Member.pmEnable 1 s,
  printed Member.auxPwr 1 s,
  printed Member.reserved3 1 s,
  printed Member.reserved4 1 s]

def GbeLanPowerConsumption.emit (s : GbeLanPowerConsumption) :
    List (GenStmt GbeLanPowerConsumption) := [
  printed Member.lanD3Power 2 s,
  printed Member.reserved 1 s,
  printed Member.lanD0Power 2 s]

def GbeSharedInitializationControlWord.emit (s : GbeSharedInitializationControlWord) :
    List (GenStmt GbeSharedInitializationControlWord) := [
  printed Member.reserved1 1 s,
  printed Member.forceDuplex 1 s,
  printed Member.forceSpeedEnable 1 s,
  printed Member.reserved2_0 1 s,
  printed Member.reserved2_1 1 s,
  printed Member.phyPowerDownEnable 1 s,
  printed Member.reserved3 1 s,
  printed Member.reserved4 1 s,
  printed Member.sign 1 s]

def GbeExtendedConfigurationControlWord1.emit (s : GbeExtendedConfigurationControlWord1) :
    List (GenStmt GbeExtendedConfigurationControlWord1) := [
  printed Member.extendedConfigurationPointer 3 s,
  printed Member.oemWriteEnable 1 s,
  printed Member.reserved1 1 s,
  printed Member.reserved2 1 s,
  printed Member.reserved3 1 s]

def GbeExtendedConfigurationControlWord2.emit (s : GbeExtendedConfigurationControlWord2) :
    List (GenStmt GbeExtendedConfigurationControlWord2) := [
  printed Member.reserved 2 s,
  printed Member.extendedPhyLength 2 s]

def LedCtl1.emit (s : LedCtl1) : List (GenStmt LedCtl1) := [
  printed Member.led1Mode 1 s,
  printed Member.reserved1 1 s,
  printed Member.led1BlinkMode 1 s,
  printed Member.led1Invert 1 s,
  printed Member.led1Blink 1 s,
  printed Member.reserved2 1 s,
  printed Member.lpluEnable 1 s,
  printed Member.lpluEnableNonD0a 1 s,
  printed Member.gbeDisableNonD0a 1 s,
  printed Member.reserved3 1 s,
  printed Member.gbeDisable 1 s,
  printed Member.reserved4 1 s]

def LedCtl02.emit (s : LedCtl02) : List (GenStmt LedCtl02) := [
  printed Member.led0Mode 1 s,
  printed Member.reserved1 1 s,
  printed Member.led0BlinkMode 1 s,
  printed Member.led0Invert 1 s,
  printed Member.led0Blink 1 s,
  printed Member.led2Mode 1 s,
  printed Member.reserved2 1 s,
  printed Member.led2BlinkMode 1 s,
  printed Member.led2Invert 1 s,
  printed Member.led2Blink 1 s]

def GbePxeBootAgentMainSetupOptions.emit (s : GbePxeBootAgentMainSetupOptions) :
    List (GenStmt GbePxeBootAgentMainSetupOptions) := [
  printed Member.protocolSelect 1 s,
  printed Member.reserved1 1 s,
  printed Member.defaultBootSelection 1 s,
  printed Member.reserved2 1 s,
  printed Member.promptTime 1 s,
  printed Member.displaySetupMessage 1 s,
  printed Member.reserved3 1 s,
  printed Member.forceSpeed 1 s,
  printed Member.forceFullDuplex 1 s,
  printed Member.reserved4 1 s,
  printed Member.efiPresence 1 s,
  printed Member.pxePresence 1 s]

def GbePxeBootAgentConfigurationCustomizationOptions31h.emit
    (s : GbePxeBootAgentConfigurationCustomizationOptions31h) :
    List (GenStmt GbePxeBootAgentConfigurationCustomizationOptions31h) := [
  printed Member.disableSetupMenu 1 s,
  printed Member.disableTitleMessage 1 s,
  printed Member.disableProtocolSelect 1 s,
  printed Member.disableBootSelection 1 s,
  printed Member.disableLegacyWakeupSupport 1 s,
  printed Member.disableFlashUpdate 1 s,
  printed Member.reserved1 1 s,
  printed Member.ibaBootOrderSetupMode 1 s,
  printed Member.reserved2 1 s,
  printed Member.signature 1 s]

def GbePxeBootAgentConfigurationCustomizationOptions32h.emit
    (s : GbePxeBootAgentConfigurationCustomizationOptions32h) :
    List (GenStmt GbePxeBootAgentConfigurationCustomizationOptions32h) := [
  printed Member.buildNumber 2 s,
  printed Member.minorVersionNumber 1 s,
  printed Member.majorVersionNumber 1 s]

def GbePxeIbaCapabilities.emit (s : GbePxeIbaCapabilities) :
    List (GenStmt GbePxeIbaCapabilities) := [
  printed Member.baseCodePresent 1 s,
  printed Member.undiCapabilityPresent 1 s,
  printed Member.reserved1 1 s,
  printed Member.efiUndiCapabilityPresent 1 s,
  printed Member.reserved2_0 1 s,
  printed Member.reserved2_1 2 s,
  printed Member.signature 1 s]

/-- The words of the boot agent. -/
def GbePxeSoftwareRegion.emit (s : GbePxeSoftwareRegion) : List (GenStmt GbePxeSoftwareRegion) :=
  s.bootAgentMainSetupOptions.emit.map (.within Member.bootAgentMainSetupOptions)
    ++ [.line "    /* Boot Agent Configuration Customization Options (Word 31h) */"]
    ++ s.bootAgentConfigurationCustomizationOptions31h.emit.map
      (.within Member.bootAgentConfigurationCustomizationOptions31h)
    ++ [.line "    /* Boot Agent Configuration Customization Options (Word 32h) */"]
    ++ s.bootAgentConfigurationCustomizationOptions32h.emit.map
      (.within Member.bootAgentConfigurationCustomizationOptions32h)
    ++ [.line "    /* IBA Capabilities (Word 33h) */"]
    ++ s.ibaCapabilities.emit.map (.within Member.ibaCapabilities)
    ++ [.line "    /* Padding (Words 34h to 3Eh) */"]
    ++ Stmt.elements Member.paddingWords34hTo3Eh 4 s.paddingWords34hTo3Eh

/-- The MAC address, the version and the PCI identification. -/
def GbeRegionRecord4k.emitWords00hTo0Fh (s : GbeRegionRecord4k) :
    List (GenStmt GbeRegionRecord4k) :=
  [.line "    /* MAC address (words 00h to 02h) */",
    .line "    /* see ../gbe/gbe.c */"]
    ++ Stmt.elements Member.macAddress 2 s.macAddress
    ++ [.line "",
      .line "    /* Word 03h (Reserved) */"]
    ++ s.reservedWord03h.emit.map (.within Member.reservedWord03h)
    ++ [.line "",
      .line "    /* Word 04h (Reserved) */",
      printed Member.reservedWord04h 4 s,
      .line "",
      .line "    /* Word 05h (Image Version Information) */",
      printed Member.imageVersionInformation 4 s,
      .line "",
      .line "    /* Words 06h and 07h (Reserved) */"]
    ++ Stmt.elements Member.reservedWords06h07h 4 s.reservedWords06h07h
    ++ [.line "",
      .line "    /* Word 08h and 09h (PBA Low and PBA High) */",
      printed Member.pbaLow 4 s,
      printed Member.pbaHigh 4 s,
      .line "",
      .line "    /* Word 0Ah (PCI Initialization Control Word) */"]
    ++ s.pciInitializationControlWord.emit.map (.within Member.pciInitializationControlWord)
    ++ [.line "",
      .line "    /* Word 0Bh (Subsystem ID) */",
      printed Member.subsystemId 4 s,
      .line "",
      .line "    /* Word 0Ch (Subsystem Vendor ID) */",
      printed Member.subsystemVendorId 4 s,
      .line "",
      .line "    /* Word 0Dh (Device ID) */",
      printed Member.deviceId 4 s,
      .line "",
      .line "    /* Word 0Eh (Vendor ID) */",
      printed Member.vendorId 4 s,
      .line "",
      .line "    /* Word 0Fh (Device Revision ID) */",
      printed Member.deviceRevId 4 s,
      .line ""]

/-- Power, PHY and LED configuration. -/
def GbeRegionRecord4k.emitWords10hTo18h (s : GbeRegionRecord4k) :
    List (GenStmt GbeRegionRecord4k) :=
  [.line "    /* Word 10h (LAN Power Consumption) */"]
    ++ s.lanPowerConsumption.emit.map (.within Member.lanPowerConsumption)
    ++ [.line "",
      .line "    /* Words 11h and 12h (Reserved) */"]
    ++ Stmt.elements Member.reservedWords11h12h 4 s.reservedWords11h12h
    ++ [.line "",
      .line "    /* Word 13h (Shared Initialization Control Word) */"]
    ++ s.sharedInitializationControlWord.emit.map (.within Member.sharedInitializationControlWord)
    ++ [.line "",
      .line "    /* Word 14h (Extended Configuration Control Word 1) */"]
    ++ s.extendedConfigurationControlWord1.emit.map
      (.within Member.extendedConfigurationControlWord1)
    ++ [.line "",
      .line "    /* Word 15h (Extended Configuration Control Word 2) */"]
    ++ s.extendedConfigurationControlWord2.emit.map
      (.within Member.extendedConfigurationControlWord2)
    ++ [.line "",
      .line "    /* Word 16h (Extended Configuration Control Word 3) */",
      printed Member.extendedConfigurationControlWord3 4 s,
      .line "",
      .line "    /* Word 17h (LED 1 Configuration and Power Management) */"]
    ++ s.ledCtl1.emit.map (.within Member.ledCtl1)
    ++ [.line "",
      .line "    /* Word 18h (LED 0 and 2 Configuration Defaults) */"]
    ++ s.ledCtl02.emit.map (.within Member.ledCtl02)
    ++ [.line ""]

/-- Reserved words and device IDs. -/
def GbeRegionRecord4k.emitWords19hTo2Fh (s : GbeRegionRecord4k) :
    List (GenStmt GbeRegionRecord4k) :=
  [.line "    /* Word 19h (Reserved) */",
    printed Member.reservedWord19h 4 s,
    .line "",
    .line "    /* Word 1Ah (Reserved) */",
    printed Member.reservedWord1Ah 4 s,
    .line "",
    .line "    /* Word 1Bh (Reserved) */",
    printed Member.reservedWord1Bh 4 s,
    .line "",
    .line "    /* Word 1Ch (Reserved) */",
    printed Member.reservedWord1Ch 4 s,
    .line "",
    .line "    /* Word 1Dh (Reserved) */",
    printed Member.reservedWord1Dh 4 s,
    .line "",
    .line "    /* Word 1Eh (Device ID for Intel 82567LM gigabit ethernet controller) */",
    printed Member._82567lmDeviceId 4 s,
    .line "",
    .line "    /* Word 1Fh (Device ID for Intel 82567LF gigabit ethernet controller) */",
    printed Member._82567lfDeviceId 4 s,
    .line "",
    .line "    /* Word 20h (Reserved) */",
    printed Member.reservedWord20h 4 s,
    .line "",
    .line "    /* Word 21h (Device ID for Intel 82567V gigabit ethernet controller) */",
    printed Member._82567vDeviceId 4 s,
    .line "",
    .line "    /* Word 22h (Reserved) */",
    printed Member.reservedWord22h 4 s,
    .line "",
    .line "    /* Word 23h (Reserved) */",
    printed Member.reservedWord23h 4 s,
    .line "",
    .line "    /* Words 24h to 2Fh (Reserved) */"]
    ++ Stmt.elements Member.reservedWords24to2Fh 4 s.reservedWords24to2Fh
    ++ [.line ""]

/-- The boot agent, the checksum and the padding. -/
def GbeRegionRecord4k.emitWords30hOn (s : GbeRegionRecord4k) :
    List (GenStmt GbeRegionRecord4k) :=
  [.line "    /* Words 30h to 3Eh (PXE Software Region) */",
    .line "    /* Boot Agent Main Setup Options (Word 30h) */"]
    ++ s.pxeSoftwareRegion.emit.map (.within Member.pxeSoftwareRegion)
    ++ [.line "",
      .line "    /* Word 3Fh (Checksum) */",
      printed Member.checkSum 4 s,
      .line ""]
    ++ emitGbePadding Member.padding s.padding
    ++ [.line ""]

/-- The assignments of the generated function. -/
def GbeRegionRecord4k.emit (s : GbeRegionRecord4k) : List (GenStmt GbeRegionRecord4k) :=
  s.emitWords00hTo0Fh ++ s.emitWords10hTo18h ++ s.emitWords19hTo2Fh ++ s.emitWords30hOn

/-! ## The second function -/

namespace GbeRegionRecord8k.Member

def main : LValue GbeRegionRecord8k GbeRegionRecord4k :=
  .mk "main" (fun s => s.main) (fun v s => { s with main := v })
def backup : LValue GbeRegionRecord8k GbeRegionRecord4k :=
  .mk "backup" (fun s => s.backup) (fun v s => { s with backup := v })

end GbeRegionRecord8k.Member

/-- Statements about the two halves of a GbE region. -/
inductive GbeCopy where
  /-- `lhs = generatedGbeStruct4k();` -/
  | call (lhs : LValue GbeRegionRecord8k GbeRegionRecord4k)
  /-- `memcpy(&dst, &src, GBEREGIONSIZE_4K);`, the size of a block -/
  | memcpy (dst src : LValue GbeRegionRecord8k GbeRegionRecord4k)

namespace GbeCopy

def render : GbeCopy → String
  | call lhs => "    " ++ lhs.text ++ " = generatedGbeStruct4k();\n"
  | memcpy dst src => "    memcpy(&" ++ dst.text ++ ", &" ++ src.text ++ ", GBEREGIONSIZE_4K);\n"

/-- The value of `generatedGbeStruct4k()` is an argument. -/
def step (generatedGbeStruct4k : GbeRegionRecord4k) (s : GbeRegionRecord8k) :
    GbeCopy → GbeRegionRecord8k
  | call lhs => lhs.set generatedGbeStruct4k s
  | memcpy dst src => dst.set (src.get s) s

/-- The halves of the local variable. -/
def gbeStruct8kMain : LValue GbeRegionRecord8k GbeRegionRecord4k :=
  (LValue.var "gbeStruct8k").dot GbeRegionRecord8k.Member.main

def gbeStruct8kBackup : LValue GbeRegionRecord8k GbeRegionRecord4k :=
  (LValue.var "gbeStruct8k").dot GbeRegionRecord8k.Member.backup

/-- The assignments of the second generated function. -/
def emit : List GbeCopy := [.call gbeStruct8kMain, .memcpy gbeStruct8kBackup gbeStruct8kMain]

end GbeCopy

/-! ## The files -/

/-- The text of `mkgbe.c`. -/
def gbeSource (g : GbeRegionRecord4k) (outFileName headerFileName : String) : List String :=
  ["/* " ++ outFileName ++ ": generated C code from ich9deblob */\n",
    "/* .c source file for the gbe-generating C code */\n\n",
    "#include \"" ++ headerFileName ++ "\"\n\n",
    "/* Generate a 4KiB Gbe struct, with default values. */\n",
    "/* Read ../gbe/gbe.h for an explanation of the default values used here */\n\n",
    "struct GBEREGIONRECORD_4K generatedGbeStruct4k()\n",
    "\x7b\n",
    "    int i;\n",
    "    struct GBEREGIONRECORD_4K gbeStruct4k;\n",
    "\n"]
    ++ (g.emit.map (.within (.var "gbeStruct4k"))).flatMap (Stmt.render GenName.text)
    ++ ["    return gbeStruct4k;\n",
      "\x7d\n\n",
      "struct GBEREGIONRECORD_8K generatedGbeStruct8k()\n",
      "\x7b\n",
      "    struct GBEREGIONRECORD_8K gbeStruct8k;\n"]
    ++ GbeCopy.emit.map GbeCopy.render
    ++ ["    return gbeStruct8k;\n",
      "\x7d\n\n"]

def notCreatedCFileFromGbeStruct4k (lib : CLib) (g : GbeRegionRecord4k)
    (outFileName headerFileName : String) : CFun :=
  writeTextFile lib outFileName (gbeSource g outFileName headerFileName)

def notCreatedHFileForGbeCFile (lib : CLib) (outFileName cFileName : String) : CFun :=
  writeTextFile lib outFileName
    ["/* " ++ outFileName ++ ": generated C code from ich9deblob */\n",
      "/* .h header file for the gbe-generating C code (" ++ cFileName ++ ") */\n\n",
      "#ifndef ICH9GEN_MKGBE_H\n",
      "#define ICH9GEN_MKGBE_H\n\n",
      "#include <stdio.h>\n",
      "#include <string.h>\n",
      "#include \"../gbe/gbe.h\"\n\n",
      "struct GBEREGIONRECORD_4K generatedGbeStruct4k();\n",
      "struct GBEREGIONRECORD_8K generatedGbeStruct8k();\n\n",
      "#endif\n"]

/-! ## What the generated function returns -/

theorem exec_emitGbePadding {n : Nat} (env : GenName → BitVec 32)
    (m : LValue σ (Vector (BitVec 8) n)) (padding : Vector (BitVec 8) n) (s : σ) :
    Stmt.exec env (emitGbePadding m padding) s = m.set padding s := by
  unfold emitGbePadding
  split
  · exact Stmt.exec_elements (by omega) env m 2 padding s
  · next hall =>
    exact Stmt.step_fill env m (fun i => not_not.mp (not_exists.mp hall i)) s

section Emit

variable (env : GenName → BitVec 32)

theorem GbeReservedWord03h.exec_emit (d s : GbeReservedWord03h) : Stmt.exec env d.emit s = d := by
  simp (disch := decide) only [emit, Stmt.exec_cons, Stmt.exec_nil, step_printed]
  rfl

theorem GbePciInitializationControlWord.exec_emit
    (d s : GbePciInitializationControlWord) :
    Stmt.exec env d.emit s = d := by
  simp (disch := decide) only [emit, Stmt.exec_cons, Stmt.exec_nil, step_printed]
  dsimp only [Member.loadVendorDeviceId, Member.loadSubsystemId, Member.reserved1,
    Member.reserved2, Member.pmEnable, Member.auxPwr, Member.reserved3, Member.reserved4]

theorem GbeLanPowerConsumption.exec_emit
    (d s : GbeLanPowerConsumption) :
    Stmt.exec env d.emit s = d := by
  simp (disch := decide) only [emit, Stmt.exec_cons, Stmt.exec_nil, step_printed]
  rfl

theorem GbeSharedInitializationControlWord.exec_emit
    (d s : GbeSharedInitializationControlWord) :
    Stmt.exec env d.emit s = d := by
  simp (disch := decide) only [emit, Stmt.exec_cons, Stmt.exec_nil, step_printed]
  dsimp only [Member.reserved1, Member.forceDuplex, Member.forceSpeedEnable, Member.reserved2_0,
    Member.reserved2_1, Member.phyPowerDownEnable, Member.reserved3, Member.reserved4, Member.sign]

theorem GbeExtendedConfigurationControlWord1.exec_emit
    (d s : GbeExtendedConfigurationControlWord1) :
    Stmt.exec env d.emit s = d := by
  simp (disch := decide) only [emit, Stmt.exec_cons, Stmt.exec_nil, step_printed]
  rfl

theorem GbeExtendedConfigurationControlWord2.exec_emit
    (d s : GbeExtendedConfigurationControlWord2) :
    Stmt.exec env d.emit s = d := by
  simp (disch := decide) only [emit, Stmt.exec_cons, Stmt.exec_nil, step_printed]
  rfl

theorem LedCtl1.exec_emit (d s : LedCtl1) : Stmt.exec env d.emit s = d := by
  simp (disch := decide) only [emit, Stmt.exec_cons, Stmt.exec_nil, step_printed]
  dsimp only [Member.led1Mode, Member.reserved1, Member.led1BlinkMode, Member.led1Invert,
    Member.led1Blink, Member.reserved2, Member.lpluEnable, Member.lpluEnableNonD0a,
    Member.gbeDisableNonD0a, Member.reserved3, Member.gbeDisable, Member.reserved4]

theorem LedCtl02.exec_emit (d s : LedCtl02) : Stmt.exec env d.emit s = d := by
  simp (disch := decide) only [emit, Stmt.exec_cons, Stmt.exec_nil, step_printed]
  dsimp only [Member.led0Mode, Member.reserved1, Member.led0BlinkMode, Member.led0Invert,
    Member.led0Blink, Member.led2Mode, Member.reserved2, Member.led2BlinkMode, Member.led2Invert,
    Member.led2Blink]

theorem GbePxeBootAgentMainSetupOptions.exec_emit
    (d s : GbePxeBootAgentMainSetupOptions) :
    Stmt.exec env d.emit s = d := by
  simp (disch := decide) only [emit, Stmt.exec_cons, Stmt.exec_nil, step_printed]
  dsimp only [Member.protocolSelect, Member.reserved1, Member.defaultBootSelection,
    Member.reserved2, Member.promptTime, Member.displaySetupMessage, Member.reserved3,
    Member.forceSpeed, Member.forceFullDuplex, Member.reserved4, Member.efiPresence,
    Member.pxePresence]

theorem GbePxeBootAgentConfigurationCustomizationOptions31h.exec_emit
    (d s : GbePxeBootAgentConfigurationCustomizationOptions31h) :
    Stmt.exec env d.emit s = d := by
  simp (disch := decide) only [emit, Stmt.exec_cons, Stmt.exec_nil, step_printed]
  dsimp only [Member.disableSetupMenu, Member.disableTitleMessage, Member.disableProtocolSelect,
    Member.disableBootSelection, Member.disableLegacyWakeupSupport, Member.disableFlashUpdate,
    Member.reserved1, Member.ibaBootOrderSetupMode, Member.reserved2, Member.signature]

theorem GbePxeBootAgentConfigurationCustomizationOptions32h.exec_emit
    (d s : GbePxeBootAgentConfigurationCustomizationOptions32h) :
    Stmt.exec env d.emit s = d := by
  simp (disch := decide) only [emit, Stmt.exec_cons, Stmt.exec_nil, step_printed]
  rfl

theorem GbePxeIbaCapabilities.exec_emit
    (d s : GbePxeIbaCapabilities) :
    Stmt.exec env d.emit s = d := by
  simp (disch := decide) only [emit, Stmt.exec_cons, Stmt.exec_nil, step_printed]
  dsimp only [Member.baseCodePresent, Member.undiCapabilityPresent, Member.reserved1,
    Member.efiUndiCapabilityPresent, Member.reserved2_0, Member.reserved2_1, Member.signature]

theorem GbePxeSoftwareRegion.exec_emit (d s : GbePxeSoftwareRegion) :
    Stmt.exec env d.emit s = d := by
  simp (disch := decide) only [emit, Stmt.exec_append, Stmt.exec_within, Stmt.exec_cons,
    Stmt.exec_nil, Stmt.step_line, Stmt.exec_elements, GbePxeBootAgentMainSetupOptions.exec_emit,
    GbePxeBootAgentConfigurationCustomizationOptions31h.exec_emit,
    GbePxeBootAgentConfigurationCustomizationOptions32h.exec_emit,
    GbePxeIbaCapabilities.exec_emit]
  rfl

theorem GbeRegionRecord4k.exec_emitWords00hTo0Fh (d s : GbeRegionRecord4k) :
    Stmt.exec env d.emitWords00hTo0Fh s
      = { s with
          macAddress := d.macAddress
          reservedWord03h := d.reservedWord03h
          reservedWord04h := d.reservedWord04h
          imageVersionInformation := d.imageVersionInformation
          reservedWords06h07h := d.reservedWords06h07h
          pbaLow := d.pbaLow
          pbaHigh := d.pbaHigh
          pciInitializationControlWord := d.pciInitializationControlWord
          subsystemId := d.subsystemId
          subsystemVendorId := d.subsystemVendorId
          deviceId := d.deviceId
          vendorId := d.vendorId
          deviceRevId := d.deviceRevId } := by
  simp (disch := decide) only [emitWords00hTo0Fh, Stmt.exec_append, Stmt.exec_within,
    Stmt.exec_cons, Stmt.exec_nil, Stmt.step_line, step_printed, Stmt.exec_elements,
    GbeReservedWord03h.exec_emit, GbePciInitializationControlWord.exec_emit]
  dsimp only [Member.macAddress, Member.reservedWord03h, Member.reservedWord04h,
    Member.imageVersionInformation, Member.reservedWords06h07h, Member.pbaLow, Member.pbaHigh,
    Member.pciInitializationControlWord, Member.subsystemId, Member.subsystemVendorId,
    Member.deviceId, Member.vendorId, Member.deviceRevId]

theorem GbeRegionRecord4k.exec_emitWords10hTo18h (d s : GbeRegionRecord4k) :
    Stmt.exec env d.emitWords10hTo18h s
      = { s with
          lanPowerConsumption := d.lanPowerConsumption
          reservedWords11h12h := d.reservedWords11h12h
          sharedInitializationControlWord := d.sharedInitializationControlWord
          extendedConfigurationControlWord1 := d.extendedConfigurationControlWord1
          extendedConfigurationControlWord2 := d.extendedConfigurationControlWord2
          extendedConfigurationControlWord3 := d.extendedConfigurationControlWord3
          ledCtl1 := d.ledCtl1
          ledCtl02 := d.ledCtl02 } := by
  simp (disch := decide) only [emitWords10hTo18h, Stmt.exec_append, Stmt.exec_within,
    Stmt.exec_cons, Stmt.exec_nil, Stmt.step_line, step_printed, Stmt.exec_elements,
    GbeLanPowerConsumption.exec_emit, GbeSharedInitializationControlWord.exec_emit,
    GbeExtendedConfigurationControlWord1.exec_emit, GbeExtendedConfigurationControlWord2.exec_emit,
    LedCtl1.exec_emit, LedCtl02.exec_emit]
  dsimp only [Member.lanPowerConsumption, Member.reservedWords11h12h,
    Member.sharedInitializationControlWord, Member.extendedConfigurationControlWord1,
    Member.extendedConfigurationControlWord2, Member.extendedConfigurationControlWord3,
    Member.ledCtl1, Member.ledCtl02]

theorem GbeRegionRecord4k.exec_emitWords19hTo2Fh (d s : GbeRegionRecord4k) :
    Stmt.exec env d.emitWords19hTo2Fh s
      = { s with
          reservedWord19h := d.reservedWord19h
          reservedWord1Ah := d.reservedWord1Ah
          reservedWord1Bh := d.reservedWord1Bh
          reservedWord1Ch := d.reservedWord1Ch
          reservedWord1Dh := d.reservedWord1Dh
          _82567lmDeviceId := d._82567lmDeviceId
          _82567lfDeviceId := d._82567lfDeviceId
          reservedWord20h := d.reservedWord20h
          _82567vDeviceId := d._82567vDeviceId
          reservedWord22h := d.reservedWord22h
          reservedWord23h := d.reservedWord23h
          reservedWords24to2Fh := d.reservedWords24to2Fh } := by
  simp (disch := decide) only [emitWords19hTo2Fh, Stmt.exec_append, Stmt.exec_cons, Stmt.exec_nil,
    Stmt.step_line, step_printed, Stmt.exec_elements]
  dsimp only [Member.reservedWord19h, Member.reservedWord1Ah, Member.reservedWord1Bh,
    Member.reservedWord1Ch, Member.reservedWord1Dh, Member._82567lmDeviceId,
    Member._82567lfDeviceId, Member.reservedWord20h, Member._82567vDeviceId,
    Member.reservedWord22h, Member.reservedWord23h, Member.reservedWords24to2Fh]

theorem GbeRegionRecord4k.exec_emitWords30hOn (d s : GbeRegionRecord4k) :
    Stmt.exec env d.emitWords30hOn s
      = { s with
          pxeSoftwareRegion := d.pxeSoftwareRegion
          checkSum := d.checkSum
          padding := d.padding } := by
  simp (disch := decide) only [emitWords30hOn, Stmt.exec_append, Stmt.exec_within, Stmt.exec_cons,
    Stmt.exec_nil, Stmt.step_line, step_printed, exec_emitGbePadding,
    GbePxeSoftwareRegion.exec_emit]
  dsimp only [Member.pxeSoftwareRegion, Member.checkSum, Member.padding]

/-- **A printed block is restored,** whatever the local struct held before. -/
theorem GbeRegionRecord4k.exec_emit (d s : GbeRegionRecord4k) : Stmt.exec env d.emit s = d := by
  rw [emit, Stmt.exec_append, Stmt.exec_append, Stmt.exec_append, exec_emitWords00hTo0Fh,
    exec_emitWords10hTo18h, exec_emitWords19hTo2Fh, exec_emitWords30hOn]

end Emit

end Libreboot
