import Libreboot.Descriptor.Regenerate
import Libreboot.Infra.CFunction

/-!
# Reading mkdescriptor.c

The function in `mkdescriptor.c` is read from the text of the file, statement by statement.

* `readDescriptorSource_file` — the statements in the file that the generator writes are those of
  `DescriptorRegionRecord.emit`, without the comments
* `runDescriptorSource_file` — so running what is in the file gives `regenerated`
-/

namespace Libreboot

open Infra CText

/-! ## The members by name -/

def FlValSig.table : Table FlValSig :=
  .members [.scalar Member.signature]

def FlMap0.table : Table FlMap0 :=
  .members [
    .scalar Member.fcba, .scalar Member.nc, .scalar Member.reserved1, .scalar Member.frba,
    .scalar Member.nr, .scalar Member.reserved2]

def FlMap1.table : Table FlMap1 :=
  .members [
    .scalar Member.fmba, .scalar Member.nm, .scalar Member.reserved, .scalar Member.fisba,
    .scalar Member.isl]

def FlMap2.table : Table FlMap2 :=
  .members [.scalar Member.fmsba, .scalar Member.msl, .scalar Member.reserved]

def FlMaps.table : Table FlMaps :=
  (FlMap0.table.within Member.flMap0)
    |>.append (FlMap1.table.within Member.flMap1)
    |>.append (FlMap2.table.within Member.flMap2)

def FlComp.table : Table FlComp :=
  .members [
    .scalar Member.component1Density, .scalar Member.component2Density, .scalar Member.reserved1,
    .scalar Member.reserved2, .scalar Member.reserved3, .scalar Member.readClockFrequency,
    .scalar Member.fastReadSupport, .scalar Member.fastreadClockFrequency,
    .scalar Member.writeEraseClockFrequency, .scalar Member.readStatusClockFrequency,
    .scalar Member.reserved4]

def ComponentSectionRecord.table : Table ComponentSectionRecord :=
  (FlComp.table.within Member.flcomp)
    |>.append (.members [.scalar Member.flill, .scalar Member.flpb, .array Member.padding])

def FlReg.table : Table FlReg :=
  .members [
    .scalar Member.base, .scalar Member.reserved1, .scalar Member.limit,
    .scalar Member.reserved2]

def RegionSectionRecord.table : Table RegionSectionRecord :=
  (FlReg.table.within Member.flReg0)
    |>.append (FlReg.table.within Member.flReg1)
    |>.append (FlReg.table.within Member.flReg2)
    |>.append (FlReg.table.within Member.flReg3)
    |>.append (FlReg.table.within Member.flReg4)
    |>.append (.members [.array Member.padding])

def FlMstr.table : Table FlMstr :=
  .members [
    .scalar Member.requesterId, .scalar Member.fdRegionReadAccess,
    .scalar Member.biosRegionReadAccess, .scalar Member.meRegionReadAccess,
    .scalar Member.gbeRegionReadAccess, .scalar Member.pdRegionReadAccess,
    .scalar Member.reserved1, .scalar Member.fdRegionWriteAccess,
    .scalar Member.biosRegionWriteAccess, .scalar Member.meRegionWriteAccess,
    .scalar Member.gbeRegionWriteAccess, .scalar Member.pdRegionWriteAccess,
    .scalar Member.reserved2]

def MasterAccessSectionRecord.table : Table MasterAccessSectionRecord :=
  (FlMstr.table.within Member.flMstr1)
    |>.append (FlMstr.table.within Member.flMstr2)
    |>.append (FlMstr.table.within Member.flMstr3)
    |>.append (.members [.array Member.padding])

def IchStrap0.table : Table IchStrap0 :=
  .members [
    .scalar Member.meDisable, .scalar Member.reserved1, .scalar Member.tcoMode,
    .scalar Member.smBusAddress, .scalar Member.bmcMode, .scalar Member.tripPointSelect,
    .scalar Member.reserved2, .scalar Member.integratedGbe, .scalar Member.lanPhy,
    .scalar Member.reserved3, .scalar Member.dmiRequesterId, .scalar Member.smBus2Address]

def IchStrap1.table : Table IchStrap1 :=
  .members [
    .scalar Member.northMlink, .scalar Member.southMlink, .scalar Member.meSmbus,
    .scalar Member.sstDynamic, .scalar Member.reserved1, .scalar Member.northMlink2,
    .scalar Member.reserved2, .scalar Member.reserved3]

def IchStrapsRecord.table : Table IchStrapsRecord :=
  (IchStrap0.table.within Member.ichStrap0)
    |>.append (IchStrap1.table.within Member.ichStrap1)
    |>.append (.members [.array Member.padding])

def MchStrap0.table : Table MchStrap0 :=
  .members [
    .scalar Member.meDisable, .scalar Member.meBootFromFlash, .scalar Member.tpmDisable,
    .scalar Member.reserved1, .scalar Member.spiFingerprint, .scalar Member.meAlternateDisable,
    .scalar Member.reserved2, .scalar Member.reserved3]

def MchStrapsRecord.table : Table MchStrapsRecord :=
  (MchStrap0.table.within Member.mchStrap0)
    |>.append (.members [.array Member.padding])

def MeVsccTableRecord.table : Table MeVsccTableRecord :=
  .members [
    .scalar Member.jid0, .scalar Member.vscc0, .scalar Member.jid1, .scalar Member.vscc1,
    .scalar Member.jid2, .scalar Member.vscc2, .array Member.padding]

def DescriptorMap2Record.table : Table DescriptorMap2Record :=
  .members [
    .scalar Member.meVsccTableBaseAddress, .scalar Member.meVsccTableLength,
    .scalar Member.reserved]

def OemSectionRecord.table : Table OemSectionRecord :=
  .members [.array Member.magicString, .array Member.padding]

def DescriptorRegionRecord.table : Table DescriptorRegionRecord :=
  (FlValSig.table.within Member.flValSig)
    |>.append (FlMaps.table.within Member.flMaps)
    |>.append (ComponentSectionRecord.table.within Member.componentSection)
    |>.append (RegionSectionRecord.table.within Member.regionSection)
    |>.append (MasterAccessSectionRecord.table.within Member.masterAccessSection)
    |>.append (IchStrapsRecord.table.within Member.ichStraps)
    |>.append (MchStrapsRecord.table.within Member.mchStraps)
    |>.append (MeVsccTableRecord.table.within Member.meVsccTable)
    |>.append (DescriptorMap2Record.table.within Member.descriptor2Map)
    |>.append (OemSectionRecord.table.within Member.oemSection)


/-! ## The statements can be read -/

variable {σ : Type} {t : Table σ} {names : List GenName}

/-- The names of the expressions. -/
def GenName.all : List GenName :=
  [.romSize, .hasGbe, .descriptorRegionSize, .gbeRegionSize8k, .flRegionBitShift,
    .componentDensityOfRomSize]

theorem GenName.distinct : Distinct GenName.all GenName.text where
  heads := by decide
  other := by
    simp only [all, List.forall_mem_cons, List.not_mem_nil, false_implies, implies_true, and_true]
    refine ⟨?_, ?_, ?_, ?_, ?_, ?_⟩ <;> exact ⟨_, _, rfl, by decide, by decide⟩
  lexes := by
    simp only [all, List.forall_mem_cons, List.not_mem_nil, false_implies, implies_true, and_true]
    decide

theorem readable_printed {w : Nat} {m : LValue σ (BitVec w)} (hm : .scalar m ∈ t.places)
    (width : Nat) (s : σ) : (printed m width s).Readable names t :=
  Stmt.readable_ofHex hm width (m.get s) (by decide)

theorem readable_printedSee {w : Nat} {m : LValue σ (BitVec w)} (hm : .scalar m ∈ t.places)
    (width : Nat) (s : σ) : (printedSee m width s).Readable names t :=
  Stmt.readable_ofHex hm width (m.get s) (by decide)

/-- A value that is shown does not end its comment. -/
theorem readable_shown {w : Nat} {path trail : String}
    (h : '*' ∉ letters path ∧ Closed (letters (trail ++ "\n")) []) (width : Nat) (v : BitVec w) :
    (shown path width v trail : GenStmt σ).Readable names t := by
  have hbefore : scan .start (letters "    /* descriptorStruct.") = (.comment, []) := by decide
  have hequals : '*' ∉ letters " = 0x" := by decide
  have hafter : scan .comment (letters "; */") = (.start, []) := by decide
  have hdigits : '*' ∉ letters (String.ofList (Hex.padded width v.toNat)) := by
    rw [letters_hex (Stmt.isHex_padded width v.toNat)]
    intro hmem
    exact absurd (Hex.isSome_of_mem_padded hmem) (by decide)
  have htext : '*' ∉ letters (path ++ " = 0x" ++ String.ofList (Hex.padded width v.toNat)) := by
    rw [letters_append, letters_append]
    simp only [List.mem_append, h.1, hequals, hdigits, or_self, not_false_eq_true]
  have hall := (closed_comment hbefore htext hafter).append h.2
  simpa only [shown, Stmt.Readable, letters_append, List.append_assoc, List.append_nil] using hall

theorem legible_emitPadding {n : Nat} (hn : 0 < n) {m : LValue σ (Vector (BitVec 8) n)}
    (hm : .array m ∈ t.places) (padding : Vector (BitVec 8) n) :
    Stmt.Legible GenName.all t (emitPadding m padding) := by
  rw [emitPadding_eq hn, Stmt.legible_cons]
  refine ⟨Stmt.readable_line (by decide), ?_⟩
  split
  · exact Stmt.legible_elements hm 2 padding
  · have hfill : Fits GenName.all .cond (.hex ['F', 'F']) := by decide
    exact Stmt.legible_cons.mpr ⟨⟨hm, hfill⟩, Stmt.legible_nil⟩

theorem FlValSig.legible (s : FlValSig) : Stmt.Legible GenName.all table s.emit := by
  simp (disch := first | decide | exact id (by simp [table, Table.mem_members])) only [emit,
    Stmt.legible_cons, Stmt.legible_nil, Stmt.readable_line, readable_printed, and_self]

theorem FlMap0.legible (s : FlMap0) : Stmt.Legible GenName.all table s.emit := by
  simp (disch := first | decide | exact id (by simp [table, Table.mem_members])) only [emit,
    Stmt.legible_cons, Stmt.legible_nil, Stmt.readable_line, readable_printed, readable_shown,
    Stmt.readable_assign, and_self]

theorem FlMap1.legible (s : FlMap1) : Stmt.Legible GenName.all table s.emit := by
  simp (disch := first | decide | exact id (by simp [table, Table.mem_members])) only [emit,
    Stmt.legible_cons, Stmt.legible_nil, Stmt.readable_line, readable_printed, and_self]

theorem FlMap2.legible (s : FlMap2) : Stmt.Legible GenName.all table s.emit := by
  simp (disch := first | decide | exact id (by simp [table, Table.mem_members])) only [emit,
    Stmt.legible_cons, Stmt.legible_nil, Stmt.readable_line, readable_printed, and_self]

theorem FlMaps.legible (s : FlMaps) : Stmt.Legible GenName.all table s.emit := by
  have hFlMap0 : Stmt.Legible GenName.all table (s.flMap0.emit.map (.within Member.flMap0)) :=
    s.flMap0.legible.within fun m hm => by
      simp [table, Table.mem_append, Table.mem_within hm]
  have hFlMap1 : Stmt.Legible GenName.all table (s.flMap1.emit.map (.within Member.flMap1)) :=
    s.flMap1.legible.within fun m hm => by
      simp [table, Table.mem_append, Table.mem_within hm]
  have hFlMap2 : Stmt.Legible GenName.all table (s.flMap2.emit.map (.within Member.flMap2)) :=
    s.flMap2.legible.within fun m hm => by
      simp [table, Table.mem_append, Table.mem_within hm]
  simp (disch := first | decide | assumption) only [emit, Stmt.legible_append, Stmt.legible_cons,
    Stmt.legible_nil, Stmt.readable_line, hFlMap0, hFlMap1, hFlMap2, and_self]

theorem FlComp.legible (s : FlComp) : Stmt.Legible GenName.all table s.emit := by
  simp (disch := first | decide | exact id (by simp [table, Table.mem_members])) only [emit,
    Stmt.legible_cons, Stmt.legible_nil, Stmt.readable_line, readable_printed, readable_shown,
    Stmt.readable_assign, and_self]

theorem ComponentSectionRecord.legible (s : ComponentSectionRecord) :
    Stmt.Legible GenName.all table s.emit := by
  have hFlcomp : Stmt.Legible GenName.all table (s.flcomp.emit.map (.within Member.flcomp)) :=
    s.flcomp.legible.within fun m hm => by
      simp [table, Table.mem_append, Table.mem_within hm]
  have hPadding : .array Member.padding ∈ table.places := by
    simp [table, Table.mem_append, Table.mem_members]
  simp (disch := first | decide | exact id (by simp [table, Table.mem_append, Table.mem_members]))
    only [emit, Stmt.legible_append, Stmt.legible_cons, Stmt.legible_nil, Stmt.readable_line,
    readable_printed, hFlcomp, legible_emitPadding, and_self]

theorem FlReg.legible0 (s : FlReg) : Stmt.Legible GenName.all table s.emit0 := by
  simp (disch := first | decide | exact id (by simp [table, Table.mem_members])) only [emit0,
    Stmt.legible_cons, Stmt.legible_nil, Stmt.readable_line, readable_printed, and_self]

theorem FlReg.legible1 (s : FlReg) : Stmt.Legible GenName.all table s.emit1 := by
  simp (disch := first | decide | exact id (by simp [table, Table.mem_members])) only [emit1,
    Stmt.legible_cons, Stmt.legible_nil, Stmt.readable_line, readable_printed, readable_shown,
    Stmt.readable_assign, and_self]

theorem FlReg.legible24 {comment : String} (h : Closed (letters (comment ++ "\n")) []) (s : FlReg) :
    Stmt.Legible GenName.all table (s.emit24 comment) := by
  simp (disch := first | decide | exact id (by simp [table, Table.mem_members])) only [emit24,
    Stmt.legible_cons, Stmt.legible_nil, Stmt.readable_line h, readable_printed,
    readable_printedSee, and_self]

theorem FlReg.legible3 (s : FlReg) : Stmt.Legible GenName.all table s.emit3 := by
  simp (disch := first | decide | exact id (by simp [table, Table.mem_members])) only [emit3,
    Stmt.legible_cons, Stmt.legible_nil, Stmt.readable_line, readable_printed, readable_shown,
    Stmt.readable_assign, and_self]

theorem RegionSectionRecord.legible (s : RegionSectionRecord) :
    Stmt.Legible GenName.all table s.emit := by
  have hFlReg0 : Stmt.Legible GenName.all table (s.flReg0.emit0.map (.within Member.flReg0)) :=
    s.flReg0.legible0.within fun m hm => by
      simp [table, Table.mem_append, Table.mem_within hm]
  have hFlReg1 : Stmt.Legible GenName.all table (s.flReg1.emit1.map (.within Member.flReg1)) :=
    s.flReg1.legible1.within fun m hm => by
      simp [table, Table.mem_append, Table.mem_within hm]
  have hFlReg2 : Stmt.Legible GenName.all table
      ((s.flReg2.emit24 "    /* FLREG2 (ME) */").map (.within Member.flReg2)) :=
    (s.flReg2.legible24 (by decide)).within fun m hm => by
      simp [table, Table.mem_append, Table.mem_within hm]
  have hFlReg3 : Stmt.Legible GenName.all table (s.flReg3.emit3.map (.within Member.flReg3)) :=
    s.flReg3.legible3.within fun m hm => by
      simp [table, Table.mem_append, Table.mem_within hm]
  have hFlReg4 : Stmt.Legible GenName.all table
      ((s.flReg4.emit24 "    /* FLREG4 (Platform) */").map (.within Member.flReg4)) :=
    (s.flReg4.legible24 (by decide)).within fun m hm => by
      simp [table, Table.mem_append, Table.mem_within hm]
  have hPadding : .array Member.padding ∈ table.places := by
    simp [table, Table.mem_append, Table.mem_members]
  simp (disch := first | decide | assumption) only [emit, Stmt.legible_append, Stmt.legible_cons,
    Stmt.legible_nil, Stmt.readable_line, hFlReg0, hFlReg1, hFlReg2, hFlReg3, hFlReg4,
    legible_emitPadding, and_self]

theorem FlMstr.legibleSee {comment : String} (h : Closed (letters (comment ++ "\n")) [])
    (s : FlMstr) :
    Stmt.Legible GenName.all table (s.emitSee comment) := by
  simp (disch := first | decide | exact id (by simp [table, Table.mem_members])) only [emitSee,
    Stmt.legible_cons, Stmt.legible_nil, Stmt.readable_line h, readable_printed,
    readable_printedSee, and_self]

theorem FlMstr.legible {comment : String} (h : Closed (letters (comment ++ "\n")) []) (s : FlMstr) :
    Stmt.Legible GenName.all table (s.emit comment) := by
  simp (disch := first | decide | exact id (by simp [table, Table.mem_members])) only [emit,
    Stmt.legible_cons, Stmt.legible_nil, Stmt.readable_line h, readable_printed, and_self]

theorem MasterAccessSectionRecord.legible (s : MasterAccessSectionRecord) :
    Stmt.Legible GenName.all table s.emit := by
  have hFlMstr1 : Stmt.Legible GenName.all table
      ((s.flMstr1.emitSee "    /* FLMSTR1 (Host CPU / BIOS) */").map (.within Member.flMstr1)) :=
    (s.flMstr1.legibleSee (by decide)).within fun m hm => by
      simp [table, Table.mem_append, Table.mem_within hm]
  have hFlMstr2 : Stmt.Legible GenName.all table
      ((s.flMstr2.emitSee "    /* FLMSTR2 (ME) */").map (.within Member.flMstr2)) :=
    (s.flMstr2.legibleSee (by decide)).within fun m hm => by
      simp [table, Table.mem_append, Table.mem_within hm]
  have hFlMstr3 : Stmt.Legible GenName.all table
      ((s.flMstr3.emit "    /* FLMSTR3 (Gbe) */").map (.within Member.flMstr3)) :=
    (s.flMstr3.legible (by decide)).within fun m hm => by
      simp [table, Table.mem_append, Table.mem_within hm]
  have hPadding : .array Member.padding ∈ table.places := by
    simp [table, Table.mem_append, Table.mem_members]
  simp (disch := first | decide | assumption) only [emit, Stmt.legible_append, Stmt.legible_cons,
    Stmt.legible_nil, Stmt.readable_line, hFlMstr1, hFlMstr2, hFlMstr3, legible_emitPadding,
    and_self]

theorem IchStrap0.legible (s : IchStrap0) : Stmt.Legible GenName.all table s.emit := by
  simp (disch := first | decide | exact id (by simp [table, Table.mem_members])) only [emit,
    Stmt.legible_cons, Stmt.legible_nil, Stmt.readable_line, readable_printed, readable_printedSee,
    Stmt.readable_assign, and_self]

theorem IchStrap1.legible (s : IchStrap1) : Stmt.Legible GenName.all table s.emit := by
  simp (disch := first | decide | exact id (by simp [table, Table.mem_members])) only [emit,
    Stmt.legible_cons, Stmt.legible_nil, Stmt.readable_line, readable_printed, and_self]

theorem IchStrapsRecord.legible (s : IchStrapsRecord) : Stmt.Legible GenName.all table s.emit := by
  have hIchStrap0 : Stmt.Legible GenName.all table
      (s.ichStrap0.emit.map (.within Member.ichStrap0)) :=
    s.ichStrap0.legible.within fun m hm => by
      simp [table, Table.mem_append, Table.mem_within hm]
  have hIchStrap1 : Stmt.Legible GenName.all table
      (s.ichStrap1.emit.map (.within Member.ichStrap1)) :=
    s.ichStrap1.legible.within fun m hm => by
      simp [table, Table.mem_append, Table.mem_within hm]
  have hPadding : .array Member.padding ∈ table.places := by
    simp [table, Table.mem_append, Table.mem_members]
  simp (disch := first | decide | assumption) only [emit, Stmt.legible_append, Stmt.legible_cons,
    Stmt.legible_nil, Stmt.readable_line, hIchStrap0, hIchStrap1, legible_emitPadding, and_self]

theorem MchStrap0.legible (s : MchStrap0) : Stmt.Legible GenName.all table s.emit := by
  simp (disch := first | decide | exact id (by simp [table, Table.mem_members])) only [emit,
    Stmt.legible_cons, Stmt.legible_nil, Stmt.readable_line, readable_printed, readable_printedSee,
    and_self]

theorem MchStrapsRecord.legible (s : MchStrapsRecord) : Stmt.Legible GenName.all table s.emit := by
  have hMchStrap0 : Stmt.Legible GenName.all table
      (s.mchStrap0.emit.map (.within Member.mchStrap0)) :=
    s.mchStrap0.legible.within fun m hm => by
      simp [table, Table.mem_append, Table.mem_within hm]
  have hPadding : .array Member.padding ∈ table.places := by
    simp [table, Table.mem_append, Table.mem_members]
  simp (disch := first | decide | assumption) only [emit, Stmt.legible_append, Stmt.legible_cons,
    Stmt.legible_nil, Stmt.readable_line, hMchStrap0, legible_emitPadding, and_self]

theorem MeVsccTableRecord.legible (s : MeVsccTableRecord) :
    Stmt.Legible GenName.all table s.emit := by
  have hPadding : .array Member.padding ∈ table.places := by
    simp [table, Table.mem_members]
  simp (disch := first | decide | exact id (by simp [table, Table.mem_members]))
    only [emit, Stmt.legible_append, Stmt.legible_cons, Stmt.legible_nil, Stmt.readable_line,
    readable_printed, legible_emitPadding, and_self]

theorem DescriptorMap2Record.legible (s : DescriptorMap2Record) :
    Stmt.Legible GenName.all table s.emit := by
  simp (disch := first | decide | exact id (by simp [table, Table.mem_members])) only [emit,
    Stmt.legible_cons, Stmt.legible_nil, Stmt.readable_line, readable_printed, and_self]

theorem OemSectionRecord.legible (s : OemSectionRecord) :
    Stmt.Legible GenName.all table s.emit := by
  have hMagicString : .array Member.magicString ∈ table.places := by
    simp [table, Table.mem_members]
  have hPadding : .array Member.padding ∈ table.places := by
    simp [table, Table.mem_members]
  simp (disch := first | decide | assumption) only [emit, Stmt.legible_append, Stmt.legible_cons,
    Stmt.legible_nil, Stmt.readable_line, Stmt.legible_elements hMagicString, legible_emitPadding,
    and_self]

theorem DescriptorRegionRecord.legible (s : DescriptorRegionRecord) :
    Stmt.Legible GenName.all table s.emit := by
  have hFlValSig : Stmt.Legible GenName.all table (s.flValSig.emit.map (.within Member.flValSig)) :=
    s.flValSig.legible.within fun m hm => by
      simp [table, Table.mem_append, Table.mem_within hm]
  have hFlMaps : Stmt.Legible GenName.all table (s.flMaps.emit.map (.within Member.flMaps)) :=
    s.flMaps.legible.within fun m hm => by
      simp [table, Table.mem_append, Table.mem_within hm]
  have hComponentSection : Stmt.Legible GenName.all table
      (s.componentSection.emit.map (.within Member.componentSection)) :=
    s.componentSection.legible.within fun m hm => by
      simp [table, Table.mem_append, Table.mem_within hm]
  have hRegionSection : Stmt.Legible GenName.all table
      (s.regionSection.emit.map (.within Member.regionSection)) :=
    s.regionSection.legible.within fun m hm => by
      simp [table, Table.mem_append, Table.mem_within hm]
  have hMasterAccessSection : Stmt.Legible GenName.all table
      (s.masterAccessSection.emit.map (.within Member.masterAccessSection)) :=
    s.masterAccessSection.legible.within fun m hm => by
      simp [table, Table.mem_append, Table.mem_within hm]
  have hIchStraps : Stmt.Legible GenName.all table
      (s.ichStraps.emit.map (.within Member.ichStraps)) :=
    s.ichStraps.legible.within fun m hm => by
      simp [table, Table.mem_append, Table.mem_within hm]
  have hMchStraps : Stmt.Legible GenName.all table
      (s.mchStraps.emit.map (.within Member.mchStraps)) :=
    s.mchStraps.legible.within fun m hm => by
      simp [table, Table.mem_append, Table.mem_within hm]
  have hMeVsccTable : Stmt.Legible GenName.all table
      (s.meVsccTable.emit.map (.within Member.meVsccTable)) :=
    s.meVsccTable.legible.within fun m hm => by
      simp [table, Table.mem_append, Table.mem_within hm]
  have hDescriptor2Map : Stmt.Legible GenName.all table
      (s.descriptor2Map.emit.map (.within Member.descriptor2Map)) :=
    s.descriptor2Map.legible.within fun m hm => by
      simp [table, Table.mem_append, Table.mem_within hm]
  have hOemSection : Stmt.Legible GenName.all table
      (s.oemSection.emit.map (.within Member.oemSection)) :=
    s.oemSection.legible.within fun m hm => by
      simp [table, Table.mem_append, Table.mem_within hm]
  simp (disch := first | decide | assumption) only [emit, Stmt.legible_append,
    hFlValSig, hFlMaps, hComponentSection, hRegionSection, hMasterAccessSection,
    hIchStraps, hMchStraps, hMeVsccTable, hDescriptor2Map, hOemSection, and_self]

/-! ## The file -/

/-- The members of the local variable. -/
def descriptorStructTable : Table DescriptorRegionRecord :=
  DescriptorRegionRecord.table.within (.var "descriptorStruct")

def descriptorSourceHead : String :=
  "struct DESCRIPTORREGIONRECORD generatedDescriptorStruct(unsigned int romSize, int hasGbe) \x7b"
    ++ " int i; struct DESCRIPTORREGIONRECORD descriptorStruct;"

/-- The body of the function in a source file, which must not hold anything else. -/
def readDescriptorSource (file : Bytes) : Option (List (GenStmt DescriptorRegionRecord)) := do
  let (body, ts) ← readFunction descriptorStructTable.places GenName.all GenName.text
    descriptorSourceHead "return descriptorStruct; \x7d" (lex (chars file))
  if ts = [] then some body else none

/-- Calling the function in a source file. -/
def runDescriptorSource (file : Bytes) (descriptorStruct : DescriptorRegionRecord)
    (romSize hasGbe : BitVec 32) : Option DescriptorRegionRecord :=
  (readDescriptorSource file).map fun body =>
    Stmt.exec (GenName.value romSize hasGbe) body descriptorStruct

/-- What `notCreatedCFileFromDescriptorStruct` writes for the names of the tools. -/
def descriptorSourceFile (d : DescriptorRegionRecord) : Bytes :=
  (descriptorSource d "mkdescriptor.c" "mkdescriptor.h").flatMap ascii

/-- If nothing fails, the file holds it. -/
theorem descriptorSourceFile_written {lib : CLib} (h : (lib "mkdescriptor.c").Reliable)
    (d : DescriptorRegionRecord) (w : World) :
    (notCreatedCFileFromDescriptorStruct lib d "mkdescriptor.c" "mkdescriptor.h" w).2.files
      "mkdescriptor.c" = some (descriptorSourceFile d) :=
  writeTextFile_delivers _ h w (writeTextFile_succeeds _ h w)

/-- The tokens of the file are those of the function. -/
theorem lexes_descriptorSourceFile (d : DescriptorRegionRecord) :
    Lexes (chars (descriptorSourceFile d))
      (tokens descriptorSourceHead
        ++ ((d.emit.map (.within (.var "descriptorStruct"))).flatMap (Stmt.tokens GenName.text)
          ++ tokens "return descriptorStruct; \x7d")) := by
  have hlegible : Stmt.Legible GenName.all descriptorStructTable
      (d.emit.map (.within (.var "descriptorStruct"))) :=
    d.legible.within fun m hm => Table.mem_within hm
  rw [descriptorSourceFile, chars_flatMap_ascii, descriptorSource, List.flatMap_append,
    List.flatMap_append, List.append_assoc]
  exact Closed.append_lexes (by decide +kernel)
    ((Stmt.closed_block GenName.distinct hlegible).append_lexes (by decide +kernel))

/-- **The statements in the file are the emitted ones.** -/
theorem readDescriptorSource_file (d : DescriptorRegionRecord) :
    readDescriptorSource (descriptorSourceFile d)
      = some ((d.emit.map (.within (.var "descriptorStruct"))).flatMap Stmt.code) := by
  have hlegible : Stmt.Legible GenName.all descriptorStructTable
      (d.emit.map (.within (.var "descriptorStruct"))) :=
    d.legible.within fun m hm => Table.mem_within hm
  have hfree : descriptorStructTable.Free := by decide
  have hfoot : (tokens "return descriptorStruct; \x7d").head? = some (letters "return") := by decide
  have hread := Stmt.readFunction_tokens GenName.distinct hfree descriptorSourceHead hfoot hlegible []
  rw [List.append_nil] at hread
  simp only [readDescriptorSource, (lexes_descriptorSourceFile d).2, hread, Option.bind_eq_bind,
    Option.bind_some, if_true]

/-- **Calling the function in the file gives the regenerated descriptor,** from any local struct. -/
theorem runDescriptorSource_file (d descriptorStruct : DescriptorRegionRecord)
    (romSize hasGbe : BitVec 32) :
    runDescriptorSource (descriptorSourceFile d) descriptorStruct romSize hasGbe
      = some (regenerated d romSize (hasGbe != 0)) := by
  rw [runDescriptorSource, readDescriptorSource_file, Option.map_some, Stmt.exec_code,
    Stmt.exec_within, DescriptorRegionRecord.exec_emit]
  rfl

end Libreboot
