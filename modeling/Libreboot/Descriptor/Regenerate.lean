import Libreboot.Descriptor.Generator

/-!
# What the generated function returns

Running the body that `DescriptorRegionRecord.emit` prints for a descriptor.

* `exec_emitPadding` — either form of the padding code restores the padding
* `DescriptorRegionRecord.exec_emit` — the whole function returns `regenerated`

Every statement assigns one member, and no member is left out. So the contents of the local struct
before the first statement have no influence on the result.
-/

namespace Libreboot

open Infra

variable {σ : Type}

/-! ## Padding -/

/-- The search decides whether some byte differs from `0xFF`. -/
theorem emitPadding_eq {n : Nat} (hn : 0 < n) (m : LValue σ (Vector (BitVec 8) n))
    (padding : Vector (BitVec 8) n) :
    emitPadding m padding = .line "    /* Padding */" ::
      (if ∃ i : Fin n, padding.get i ≠ 0xFF then Stmt.elements m 2 padding
        else [.fill m (.hex ['F', 'F'])]) := by
  rw [emitPadding, Stmt.findSome?_finRange hn fun i => padding.get i ≠ 0xFF]
  rfl

/-- **Either form of the padding code restores the padding.** -/
theorem exec_emitPadding {n : Nat} (hn : 0 < n) (env : GenName → BitVec 32)
    (m : LValue σ (Vector (BitVec 8) n)) (padding : Vector (BitVec 8) n) (s : σ) :
    Stmt.exec env (emitPadding m padding) s = m.set padding s := by
  rw [emitPadding_eq hn, Stmt.exec_cons]
  split
  · exact Stmt.exec_elements (by omega) env m 2 padding s
  · next hall =>
    exact Stmt.step_fill env m (fun i => not_not.mp (not_exists.mp hall i)) s

/-! ## Printed members -/

section Printed

variable (env : GenName → BitVec 32)

theorem step_printed {w : Nat} (hw : w ≤ 32) (m : LValue σ (BitVec w)) (width : Nat) (d s : σ) :
    Stmt.step env s (printed m width d) = m.set (m.get d) s :=
  Stmt.store_ofHex hw env m width (m.get d) s

theorem step_printedSee {w : Nat} (hw : w ≤ 32) (m : LValue σ (BitVec w)) (width : Nat)
    (d s : σ) : Stmt.step env s (printedSee m width d) = m.set (m.get d) s :=
  Stmt.store_ofHex hw env m width (m.get d) s

theorem step_shown {w : Nat} (path : String) (width : Nat) (v : BitVec w) (trail : String)
    (s : σ) : Stmt.step env s (shown path width v trail) = s := rfl

/-! ## Sections that are printed as they are -/

theorem FlValSig.exec_emit (d s : FlValSig) : Stmt.exec env d.emit s = d := by
  simp (disch := decide) only [emit, Stmt.exec_cons, Stmt.exec_nil, Stmt.step_line, step_printed]
  rfl

theorem FlMap1.exec_emit (d s : FlMap1) : Stmt.exec env d.emit s = d := by
  simp (disch := decide) only [emit, Stmt.exec_cons, Stmt.exec_nil, Stmt.step_line, step_printed]
  rfl

theorem FlMap2.exec_emit (d s : FlMap2) : Stmt.exec env d.emit s = d := by
  simp (disch := decide) only [emit, Stmt.exec_cons, Stmt.exec_nil, Stmt.step_line, step_printed]
  rfl

theorem FlReg.exec_emit0 (d s : FlReg) : Stmt.exec env d.emit0 s = d := by
  simp (disch := decide) only [emit0, Stmt.exec_cons, Stmt.exec_nil, Stmt.step_line, step_printed]
  rfl

theorem FlReg.exec_emit24 (comment : String) (d s : FlReg) :
    Stmt.exec env (d.emit24 comment) s = d := by
  simp (disch := decide) only [emit24, Stmt.exec_cons, Stmt.exec_nil, Stmt.step_line, step_printed,
    step_printedSee]
  rfl

theorem FlMstr.exec_emitSee (comment : String) (d s : FlMstr) :
    Stmt.exec env (d.emitSee comment) s = d := by
  simp (disch := decide) only [emitSee, Stmt.exec_cons, Stmt.exec_nil, Stmt.step_line,
    step_printed, step_printedSee]
  dsimp only [Member.requesterId, Member.fdRegionReadAccess, Member.biosRegionReadAccess,
    Member.meRegionReadAccess, Member.gbeRegionReadAccess, Member.pdRegionReadAccess,
    Member.reserved1, Member.fdRegionWriteAccess, Member.biosRegionWriteAccess,
    Member.meRegionWriteAccess, Member.gbeRegionWriteAccess, Member.pdRegionWriteAccess,
    Member.reserved2]

theorem FlMstr.exec_emit (comment : String) (d s : FlMstr) :
    Stmt.exec env (d.emit comment) s = d := by
  simp (disch := decide) only [emit, Stmt.exec_cons, Stmt.exec_nil, Stmt.step_line, step_printed]
  dsimp only [Member.requesterId, Member.fdRegionReadAccess, Member.biosRegionReadAccess,
    Member.meRegionReadAccess, Member.gbeRegionReadAccess, Member.pdRegionReadAccess,
    Member.reserved1, Member.fdRegionWriteAccess, Member.biosRegionWriteAccess,
    Member.meRegionWriteAccess, Member.gbeRegionWriteAccess, Member.pdRegionWriteAccess,
    Member.reserved2]

theorem MasterAccessSectionRecord.exec_emit (d s : MasterAccessSectionRecord) :
    Stmt.exec env d.emit s = d := by
  simp (disch := decide) only [emit, Stmt.exec_append, Stmt.exec_within, Stmt.exec_cons,
    Stmt.exec_nil, Stmt.step_line, FlMstr.exec_emitSee, FlMstr.exec_emit, exec_emitPadding]
  rfl

theorem IchStrap1.exec_emit (d s : IchStrap1) : Stmt.exec env d.emit s = d := by
  simp (disch := decide) only [emit, Stmt.exec_cons, Stmt.exec_nil, Stmt.step_line, step_printed]
  dsimp only [Member.northMlink, Member.southMlink, Member.meSmbus, Member.sstDynamic,
    Member.reserved1, Member.northMlink2, Member.reserved2, Member.reserved3]

theorem MchStrap0.exec_emit (d s : MchStrap0) : Stmt.exec env d.emit s = d := by
  simp (disch := decide) only [emit, Stmt.exec_cons, Stmt.exec_nil, Stmt.step_line, step_printed,
    step_printedSee]
  dsimp only [Member.meDisable, Member.meBootFromFlash, Member.tpmDisable, Member.reserved1,
    Member.spiFingerprint, Member.meAlternateDisable, Member.reserved2, Member.reserved3]

theorem MchStrapsRecord.exec_emit (d s : MchStrapsRecord) : Stmt.exec env d.emit s = d := by
  simp (disch := decide) only [emit, Stmt.exec_append, Stmt.exec_within, Stmt.exec_cons,
    Stmt.exec_nil, Stmt.step_line, MchStrap0.exec_emit, exec_emitPadding]
  rfl

theorem MeVsccTableRecord.exec_emit (d s : MeVsccTableRecord) : Stmt.exec env d.emit s = d := by
  simp (disch := decide) only [emit, Stmt.exec_append, Stmt.exec_cons, Stmt.exec_nil,
    Stmt.step_line, step_printed, exec_emitPadding]
  dsimp only [Member.jid0, Member.vscc0, Member.jid1, Member.vscc1, Member.jid2, Member.vscc2,
    Member.padding]

theorem DescriptorMap2Record.exec_emit (d s : DescriptorMap2Record) :
    Stmt.exec env d.emit s = d := by
  simp (disch := decide) only [emit, Stmt.exec_cons, Stmt.exec_nil, Stmt.step_line, step_printed]
  rfl

theorem OemSectionRecord.exec_emit (d s : OemSectionRecord) : Stmt.exec env d.emit s = d := by
  simp (disch := decide) only [emit, Stmt.exec_append, Stmt.exec_cons, Stmt.exec_nil,
    Stmt.step_line, Stmt.exec_elements, exec_emitPadding]
  rfl

end Printed

/-! ## Sections that depend on the arguments -/

/-- What the generated function makes of a printed descriptor. -/
def regenerated (d : DescriptorRegionRecord) (romSize : BitVec 32) (gbe : Bool) :
    DescriptorRegionRecord :=
  { d with
    flMaps.flMap0.nr := bif gbe then 2 else 1
    componentSection.flcomp.component1Density := (componentDensity romSize).setWidth 3
    componentSection.flcomp.component2Density := (componentDensity romSize).setWidth 3
    regionSection.flReg1 :=
      d.regionSection.flReg1.withRange (bif gbe then 3 else 1) (biosLimit romSize)
    regionSection.flReg3 :=
      d.regionSection.flReg3.withRange (bif gbe then 1 else 0x1FFF) (bif gbe then 2 else 0)
    ichStraps.ichStrap0.integratedGbe := bif gbe then 1 else 0
    ichStraps.ichStrap0.lanPhy := bif gbe then 1 else 0 }

section Arguments

variable (romSize hasGbe : BitVec 32)

/-- A conditional expression over `hasGbe` takes one of its branches. -/
theorem eval_ifHasGbe (a b : Expr GenName) :
    (ifHasGbe a b).eval (GenName.value romSize hasGbe)
      = bif hasGbe != 0 then a.eval (GenName.value romSize hasGbe)
        else b.eval (GenName.value romSize hasGbe) := by
  by_cases h : hasGbe = 0
  · simp [ifHasGbe, Expr.eval, GenName.value, h]
  · have hne : (hasGbe != 0) = true := by simpa using h
    rw [hne]
    exact if_pos h

/-- The printed number of regions. -/
theorem nr_printed : ∀ gbe : Bool,
    (bif gbe then BitVec.ofNat 32 (Hex.value ['2'])
      else BitVec.ofNat 32 (Hex.value ['1'])).setWidth 3 = bif gbe then 2 else (1 : BitVec 3) := by
  decide

theorem FlMap0.exec_emit (d s : FlMap0) :
    Stmt.exec (GenName.value romSize hasGbe) d.emit s
      = { d with nr := bif hasGbe != 0 then 2 else 1 } := by
  simp (disch := decide) only [emit, Stmt.exec_cons, Stmt.exec_nil, Stmt.step_line,
    Stmt.step_assign, step_printed, step_shown, Stmt.store, Expr.eval, eval_ifHasGbe]
  rw [nr_printed]
  rfl

theorem FlMaps.exec_emit (d s : FlMaps) :
    Stmt.exec (GenName.value romSize hasGbe) d.emit s
      = { d with flMap0.nr := bif hasGbe != 0 then 2 else 1 } := by
  simp (disch := decide) only [emit, Stmt.exec_append, Stmt.exec_within, Stmt.exec_cons,
    Stmt.exec_nil, Stmt.step_line, FlMap0.exec_emit, FlMap1.exec_emit, FlMap2.exec_emit]
  rfl

theorem FlComp.exec_emit (d s : FlComp) :
    Stmt.exec (GenName.value romSize hasGbe) d.emit s
      = { d with
          component1Density := (componentDensity romSize).setWidth 3
          component2Density := (componentDensity romSize).setWidth 3 } := by
  simp (disch := decide) only [emit, Stmt.exec_cons, Stmt.exec_nil, Stmt.step_line,
    Stmt.step_assign, step_printed, step_shown, Stmt.store, Expr.eval, GenName.value]
  rw [BitVec.setWidth_setWidth_of_le _ (by decide)]
  dsimp only [Member.component1Density, Member.component2Density, Member.reserved1,
    Member.reserved2, Member.reserved3, Member.readClockFrequency, Member.fastReadSupport,
    Member.fastreadClockFrequency, Member.writeEraseClockFrequency,
    Member.readStatusClockFrequency, Member.reserved4]

theorem ComponentSectionRecord.exec_emit (d s : ComponentSectionRecord) :
    Stmt.exec (GenName.value romSize hasGbe) d.emit s
      = { d with
          flcomp.component1Density := (componentDensity romSize).setWidth 3
          flcomp.component2Density := (componentDensity romSize).setWidth 3 } := by
  simp (disch := decide) only [emit, Stmt.exec_append, Stmt.exec_within, Stmt.exec_cons,
    Stmt.exec_nil, Stmt.step_line, step_printed, FlComp.exec_emit, exec_emitPadding]
  rfl

/-- The printed start of the BIOS region. -/
theorem biosBase_printed : ∀ gbe : Bool,
    ((BitVec.ofNat 32 DESCRIPTORREGIONSIZE
        + bif gbe then BitVec.ofNat 32 GBEREGIONSIZE_8K else BitVec.ofNat 32 0)
      >>> BitVec.ofNat 32 FLREGIONBITSHIFT).setWidth 13 = bif gbe then 3 else 1 := by
  decide

/-- The printed end of the BIOS region. -/
theorem biosLimit_printed :
    (romSize >>> BitVec.ofNat 32 FLREGIONBITSHIFT - BitVec.ofNat 32 1).setWidth 13
      = biosLimit romSize := rfl

theorem FlReg.exec_emit1 (d s : FlReg) :
    Stmt.exec (GenName.value romSize hasGbe) d.emit1 s
      = d.withRange (bif hasGbe != 0 then 3 else 1) (biosLimit romSize) := by
  simp (disch := decide) only [emit1, Stmt.exec_cons, Stmt.exec_nil, Stmt.step_line,
    Stmt.step_assign, step_printed, step_shown, Stmt.store, Expr.eval, GenName.value,
    eval_ifHasGbe]
  rw [biosBase_printed, biosLimit_printed]
  rfl

/-- The printed start of the GbE region. -/
theorem gbeBase_printed : ∀ gbe : Bool,
    (bif gbe then BitVec.ofNat 32 DESCRIPTORREGIONSIZE >>> BitVec.ofNat 32 FLREGIONBITSHIFT
      else BitVec.ofNat 32 (Hex.value ['1', 'f', 'f', 'f'])).setWidth 13
      = bif gbe then 1 else (0x1FFF : BitVec 13) := by
  decide

/-- The printed end of the GbE region. -/
theorem gbeLimit_printed : ∀ gbe : Bool,
    (bif gbe then BitVec.ofNat 32 GBEREGIONSIZE_8K >>> BitVec.ofNat 32 FLREGIONBITSHIFT
      else BitVec.ofNat 32 (Hex.value ['0', '0', '0', '0'])).setWidth 13
      = bif gbe then 2 else (0 : BitVec 13) := by
  decide

theorem FlReg.exec_emit3 (d s : FlReg) :
    Stmt.exec (GenName.value romSize hasGbe) d.emit3 s
      = d.withRange (bif hasGbe != 0 then 1 else 0x1FFF) (bif hasGbe != 0 then 2 else 0) := by
  simp (disch := decide) only [emit3, Stmt.exec_cons, Stmt.exec_nil, Stmt.step_line,
    Stmt.step_assign, step_printed, step_shown, Stmt.store, Expr.eval, GenName.value,
    eval_ifHasGbe]
  rw [gbeBase_printed, gbeLimit_printed]
  rfl

theorem RegionSectionRecord.exec_emit (d s : RegionSectionRecord) :
    Stmt.exec (GenName.value romSize hasGbe) d.emit s
      = { d with
          flReg1 := d.flReg1.withRange (bif hasGbe != 0 then 3 else 1) (biosLimit romSize)
          flReg3 := d.flReg3.withRange (bif hasGbe != 0 then 1 else 0x1FFF)
            (bif hasGbe != 0 then 2 else 0) } := by
  simp (disch := decide) only [emit, Stmt.exec_append, Stmt.exec_within, Stmt.exec_cons,
    Stmt.exec_nil, Stmt.step_line, FlReg.exec_emit0, FlReg.exec_emit1, FlReg.exec_emit24,
    FlReg.exec_emit3, exec_emitPadding]
  rfl

/-- The printed value of the two GbE straps. -/
theorem gbeStrap_printed : ∀ gbe : Bool,
    (bif gbe then BitVec.ofNat 32 (Hex.value ['1'])
      else BitVec.ofNat 32 (Hex.value ['0'])).setWidth 1 = bif gbe then 1 else (0 : BitVec 1) := by
  decide

theorem IchStrap0.exec_emit (d s : IchStrap0) :
    Stmt.exec (GenName.value romSize hasGbe) d.emit s
      = { d with
          integratedGbe := bif hasGbe != 0 then 1 else 0
          lanPhy := bif hasGbe != 0 then 1 else 0 } := by
  simp (disch := decide) only [emit, Stmt.exec_cons, Stmt.exec_nil, Stmt.step_line,
    Stmt.step_assign, step_printed, step_printedSee, Stmt.store, Expr.eval, eval_ifHasGbe]
  rw [gbeStrap_printed]
  dsimp only [Member.meDisable, Member.reserved1, Member.tcoMode, Member.smBusAddress,
    Member.bmcMode, Member.tripPointSelect, Member.reserved2, Member.integratedGbe,
    Member.lanPhy, Member.reserved3, Member.dmiRequesterId, Member.smBus2Address]

theorem IchStrapsRecord.exec_emit (d s : IchStrapsRecord) :
    Stmt.exec (GenName.value romSize hasGbe) d.emit s
      = { d with
          ichStrap0.integratedGbe := bif hasGbe != 0 then 1 else 0
          ichStrap0.lanPhy := bif hasGbe != 0 then 1 else 0 } := by
  simp (disch := decide) only [emit, Stmt.exec_append, Stmt.exec_within, Stmt.exec_cons,
    Stmt.exec_nil, Stmt.step_line, IchStrap0.exec_emit, IchStrap1.exec_emit, exec_emitPadding]
  rfl

end Arguments

/-! ## The whole function -/

/-- **The generated function returns `regenerated`,** whatever its local struct held before. -/
theorem DescriptorRegionRecord.exec_emit (d descriptorStruct : DescriptorRegionRecord)
    (romSize hasGbe : BitVec 32) :
    Stmt.exec (GenName.value romSize hasGbe) d.emit descriptorStruct
      = regenerated d romSize (hasGbe != 0) := by
  simp only [emit, Stmt.exec_within, Stmt.exec_append, FlValSig.exec_emit, FlMaps.exec_emit,
    ComponentSectionRecord.exec_emit, RegionSectionRecord.exec_emit,
    MasterAccessSectionRecord.exec_emit, IchStrapsRecord.exec_emit, MchStrapsRecord.exec_emit,
    MeVsccTableRecord.exec_emit, DescriptorMap2Record.exec_emit, OemSectionRecord.exec_emit]
  rfl

end Libreboot
