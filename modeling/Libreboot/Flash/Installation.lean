import Libreboot.Flash.Machine

/-!
# Installing libreboot on an i945 ThinkPad

What becomes of a machine whose owner runs the flash script, shuts down and removes the battery in any
order, with tools that may fail at any call. All images are built ones.

* `reachable_boots_iff` — which shutdowns a machine survives
* `recovers_iff` — the two kinds of bricks
* `installation` — the procedure of the manual
* `firstflash_interrupted`, `secondflash_interrupted_iff` — a run that is cut short
-/

namespace Libreboot.Flash

open Infra TopSwap
open Roms (blockSize)

namespace Board

variable {board : Board} {m : Machine}

/-! ## Any run -/

/--
**Which shutdowns a machine survives.** After any run, the machine comes up again exactly if it has
the vendor's image and BUC.TS is 0, or the vendor's last block over a built image and BUC.TS is 1, or
a built image. Without the battery the bit does not help.
-/
theorem reachable_boots_iff (board : Board) {actions : List Action}
    (h : ∀ action ∈ actions, board.Flashes action) :
    let m := board.run board.delivered actions
    board.OnChip m.chip
      ∧ ((board.step m .shutDown).running ≠ none ↔
        (m.chip = board.vendor ∧ m.ts = false)
          ∨ ((∃ image, board.Built image ∧ m.chip = board.half image) ∧ m.ts = true)
          ∨ board.Built m.chip)
      ∧ ((board.step m .removeBattery).running ≠ none ↔
        m.chip = board.vendor ∨ board.Built m.chip) := by
  intro m
  have hinv : board.Inv m := inv_run inv_delivered h
  refine ⟨hinv.chip, hinv.chip.boot_isSome_iff, ?_⟩
  have hchip : board.OnChip { m with ts := false }.chip := hinv.chip
  show (board.boot { m with ts := false }).running ≠ none ↔ _
  rw [hchip.boot_isSome_iff]
  simp

theorem reachable_boots_iff_sample : sampleBoard.OnChip (sampleBoard.run sampleBoard.delivered
    [.flash sampleHost sampleTools [Mode.i945lenovo_firstflash.text, "x60.rom"]]).chip := by
  refine (reachable_boots_iff sampleBoard ?_).1
  intro action haction
  rw [List.mem_singleton.mp haction]
  exact sampleBoard_flashes _ _

/-! ## The two halves of the procedure -/

section Calls

variable {host : Host} {tools : Tools} {rompath : String} {image : Bytes}

theorem execAll_cons (call : Call) (calls : List Call) :
    execAll host tools (call :: calls) m = execAll host tools calls (Call.exec host tools m call) :=
  rfl

/-- A call that writes a built image. -/
theorem exec_write (tools : Tools) (hchip : board.OnChip m.chip)
    (hfile : host.files rompath = some image) (himage : board.Built image) (tool : Flashrom)
    (programmer : String) :
    Call.exec host tools m (.write tool programmer rompath)
      = if tools.flashrom tool programmer m then { m with chip := m.written image } else m := by
  have hlen : image.length = m.chip.length := himage.length.trans hchip.length.symm
  simp only [Call.exec, hfile, hlen, true_and]

/-- The machine behind `${bucts} 1`. -/
def withBucts (tools : Tools) (m : Machine) : Machine :=
  if tools.bucts m then { m with ts := true } else m

/-- One of the two patched binaries finds the chip. -/
def found (tools : Tools) (m : Machine) : Bool :=
  tools.flashrom .lenovobios_sst "internal" m || tools.flashrom .lenovobios_macronix "internal" m

theorem chip_withBucts : (withBucts tools m).chip = m.chip := by
  unfold withBucts
  split <;> rfl

theorem inv_withBucts (tools : Tools) (hinv : board.Inv m) (hup : m.running ≠ none) :
    board.Inv (withBucts tools m) ∧ (withBucts tools m).running = m.running := by
  have hcall : board.Writes ⟨0, "", "", fun _ => none⟩ (.bucts true) := trivial
  exact inv_exec tools hinv hup hcall

variable (hrunning : m.running = some .vendor) (hinv : board.Inv m)
  (hfile : host.files rompath = some image) (himage : board.Built image)
include hrunning hinv hfile himage

/-- **Below the Lenovo BIOS, one write is enough,** and a second one changes nothing. -/
theorem execAll_writes :
    execAll host tools [.write .lenovobios_sst "internal" rompath,
        .write .lenovobios_macronix "internal" rompath] m
      = { m with chip := if found tools m then board.half image else m.chip } := by
  have hup : m.running ≠ none := by
    rw [hrunning]
    exact Option.some_ne_none _
  have hfirst := exec_write tools hinv.chip hfile himage .lenovobios_sst "internal"
  have hcall : board.Writes host (.write .lenovobios_sst "internal" rompath) := by
    intro image' hfile' _
    obtain rfl := Option.some.inj (hfile.symm.trans hfile')
    exact himage
  obtain ⟨hinv', hrunning'⟩ := inv_exec tools hinv hup hcall
  rw [execAll_cons, execAll_cons, exec_write tools hinv'.chip hfile himage,
    hinv'.written_of_vendor (hrunning'.trans hrunning), hfirst, hinv.written_of_vendor hrunning]
  show (if _ then _ else _) = _
  unfold found
  cases hsst : tools.flashrom .lenovobios_sst "internal" m with
  | true => simp
  | false =>
    cases hmacronix : tools.flashrom .lenovobios_macronix "internal" m with
    | true => simp [hmacronix]
    | false => simp [hmacronix]

/-- **The first half of the procedure.** -/
theorem execAll_firstflash :
    execAll host tools (Mode.i945lenovo_firstflash.calls rompath) m
      = { withBucts tools m with
          chip := if found tools (withBucts tools m) then board.half image else m.chip } := by
  have hup : m.running ≠ none := by
    rw [hrunning]
    exact Option.some_ne_none _
  obtain ⟨hinv', hrunning'⟩ := inv_withBucts tools hinv hup
  have hbucts : Call.exec host tools m (.bucts true) = withBucts tools m := rfl
  rw [Mode.calls, execAll_cons, hbucts,
    execAll_writes (hrunning'.trans hrunning) hinv' hfile himage, chip_withBucts]

/-- The first half as a step of the machine. -/
theorem step_firstflash {rest : List String} {calls : List Call}
    (hcalls : flash host (Mode.i945lenovo_firstflash.text :: rompath :: rest) = .ok calls) :
    board.step m (.flash host tools (Mode.i945lenovo_firstflash.text :: rompath :: rest))
      = { withBucts tools m with
          chip := if found tools (withBucts tools m) then board.half image else m.chip } := by
  have hup : m.running ≠ none := by
    rw [hrunning]
    exact Option.some_ne_none _
  rw [step_flash hup, hcalls]
  show execAll host tools calls m = _
  rw [calls_of_flash hcalls, execAll_firstflash hrunning hinv hfile himage]

/-- The first half, cut short behind `k` calls. -/
theorem execAll_take_firstflash (tools : Tools) (k : Nat) :
    (k = 0 ∧ execAll host tools ((Mode.i945lenovo_firstflash.calls rompath).take k) m = m)
      ∨ ∃ written : Bool, (written = true → found tools (withBucts tools m) = true)
        ∧ (3 ≤ k → written = found tools (withBucts tools m))
        ∧ execAll host tools ((Mode.i945lenovo_firstflash.calls rompath).take k) m
          = { withBucts tools m with chip := if written then board.half image else m.chip } := by
  have hup : m.running ≠ none := by
    rw [hrunning]
    exact Option.some_ne_none _
  have hchip : (withBucts tools m).chip = m.chip := chip_withBucts
  obtain ⟨hinv', hrunning'⟩ := inv_withBucts tools hinv hup
  rcases k with _ | _ | _ | k
  · exact .inl ⟨rfl, rfl⟩
  · refine .inr ⟨false, nofun, fun h => absurd h (by decide), ?_⟩
    show withBucts tools m = { withBucts tools m with chip := m.chip }
    rw [← hchip]
  · have hwritten : (withBucts tools m).written image = board.half image :=
      hinv'.written_of_vendor (hrunning'.trans hrunning) image
    refine .inr ⟨tools.flashrom .lenovobios_sst "internal" (withBucts tools m), fun h => ?_,
      fun h => absurd h (by decide), ?_⟩
    · rw [found, h, Bool.true_or]
    · show Call.exec host tools (withBucts tools m) (.write .lenovobios_sst "internal" rompath) = _
      rw [exec_write tools hinv'.chip hfile himage, hwritten]
      cases tools.flashrom .lenovobios_sst "internal" (withBucts tools m) with
      | true => rfl
      | false =>
        show withBucts tools m = { withBucts tools m with chip := m.chip }
        rw [← hchip]
  · refine .inr ⟨found tools (withBucts tools m), id, fun _ => rfl, ?_⟩
    have hlen : (Mode.i945lenovo_firstflash.calls rompath).length ≤ k + 3 := Nat.le_add_left 3 k
    rw [List.take_of_length_le hlen]
    exact execAll_firstflash hrunning hinv hfile himage

end Calls

/-- A chip that was written to needs the bit, and the other one must not have it. -/
theorem boot_written {image : Bytes} (himage : board.Built image) (written ts : Bool)
    (running : Option Firmware) :
    (board.boot ⟨if written then board.half image else board.vendor, ts, running⟩).running ≠ none
      ↔ ts = written := by
  cases written with
  | false =>
    show board.comesUp (seen blockSize ts board.vendor) ≠ none ↔ _
    rw [comesUp_seen_vendor]
    cases ts <;> simp
  | true =>
    show board.comesUp (seen blockSize ts (board.half image)) ≠ none ↔ _
    rw [himage.comesUp_seen_half]
    cases ts <;> simp

/-! ## Bricks -/

/-- Two firmwares on the chip, and the vendor's block in the place that counts. -/
structure HardBrick (board : Board) (m : Machine) : Prop where
  chip : ∃ image, board.Built image ∧ m.chip = board.half image
  ts : m.ts = false
  down : m.running = none

theorem HardBrick.boot (h : board.HardBrick m) (ts : Bool) (hts : ts = false) :
    board.HardBrick (board.boot { m with ts := ts }) where
  chip := h.chip
  ts := hts
  down := by
    obtain ⟨image, himage, hchip⟩ := h.chip
    show board.comesUp (seen blockSize ts m.chip) = none
    rw [hchip, hts, himage.comesUp_seen_half]
    rfl

/-- **Nothing that is done to it changes such a machine.** -/
theorem HardBrick.step (h : board.HardBrick m) (action : Action) :
    board.HardBrick (board.step m action) := by
  cases action with
  | flash host tools args =>
    rw [step_of_none h.down]
    exact h
  | shutDown => exact h.boot m.ts h.ts
  | removeBattery => exact h.boot false rfl

theorem HardBrick.run : ∀ {actions : List Action} {m : Machine}, board.HardBrick m →
    board.HardBrick (board.run m actions)
  | [], _, h => h
  | action :: actions, m, h => by
    rw [run_cons]
    exact HardBrick.run (h.step action)

/--
**The two kinds of bricks.** A machine that does not come up after some run can be brought back
exactly if its chip still has the vendor's image, and then it is enough to remove the battery.
-/
theorem recovers_iff (board : Board) {actions : List Action}
    (h : ∀ action ∈ actions, board.Flashes action)
    (hdown : (board.run board.delivered actions).running = none) :
    let m := board.run board.delivered actions
    ((∃ later, (board.run m later).running ≠ none) ↔ m.chip = board.vendor)
      ∧ (m.chip = board.vendor → (board.step m .removeBattery).running = some .vendor) := by
  intro m
  have hinv : board.Inv m := inv_run inv_delivered h
  have hback : m.chip = board.vendor → (board.step m .removeBattery).running = some .vendor := by
    intro hchip
    show board.comesUp (seen blockSize false m.chip) = some .vendor
    rw [hchip, comesUp_seen_vendor]
    rfl
  refine ⟨⟨?_, fun hchip => ⟨[.removeBattery], ?_⟩⟩, hback⟩
  · rintro ⟨later, hup⟩
    rcases hinv.bricked hdown with ⟨hchip, -⟩ | ⟨hchip, hts⟩
    · exact hchip
    · have hbrick : board.HardBrick m := ⟨hchip, hts, hdown⟩
      exact absurd hbrick.run.down hup
  · show (board.step m .removeBattery).running ≠ none
    rw [hback hchip]
    exact Option.some_ne_none _

/-- bucts without flashrom, and a shutdown. -/
def sampleBrick : List Action :=
  [.flash sampleHost sampleBuctsOnly [Mode.i945lenovo_firstflash.text, "x60.rom"], .shutDown]

theorem run_sampleBrick : sampleBoard.run sampleBoard.delivered sampleBrick
    = ⟨sampleBoard.vendor, true, none⟩ := by
  have hcalls := flash_sampleHost .i945lenovo_firstflash "x60.rom"
  have hdown : sampleBoard.comesUp (seen blockSize true sampleBoard.vendor) = none :=
    comesUp_seen_vendor true
  rw [sampleBrick, run_cons, step_firstflash rfl inv_delivered rfl sampleBoard_built hcalls]
  show (⟨sampleBoard.vendor, true, sampleBoard.comesUp (seen blockSize true sampleBoard.vendor)⟩
    : Machine) = _
  rw [hdown]

theorem recovers_iff_sample :
    ∃ later, (sampleBoard.run (sampleBoard.run sampleBoard.delivered sampleBrick) later).running
      ≠ none := by
  refine (recovers_iff sampleBoard ?_ ?_).1.mpr ?_
  · intro action haction
    rcases List.mem_cons.mp haction with rfl | haction
    · exact sampleBoard_flashes _ _
    · rw [List.mem_singleton.mp haction]
      trivial
  · rw [run_sampleBrick]
  · rw [run_sampleBrick]

/-! ## A built image is safe -/

/-- A machine with a built image runs it. -/
theorem Inv.running_of_built (hinv : board.Inv m) (hbuilt : board.Built m.chip) :
    m.running = some .libreboot := by
  have hup := hbuilt.comesUp_seen
  cases hrunning : m.running with
  | none =>
    rcases hinv.bricked hrunning with ⟨hchip, -⟩ | ⟨⟨image, himage, hchip⟩, -⟩
    · have hvendor := hup false
      rw [hchip, comesUp_seen_vendor] at hvendor
      cases hvendor
    · have hhalf := hup false
      rw [hchip, himage.comesUp_seen_half] at hhalf
      cases hhalf
  | some firmware =>
    cases firmware with
    | libreboot => rfl
    | vendor =>
      obtain ⟨rom, hrom, hsame⟩ := hbuilt.sameOutsideCopy
      have hnone := board.vendor_top rom m.chip hrom hbuilt.length hsame.rest
        (hinv.protected_top hrunning)
      have hsome : board.comesUp m.chip = some .libreboot := hup false
      rw [hnone] at hsome
      cases hsome

/-- What a call leaves on the chip is a built image again. -/
theorem built_exec {host : Host} {tools : Tools} {call : Call} (hinv : board.Inv m)
    (hbuilt : board.Built m.chip) (hcall : board.Writes host call) :
    board.Built (Call.exec host tools m call).chip := by
  have hrunning := hinv.running_of_built hbuilt
  rcases exec_cases hinv hcall with
    hexec | ⟨ts, -, -, hexec⟩ | ⟨tool, programmer, rompath, image, -, -, -, himage, hexec⟩
  · rw [hexec]
    exact hbuilt
  · rw [hexec]
    exact hbuilt
  · rw [hexec]
    have hwritten : m.written image = image := if_neg (by rw [hrunning]; decide)
    show board.Built (m.written image)
    rw [hwritten]
    exact himage

theorem built_execAll {host : Host} {tools : Tools} : ∀ {calls : List Call} {m : Machine},
    board.Inv m → board.Built m.chip → (∀ call ∈ calls, board.Writes host call) →
      board.Built (execAll host tools calls m).chip
  | [], _, _, hbuilt, _ => hbuilt
  | call :: calls, m, hinv, hbuilt, hcalls => by
    have hcall := hcalls call List.mem_cons_self
    have hup : m.running ≠ none := by
      rw [hinv.running_of_built hbuilt]
      exact Option.some_ne_none _
    show board.Built (execAll host tools calls (Call.exec host tools m call)).chip
    exact built_execAll (inv_exec tools hinv hup hcall).1 (built_exec hinv hbuilt hcall)
      fun c hc => hcalls c (List.mem_cons_of_mem _ hc)

theorem built_step {action : Action} (hinv : board.Inv m) (hbuilt : board.Built m.chip)
    (hflashes : board.Flashes action) : board.Built (board.step m action).chip := by
  cases action with
  | flash host tools args =>
    have hup : m.running ≠ none := by
      rw [hinv.running_of_built hbuilt]
      exact Option.some_ne_none _
    rw [step_flash hup]
    cases hcalls : Flash.flash host args with
    | error _ => exact hbuilt
    | ok calls => exact built_execAll hinv hbuilt (writes_of_flash hflashes hcalls)
  | shutDown => exact hbuilt
  | removeBattery => exact hbuilt

/-- **Once a built image is on the chip, no order of actions brings the machine down.** -/
theorem built_run : ∀ {actions : List Action} {m : Machine}, board.Inv m → board.Built m.chip →
    (∀ action ∈ actions, board.Flashes action) →
      board.Built (board.run m actions).chip ∧ (board.run m actions).running = some .libreboot
  | [], _, hinv, hbuilt, _ => ⟨hbuilt, hinv.running_of_built hbuilt⟩
  | action :: actions, m, hinv, hbuilt, hflashes => by
    have haction := hflashes action List.mem_cons_self
    have hrest := built_run (inv_step hinv haction) (built_step hinv hbuilt haction)
      fun a ha => hflashes a (List.mem_cons_of_mem _ ha)
    exact hrest

/-! ## Runs that are cut short -/

section CutShort

variable (board) {host : Host} {tools : Tools} {rompath : String} {rest : List String}
  {calls : List Call} {image : Bytes}

/--
**The first half, cut short.** The machine comes up after the whole run exactly if bucts and one
flashrom took effect, or neither did. Wherever the run is cut short, a shutdown or the removal of the
battery brings the machine up, exactly if bucts took effect or no flashrom did.
-/
theorem firstflash_interrupted
    (hcalls : flash host (Mode.i945lenovo_firstflash.text :: rompath :: rest) = .ok calls)
    (hfile : host.files rompath = some image) (himage : board.Built image) :
    let cut k := execAll host tools (calls.take k) board.delivered
    let bucts := tools.bucts board.delivered
    let written := found tools (withBucts tools board.delivered)
    ((board.boot (execAll host tools calls board.delivered)).running ≠ none ↔ bucts = written)
      ∧ ((∀ k, (board.step (cut k) .shutDown).running ≠ none
          ∨ (board.step (cut k) .removeBattery).running ≠ none)
        ↔ (bucts = true ∨ written = false)) := by
  intro cut bucts written
  obtain rfl := calls_of_flash hcalls
  have hts : (withBucts tools board.delivered).ts = bucts := by
    show (withBucts tools board.delivered).ts = tools.bucts board.delivered
    unfold withBucts
    cases hbucts : tools.bucts board.delivered <;> rfl
  have hboot := fun w ts => board.boot_written himage w ts (withBucts tools board.delivered).running
  have hwhole : execAll host tools (Mode.i945lenovo_firstflash.calls rompath) board.delivered
      = ⟨if written then board.half image else board.vendor, bucts,
        (withBucts tools board.delivered).running⟩ := by
    rw [← hts]
    exact execAll_firstflash rfl board.inv_delivered hfile himage
  have hcut : ∀ k, (k = 0 ∧ cut k = board.delivered)
      ∨ ∃ w : Bool, (w = true → written = true) ∧ cut k
        = ⟨if w then board.half image else board.vendor, bucts,
          (withBucts tools board.delivered).running⟩ := by
    intro k
    rcases execAll_take_firstflash rfl board.inv_delivered hfile himage tools k with
      hzero | ⟨w, hw, -, hk⟩
    · exact .inl hzero
    · rw [← hts]
      exact .inr ⟨w, hw, hk⟩
  refine ⟨by rw [hwhole, hboot], fun hall => ?_, fun h k => ?_⟩
  · have hthree : cut 3 = _ := hwhole
    rcases hall 3 with hup | hup
    · have hsame : bucts = written := by
        rw [hthree] at hup
        exact (hboot written bucts).mp hup
      cases hw : written with
      | false => exact .inr rfl
      | true => exact .inl (hsame.trans hw)
    · rw [hthree] at hup
      exact .inr ((hboot written false).mp hup).symm
  · rcases hcut k with ⟨-, hk⟩ | ⟨w, hw, hk⟩
    · rw [hk]
      exact .inl ((board.boot_written himage false false _).mpr rfl)
    · rw [hk]
      cases w with
      | true =>
        have hbucts : bucts = true := h.resolve_right (by rw [hw rfl]; decide)
        exact .inl ((hboot true bucts).mpr hbucts)
      | false => exact .inr ((hboot false false).mpr rfl)

theorem firstflash_interrupted_sample :
    (sampleBoard.boot (execAll sampleHost sampleTools
      (Mode.i945lenovo_firstflash.calls "x60.rom") sampleBoard.delivered)).running ≠ none :=
  (firstflash_interrupted sampleBoard (flash_sampleHost .i945lenovo_firstflash "x60.rom") rfl
    sampleBoard_built).1.mpr rfl

/--
**The second half, cut short.** On a machine that has come up with BUC.TS set, the run can be cut
short anywhere, exactly if flashrom takes effect or bucts does not.
-/
theorem secondflash_interrupted_iff (hinv : board.Inv m) (hrunning : m.running = some .libreboot)
    (hts : m.ts = true) {old : Bytes} (hold : board.Built old) (hchip : m.chip = board.half old)
    (hcalls : flash host (Mode.i945lenovo_secondflash.text :: rompath :: rest) = .ok calls)
    (hfile : host.files rompath = some image) (himage : board.Built image) :
    (∀ k, (board.step (execAll host tools (calls.take k) m) .shutDown).running ≠ none)
      ↔ tools.flashrom .flashrom iWantABrick m = true ∨ tools.bucts m = false := by
  obtain rfl := calls_of_flash hcalls
  have hwrite := exec_write tools hinv.chip hfile himage .flashrom iWantABrick
  have hwritten : m.written image = image := if_neg (by rw [hrunning]; decide)
  have hstart : (board.boot m).running ≠ none := by
    show board.comesUp (seen blockSize m.ts m.chip) ≠ none
    rw [hchip, hts, hold.comesUp_seen_half]
    exact Option.some_ne_none _
  -- the image comes up with either bit
  have hbuilt : ∀ ts, (board.boot ⟨image, ts, m.running⟩).running ≠ none := by
    intro ts
    show board.comesUp (seen blockSize ts image) ≠ none
    rw [himage.comesUp_seen]
    exact Option.some_ne_none _
  rw [hwritten] at hwrite
  constructor
  · intro hall
    have hlast := hall 2
    by_contra hno
    rw [not_or, Bool.not_eq_true, Bool.not_eq_false] at hno
    -- the bit is cleared, and the vendor's block finds another image below it
    have hend : execAll host tools (Mode.i945lenovo_secondflash.calls rompath) m
        = { m with ts := false } := by
      rw [Mode.calls, execAll_cons, hwrite, hno.1, if_neg (by decide)]
      exact (exec_bucts host tools m false).trans (if_pos hno.2)
    rw [List.take_of_length_le (Nat.le_refl 2), hend] at hlast
    refine hlast ?_
    show board.comesUp (seen blockSize false m.chip) = none
    rw [hchip, hold.comesUp_seen_half]
    rfl
  · intro h k
    have hone : (board.boot (Call.exec host tools m
        (.write .flashrom iWantABrick rompath))).running ≠ none := by
      rw [hwrite]
      split
      · exact hbuilt m.ts
      · exact hstart
    rcases k with _ | _ | k
    · exact hstart
    · exact hone
    · have hlen : (Mode.i945lenovo_secondflash.calls rompath).length ≤ k + 2 := Nat.le_add_left 2 k
      rw [List.take_of_length_le hlen, Mode.calls, execAll_cons]
      show (board.boot (Call.exec host tools _ (.bucts false))).running ≠ none
      rw [exec_bucts]
      split
      · next hbucts =>
        rw [hwrite] at hbucts ⊢
        by_cases hfound : tools.flashrom .flashrom iWantABrick m = true
        · rw [if_pos hfound]
          exact hbuilt false
        · rw [if_neg hfound, h.resolve_left hfound] at hbucts
          cases hbucts
      · exact hone

end CutShort

/-- A machine behind the first half and a shutdown. -/
def sampleHalf : Machine :=
  ⟨sampleBoard.half (mirror blockSize (threeBlocks 3 4 5)), true, some .libreboot⟩

/-- Where flashrom does not find the chip, and bucts clears the bit, the machine is lost. -/
theorem secondflash_interrupted_iff_sample :
    ¬ ∀ k, (sampleBoard.step (execAll sampleHost sampleBuctsOnly
      ((Mode.i945lenovo_secondflash.calls "x60.rom").take k) sampleHalf) .shutDown).running
        ≠ none := by
  have hinv : sampleBoard.Inv sampleHalf :=
    ⟨.inr (.inl ⟨_, sampleBoard_built, rfl⟩), nofun, nofun⟩
  rw [secondflash_interrupted_iff sampleBoard hinv rfl rfl sampleBoard_built rfl
    (flash_sampleHost .i945lenovo_secondflash "x60.rom") rfl sampleBoard_built]
  decide

/-! ## The procedure of the manual -/

section Procedure

variable {host host' : Host} {tools tools' : Tools} {rompath rompath' : String}
  {rest rest' : List String} {calls calls' : List Call} {image image' : Bytes}

/-- Until the second half, the machine comes up from the swapped block. -/
theorem run_shutDowns (himage : board.Built image) (running : Option Firmware) (n : Nat) :
    board.run ⟨board.half image, true, running⟩ (List.replicate (n + 1) .shutDown)
      = ⟨board.half image, true, some .libreboot⟩ := by
  have hstep : ∀ r, board.step ⟨board.half image, true, r⟩ .shutDown
      = ⟨board.half image, true, some .libreboot⟩ := by
    intro r
    show (⟨board.half image, true, board.comesUp (seen blockSize true (board.half image))⟩ : Machine)
      = _
    rw [himage.comesUp_seen_half true, if_pos rfl]
  induction n generalizing running with
  | zero => exact hstep running
  | succ n ih =>
    rw [List.replicate_succ, run_cons, hstep]
    exact ih _

/-- The second half, on a machine that has come up. -/
theorem step_secondflash {chip : Bytes} {ts : Bool} (hchip : board.OnChip chip)
    (hsecond : flash host (Mode.i945lenovo_secondflash.text :: rompath :: rest) = .ok calls)
    (hfile : host.files rompath = some image) (himage : board.Built image)
    (htools : ∀ m, tools.bucts m = true ∧ tools.flashrom .flashrom iWantABrick m = true) :
    board.step ⟨chip, ts, some .libreboot⟩
        (.flash host tools (Mode.i945lenovo_secondflash.text :: rompath :: rest))
      = ⟨image, false, some .libreboot⟩ := by
  rw [step_flash (Option.some_ne_none _), hsecond]
  show execAll host tools calls _ = _
  rw [calls_of_flash hsecond, Mode.calls, execAll_cons, exec_write tools hchip hfile himage,
    if_pos (htools _).2]
  exact (exec_bucts host tools _ false).trans (if_pos (htools _).1)

/--
**The procedure of the manual.** Whatever was done before under the Lenovo BIOS: after the first
half, at least one shutdown and the second half, with tools that take effect, the whole image is on
the chip and BUC.TS is 0 again. From then on the machine runs libreboot whatever is done.
-/
theorem installation {before : List Action} (hbefore : ∀ action ∈ before, board.Flashes action)
    (hvendor : (board.run board.delivered before).running = some .vendor)
    (hfirst : flash host (Mode.i945lenovo_firstflash.text :: rompath :: rest) = .ok calls)
    (hfile : host.files rompath = some image) (himage : board.Built image)
    (htools : ∀ m, tools.bucts m = true ∧ found tools m = true) (n : Nat)
    (hsecond : flash host' (Mode.i945lenovo_secondflash.text :: rompath' :: rest') = .ok calls')
    (hfile' : host'.files rompath' = some image') (himage' : board.Built image')
    (htools' : ∀ m, tools'.bucts m = true ∧ tools'.flashrom .flashrom iWantABrick m = true) :
    let first := Action.flash host tools (Mode.i945lenovo_firstflash.text :: rompath :: rest)
    let second := Action.flash host' tools' (Mode.i945lenovo_secondflash.text :: rompath' :: rest')
    let installed := board.run board.delivered
      (before ++ (first :: List.replicate (n + 1) .shutDown ++ [second]))
    installed = ⟨image', false, some .libreboot⟩
      ∧ ∀ later, (∀ action ∈ later, board.Flashes action) →
        board.Built (board.run installed later).chip
          ∧ (board.run installed later).running = some .libreboot := by
  intro first second installed
  have hinv : board.Inv (board.run board.delivered before) := inv_run inv_delivered hbefore
  have hinstalled : installed = ⟨image', false, some .libreboot⟩ := by
    show board.run board.delivered (before ++ (first :: List.replicate (n + 1) .shutDown ++ [second]))
      = _
    have hbucts : ∀ m, withBucts tools m = { m with ts := true } := fun m => if_pos (htools m).1
    rw [run_append, List.cons_append, run_cons, step_firstflash hvendor hinv hfile himage hfirst,
      if_pos (htools _).2, hbucts, run_append, run_shutDowns himage]
    have hchip : board.OnChip (board.half image) := .inr (.inl ⟨image, himage, rfl⟩)
    exact step_secondflash hchip hsecond hfile' himage' htools'
  refine ⟨hinstalled, fun later hlater => ?_⟩
  rw [hinstalled]
  have hinv' : board.Inv ⟨image', false, some .libreboot⟩ :=
    ⟨.inr (.inr himage'), nofun, nofun⟩
  exact built_run hinv' himage' hlater

end Procedure

/-- The procedure with one image and one shutdown, without anything before it. -/
theorem installation_sample :
    (sampleBoard.run sampleBoard.delivered
      [.flash sampleHost sampleTools [Mode.i945lenovo_firstflash.text, "x60.rom"], .shutDown,
        .flash sampleHost sampleTools [Mode.i945lenovo_secondflash.text, "x60.rom"]]).running
      = some .libreboot := by
  have htools : ∀ m, sampleTools.bucts m = true ∧ found sampleTools m = true := fun _ => ⟨rfl, rfl⟩
  have htools' : ∀ m, sampleTools.bucts m = true
      ∧ sampleTools.flashrom .flashrom iWantABrick m = true := fun _ => ⟨rfl, rfl⟩
  have hbefore : ∀ action ∈ ([] : List Action), sampleBoard.Flashes action := fun _ h =>
    absurd h List.not_mem_nil
  have hinstalled := (installation hbefore rfl
    (flash_sampleHost .i945lenovo_firstflash "x60.rom") rfl sampleBoard_built htools 0
    (flash_sampleHost .i945lenovo_secondflash "x60.rom") rfl sampleBoard_built htools').1
  exact congrArg Machine.running hinstalled

end Board

end Libreboot.Flash
