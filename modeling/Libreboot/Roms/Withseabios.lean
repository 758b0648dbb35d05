import Libreboot.Roms.SharedSources

/-!
# ROM images with SeaBIOS

The whole of `helpers/build/roms/withseabios`. A run ends at the first tool that fails.

* `keeps_withseabios` — what every run keeps
* `delivered_of_withseabios` — what a run that gets through leaves in `bin/seabios/`
-/

namespace Libreboot.Roms

open Infra Script

/-- The tools and the arguments of one run. -/
structure SeabiosRun where
  /-- For each revision of coreboot. -/
  toolchain : String → Toolchain
  /-- What `module/seabios` has built. -/
  out : SeabiosOut
  version : String
  args : List String

/-- `rm -f "coreboot/seabios"*.{elf,cfg}` -/
def isSeabiosFile (name : String) : Bool := glob "seabios" ".elf" name || glob "seabios" ".cfg" name

section Script

variable (r : Resources) (run : SeabiosRun)

def withseabios : Command Workspace :=
  both (forEach (buildrom r .seabios (withseabiosHelper r run.toolchain run.version run.out))
    (Payload.seabios.boardsOf run.args)) <|
  -- the SeaBIOS files are no longer needed
  both (onPayload (removeWhere isSeabiosFile)) (removeInSources isElfOrCfg)

variable {ws ws' : Workspace}

/-- **The sources stay clean,** wherever the run ends. -/
theorem keeps_withseabios : Keeps (CleanSources r) (withseabios r run) :=
  (Keeps.forEach fun board _ => keeps_buildrom r .seabios (fun _ hboard =>
    keeps_withseabiosHelper r run.version run.toolchain run.out hboard) board).both
      ((keeps_onPayload r _).both (keeps_removeInSources r _))

/-- **What a run that gets through leaves in `bin/`,** from clean sources. -/
theorem delivered_of_withseabios (hclean : CleanSources r ws)
    (hrun : withseabios r run ws = .ok ws') :
    Delivered r .seabios (SeabiosDirectory r run.toolchain run.version run.out)
      (Payload.seabios.boardsOf run.args) ws ws' := by
  obtain ⟨built, hloop, hrun⟩ := both_eq_ok.mp hrun
  obtain ⟨_, hremove, hrun⟩ := both_eq_ok.mp hrun
  obtain ⟨payload, -, rfl⟩ := onPart_eq_ok.mp hremove
  obtain rfl := Except.ok.inj hrun
  have hloop := delivered_of_forEach (P := CleanSources r) (fun board hconfig ws ws' hws hhelper =>
    have hboard := r.config_board .seabios board hconfig
    ⟨(keeps_withseabiosHelper r _ _ _ hboard).of_ok hws hhelper,
      withseabiosHelper_delivers r _ _ _ hws hboard hhelper⟩) hclean hloop
  exact ⟨hloop.built, hloop.other, hloop.payload⟩

/-- It gets through exactly if there is an image for each board, whatever has been left before. -/
theorem withseabios_gets_through :
    (∃ ws', withseabios r run ws = .ok ws') ↔
      ∀ board ∈ Payload.seabios.boardsOf run.args, (r.config .seabios board).isSome →
        (∃ revision, Ready r run.toolchain .seabios board revision)
          ∧ ∃ rom, boardSeabiosImage r run.toolchain run.version run.out board = some rom := by
  have hloop := @exists_forEach_buildrom r .seabios _ (fun _ => True) _
    (Payload.seabios.boardsOf run.args) ws
    (fun board ws _ => @withseabiosHelper_gets_through r run.toolchain run.version board ws run.out)
    (fun _ _ _ _ _ => trivial) trivial
  rw [← hloop]
  constructor
  · rintro ⟨ws', hrun⟩
    obtain ⟨built, hbuild, -⟩ := both_eq_ok.mp hrun
    exact ⟨built, hbuild⟩
  · rintro ⟨built, hbuild⟩
    exact ⟨_, both_eq_ok.mpr ⟨built, hbuild, both_eq_ok.mpr ⟨_, onPart_eq_ok.mpr ⟨_, rfl, rfl⟩, rfl⟩⟩⟩

end Script

end Libreboot.Roms
