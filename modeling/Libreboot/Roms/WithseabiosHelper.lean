import Libreboot.Roms.Workspace

/-!
# The SeaBIOS images of one board

What `helpers/build/roms/withseabios_helper` does in the sources, up to the move to `bin/seabios/`. The
configuration of SeaBIOS itself becomes the `.config` of coreboot, and the one of the board is not
read, so that both kinds of graphics give the same image.

* `buildSeabiosRomtype_eq_ok` — one kind of graphics
* `buildSeabiosImages_eq_ok` — all images of a board
-/

namespace Libreboot.Roms

open Infra Script

/-! ## The script -/

/-- Only text mode works on some boards. -/
def seabiosSkips (board : String) : Romtype → Bool
  | .txtmode => false
  | .vesafb => ["kgpe-d16", "kcma-d8"].contains board

/-- `seabios/out/` -/
structure SeabiosOut where
  /-- `bios.bin.elf` -/
  bios : Option Bytes
  /-- `vgabios.bin` -/
  vgabios : Option Bytes

section Script

variable (r : Resources) (t : Toolchain) (version : String) (out : SeabiosOut)

/-- The body of the loop over the kinds of graphics. -/
def buildSeabiosRomtype (board : String) (romtype : Romtype) : Command Files :=
  -- `make clean`
  both (rm corebootRom) <|
  both (put ".config" r.seabiosConfig) <|
  both (put "seabios.elf" out.bios) <|
  both (makeRom t (branchname .seabios board) "seabios.elf") <|
  both (rm "seabios.elf") <|
  both (mv corebootRom (romName board romtype)) <|
  -- now add SeaVGABIOS (SeaBIOS wrapper for coreboot native video init)
  both (rewrite (romName board romtype) fun rom =>
    out.vgabios.bind (t.cbfstool rom "vgaroms/vgabios.bin")) <|
  rm ".config"

/-- The loop goes on with the next kind of graphics if this one does not work on the board. -/
def buildSeabiosUnlessSkipped (board : String) (romtype : Romtype) : Command Files :=
  if seabiosSkips board romtype then .ok else buildSeabiosRomtype r t out board romtype

/-- `rm -f "seabios."*{elf,cfg}` -/
def isSeabiosLeftover (name : String) : Bool :=
  glob "seabios." "elf" name || glob "seabios." "cfg" name

/-- Everything that happens in the directory of the sources, up to the move. -/
def buildSeabiosImages (board : String) : Command Files :=
  both (removeWhere isSeabiosLeftover) <|
  both (put corebootVersion (some (versionLine version))) <|
  forEach (buildSeabiosUnlessSkipped r t out board) romtypes

/-- The image of a board, for each kind of graphics. -/
def seabiosImage (board : String) : Option Bytes :=
  r.seabiosConfig.bind fun config => out.bios.bind fun elf =>
    (t.make (branchname .seabios board) (versionLine version) config elf).bind fun rom =>
      out.vgabios.bind (t.cbfstool rom "vgaroms/vgabios.bin")

end Script

def withseabiosHelper (r : Resources) (t : String → Toolchain) (version : String) (out : SeabiosOut)
    (board : String) : Command Workspace :=
  onBoard r t .seabios (fun t _ => buildSeabiosImages r t version out board) board

/-! ## One kind of graphics -/

/-- The files that are used on the way to an image. -/
def seabiosScratch : List String := [corebootRom, ".config", "seabios.elf"]

theorem romName_not_seabiosScratch (board : String) (romtype : Romtype) :
    romName board romtype ∉ seabiosScratch := by
  have hall : ∀ name ∈ seabiosScratch,
      ¬ (romtype.text ++ ".rom").toList.isSuffixOf name.toList = true := by
    cases romtype <;> decide
  intro hmem
  exact hall _ hmem (List.isSuffixOf_iff_suffix.mpr (suffix_romName board romtype))

section Romtype

variable (r : Resources) (t : Toolchain) (version : String) (out : SeabiosOut) {board : String}
  {romtype : Romtype} {files files' : Files}

/-- **The image of one kind of graphics,** and nothing else, is left. -/
theorem buildSeabiosRomtype_eq_ok (hversion : files corebootVersion = some (versionLine version)) :
    buildSeabiosRomtype r t out board romtype files = .ok files' ↔
      ∃ rom, seabiosImage r t version out board = some rom
        ∧ files' = Function.update (fun name => if name ∈ seabiosScratch then none else files name)
          (romName board romtype) (some rom) := by
  have hrom := romName_not_seabiosScratch board romtype
  simp only [seabiosScratch, List.mem_cons, List.not_mem_nil, or_false, not_or] at hrom
  obtain ⟨hrom₁, hrom₂, hrom₃⟩ := hrom
  have hcv : corebootVersion ≠ corebootRom ∧ corebootVersion ≠ ".config"
      ∧ corebootVersion ≠ "seabios.elf" := by decide
  have hcr : corebootRom ≠ ".config" ∧ corebootRom ≠ "seabios.elf" := by decide
  unfold buildSeabiosRomtype seabiosImage
  simp only [both_eq_ok, rm, mv_eq_ok, put_eq_ok, rewrite_eq_ok, makeRom, Except.ok.injEq,
    Option.bind_eq_some_iff]
  constructor
  · rintro ⟨_, rfl, _, ⟨config, hconfig, rfl⟩, _, ⟨elf, helf, rfl⟩, _, ⟨rom, hmake, rfl⟩, _, rfl, _,
      ⟨rom', hrom', rfl⟩, _, ⟨v, w, hv, hw, rfl⟩, rfl⟩
    simp [hcv, hcr, hversion, hrom₁] at hmake hrom' hv
    subst hrom' hv
    obtain ⟨vgabios, hvgabios, hw⟩ := hw
    refine ⟨w, ⟨config, hconfig, elf, helf, rom, hmake, vgabios, hvgabios, hw⟩, ?_⟩
    funext name
    simp only [Function.update_apply, seabiosScratch, List.mem_cons, List.not_mem_nil, or_false]
    grind
  · rintro ⟨w, ⟨config, hconfig, elf, helf, rom, hmake, vgabios, hvgabios, hw⟩, rfl⟩
    refine ⟨_, rfl, _, ⟨config, hconfig, rfl⟩, _, ⟨elf, helf, rfl⟩, _, ⟨rom, ?_, rfl⟩, _, rfl, _,
      ⟨rom, ?_, rfl⟩, _, ⟨rom, w, ?_, ⟨vgabios, hvgabios, hw⟩, rfl⟩, ?_⟩
    · simp [hcv, hversion, hmake]
    · simp [hcr]
    · simp [hrom₁]
    · funext name
      simp only [Function.update_apply, seabiosScratch, List.mem_cons, List.not_mem_nil, or_false]
      grind

theorem buildSeabiosRomtype_touches (board : String) (romtype : Romtype) :
    Touches (fun name => name ∈ seabiosScratch ∨ name = romName board romtype)
      (buildSeabiosRomtype r t out board romtype) := by
  have hscratch : corebootRom ∈ seabiosScratch ∧ ".config" ∈ seabiosScratch
      ∧ "seabios.elf" ∈ seabiosScratch := by simp [seabiosScratch]
  obtain ⟨hbuilt, hconfig, helf⟩ := hscratch
  refine ((touches_rm _).mono ?_).both (((touches_put _ _).mono ?_).both
    (((touches_put _ _).mono ?_).both (((makeRom_touches t _ _).mono ?_).both
      (((touches_rm _).mono ?_).both (((touches_mv _ _).mono ?_).both
        (((touches_rewrite _ _).mono ?_).both ((touches_rm _).mono ?_)))))))
  · rintro _ rfl
    exact .inl hbuilt
  · rintro _ rfl
    exact .inl hconfig
  · rintro _ rfl
    exact .inl helf
  · rintro _ rfl
    exact .inl hbuilt
  · rintro _ rfl
    exact .inl helf
  · rintro _ (rfl | rfl)
    · exact .inl hbuilt
    · exact .inr rfl
  · exact fun _ => .inr
  · rintro _ rfl
    exact .inl hconfig

theorem buildSeabiosUnlessSkipped_touches (board : String) (romtype : Romtype) :
    Touches (fun name => name ∈ seabiosScratch
        ∨ seabiosSkips board romtype = false ∧ name = romName board romtype)
      (buildSeabiosUnlessSkipped r t out board romtype) := by
  unfold buildSeabiosUnlessSkipped
  cases seabiosSkips board romtype with
  | true => exact fun _ _ _ => rfl
  | false =>
    exact (buildSeabiosRomtype_touches r t out board romtype).mono
      fun _ h => h.imp_right fun hname => ⟨rfl, hname⟩

end Romtype

/-! ## All images of a board -/

section Board

variable (r : Resources) (t : Toolchain) (version : String) (out : SeabiosOut) {board : String}
  {files files' : Files}

/-- **The loop over the kinds of graphics.** Text mode works on every board. -/
theorem buildSeabiosRomtypes_eq_ok (hversion : files corebootVersion = some (versionLine version)) :
    ((∃ files', forEach (buildSeabiosUnlessSkipped r t out board) romtypes files = .ok files') ↔
        ∃ rom, seabiosImage r t version out board = some rom)
      ∧ ∀ files', forEach (buildSeabiosUnlessSkipped r t out board) romtypes files = .ok files' →
        ∀ romtype, seabiosSkips board romtype = false →
          files' (romName board romtype) = seabiosImage r t version out board := by
  have htext : buildSeabiosUnlessSkipped r t out board .txtmode
      = buildSeabiosRomtype r t out board .txtmode := rfl
  have hne : romName board .vesafb ≠ romName board .txtmode := fun h => nomatch romName_inj h
  have hcv : ∀ rom, Function.update
      (fun name => if name ∈ seabiosScratch then none else files name) (romName board .txtmode)
        (some rom) corebootVersion = some (versionLine version) := by
    intro rom
    have hname : corebootVersion ≠ romName board .txtmode := by
      intro h
      have hsuffix := suffix_romName board .txtmode
      rw [← h] at hsuffix
      exact absurd hsuffix (by decide)
    rw [Function.update_of_ne hname, if_neg (by decide), hversion]
  have hfirst := fun mid =>
    @buildSeabiosRomtype_eq_ok r t version out board .txtmode files mid hversion
  have hsecond := fun rom last =>
    @buildSeabiosRomtype_eq_ok r t version out board .vesafb _ last (hcv rom)
  rw [forEach_romtypes, htext]
  constructor
  · constructor
    · rintro ⟨files', hrun⟩
      obtain ⟨mid, hmid, -⟩ := both_eq_ok.mp hrun
      obtain ⟨rom, hrom, -⟩ := (hfirst mid).mp hmid
      exact ⟨rom, hrom⟩
    · rintro ⟨rom, hrom⟩
      have hmid := (hfirst _).mpr ⟨rom, hrom, rfl⟩
      have hlast : ∃ last, buildSeabiosUnlessSkipped r t out board .vesafb (Function.update
          (fun name => if name ∈ seabiosScratch then none else files name)
            (romName board .txtmode) (some rom)) = .ok last := by
        unfold buildSeabiosUnlessSkipped
        split
        · exact ⟨_, rfl⟩
        · exact ⟨_, (hsecond rom _).mpr ⟨rom, hrom, rfl⟩⟩
      obtain ⟨last, hlast⟩ := hlast
      exact ⟨last, both_eq_ok.mpr ⟨_, hmid, both_eq_ok.mpr ⟨last, hlast, rfl⟩⟩⟩
  · intro files' hrun romtype hskips
    obtain ⟨mid, hmid, hrun⟩ := both_eq_ok.mp hrun
    obtain ⟨last, hlast, hend⟩ := both_eq_ok.mp hrun
    obtain rfl := Except.ok.inj hend
    obtain ⟨rom, hrom, rfl⟩ := (hfirst mid).mp hmid
    cases romtype with
    | txtmode =>
      -- the second round leaves it alone
      have hkeep : ¬ (romName board .txtmode ∈ seabiosScratch
          ∨ seabiosSkips board .vesafb = false ∧ romName board .txtmode = romName board .vesafb) := by
        rintro (hscratch | ⟨-, hname⟩)
        · exact romName_not_seabiosScratch board .txtmode hscratch
        · exact hne hname.symm
      rw [(buildSeabiosUnlessSkipped_touches r t out board .vesafb).of_ok hlast hkeep,
        Function.update_self, hrom]
    | vesafb =>
      rw [buildSeabiosUnlessSkipped, hskips] at hlast
      obtain ⟨rom', hrom', rfl⟩ := (hsecond rom last).mp hlast
      rw [Function.update_self, hrom']

theorem buildSeabiosImages_touches (board : String) :
    Touches (fun name => isSeabiosLeftover name = true ∨ name = corebootVersion
        ∨ name ∈ seabiosScratch
        ∨ ∃ romtype, seabiosSkips board romtype = false ∧ name = romName board romtype)
      (buildSeabiosImages r t version out board) := by
  refine ((touches_removeWhere _).mono ?_).both (((touches_put _ _).mono ?_).both
    (Touches.forEach fun romtype _ =>
      (buildSeabiosUnlessSkipped_touches r t out board romtype).mono ?_))
  · exact fun _ h => .inl h
  · exact fun _ h => .inr (.inl h)
  · rintro _ (h | h)
    · exact .inr (.inr (.inl h))
    · exact .inr (.inr (.inr ⟨romtype, h⟩))

/-- **All images of a board.** -/
theorem buildSeabiosImages_eq_ok :
    ((∃ files', buildSeabiosImages r t version out board files = .ok files') ↔
        ∃ rom, seabiosImage r t version out board = some rom)
      ∧ ∀ files', buildSeabiosImages r t version out board files = .ok files' →
        ∀ romtype, seabiosSkips board romtype = false →
          files' (romName board romtype) = seabiosImage r t version out board := by
  have hstart : buildSeabiosImages r t version out board files
      = forEach (buildSeabiosUnlessSkipped r t out board) romtypes (Function.update
        (fun name => if isSeabiosLeftover name then none else files name) corebootVersion
          (some (versionLine version))) := rfl
  rw [hstart]
  exact buildSeabiosRomtypes_eq_ok r t version out (Function.update_self _ _ _)

end Board

end Libreboot.Roms
