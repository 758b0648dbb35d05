import Libreboot.Gbe.Source
import Libreboot.Ich9gen.Arguments

/-!
# Rebuilding ich9gen

A run of ich9gen with a MAC address writes `mkgbe.c`, to be placed in `src/ich9gen/` for the next
build. The rebuilt program ships the GbE region that the functions in this file return.

* `gbe_roundtrip` — the functions in `mkgbe.c` return the block that was printed, and the rebuilt
  program without arguments creates the same images as the run that wrote `mkgbe.c`
-/

namespace Libreboot

open Infra

namespace Ich9gen

/-- `main`, built with the functions of a source file, from any contents of their local structs. -/
def rebuiltMain (p : GbeProgram) (gbeStruct4k : GbeRegionRecord4k)
    (gbeStruct8k : GbeRegionRecord8k) : CLib → List CString → CFun :=
  mainWith (p.generatedGbeStruct8k gbeStruct4k gbeStruct8k)

/-! ## The files of the first run -/

variable {lib : CLib}

theorem createImages_preserves (g : GbeRegionRecord8k) {name : String}
    (h : name ∉ gbeImageNames ++ noGbeImageNames) : (createImages lib g).Preserves name := by
  simp only [gbeImageNames, noGbeImageNames, List.cons_append, List.nil_append, List.mem_cons,
    List.not_mem_nil, or_false, not_or] at h
  obtain ⟨hgbe4, hgbe8, hnogbe4, hnogbe8⟩ := h
  exact (createImage_preserves lib _ _ _ hgbe4).orReturn1 <|
    (createImage_preserves lib _ _ _ hgbe8).orReturn1 <|
    (createImage_preserves lib _ _ _ hnogbe4).orReturn1 <|
    (createImage_preserves lib _ _ _ hnogbe8).orReturn1 CFun.preserves_return0

/-- The code for the region is written, and the images leave it alone. -/
theorem createGbeSource_delivers (h : ∀ name, (lib name).Reliable) (g : GbeRegionRecord8k)
    {k : CFun} (hk : k.Preserves "mkgbe.c") :
    (createGbeSource lib g k).Delivers "mkgbe.c"
      (gbeSourceFile g.backup) :=
  CFun.Delivers.orReturn1_right <| (writeTextFile_delivers _ (h _)).orReturn1_left (hk.printf _)

/-- Two successful runs with the same region leave the same images. -/
theorem createImages_same {lib' : CLib} (hlib : ∀ name, (lib name).Reliable)
    (hlib' : ∀ name, (lib' name).Reliable) (g : GbeRegionRecord8k) (w w' : World) :
    ∀ name ∈ gbeImageNames ++ noGbeImageNames, ∃ image,
      (createImages lib g w).2.files name = some image
        ∧ (createImages lib' g w').2.files name = some image := by
  obtain ⟨hgbe4, hgbe8, hnogbe4, hnogbe8⟩ :=
    createImages_delivers (fun name => (hlib name).noSilentLoss) g
  obtain ⟨hgbe4', hgbe8', hnogbe4', hnogbe8'⟩ :=
    createImages_delivers (fun name => (hlib' name).noSilentLoss) g
  have hzero := createImages_succeeds hlib g w
  have hzero' := createImages_succeeds hlib' g w'
  simp only [gbeImageNames, noGbeImageNames, List.cons_append, List.nil_append,
    List.forall_mem_cons, List.not_mem_nil, false_implies, implies_true, and_true]
  exact ⟨⟨_, hgbe4 w hzero, hgbe4' w' hzero'⟩, ⟨_, hgbe8 w hzero, hgbe8' w' hzero'⟩,
    ⟨_, hnogbe4 w hzero, hnogbe4' w' hzero'⟩, ⟨_, hnogbe8 w hzero, hnogbe8' w' hzero'⟩⟩

/-! ## The round trip -/

/--
**The GbE code generator round-trips.** The functions that are read from the file return the block
that was printed, whatever their local structs held. So if no call to the C library fails, a run
with an accepted MAC address leaves code with which the rebuilt program, run without arguments,
creates the same images.
-/
theorem gbe_roundtrip :
    (∀ s : GbeRegionRecord4k,
      (∀ (lib : CLib) (w : World), (lib "mkgbe.c").Reliable →
        (notCreatedCFileFromGbeStruct4k lib s "mkgbe.c" "mkgbe.h" w).2.files "mkgbe.c"
          = some (gbeSourceFile s))
      ∧ ∃ p, readGbeSource (gbeSourceFile s) = some p
        ∧ ∀ (gbeStruct4k : GbeRegionRecord4k) (gbeStruct8k : GbeRegionRecord8k),
          p.generatedGbeStruct4k gbeStruct4k = s
            ∧ p.generatedGbeStruct8k gbeStruct4k gbeStruct8k = ⟨s, s⟩)
      ∧ ∀ (lib lib' : CLib), (∀ name, (lib name).Reliable) → (∀ name, (lib' name).Reliable) →
        ∀ program option argument program' : CString, option.equals "--macaddress" = true →
        Accepted argument → ∀ w w' : World,
        let first := main lib [program, option, argument] w
        first.1 = some 0 ∧ ∃ source p, first.2.files "mkgbe.c" = some source
          ∧ readGbeSource source = some p
          ∧ ∀ (gbeStruct4k : GbeRegionRecord4k) (gbeStruct8k : GbeRegionRecord8k),
            let second := rebuiltMain p gbeStruct4k gbeStruct8k lib' [program'] w'
            second.1 = some 0 ∧ ∀ name ∈ gbeImageNames ++ noGbeImageNames,
              ∃ image, first.2.files name = some image ∧ second.2.files name = some image := by
  refine ⟨fun s => ⟨fun lib w hlib => gbeSourceFile_written hlib s w, runGbeSource_file s⟩, ?_⟩
  intro lib lib' hlib hlib' program option argument program' hoption haccepted w w' first
  have harg : macArgument [program, option, argument] = some argument := if_pos hoption
  obtain ⟨macAddress, -, hmain⟩ := main_of_accepted lib w harg haccepted
  let g := withMacAddress generatedGbeStruct8k macAddress
  have hzero := createGbeSource_succeeds hlib g (createImages_succeeds hlib g) w
  obtain ⟨w₁, hw₁⟩ := createGbeSource_eq_zero hzero
  have hsource := createGbeSource_delivers hlib g (createImages_preserves g (by decide)) w hzero
  have hfirst : first = createImages lib g w₁ := hmain.trans hw₁
  obtain ⟨p, hread, hreturns⟩ := runGbeSource_file g.backup
  refine ⟨by rw [hfirst, ← hw₁]; exact hzero, gbeSourceFile g.backup, p, ?_, hread, ?_⟩
  · rw [hfirst, ← hw₁]
    exact hsource
  intro gbeStruct4k gbeStruct8k second
  -- both blocks of the region with the new address are the same
  have hgenerated : p.generatedGbeStruct8k gbeStruct4k gbeStruct8k = g :=
    (hreturns gbeStruct4k gbeStruct8k).2
  have hsecond : second = createImages lib' g w' := by
    show mainWith _ lib' [program'] w' = _
    rw [hgenerated, mainWith_of_none _ _ _ rfl]
  rw [hfirst, hsecond]
  exact ⟨createImages_succeeds hlib' g w', createImages_same hlib hlib' g w₁ w'⟩

/-- Any rebuilt program, with an address that is not the shipped one. -/
theorem gbe_roundtrip_sample :
    let first := main .reliable [programName, macaddressOption, sampleAddress] (.holding [])
    first.1 = some 0 ∧ ∃ source p, first.2.files "mkgbe.c" = some source
      ∧ readGbeSource source = some p
      ∧ ∀ (gbeStruct4k : GbeRegionRecord4k) (gbeStruct8k : GbeRegionRecord8k),
        let second := rebuiltMain p gbeStruct4k gbeStruct8k .reliable [programName] (.holding [1])
        second.1 = some 0 ∧ ∀ name ∈ gbeImageNames ++ noGbeImageNames,
          ∃ image, first.2.files name = some image ∧ second.2.files name = some image :=
  gbe_roundtrip.2 .reliable .reliable CLib.reliable_reliable CLib.reliable_reliable programName
    macaddressOption sampleAddress programName (by decide) (by decide) (.holding []) (.holding [1])

end Ich9gen

end Libreboot
