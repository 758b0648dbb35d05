import Mathlib.Data.List.Basic

/-!
# The searches of the GRUB menu

The functions of `menuentries/common.cfg` that look for a configuration on all devices of a bus.
A script command is a function on the session: the device in `root`, and what was invoked so far.

* `searchIsolinux_eq` — a search is the sequence of its calls
* `searchGrub_devices` — the devices that the GRUB search visits
* `searchIsolinux_finds_iff` — the ISOLINUX search finds what is on the partitions
* `searchIsolinux_misses` — it never visits a raw device
-/

namespace Libreboot.Grub

/-! ## Sessions -/

/-- A command that hands over to a configuration file. -/
inductive Command where
  | configfile (path : String)
  | syslinuxConfigfile (flag path : String)

/-- The device in `root`, and the commands invoked so far, each with its device. -/
structure Session where
  root : String
  invoked : List (String × Command)

/-- The files on each device. -/
abbrev Disks := String → String → Bool

namespace Session

/-- `set root="${1}"` -/
def setRoot (device : String) (s : Session) : Session := { s with root := device }

/-- `[ -f path ]` -/
def isFile (disks : Disks) (path : String) (s : Session) : Bool := disks s.root path

def invoke (c : Command) (s : Session) : Session := { s with invoked := s.invoked ++ [(s.root, c)] }

/-- `syslinux_configfile` was invoked on the device. -/
def SyslinuxOn (s : Session) (device : String) : Prop :=
  ∃ flag path, (device, Command.syslinuxConfigfile flag path) ∈ s.invoked

end Session

/-! ## The script -/

/-- `for x in …; do …; done` -/
def forWords {σ : Type} (words : List String) (body : String → σ → σ) (s : σ) : σ :=
  words.foldl (fun s x => body x s) s

def tryUserConfig (disks : Disks) (device : String) (s : Session) : Session :=
  forWords ["boot", "grub", "grub2", "boot/grub", "boot/grub2"] (fun dir =>
    forWords ["", "autoboot_", "libreboot_", "coreboot_"] fun name s =>
      if s.isFile disks ("/" ++ dir ++ "/" ++ name ++ "grub.cfg") then
        s.invoke (.configfile ("/" ++ dir ++ "/" ++ name ++ "grub.cfg"))
      else s) (s.setRoot device)

/-- The loop body of `try_isolinux_config`. -/
def tryIsolinuxDirectory (disks : Disks) (dir : String) (s : Session) : Session :=
  if s.isFile disks (dir ++ "/isolinux/isolinux.cfg") then
    s.invoke (.syslinuxConfigfile "-i" (dir ++ "/isolinux/isolinux.cfg"))
  else if s.isFile disks (dir ++ "/syslinux/syslinux.cfg") then
    s.invoke (.syslinuxConfigfile "-s" (dir ++ "/syslinux/syslinux.cfg"))
  else s

def tryIsolinuxConfig (disks : Disks) (device : String) (s : Session) : Session :=
  forWords ["", "/boot"] (tryIsolinuxDirectory disks) (s.setRoot device)

/-- `search_grub`, with any function in the place of `try_user_config`. -/
def searchGrub {σ : Type} (tryUserConfig : String → σ → σ) (bus : String) (s : σ) : σ :=
  forWords ["0", "1"] (fun i s =>
    -- raw devices
    let s := tryUserConfig ("(" ++ bus ++ i ++ ")") s
    forWords ["1", "2", "3", "4", "5"] (fun part =>
      -- MBR/GPT partitions
      tryUserConfig ("(" ++ bus ++ i ++ "," ++ part ++ ")")) s) s

/-- `search_isolinux`, with any function in the place of `try_isolinux_config`. -/
def searchIsolinux {σ : Type} (tryIsolinuxConfig : String → σ → σ) (bus : String) (s : σ) : σ :=
  forWords ["0", "1"] (fun i s =>
    -- raw devices
    let s := tryIsolinuxConfig ("(" ++ bus ++ "," ++ i ++ ")") s
    forWords ["1", "2", "3", "4", "5"] (fun part =>
      -- MBR/GPT partitions
      tryIsolinuxConfig ("(" ++ bus ++ i ++ "," ++ part ++ ")")) s) s

/-! ## What is visited -/

/-- The devices that a search passes on, in order. -/
def passed (search : (String → List String → List String) → String → List String → List String)
    (bus : String) : List String :=
  search (fun device seen => seen ++ [device]) bus []

def rawDevice (bus i : String) : String := "(" ++ bus ++ i ++ ")"

def partition (bus i part : String) : String := "(" ++ bus ++ i ++ "," ++ part ++ ")"

/-- A device and its partitions. -/
def unitDevices (bus i : String) : List String :=
  rawDevice bus i :: ["1", "2", "3", "4", "5"].map (partition bus i)

/-- **The GRUB search visits both units, each with its partitions.** -/
theorem searchGrub_devices (bus : String) :
    passed searchGrub bus = unitDevices bus "0" ++ unitDevices bus "1" := rfl

/-- The ISOLINUX search visits something else in the place of the raw devices. -/
theorem searchIsolinux_devices (bus : String) :
    passed searchIsolinux bus
      = ("(" ++ bus ++ "," ++ "0" ++ ")") :: (unitDevices bus "0").tail
        ++ ("(" ++ bus ++ "," ++ "1" ++ ")") :: (unitDevices bus "1").tail := rfl

/-- **A search is the sequence of its calls.** -/
theorem searchGrub_eq {σ : Type} (f : String → σ → σ) (bus : String) (s : σ) :
    searchGrub f bus s = forWords (passed searchGrub bus) f s := by
  rw [searchGrub_devices]
  rfl

theorem searchIsolinux_eq {σ : Type} (f : String → σ → σ) (bus : String) (s : σ) :
    searchIsolinux f bus s = forWords (passed searchIsolinux bus) f s := by
  rw [searchIsolinux_devices]
  rfl

/-! ## Where a configuration is found -/

/-- The device has a configuration for `syslinux_configfile` in this directory. -/
def HasConfigIn (disks : Disks) (device dir : String) : Prop :=
  disks device (dir ++ "/isolinux/isolinux.cfg") = true
    ∨ disks device (dir ++ "/syslinux/syslinux.cfg") = true

/-- It has one where `try_isolinux_config` looks for it. -/
def HasIsolinuxConfig (disks : Disks) (device : String) : Prop :=
  HasConfigIn disks device "" ∨ HasConfigIn disks device "/boot"

section Search

variable (disks : Disks)

theorem syslinuxOn_invoke {s : Session} {flag path device : String} :
    (s.invoke (.syslinuxConfigfile flag path)).SyslinuxOn device
      ↔ s.SyslinuxOn device ∨ device = s.root := by
  unfold Session.SyslinuxOn Session.invoke
  simp only [List.mem_append, List.mem_singleton, Prod.mk.injEq, Command.syslinuxConfigfile.injEq]
  constructor
  · rintro ⟨flag', path', hmem | ⟨rfl, -⟩⟩
    · exact Or.inl ⟨flag', path', hmem⟩
    · exact Or.inr rfl
  · rintro (⟨flag', path', hmem⟩ | rfl)
    · exact ⟨flag', path', Or.inl hmem⟩
    · exact ⟨flag, path, Or.inr ⟨rfl, rfl, rfl⟩⟩

theorem root_tryIsolinuxDirectory (dir : String) (s : Session) :
    (tryIsolinuxDirectory disks dir s).root = s.root := by
  unfold tryIsolinuxDirectory
  split
  · rfl
  · split <;> rfl

/-- One directory of the device in `root`. -/
theorem syslinuxOn_tryIsolinuxDirectory {dir device : String} {s : Session} :
    (tryIsolinuxDirectory disks dir s).SyslinuxOn device
      ↔ s.SyslinuxOn device ∨ device = s.root ∧ HasConfigIn disks s.root dir := by
  unfold tryIsolinuxDirectory HasConfigIn Session.isFile
  split
  · next h => rw [syslinuxOn_invoke]; simp only [h, true_or, and_true]
  · next hno =>
    split
    · next h => rw [syslinuxOn_invoke]; simp only [h, or_true, and_true]
    · next h => simp only [hno, h, Bool.false_eq_true, or_self, and_false, or_false]

/-- One device. -/
theorem syslinuxOn_tryIsolinuxConfig {visited device : String} {s : Session} :
    (tryIsolinuxConfig disks visited s).SyslinuxOn device
      ↔ s.SyslinuxOn device ∨ device = visited ∧ HasIsolinuxConfig disks visited := by
  show (tryIsolinuxDirectory disks "/boot"
    (tryIsolinuxDirectory disks "" (s.setRoot visited))).SyslinuxOn device ↔ _
  rw [syslinuxOn_tryIsolinuxDirectory, syslinuxOn_tryIsolinuxDirectory, root_tryIsolinuxDirectory,
    HasIsolinuxConfig, and_or_left, or_assoc]
  rfl

/-- All devices of a list. -/
theorem syslinuxOn_forWords {device : String} : ∀ {visited : List String} {s : Session},
    (forWords visited (tryIsolinuxConfig disks) s).SyslinuxOn device
      ↔ s.SyslinuxOn device ∨ device ∈ visited ∧ HasIsolinuxConfig disks device
  | [], s => by simp [forWords]
  | d :: rest, s => by
    show (forWords rest (tryIsolinuxConfig disks) (tryIsolinuxConfig disks d s)).SyslinuxOn device
      ↔ _
    rw [syslinuxOn_forWords, syslinuxOn_tryIsolinuxConfig, List.mem_cons, or_and_right, or_assoc]
    have hd : device = d ∧ HasIsolinuxConfig disks d
        ↔ device = d ∧ HasIsolinuxConfig disks device :=
      and_congr_right fun h => by rw [h]
    rw [hd]

end Search

/-! ## The two searches -/

/-- Every name that the ISOLINUX search passes on has room for a comma. -/
theorem length_of_passed {bus device : String} (h : device ∈ passed searchIsolinux bus) :
    bus.length + 4 ≤ device.length := by
  have hcomma : "(".length = 1 ∧ ",".length = 1 ∧ ")".length = 1 ∧ "0".length = 1
      ∧ "1".length = 1 := by decide
  have hpart : ∀ {i : String}, device ∈ (unitDevices bus i).tail →
      bus.length + 4 ≤ device.length := by
    intro i hmem
    obtain ⟨part, hin, rfl⟩ := List.mem_map.mp hmem
    have hone : ∀ part ∈ ["1", "2", "3", "4", "5"], part.length = 1 := by decide
    have hlen := hone part hin
    simp only [partition, String.length_append]
    omega
  rw [searchIsolinux_devices, List.mem_append, List.mem_cons, List.mem_cons] at h
  rcases h with (rfl | h) | (rfl | h)
  · simp only [String.length_append]
    omega
  · exact hpart h
  · simp only [String.length_append]
    omega
  · exact hpart h

/-- **A raw device is never visited:** its name is shorter. -/
theorem rawDevice_not_passed (bus : String) {i : String} (hi : i.length = 1) :
    rawDevice bus i ∉ passed searchIsolinux bus := by
  intro h
  have hlength := length_of_passed h
  have hparen : "(".length = 1 ∧ ")".length = 1 := by decide
  simp only [rawDevice, String.length_append, hi] at hlength
  omega

/-- All other devices of the GRUB search are. -/
theorem passed_searchIsolinux {bus device : String} (h : device ∈ passed searchGrub bus) :
    device ∈ passed searchIsolinux bus
      ↔ device ≠ rawDevice bus "0" ∧ device ≠ rawDevice bus "1" := by
  constructor
  · intro hpassed
    refine ⟨?_, ?_⟩ <;> rintro rfl
    · exact rawDevice_not_passed bus rfl hpassed
    · exact rawDevice_not_passed bus rfl hpassed
  · rintro ⟨hne, hne'⟩
    rw [searchGrub_devices] at h
    rw [searchIsolinux_devices, List.mem_append]
    rcases List.mem_append.mp h with h | h
    · exact Or.inl (List.mem_cons_of_mem _ ((List.mem_cons.mp h).resolve_left hne))
    · exact Or.inr (List.mem_cons_of_mem _ ((List.mem_cons.mp h).resolve_left hne'))

/--
The ISOLINUX search visits the devices of the GRUB search in the same order, and finds what is on
them.
-/
structure VisitsGrubDevices (disks : Disks) (bus : String) : Prop where
  grub : passed searchGrub bus = unitDevices bus "0" ++ unitDevices bus "1"
  same : passed searchIsolinux bus = passed searchGrub bus
  found : ∀ device ∈ passed searchGrub bus, HasIsolinuxConfig disks device → ∀ root,
    (searchIsolinux (tryIsolinuxConfig disks) bus ⟨root, []⟩).SyslinuxOn device

/-- **What the ISOLINUX search finds:** what is on the partitions. -/
theorem searchIsolinux_finds_iff (disks : Disks) {bus device : String}
    (h : device ∈ passed searchGrub bus) (root : String) :
    (searchIsolinux (tryIsolinuxConfig disks) bus ⟨root, []⟩).SyslinuxOn device
      ↔ HasIsolinuxConfig disks device
        ∧ device ≠ rawDevice bus "0" ∧ device ≠ rawDevice bus "1" := by
  have hempty : ¬ Session.SyslinuxOn ⟨root, []⟩ device := by
    rintro ⟨flag, path, hmem⟩
    exact List.not_mem_nil hmem
  rw [searchIsolinux_eq, syslinuxOn_forWords, or_iff_right hempty, passed_searchIsolinux h, and_comm]

/--
**The two searches never agree.** On every bus, the ISOLINUX search passes on `(bus,0)` and `(bus,1)`
where the GRUB search passes on `(bus0)` and `(bus1)`. Of the devices of the GRUB search it finds
what is on the partitions, and misses what is on the raw devices.
-/
theorem searchIsolinux_misses (disks : Disks) (bus : String) :
    ¬ VisitsGrubDevices disks bus
      ∧ ((∀ device ∈ passed searchGrub bus, HasIsolinuxConfig disks device → ∀ root,
          (searchIsolinux (tryIsolinuxConfig disks) bus ⟨root, []⟩).SyslinuxOn device)
        ↔ ∀ i ∈ ["0", "1"], ¬ HasIsolinuxConfig disks (rawDevice bus i)) := by
  have hmem : ∀ i ∈ ["0", "1"], rawDevice bus i ∈ passed searchGrub bus := by
    intro i hi
    rw [searchGrub_devices, List.mem_append]
    simp only [List.mem_cons, List.not_mem_nil, or_false] at hi
    rcases hi with rfl | rfl
    · exact Or.inl List.mem_cons_self
    · exact Or.inr List.mem_cons_self
  refine ⟨fun h => rawDevice_not_passed bus rfl (h.same ▸ hmem "0" (by decide)), ?_⟩
  constructor
  · intro h i hi hconfig
    obtain ⟨-, hne, hne'⟩ := (searchIsolinux_finds_iff disks (hmem i hi) "").mp
      (h _ (hmem i hi) hconfig "")
    simp only [List.mem_cons, List.not_mem_nil, or_false] at hi
    rcases hi with rfl | rfl
    · exact hne rfl
    · exact hne' rfl
  · intro h device hdevice hconfig root
    refine (searchIsolinux_finds_iff disks hdevice root).mpr ⟨hconfig, ?_, ?_⟩ <;> rintro rfl
    · exact h "0" (by decide) hconfig
    · exact h "1" (by decide) hconfig

/-- A hybrid ISO stick: the file system lies on the raw device. -/
def hybridStick : Disks := fun device path =>
  device == rawDevice "usb" "0" && path == "/isolinux/isolinux.cfg"

theorem hybridStick_missed : ¬ VisitsGrubDevices hybridStick "usb" := by
  intro h
  have hdevice : rawDevice "usb" "0" ∈ passed searchGrub "usb" := by
    rw [searchGrub_devices]
    exact List.mem_append_left _ List.mem_cons_self
  have hfound := h.found _ hdevice (Or.inl (Or.inl (by decide))) ""
  exact ((searchIsolinux_finds_iff hybridStick hdevice "").mp hfound).2.1 rfl

end Libreboot.Grub
