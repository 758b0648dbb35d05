import Libreboot.Grub.LoadOperatingSystem
import Libreboot.Infra.RunLog

/-!
# The menu

The entries of `menuentries/common.cfg` and `menuentries/txtmode.cfg`, and sessions in which the user
chooses one entry after the other. Every configuration returns to the menu; a passphrase may be typed
right in one choice and wrong in the next.

* `loadOperatingSystem_run` — all that "Load Operating System" does
* `session_volumes` — the encrypted volumes that a session searches
* `session_isolinux` — the devices that it searches for ISOLINUX
-/

namespace Libreboot.Grub

open Infra RunLog

/-! ## The entries -/

/-- The entries, in the order of the menu. -/
inductive Entry
  | loadOperatingSystem
  | isolinuxAhci
  | isolinuxUsb
  | isolinuxCdDvd
  | testConfiguration
  | externalMedia
  | poweroff
  | reboot
  | memTest86
  deriving DecidableEq

/-- `try_isolinux_config` in the session. -/
def Machine.tryIsolinuxConfig (m : Machine) (device : String) (b : Boot) : Boot :=
  { b with session := Grub.tryIsolinuxConfig (m.disks b.mounted) device b.session }

/-- The session, and whether GRUB has handed the machine over or switched it off. -/
structure Turn where
  boot : Boot
  left : Bool

/-- The body of an entry. What is loaded at its end is booted. -/
def Entry.exec (m : Machine) : Entry → Boot → Turn
  | loadOperatingSystem, b =>
    let b := Grub.loadOperatingSystem m b
    ⟨b, !b.loaded.isEmpty⟩
  | isolinuxAhci, b => ⟨searchIsolinux m.tryIsolinuxConfig "ahci" b, false⟩
  | isolinuxUsb, b => ⟨searchIsolinux m.tryIsolinuxConfig "usb" b, false⟩
  | isolinuxCdDvd, b =>
    ⟨forWords ["ata0", "ahci1"] (fun dev => m.tryIsolinuxConfig ("(" ++ dev ++ ")")) b, false⟩
  | testConfiguration, b =>
    ⟨{ b with session := (b.session.setRoot "(cbfsdisk)").invoke (.configfile "/grubtest.cfg") },
      false⟩
  | externalMedia, b => ⟨searchGrub m.tryUserConfig "usb" b, false⟩
  | poweroff, b => ⟨b, true⟩
  | reboot, b => ⟨b, true⟩
  -- `/memtest.bin` is part of the GRUB image
  | memTest86, b => ⟨{ b with session := b.session.setRoot "memdisk" }, true⟩

/-- An entry that the user chooses, and the devices whose passphrase is typed right there. -/
structure Choice where
  entry : Entry
  unlocks : String → Bool

/-- The machine at the choice. -/
def Choice.machine (c : Choice) (m : Machine) : Machine := { m with unlocks := c.unlocks }

def step (m : Machine) (s : Turn) (c : Choice) : Turn :=
  if s.left then s else c.entry.exec (c.machine m) s.boot

/-- The menu when GRUB has started. -/
def start : Turn := ⟨⟨⟨"(memdisk)", []⟩, [], []⟩, false⟩

/-- The choices of a user, one after the other. -/
def session (m : Machine) (choices : List Choice) : Turn := run (step m) choices start

/-! ## What an entry does -/

/-- The devices that "Load Operating System" searches before the decryption. -/
def unencryptedDevices : List String :=
  passed searchGrub "ahci" ++ (lvm ++ raid).map fun vol => "(" ++ vol ++ ")"

/-- What the last resort loads, if the kernel is there. -/
def loadsFrom (disks : Disks) (p : String) : List (String × Load) :=
  if disks "(ahci0,1)" (p ++ "vmlinuz") then
    ("(ahci0,1)", .linux (p ++ "vmlinuz") "root=/dev/sda1 rw")
      :: if disks "(ahci0,1)" (p ++ "initrd.img") then
        [("(ahci0,1)", .initrd (p ++ "initrd.img"))] else []
  else []

/-- What `try_isolinux_config` runs in a directory of a device. -/
def isolinuxRunsIn (disks : Disks) (device dir : String) : List (String × Command) :=
  if disks device (dir ++ "/isolinux/isolinux.cfg") then
    [(device, .syslinuxConfigfile "-i" (dir ++ "/isolinux/isolinux.cfg"))]
  else if disks device (dir ++ "/syslinux/syslinux.cfg") then
    [(device, .syslinuxConfigfile "-s" (dir ++ "/syslinux/syslinux.cfg"))]
  else []

/-- What `try_isolinux_config` runs on a device. -/
def isolinuxRuns (disks : Disks) (device : String) : List (String × Command) :=
  ["", "/boot"].flatMap (isolinuxRunsIn disks device)

/-- The devices on which an entry looks for ISOLINUX. -/
def Entry.isolinuxDevices : Entry → List String
  | isolinuxAhci => passed searchIsolinux "ahci"
  | isolinuxUsb => passed searchIsolinux "usb"
  | isolinuxCdDvd => ["ata0", "ahci1"].map fun dev => "(" ++ dev ++ ")"
  | _ => []

/-- What an entry runs, from the volumes that are there. -/
def Entry.log (m : Machine) (mounted : List String) : Entry → List (String × Command)
  | loadOperatingSystem =>
    unencryptedDevices.flatMap (runs (m.disks mounted))
      ++ decryptedDevices.flatMap (runs (m.disks (unlockOrder m mounted)))
  | testConfiguration => [("(cbfsdisk)", .configfile "/grubtest.cfg")]
  | externalMedia => (passed searchGrub "usb").flatMap (runs (m.disks mounted))
  | e => e.isolinuxDevices.flatMap (isolinuxRuns (m.disks mounted))

/-- The volumes after an entry. -/
def Entry.mounts (m : Machine) (mounted : List String) : Entry → List String
  | loadOperatingSystem => unlockOrder m mounted
  | _ => mounted

section Exec

variable (m : Machine)

theorem searchUnencrypted_eq (b : Boot) :
    searchUnencrypted m b = forWords unencryptedDevices m.tryUserConfig b := by
  rw [unencryptedDevices, forWords_append, forWords_map, ← searchGrub_eq]
  rfl

/-- A `cryptomount` runs nothing, and loads nothing. -/
theorem cryptomount_frame (dev : String) (b : Boot) :
    (m.cryptomount dev b).session = b.session ∧ (m.cryptomount dev b).loaded = b.loaded := by
  unfold Machine.cryptomount
  split <;> exact ⟨rfl, rfl⟩

theorem forWords_cryptomount_frame : ∀ (devices : List String) (b : Boot),
    (forWords devices m.cryptomount b).session = b.session
      ∧ (forWords devices m.cryptomount b).loaded = b.loaded
  | [], _ => ⟨rfl, rfl⟩
  | d :: rest, b => by
    obtain ⟨hsession, hloaded⟩ := forWords_cryptomount_frame rest (m.cryptomount d b)
    obtain ⟨hsession', hloaded'⟩ := cryptomount_frame m d b
    exact ⟨hsession.trans hsession', hloaded.trans hloaded'⟩

/-- **The decryption:** volumes are added, and nothing is run. -/
theorem decryptDevices_run (b : Boot) :
    decryptDevices m (searchUnencrypted m b)
      = { searchUnencrypted m b with mounted := unlockOrder m b.mounted } := by
  obtain ⟨hsession, hloaded⟩ :=
    forWords_cryptomount_frame m decryptedCandidates (searchUnencrypted m b)
  rw [← mounted_decryptDevices, decryptDevices_eq]
  show _ = Boot.mk (searchUnencrypted m b).session _ (searchUnencrypted m b).loaded
  rw [← hsession, ← hloaded]

theorem tryKernel_run {p : String} {b : Boot} (hroot : b.session.root = "(ahci0,1)") :
    tryKernel m p b = { b with loaded := b.loaded ++ loadsFrom (m.disks b.mounted) p } := by
  unfold tryKernel loadsFrom Session.isFile Boot.load
  simp only [hroot]
  split
  · split
    · simp
    · rfl
  · simp

/-- The last resort. -/
theorem lastResort_run (b : Boot) :
    lastResort m b = ⟨⟨"(ahci0,1)", b.session.invoked⟩, b.mounted,
      b.loaded ++ ["/", "/boot/"].flatMap (loadsFrom (m.disks b.mounted))⟩ := by
  show tryKernel m "/boot/" (tryKernel m "/"
    { b with session := b.session.setRoot "(ahci0,1)" }) = _
  rw [tryKernel_run m (p := "/") rfl, tryKernel_run m (p := "/boot/") rfl]
  simp [Session.setRoot]

/-- A second `linux` drops what was loaded before, its initrd included. -/
def bootsWith (kernel : Option (String × Option String)) (l : String × Load) :
    Option (String × Option String) :=
  match l.2 with
  | .linux path _ => some (path, none)
  | .initrd path => kernel.map fun k => (k.1, some path)

/-- The kernel that is booted, with its initrd. -/
def booted (loads : List (String × Load)) : Option (String × Option String) :=
  loads.foldl bootsWith none

/-- The kernel in a directory, with the initrd that lies beside it. -/
def kernelIn (disks : Disks) (p : String) : Option (String × Option String) :=
  if disks "(ahci0,1)" (p ++ "vmlinuz") then
    some (p ++ "vmlinuz",
      if disks "(ahci0,1)" (p ++ "initrd.img") then some (p ++ "initrd.img") else none)
  else none

theorem foldl_loadsFrom (disks : Disks) (p : String) (kernel : Option (String × Option String)) :
    (loadsFrom disks p).foldl bootsWith kernel = (kernelIn disks p).or kernel := by
  unfold loadsFrom kernelIn
  split
  · split <;> rfl
  · rfl

/-- The kernel in `/boot/` goes before the one in `/`, and each has its own initrd. -/
theorem booted_lastResort (disks : Disks) :
    booted (["/", "/boot/"].flatMap (loadsFrom disks))
      = (kernelIn disks "/boot/").or (kernelIn disks "/") := by
  simp [booted, foldl_loadsFrom]

/-- All that the entry does to the session. -/
theorem loadOperatingSystem_eq (b : Boot) :
    Grub.loadOperatingSystem m b
      = ⟨⟨"(ahci0,1)", b.session.invoked
            ++ unencryptedDevices.flatMap (runs (m.disks b.mounted))
            ++ decryptedDevices.flatMap (runs (m.disks (unlockOrder m b.mounted)))⟩,
          unlockOrder m b.mounted,
          b.loaded ++ ["/", "/boot/"].flatMap (loadsFrom (m.disks (unlockOrder m b.mounted)))⟩ := by
  obtain ⟨root, hunencrypted⟩ := forWords_tryUserConfig m unencryptedDevices b
  obtain ⟨root', hdecrypted⟩ := forWords_tryUserConfig m decryptedDevices
    (decryptDevices m (searchUnencrypted m b))
  rw [Grub.loadOperatingSystem, searchDecrypted_eq, hdecrypted, lastResort_run, decryptDevices_run,
    searchUnencrypted_eq, hunencrypted]

/--
**"Load Operating System".** It runs the configurations on the unencrypted devices, and only then,
after the volumes have been unlocked, those on the decrypted ones; when all of them have returned, the
kernel of the last resort is booted.
-/
theorem loadOperatingSystem_run (b : Boot) :
    Grub.loadOperatingSystem m b
        = ⟨⟨"(ahci0,1)", b.session.invoked
              ++ unencryptedDevices.flatMap (runs (m.disks b.mounted))
              ++ decryptedDevices.flatMap (runs (m.disks (unlockOrder m b.mounted)))⟩,
            unlockOrder m b.mounted,
            b.loaded ++ ["/", "/boot/"].flatMap (loadsFrom (m.disks (unlockOrder m b.mounted)))⟩
      ∧ booted (["/", "/boot/"].flatMap (loadsFrom (m.disks (unlockOrder m b.mounted))))
        = (kernelIn (m.disks (unlockOrder m b.mounted)) "/boot/").or
            (kernelIn (m.disks (unlockOrder m b.mounted)) "/") :=
  ⟨loadOperatingSystem_eq m b, booted_lastResort _⟩

/-! ## ISOLINUX -/

theorem tryIsolinuxDirectory_run (disks : Disks) (dir : String) (s : Session) :
    tryIsolinuxDirectory disks dir s = ⟨s.root, s.invoked ++ isolinuxRunsIn disks s.root dir⟩ := by
  unfold tryIsolinuxDirectory isolinuxRunsIn Session.isFile Session.invoke
  split
  · rfl
  · split
    · rfl
    · simp

/-- **One device:** in each directory the first configuration that is there. -/
theorem tryIsolinuxConfig_run (disks : Disks) (device : String) (s : Session) :
    tryIsolinuxConfig disks device s = ⟨device, s.invoked ++ isolinuxRuns disks device⟩ := by
  show tryIsolinuxDirectory disks "/boot"
    (tryIsolinuxDirectory disks "" (s.setRoot device)) = _
  rw [tryIsolinuxDirectory_run, tryIsolinuxDirectory_run]
  simp [Session.setRoot, isolinuxRuns]

theorem forWords_tryIsolinuxConfig : ∀ (devices : List String) (b : Boot),
    ∃ root, forWords devices m.tryIsolinuxConfig b
      = { b with session :=
          ⟨root, b.session.invoked ++ devices.flatMap (isolinuxRuns (m.disks b.mounted))⟩ }
  | [], b => ⟨b.session.root, by simp [forWords]⟩
  | d :: rest, b => by
    obtain ⟨root, h⟩ := forWords_tryIsolinuxConfig rest (m.tryIsolinuxConfig d b)
    refine ⟨root, h.trans ?_⟩
    unfold Machine.tryIsolinuxConfig
    rw [tryIsolinuxConfig_run, List.flatMap_cons, List.append_assoc]

/-- Something is run exactly if there is a configuration. -/
theorem mem_isolinuxRuns {disks : Disks} {visited device : String} :
    (∃ flag path, (device, Command.syslinuxConfigfile flag path) ∈ isolinuxRuns disks visited)
      ↔ device = visited ∧ HasIsolinuxConfig disks visited := by
  have hrun := @syslinuxOn_tryIsolinuxConfig disks visited device ⟨visited, []⟩
  rw [tryIsolinuxConfig_run] at hrun
  have hempty : ¬ Session.SyslinuxOn ⟨visited, []⟩ device := by
    rintro ⟨flag, path, hmem⟩
    exact List.not_mem_nil hmem
  rw [or_iff_right hempty] at hrun
  exact hrun

/-! ## One entry -/

/-- **What an entry does:** what it runs, in this order, and the volumes that are there afterwards. -/
theorem exec_run (e : Entry) (b : Boot) :
    (e.exec m b).boot.session.invoked = b.session.invoked ++ e.log m b.mounted
      ∧ (e.exec m b).boot.mounted = e.mounts m b.mounted := by
  cases e with
  | loadOperatingSystem =>
    show (Grub.loadOperatingSystem m b).session.invoked = _
      ∧ (Grub.loadOperatingSystem m b).mounted = _
    rw [loadOperatingSystem_eq]
    exact ⟨List.append_assoc _ _ _, rfl⟩
  | isolinuxAhci =>
    obtain ⟨root, h⟩ := forWords_tryIsolinuxConfig m (passed searchIsolinux "ahci") b
    simp only [Entry.exec, searchIsolinux_eq, h]
    exact ⟨rfl, rfl⟩
  | isolinuxUsb =>
    obtain ⟨root, h⟩ := forWords_tryIsolinuxConfig m (passed searchIsolinux "usb") b
    simp only [Entry.exec, searchIsolinux_eq, h]
    exact ⟨rfl, rfl⟩
  | isolinuxCdDvd =>
    obtain ⟨root, h⟩ := forWords_tryIsolinuxConfig m
      (["ata0", "ahci1"].map fun dev => "(" ++ dev ++ ")") b
    rw [forWords_map] at h
    simp only [Entry.exec, h]
    exact ⟨rfl, rfl⟩
  | testConfiguration => exact ⟨rfl, rfl⟩
  | externalMedia =>
    obtain ⟨root, h⟩ := forWords_tryUserConfig m (passed searchGrub "usb") b
    simp only [Entry.exec, searchGrub_eq, h]
    exact ⟨rfl, rfl⟩
  | poweroff => exact ⟨(List.append_nil _).symm, rfl⟩
  | reboot => exact ⟨(List.append_nil _).symm, rfl⟩
  | memTest86 => exact ⟨(List.append_nil _).symm, rfl⟩

end Exec

/-! ## Sessions -/

section Session

variable (m : Machine)

/-- What a choice runs. -/
def emits (s : Turn) (c : Choice) : List (String × Command) :=
  if s.left then [] else c.entry.log (c.machine m) s.boot.mounted

/-- The volumes that a choice adds. -/
def adds (s : Turn) (c : Choice) : List String :=
  if s.left = false ∧ c.entry = .loadOperatingSystem then
    decryptedCandidates.filter fun dev => c.unlocks dev && !s.boot.mounted.contains dev
  else []

theorem invoked_step (s : Turn) (c : Choice) :
    (step m s c).boot.session.invoked = s.boot.session.invoked ++ emits m s c := by
  unfold step emits
  cases s.left with
  | true => exact (List.append_nil _).symm
  | false => exact (exec_run _ _ _).1

theorem mounted_step (s : Turn) (c : Choice) :
    (step m s c).boot.mounted = s.boot.mounted ++ adds s c := by
  unfold step adds
  cases hleft : s.left with
  | true => simp
  | false =>
    have hmounted := (exec_run (c.machine m) c.entry s.boot).2
    rw [if_neg Bool.false_ne_true, hmounted]
    cases c.entry with
    | loadOperatingSystem => rfl
    | _ => simp [Entry.mounts]

theorem mem_emits {s : Turn} {c : Choice} {x : String × Command} :
    x ∈ emits m s c ↔ s.left = false ∧ x ∈ c.entry.log (c.machine m) s.boot.mounted := by
  unfold emits
  cases s.left <;> simp

theorem mem_adds {s : Turn} {c : Choice} {dev : String} :
    dev ∈ adds s c ↔ s.left = false ∧ c.entry = .loadOperatingSystem ∧ dev ∈ decryptedCandidates
      ∧ c.unlocks dev = true ∧ dev ∉ s.boot.mounted := by
  unfold adds
  split
  · next h => simp [h.1, h.2, List.mem_filter]
  · next h =>
    simp only [List.not_mem_nil, false_iff]
    rintro ⟨hleft, hentry, -⟩
    exact h ⟨hleft, hentry⟩

/-- **The numbers of the volumes stay** as long as the session does. -/
theorem mounted_session_append (choices later : List Choice) :
    (session m choices).boot.mounted <+: (session m (choices ++ later)).boot.mounted := by
  rw [session, session, run_append]
  exact prefix_run (fun s : Turn => s.boot.mounted)
    (fun s c => by rw [mounted_step]; exact List.prefix_append _ _) later _

theorem nodup_mounted_session (choices : List Choice) :
    (session m choices).boot.mounted.Nodup := by
  refine invariant_run (P := fun s : Turn => s.boot.mounted.Nodup) (fun s c hs => ?_) choices
    List.nodup_nil
  rw [mounted_step]
  refine List.Nodup.append hs ?_ ?_
  · unfold adds
    split
    · exact nodup_decryptedCandidates.filter _
    · exact List.nodup_nil
  · intro dev hmounted hadds
    obtain ⟨-, -, -, -, hnot⟩ := mem_adds.mp hadds
    exact hnot hmounted

/-- **The volumes of a session** are those that a run of "Load Operating System" could unlock. -/
theorem mem_mounted_session {choices : List Choice} {dev : String} :
    dev ∈ (session m choices).boot.mounted
      ↔ ∃ earlier c later, choices = earlier ++ c :: later ∧ (session m earlier).left = false
          ∧ c.entry = .loadOperatingSystem ∧ dev ∈ decryptedCandidates ∧ c.unlocks dev = true := by
  have hlog := @mem_log_run _ _ _ (step m) (fun s : Turn => s.boot.mounted) _ (mounted_step m)
    choices start dev
  constructor
  · intro hdev
    rcases hlog.mp hdev with hnil | ⟨earlier, c, later, rfl, hadds⟩
    · exact absurd hnil List.not_mem_nil
    · obtain ⟨hleft, hentry, hcandidate, hunlocks, -⟩ := mem_adds.mp hadds
      exact ⟨earlier, c, later, rfl, hleft, hentry, hcandidate, hunlocks⟩
  · rintro ⟨earlier, c, later, rfl, hleft, hentry, hcandidate, hunlocks⟩
    by_cases hbefore : dev ∈ (session m earlier).boot.mounted
    · exact (mounted_session_append m earlier (c :: later)).subset hbefore
    · exact hlog.mpr (Or.inr ⟨earlier, c, later, rfl,
        mem_adds.mpr ⟨hleft, hentry, hcandidate, hunlocks, hbefore⟩⟩)

/-! ## ISOLINUX in a session -/

/-- A configuration of GRUB is not one of ISOLINUX. -/
theorem syslinux_not_mem_runs {disks : Disks} {visited device flag path : String} :
    (device, Command.syslinuxConfigfile flag path) ∉ runs disks visited := by
  intro hmem
  obtain ⟨path', -, heq⟩ := List.mem_map.mp hmem
  cases heq

theorem syslinux_not_mem_flatMap {disks : Disks} {devices : List String}
    {device flag path : String} :
    (device, Command.syslinuxConfigfile flag path) ∉ devices.flatMap (runs disks) := by
  intro hmem
  obtain ⟨visited, -, hrun⟩ := List.mem_flatMap.mp hmem
  exact syslinux_not_mem_runs hrun

/-- **One entry.** -/
theorem syslinux_mem_log {mounted : List String} {e : Entry} {device : String} :
    (∃ flag path, (device, Command.syslinuxConfigfile flag path) ∈ e.log m mounted)
      ↔ device ∈ e.isolinuxDevices ∧ HasIsolinuxConfig (m.disks mounted) device := by
  have hvisit : ∀ devices : List String,
      (∃ flag path, (device, Command.syslinuxConfigfile flag path)
          ∈ devices.flatMap (isolinuxRuns (m.disks mounted)))
        ↔ device ∈ devices ∧ HasIsolinuxConfig (m.disks mounted) device := by
    intro devices
    constructor
    · rintro ⟨flag, path, hmem⟩
      obtain ⟨visited, hvisited, hrun⟩ := List.mem_flatMap.mp hmem
      obtain ⟨rfl, hconfig⟩ := mem_isolinuxRuns.mp ⟨flag, path, hrun⟩
      exact ⟨hvisited, hconfig⟩
    · rintro ⟨hdevice, hconfig⟩
      obtain ⟨flag, path, hrun⟩ := mem_isolinuxRuns.mpr ⟨rfl, hconfig⟩
      exact ⟨flag, path, List.mem_flatMap.mpr ⟨device, hdevice, hrun⟩⟩
  cases e with
  | loadOperatingSystem =>
    simp [Entry.log, Entry.isolinuxDevices, syslinux_not_mem_flatMap, -List.mem_flatMap]
  | testConfiguration => simp [Entry.log, Entry.isolinuxDevices]
  | externalMedia =>
    simp [Entry.log, Entry.isolinuxDevices, syslinux_not_mem_flatMap, -List.mem_flatMap]
  | isolinuxAhci => exact hvisit _
  | isolinuxUsb => exact hvisit _
  | isolinuxCdDvd => exact hvisit _
  | poweroff => exact hvisit []
  | reboot => exact hvisit []
  | memTest86 => exact hvisit []

/-- The raw devices that no entry looks at. -/
def rawDevicesMissed : List String := ["(ahci0)", "(usb0)", "(usb1)"]

theorem rawDevicesMissed_disjoint (e : Entry) :
    ∀ device ∈ rawDevicesMissed, device ∉ e.isolinuxDevices := by
  cases e <;> decide

/--
**ISOLINUX in a session.** A configuration of a device is started exactly if, while the menu was
there, an entry was chosen that looks at the device and the configuration was there; and whatever is
chosen in whatever order, that of a raw hard disk or USB stick is not, unless the disk is the second
one.
-/
theorem session_isolinux (choices : List Choice) (device : String) :
    ((session m choices).boot.session.SyslinuxOn device
        ↔ ∃ earlier c later, choices = earlier ++ c :: later ∧ (session m earlier).left = false
            ∧ device ∈ c.entry.isolinuxDevices
            ∧ HasIsolinuxConfig (m.disks (session m earlier).boot.mounted) device)
      ∧ (device ∈ rawDevicesMissed → ¬ (session m choices).boot.session.SyslinuxOn device) := by
  have hlog := @mem_log_run _ _ _ (step m) (fun s : Turn => s.boot.session.invoked) (emits m)
    (invoked_step m) choices start
  have hiff : (session m choices).boot.session.SyslinuxOn device
      ↔ ∃ earlier c later, choices = earlier ++ c :: later ∧ (session m earlier).left = false
          ∧ device ∈ c.entry.isolinuxDevices
          ∧ HasIsolinuxConfig (m.disks (session m earlier).boot.mounted) device := by
    constructor
    · rintro ⟨flag, path, hmem⟩
      rcases hlog.mp hmem with hnil | ⟨earlier, c, later, rfl, hemits⟩
      · exact absurd hnil List.not_mem_nil
      · obtain ⟨hleft, hrun⟩ := (mem_emits m).mp hemits
        exact ⟨earlier, c, later, rfl, hleft,
          (syslinux_mem_log (c.machine m)).mp ⟨flag, path, hrun⟩⟩
    · rintro ⟨earlier, c, later, rfl, hleft, hfound⟩
      obtain ⟨flag, path, hrun⟩ := (syslinux_mem_log (c.machine m)).mpr hfound
      exact ⟨flag, path, hlog.mpr (Or.inr ⟨earlier, c, later, rfl,
        (mem_emits m).mpr ⟨hleft, hrun⟩⟩)⟩
  refine ⟨hiff, fun hraw hon => ?_⟩
  obtain ⟨-, c, -, -, -, hdevice, -⟩ := hiff.mp hon
  exact rawDevicesMissed_disjoint c.entry device hraw hdevice

end Session

/-- With a hybrid ISO stick. -/
def hybridStickMachine : Machine where
  files _ := hybridStick
  unlocks _ := false
  volume _ _ := false

/-- Whatever is chosen, the stick is not started. -/
theorem session_isolinux_sample :
    ∀ choices, ¬ (session hybridStickMachine choices).boot.session.SyslinuxOn "(usb0)" :=
  fun choices => (session_isolinux hybridStickMachine choices "(usb0)").2 (by decide)

/-! ## Encrypted volumes in a session -/

/-- A machine on which no other device has the name of a volume. -/
structure Computer extends Machine where
  noOther : ∀ mounted k path, files mounted (cryptoDevice k) path = false

/-- What is seen under the name of volume `k`. -/
theorem Computer.disks_cryptoDevice_iff (c : Computer) {mounted : List String} {k : Nat}
    {path : String} :
    c.disks mounted (cryptoDevice k) path = true
      ↔ ∃ dev, mounted[k]? = some dev ∧ c.volume dev path = true := by
  cases hk : mounted[k]? with
  | some dev =>
    rw [disks_cryptoDevice c.toMachine hk]
    simp
  | none =>
    have hfind : mounted.zipIdx.find? (fun v => cryptoDevice v.2 == cryptoDevice k) = none := by
      rw [List.find?_eq_none]
      rintro ⟨dev, j⟩ hmem hname
      obtain ⟨-, hj, -⟩ := List.mem_zipIdx hmem
      have hjk := cryptoDevice_injective (beq_iff_eq.mp hname)
      have hlength := List.getElem?_eq_none_iff.mp hk
      simp only at hjk
      omega
    unfold Machine.disks
    rw [hfind]
    simp [c.noOther]

theorem cryptoDevice_front (k : Nat) : "(crypto".toList <+: (cryptoDevice k).toList := by
  rw [toList_cryptoDevice, List.append_assoc]
  exact List.prefix_append _ _

/-- No other device that an entry searches has the name of a volume. -/
theorem cryptoDevice_not_mem (k : Nat) :
    cryptoDevice k ∉ unencryptedDevices ++ passed searchGrub "usb" ++ ["(cbfsdisk)"] := by
  have hall : ∀ device ∈ unencryptedDevices ++ passed searchGrub "usb" ++ ["(cbfsdisk)"],
      "(crypto".toList.isPrefixOf device.toList = false := by decide
  intro hmem
  have hno := hall _ hmem
  rw [List.isPrefixOf_iff_prefix.mpr (cryptoDevice_front k)] at hno
  cases hno

theorem configfile_mem_flatMap {disks : Disks} {devices : List String} {device path : String} :
    (device, Command.configfile path) ∈ devices.flatMap (runs disks)
      ↔ device ∈ devices ∧ path ∈ userConfigPaths ∧ disks device path = true := by
  constructor
  · intro hmem
    obtain ⟨visited, hvisited, hrun⟩ := List.mem_flatMap.mp hmem
    obtain ⟨path', hpath, heq⟩ := List.mem_map.mp hrun
    cases heq
    exact ⟨hvisited, List.mem_filter.mp hpath⟩
  · rintro ⟨hdevice, hpath⟩
    exact List.mem_flatMap.mpr ⟨device, hdevice,
      List.mem_map.mpr ⟨path, List.mem_filter.mpr hpath, rfl⟩⟩

theorem configfile_not_mem_isolinux {disks : Disks} {devices : List String}
    {device path : String} :
    (device, Command.configfile path) ∉ devices.flatMap (isolinuxRuns disks) := by
  intro hmem
  obtain ⟨visited, -, hrun⟩ := List.mem_flatMap.mp hmem
  obtain ⟨dir, -, hrun⟩ := List.mem_flatMap.mp hrun
  unfold isolinuxRunsIn at hrun
  split at hrun
  · cases List.mem_singleton.mp hrun
  · split at hrun
    · cases List.mem_singleton.mp hrun
    · cases hrun

/-- **One entry:** a volume is searched by "Load Operating System" only, and by its number. -/
theorem configfile_mem_log {m : Machine} {mounted : List String} {e : Entry} {k : Nat}
    {path : String} :
    (cryptoDevice k, Command.configfile path) ∈ e.log m mounted
      ↔ e = .loadOperatingSystem ∧ k < 2 ∧ path ∈ userConfigPaths
        ∧ m.disks (unlockOrder m mounted) (cryptoDevice k) path = true := by
  have hother := cryptoDevice_not_mem k
  simp only [List.mem_append, List.mem_singleton, not_or] at hother
  obtain ⟨⟨hunencrypted, husb⟩, hcbfs⟩ := hother
  cases e with
  | loadOperatingSystem =>
    rw [Entry.log, List.mem_append, configfile_mem_flatMap, configfile_mem_flatMap,
      cryptoDevice_mem_decryptedDevices]
    simp [hunencrypted]
  | testConfiguration => simp [Entry.log, hcbfs]
  | externalMedia =>
    rw [Entry.log, configfile_mem_flatMap]
    simp [husb]
  | isolinuxAhci => exact iff_of_false configfile_not_mem_isolinux (by simp)
  | isolinuxUsb => exact iff_of_false configfile_not_mem_isolinux (by simp)
  | isolinuxCdDvd => exact iff_of_false configfile_not_mem_isolinux (by simp)
  | poweroff => exact iff_of_false List.not_mem_nil (by simp)
  | reboot => exact iff_of_false List.not_mem_nil (by simp)
  | memTest86 => exact iff_of_false List.not_mem_nil (by simp)

/-- What is known of the encrypted volumes after the choices of a session. -/
structure SearchesVolumes (c : Computer) (choices : List Choice) : Prop where
  once : (session c.toMachine choices).boot.mounted.Nodup
  unlocked : ∀ dev, dev ∈ (session c.toMachine choices).boot.mounted
    ↔ ∃ earlier choice later, choices = earlier ++ choice :: later
        ∧ (session c.toMachine earlier).left = false ∧ choice.entry = .loadOperatingSystem
        ∧ dev ∈ decryptedCandidates ∧ choice.unlocks dev = true
  /-- Also by a later try, nothing else is searched. -/
  searched : ∀ k path,
    (cryptoDevice k, Command.configfile path) ∈ (session c.toMachine choices).boot.session.invoked
      ↔ k < 2 ∧ path ∈ userConfigPaths
        ∧ ∃ dev, (session c.toMachine choices).boot.mounted[k]? = some dev
          ∧ c.volume dev path = true
  kept : ∀ later, (session c.toMachine choices).boot.mounted
    <+: (session c.toMachine (choices ++ later)).boot.mounted

/-- A volume that has a number keeps it. -/
theorem getElem?_of_front {volumes volumes' : List String} (h : volumes <+: volumes') {k : Nat}
    {dev : String} (hk : volumes[k]? = some dev) : volumes'[k]? = some dev := by
  obtain ⟨more, rfl⟩ := h
  obtain ⟨hlt, -⟩ := List.getElem?_eq_some_iff.mp hk
  rw [List.getElem?_append_left hlt, hk]

/-- The step of the search: what a choice runs on volume `k`. -/
theorem configfile_mem_emits (c : Computer) {s : Turn} {choice : Choice} {k : Nat}
    {path : String} :
    (cryptoDevice k, Command.configfile path) ∈ emits c.toMachine s choice
      ↔ s.left = false ∧ choice.entry = .loadOperatingSystem ∧ k < 2 ∧ path ∈ userConfigPaths
        ∧ ∃ dev, (step c.toMachine s choice).boot.mounted[k]? = some dev
          ∧ c.volume dev path = true := by
  rw [mem_emits, configfile_mem_log]
  refine and_congr_right fun hleft => and_congr_right fun hentry => ?_
  have hmounted : (step c.toMachine s choice).boot.mounted
      = unlockOrder (choice.machine c.toMachine) s.boot.mounted := by
    rw [mounted_step, adds, if_pos ⟨hleft, hentry⟩]
    rfl
  have hdisks := @c.disks_cryptoDevice_iff (step c.toMachine s choice).boot.mounted k path
  rw [hmounted] at hdisks ⊢
  exact and_congr_right fun _ => and_congr_right fun _ => hdisks

/--
**Encrypted volumes in a session.** However often "Load Operating System" is chosen, and whatever
passphrases are typed right each time, the volumes are numbered in the order in which they were
unlocked, and the configurations of the first two are run; those of a third one are not run until GRUB
is started anew.
-/
theorem session_volumes (c : Computer) (choices : List Choice) : SearchesVolumes c choices where
  once := nodup_mounted_session c.toMachine choices
  unlocked _ := mem_mounted_session c.toMachine
  kept := mounted_session_append c.toMachine choices
  searched := by
    intro k path
    induction choices using List.reverseRecOn with
    | nil =>
      constructor
      · intro hmem
        exact absurd hmem List.not_mem_nil
      · rintro ⟨-, -, dev, hdev, -⟩
        cases hdev
    | append_singleton choices choice ih =>
      have hstep : session c.toMachine (choices ++ [choice])
          = step c.toMachine (session c.toMachine choices) choice :=
        run_concat _ _ _ _
      have hfront := mounted_session_append c.toMachine choices [choice]
      rw [hstep, invoked_step, List.mem_append, ih, configfile_mem_emits, ← hstep]
      constructor
      · rintro (⟨hk, hpath, dev, hdev, hvolume⟩ | ⟨-, -, hfound⟩)
        · exact ⟨hk, hpath, dev, getElem?_of_front hfront hdev, hvolume⟩
        · exact hfound
      · rintro ⟨hk, hpath, dev, hdev, hvolume⟩
        by_cases hentry : (session c.toMachine choices).left = false
            ∧ choice.entry = .loadOperatingSystem
        · exact Or.inr ⟨hentry.1, hentry.2, hk, hpath, dev, hdev, hvolume⟩
        · refine Or.inl ⟨hk, hpath, dev, ?_, hvolume⟩
          rw [hstep, mounted_step, adds, if_neg hentry, List.append_nil] at hdev
          exact hdev

/-- Three encrypted partitions, all passphrases typed right at once. -/
theorem session_volumes_sample : SearchesVolumes ⟨threeVolumes, fun _ _ _ => rfl⟩
    [⟨.loadOperatingSystem, threeVolumes.unlocks⟩] :=
  session_volumes _ _

end Libreboot.Grub
