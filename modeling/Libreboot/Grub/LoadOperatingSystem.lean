import Mathlib
import Libreboot.Grub.Common

/-!
# The menu entry "Load Operating System"

The entry of `menuentries/common.cfg` searches the unencrypted devices, asks for the passphrases of
the encrypted ones, and searches again. GRUB numbers the volumes that were unlocked in the order of
their `cryptomount`.

* `mounted_decryptDevices` — the volumes after the decryption, in order
* `mem_runsDecrypted` — what the search of the decrypted devices runs
* `searchesDecrypted_iff` — it reaches the first two volumes, and no other
-/

namespace Libreboot.Grub

/-! ## The machine -/

/--
The files on the devices, which may depend on the volumes mounted so far, the devices with a LUKS
volume that the user unlocks, and the files in these volumes.
-/
structure Machine where
  files : List String → Disks
  unlocks : String → Bool
  volume : Disks

/-- A command line of the last resort. -/
inductive Load where
  | linux (path arguments : String)
  | initrd (path : String)

/-- A session of GRUB: also the devices that were unlocked, in order, and what was loaded. -/
structure Boot where
  session : Session
  mounted : List String
  loaded : List (String × Load)

def Boot.load (l : Load) (b : Boot) : Boot :=
  { b with loaded := b.loaded ++ [(b.session.root, l)] }

/-- The name that GRUB gives to volume `k`. -/
def cryptoDevice (k : Nat) : String := rawDevice "crypto" (toString k)

namespace Machine

/-- The files that GRUB sees. -/
def disks (m : Machine) (mounted : List String) : Disks := fun device path =>
  match mounted.zipIdx.find? fun v => cryptoDevice v.2 == device with
  | some v => m.volume v.1 path
  | none => m.files mounted device path

/-- `try_user_config` in the session. -/
def tryUserConfig (m : Machine) (device : String) (b : Boot) : Boot :=
  { b with session := Grub.tryUserConfig (m.disks b.mounted) device b.session }

/-- `cryptomount device`: a volume that is already there is not unlocked a second time. -/
def cryptomount (m : Machine) (device : String) (b : Boot) : Boot :=
  if m.unlocks device && !b.mounted.contains device then
    { b with mounted := b.mounted ++ [device] }
  else b

end Machine

/-! ## The entry -/

def lvm : List String := ["lvm/matrix-rootvol", "lvm/matrix-boot"]

def raid : List String :=
  ["md/0", "md/1", "md/2", "md/3", "md/4", "md/5", "md/6", "md/7", "md/8", "md/9"]

section Entry

variable (m : Machine)

/-- Look for user configuration on unencrypted devices first. -/
def searchUnencrypted (b : Boot) : Boot :=
  forWords (lvm ++ raid) (fun vol => m.tryUserConfig ("(" ++ vol ++ ")"))
    (searchGrub m.tryUserConfig "ahci" b)

/-- In case no configuration could be found, try decrypting devices. -/
def decryptDevices (b : Boot) : Boot :=
  forWords ["0", "1"] (fun i =>
    forWords ["1", "2", "3", "4", "5"] fun part =>
      m.cryptomount ("(ahci" ++ i ++ "," ++ part ++ ")"))
    (forWords ("ahci0" :: lvm) (fun dev => m.cryptomount ("(" ++ dev ++ ")")) b)

/-- Encrypted devices/partitions, and LVM inside LUKS containers. -/
def searchDecrypted (b : Boot) : Boot :=
  forWords lvm (fun vol => m.tryUserConfig ("(" ++ vol ++ ")"))
    (searchGrub m.tryUserConfig "crypto" b)

/-- The loop body of the last resort. -/
def tryKernel (p : String) (b : Boot) : Boot :=
  if b.session.isFile (m.disks b.mounted) (p ++ "vmlinuz") then
    let b := b.load (.linux (p ++ "vmlinuz") "root=/dev/sda1 rw")
    if b.session.isFile (m.disks b.mounted) (p ++ "initrd.img") then
      b.load (.initrd (p ++ "initrd.img"))
    else b
  else b

/-- Last resort, if all else fails. -/
def lastResort (b : Boot) : Boot :=
  -- `set root=ahci0,1` names the same device without its parentheses
  forWords ["/", "/boot/"] (tryKernel m) { b with session := b.session.setRoot "(ahci0,1)" }

/-- The menu entry. Every configuration returns to it, and no other entry runs in between. -/
def loadOperatingSystem (b : Boot) : Boot :=
  lastResort m (searchDecrypted m (decryptDevices m (searchUnencrypted m b)))

end Entry

/-! ## What a search runs -/

/-- The paths that `try_user_config` looks for, in order. -/
def userConfigPaths : List String :=
  ["boot", "grub", "grub2", "boot/grub", "boot/grub2"].flatMap fun dir =>
    ["", "autoboot_", "libreboot_", "coreboot_"].map fun name =>
      "/" ++ dir ++ "/" ++ name ++ "grub.cfg"

/-- One of these paths on the device in `root`. -/
def tryPath (disks : Disks) (path : String) (s : Session) : Session :=
  if s.isFile disks path then s.invoke (.configfile path) else s

/-- What `try_user_config` runs on a device. -/
def runs (disks : Disks) (device : String) : List (String × Command) :=
  (userConfigPaths.filter (disks device)).map fun path => (device, .configfile path)

theorem forWords_append {σ : Type} (words words' : List String) (body : String → σ → σ) (s : σ) :
    forWords (words ++ words') body s = forWords words' body (forWords words body s) :=
  List.foldl_append

theorem forWords_map {σ : Type} (words : List String) (name : String → String)
    (body : String → σ → σ) (s : σ) :
    forWords (words.map name) body s = forWords words (fun x => body (name x)) s :=
  List.foldl_map

theorem tryUserConfig_eq (disks : Disks) (device : String) (s : Session) :
    tryUserConfig disks device s = forWords userConfigPaths (tryPath disks) (s.setRoot device) := by
  unfold userConfigPaths tryUserConfig
  simp only [forWords, List.foldl_flatMap, List.foldl_map]
  rfl

theorem forWords_tryPath (disks : Disks) : ∀ (paths : List String) (s : Session),
    forWords paths (tryPath disks) s
      = ⟨s.root, s.invoked
          ++ (paths.filter (disks s.root)).map fun path => (s.root, .configfile path)⟩
  | [], s => by simp [forWords]
  | path :: rest, s => by
    show forWords rest (tryPath disks) (tryPath disks path s) = _
    rw [forWords_tryPath disks rest]
    unfold tryPath Session.isFile Session.invoke
    cases h : disks s.root path with
    | true => simp [h]
    | false => simp [h]

/-- **One device:** the configurations that are there, in order. -/
theorem tryUserConfig_run (disks : Disks) (device : String) (s : Session) :
    tryUserConfig disks device s = ⟨device, s.invoked ++ runs disks device⟩ := by
  rw [tryUserConfig_eq, forWords_tryPath]
  rfl

section Runs

variable (m : Machine)

/-- All devices of a list. -/
theorem forWords_tryUserConfig : ∀ (devices : List String) (b : Boot),
    ∃ root, forWords devices m.tryUserConfig b
      = { b with session :=
          ⟨root, b.session.invoked ++ devices.flatMap (runs (m.disks b.mounted))⟩ }
  | [], b => ⟨b.session.root, by simp [forWords]⟩
  | d :: rest, b => by
    obtain ⟨root, h⟩ := forWords_tryUserConfig rest (m.tryUserConfig d b)
    refine ⟨root, h.trans ?_⟩
    unfold Machine.tryUserConfig
    rw [tryUserConfig_run, List.flatMap_cons, List.append_assoc]

/-- The devices that are searched after the decryption. -/
def decryptedDevices : List String :=
  passed searchGrub "crypto" ++ lvm.map fun vol => "(" ++ vol ++ ")"

theorem searchDecrypted_eq (b : Boot) :
    searchDecrypted m b = forWords decryptedDevices m.tryUserConfig b := by
  rw [decryptedDevices, forWords_append, forWords_map, ← searchGrub_eq]
  rfl

theorem session_tryKernel (p : String) (b : Boot) : (tryKernel m p b).session = b.session := by
  unfold tryKernel
  split
  · dsimp only
    split <;> rfl
  · rfl

theorem invoked_lastResort (b : Boot) :
    (lastResort m b).session.invoked = b.session.invoked := by
  show (tryKernel m "/boot/" (tryKernel m "/" _)).session.invoked = _
  rw [session_tryKernel, session_tryKernel]
  rfl

/-- What the entry runs after the decryption. -/
def runsDecrypted (b : Boot) : List (String × Command) :=
  (loadOperatingSystem m b).session.invoked.drop
    (decryptDevices m (searchUnencrypted m b)).session.invoked.length

/-- **A configuration is run** when it is on a device that is searched. -/
theorem mem_runsDecrypted {b : Boot} {device path : String} :
    (device, .configfile path) ∈ runsDecrypted m b
      ↔ device ∈ decryptedDevices ∧ path ∈ userConfigPaths
        ∧ m.disks (decryptDevices m (searchUnencrypted m b)).mounted device path = true := by
  obtain ⟨root, h⟩ :=
    forWords_tryUserConfig m decryptedDevices (decryptDevices m (searchUnencrypted m b))
  rw [runsDecrypted, loadOperatingSystem, invoked_lastResort, searchDecrypted_eq, h,
    List.drop_left, List.mem_flatMap]
  constructor
  · rintro ⟨d, hd, hmem⟩
    obtain ⟨p, hp, heq⟩ := List.mem_map.mp hmem
    cases heq
    exact ⟨hd, List.mem_filter.mp hp⟩
  · rintro ⟨hd, hp⟩
    exact ⟨device, hd, List.mem_map.mpr ⟨path, List.mem_filter.mpr hp, rfl⟩⟩

end Runs

/-! ## The numbers of the volumes -/

/-- The devices that the entry tries to decrypt, in order. -/
def decryptedCandidates : List String :=
  (("ahci0" :: lvm).map fun dev => "(" ++ dev ++ ")")
    ++ ["0", "1"].flatMap fun i =>
      ["1", "2", "3", "4", "5"].map fun part => "(ahci" ++ i ++ "," ++ part ++ ")"

theorem nodup_decryptedCandidates : decryptedCandidates.Nodup := by decide

section Numbers

variable (m : Machine)

/-- The volumes in the order of their numbers: first those that were there before. -/
def unlockOrder (mounted : List String) : List String :=
  mounted ++ decryptedCandidates.filter fun dev => m.unlocks dev && !mounted.contains dev

theorem decryptDevices_eq (b : Boot) :
    decryptDevices m b = forWords decryptedCandidates m.cryptomount b := by
  rw [decryptedCandidates, forWords_append, forWords_map]
  unfold decryptDevices
  simp only [forWords, List.foldl_flatMap, List.foldl_map]

/-- One `cryptomount`. -/
theorem mounted_cryptomount (dev : String) (b : Boot) :
    (m.cryptomount dev b).mounted
      = b.mounted ++ [dev].filter fun dev => m.unlocks dev && !b.mounted.contains dev := by
  unfold Machine.cryptomount
  rw [List.filter_singleton]
  split
  · next h => rw [h]; rfl
  · next h => rw [Bool.eq_false_of_not_eq_true h]; exact (List.append_nil _).symm

/-- The loop: distinct devices do not get in each other's way. -/
theorem mounted_forWords : ∀ (devices : List String), devices.Nodup → ∀ b : Boot,
    (forWords devices m.cryptomount b).mounted
      = b.mounted ++ devices.filter fun dev => m.unlocks dev && !b.mounted.contains dev
  | [], _, b => by simp [forWords]
  | d :: rest, hnodup, b => by
    obtain ⟨hd, hrest⟩ := List.nodup_cons.mp hnodup
    show (forWords rest m.cryptomount (m.cryptomount d b)).mounted = _
    have hsame : ∀ dev ∈ rest, (m.cryptomount d b).mounted.contains dev
        = b.mounted.contains dev := by
      intro dev hdev
      have hne : dev ≠ d := fun h => hd (h ▸ hdev)
      rw [mounted_cryptomount, Bool.eq_iff_iff]
      simp only [List.contains_eq_mem, decide_eq_true_eq, List.mem_append, List.mem_filter,
        List.mem_singleton, hne, false_and, or_false]
    rw [mounted_forWords rest hrest, List.filter_congr (fun dev hdev => by rw [hsame dev hdev]),
      mounted_cryptomount, List.append_assoc, ← List.filter_append, List.singleton_append]

/-- **The volumes after the decryption.** -/
theorem mounted_decryptDevices (b : Boot) :
    (decryptDevices m (searchUnencrypted m b)).mounted = unlockOrder m b.mounted := by
  have hsearch : (searchUnencrypted m b).mounted = b.mounted := by
    unfold searchUnencrypted
    rw [← forWords_map _ fun vol => "(" ++ vol ++ ")", searchGrub_eq, ← forWords_append]
    obtain ⟨root, h⟩ := forWords_tryUserConfig m
      (passed searchGrub "ahci" ++ (lvm ++ raid).map fun vol => "(" ++ vol ++ ")") b
    rw [h]
  rw [decryptDevices_eq, mounted_forWords m _ nodup_decryptedCandidates, hsearch]
  rfl

end Numbers

/-! ## The names of the volumes -/

theorem toList_cryptoDevice (k : Nat) :
    (cryptoDevice k).toList = "(crypto".toList ++ Nat.toDigits 10 k ++ [')'] := by
  simp [cryptoDevice, rawDevice]

theorem cryptoDevice_injective : Function.Injective cryptoDevice := by
  intro j k h
  have hlist := congrArg String.toList h
  rw [toList_cryptoDevice, toList_cryptoDevice] at hlist
  have hdigits := List.append_cancel_left (List.append_cancel_right hlist)
  apply Nat.repr_injective
  rw [← String.toList_inj, Nat.toList_repr, Nat.toList_repr, hdigits]

/-- A volume under its name. -/
theorem disks_cryptoDevice (m : Machine) {mounted : List String} {k : Nat} {dev : String}
    (h : mounted[k]? = some dev) : m.disks mounted (cryptoDevice k) = m.volume dev := by
  have hfind : mounted.zipIdx.find? (fun v => cryptoDevice v.2 == cryptoDevice k)
      = some (dev, k) := by
    obtain ⟨hk, rfl⟩ := List.getElem?_eq_some_iff.mp h
    refine List.find?_eq_some_iff_getElem.mpr ⟨beq_self_eq_true _, k, by simpa using hk, ?_, ?_⟩
    · simp
    · intro j hj
      have hne : cryptoDevice j ≠ cryptoDevice k := fun h => by
        have := cryptoDevice_injective h
        omega
      simpa using hne
  unfold Machine.disks
  rw [hfind]

/-- The name of a volume has no comma and no slash. -/
theorem not_mem_cryptoDevice {c : Char} (hc : c = ',' ∨ c = '/') (k : Nat) :
    c ∉ (cryptoDevice k).toList := by
  intro hmem
  rw [toList_cryptoDevice, List.mem_append, List.mem_append] at hmem
  rcases hmem with (hmem | hmem) | hmem
  · rcases hc with rfl | rfl <;> exact absurd hmem (by decide)
  · have hdigit := Nat.isDigit_of_mem_toDigits (by decide) (by decide) hmem
    rcases hc with rfl | rfl <;> exact absurd hdigit (by decide)
  · rcases hc with rfl | rfl <;> exact absurd hmem (by decide)

/-- **Only the first two volumes are searched.** -/
theorem cryptoDevice_mem_decryptedDevices (k : Nat) :
    cryptoDevice k ∈ decryptedDevices ↔ k < 2 := by
  have hall : ∀ device ∈ decryptedDevices, device = cryptoDevice 0 ∨ device = cryptoDevice 1
      ∨ ',' ∈ device.toList ∨ '/' ∈ device.toList := by decide
  constructor
  · intro h
    rcases hall _ h with h | h | h | h
    · have := cryptoDevice_injective h
      omega
    · have := cryptoDevice_injective h
      omega
    · exact absurd h (not_mem_cryptoDevice (Or.inl rfl) k)
    · exact absurd h (not_mem_cryptoDevice (Or.inr rfl) k)
  · intro h
    have hk : k = 0 ∨ k = 1 := by omega
    rcases hk with rfl | rfl
    · decide
    · decide

/-! ## Completeness of the search -/

/--
Every device that the entry decrypts is then searched: its volume has a number, and each
configuration on it where `try_user_config` looks is run under that number.
-/
def SearchesDecrypted (m : Machine) (b : Boot) : Prop :=
  ∀ dev ∈ decryptedCandidates, m.unlocks dev = true →
    ∃ k : Nat, (decryptDevices m (searchUnencrypted m b)).mounted[k]? = some dev
      ∧ ∀ path ∈ userConfigPaths, m.volume dev path = true →
        (cryptoDevice k, .configfile path) ∈ runsDecrypted m b

/-- An unlocked device has a number. -/
theorem mem_unlockOrder {m : Machine} {mounted : List String} {dev : String}
    (h : dev ∈ decryptedCandidates) (hu : m.unlocks dev = true) : dev ∈ unlockOrder m mounted := by
  rw [unlockOrder, List.mem_append]
  by_cases hmem : dev ∈ mounted
  · exact Or.inl hmem
  · refine Or.inr (List.mem_filter.mpr ⟨h, ?_⟩)
    simp only [hu, List.contains_eq_mem, hmem, decide_false, Bool.not_false, Bool.and_self]

/-- What is run on volume `k`. -/
theorem mem_runsDecrypted_volume {m : Machine} {b : Boot} {k : Nat} {dev path : String}
    (hk : (unlockOrder m b.mounted)[k]? = some dev) :
    (cryptoDevice k, .configfile path) ∈ runsDecrypted m b
      ↔ k < 2 ∧ path ∈ userConfigPaths ∧ m.volume dev path = true := by
  rw [mem_runsDecrypted, cryptoDevice_mem_decryptedDevices, mounted_decryptDevices,
    disks_cryptoDevice m hk]

/--
**The entry searches what it decrypts exactly when the configurations lie on the first two
volumes.** Every volume that was unlocked third or later is left out.
-/
theorem searchesDecrypted_iff (m : Machine) (b : Boot) :
    SearchesDecrypted m b
      ↔ ∀ dev ∈ decryptedCandidates, m.unlocks dev = true →
          dev ∉ (unlockOrder m b.mounted).take 2 →
          ∀ path ∈ userConfigPaths, m.volume dev path = false := by
  unfold SearchesDecrypted
  rw [mounted_decryptDevices]
  constructor
  · intro h dev hdev hu hlate path hpath
    obtain ⟨k, hk, hfound⟩ := h dev hdev hu
    by_contra hvolume
    have hrun := hfound path hpath (Bool.eq_true_of_not_eq_false hvolume)
    obtain ⟨hlt, -⟩ := (mem_runsDecrypted_volume hk).mp hrun
    exact hlate (List.mem_iff_getElem?.mpr ⟨k, (List.getElem?_take_of_lt hlt).trans hk⟩)
  · intro h dev hdev hu
    by_cases hearly : dev ∈ (unlockOrder m b.mounted).take 2
    · obtain ⟨k, hk⟩ := List.mem_iff_getElem?.mp hearly
      rw [List.getElem?_take] at hk
      obtain ⟨hlt, hk⟩ := Option.ite_none_right_eq_some.mp hk
      exact ⟨k, hk, fun path hpath hvolume =>
        (mem_runsDecrypted_volume hk).mpr ⟨hlt, hpath, hvolume⟩⟩
    · obtain ⟨k, hk⟩ := List.mem_iff_getElem?.mp (mem_unlockOrder hdev hu)
      refine ⟨k, hk, fun path hpath hvolume => ?_⟩
      exact absurd (h dev hdev hu hearly path hpath) (by rw [hvolume]; decide)

/-- Three encrypted partitions, with a configuration on the last one. -/
def threeVolumes : Machine where
  files _ _ _ := false
  unlocks dev := ["(ahci0,1)", "(ahci0,2)", "(ahci0,3)"].contains dev
  volume dev path := dev == "(ahci0,3)" && path == "/boot/grub/libreboot_grub.cfg"

theorem threeVolumes_not_searched : ¬ SearchesDecrypted threeVolumes ⟨⟨"", []⟩, [], []⟩ := by
  intro h
  have horder : unlockOrder threeVolumes [] = ["(ahci0,1)", "(ahci0,2)", "(ahci0,3)"] := by decide
  obtain ⟨k, hk, hfound⟩ := h "(ahci0,3)" (by decide) (by decide)
  rw [mounted_decryptDevices] at hk
  have hrun := hfound "/boot/grub/libreboot_grub.cfg" (by decide) (by decide)
  obtain ⟨hlt, -⟩ := (mem_runsDecrypted_volume hk).mp hrun
  -- volumes 0 and 1 are the other two partitions
  rw [horder] at hk
  obtain rfl | rfl : k = 0 ∨ k = 1 := by omega
  · exact absurd (Option.some.inj hk) (by decide)
  · exact absurd (Option.some.inj hk) (by decide)

end Libreboot.Grub
