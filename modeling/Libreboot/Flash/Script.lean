import Libreboot.Infra.Stdio

/-!
# The flash script

The script `flash` checks its arguments and the files it needs, and then calls flashrom and bucts. It
does not look at how the calls end, so the calls of a run are known once the checks are passed.

* `flash` — the script
* `flash_eq_ok` — what the checks say about a run that calls the tools
-/

namespace Libreboot.Flash

open Infra

/-! ## The computer that it runs on -/

structure Host where
  euid : Nat
  /-- `uname -i` and `uname -m` -/
  unameI : String
  unameM : String
  files : Files

namespace Host

variable (host : Host)

/-- `[ -f … ]` -/
def isFile (path : String) : Bool := (host.files path).isSome

/-- `$arch` -/
def arch : Option String :=
  if host.unameI = "i686" ∨ host.unameM = "i686" then some "i686"
  else if host.unameI = "x86_64" ∨ host.unameM = "x86_64" then some "x86_64"
  else none

end Host

/-! ## Modes and calls -/

inductive Mode
  | update
  | forceupdate
  | i945lenovo_firstflash
  | i945lenovo_secondflash
  | i945apple_firstflash
  deriving DecidableEq

namespace Mode

def text : Mode → String
  | update => "update"
  | forceupdate => "forceupdate"
  | i945lenovo_firstflash => "i945lenovo_firstflash"
  | i945lenovo_secondflash => "i945lenovo_secondflash"
  | i945apple_firstflash => "i945apple_firstflash"

def all : List Mode :=
  [update, forceupdate, i945lenovo_firstflash, i945lenovo_secondflash, i945apple_firstflash]

/-- The mode of that name. -/
def ofText (mode : String) : Option Mode := all.find? (·.text = mode)

/-- The modes that need bucts. -/
def isI945lenovo (mode : Mode) : Bool :=
  mode == i945lenovo_firstflash || mode == i945lenovo_secondflash

end Mode

/-- The flashrom binaries. Two are patched for the chips that are found under the Lenovo BIOS. -/
inductive Flashrom
  | flashrom
  | lenovobios_sst
  | lenovobios_macronix
  deriving DecidableEq

def Flashrom.name : Flashrom → String
  | flashrom => "flashrom"
  | lenovobios_sst => "flashrom_lenovobios_sst"
  | lenovobios_macronix => "flashrom_lenovobios_macronix"

/-- A call of a tool. -/
inductive Call
  /-- `${bucts} 1` or `${bucts} 0` -/
  | bucts (ts : Bool)
  /-- `${flashrom} -p programmer -w "${rompath}"` -/
  | write (tool : Flashrom) (programmer rompath : String)

/-- The programmer that flashrom uses on machines it does not know well. -/
def iWantABrick : String := "internal:laptop=force_I_want_a_brick"

/-- The calls of a mode. -/
def Mode.calls (rompath : String) : Mode → List Call
  | update => [.write .flashrom "internal" rompath]
  | forceupdate =>
    [.write .flashrom "internal:boardmismatch=force,laptop=force_I_want_a_brick" rompath]
  | i945apple_firstflash => [.write .flashrom iWantABrick rompath]
  | i945lenovo_firstflash =>
    -- needed to prevent bricks
    [.bucts true,
      -- one will fail (this is harmless), and the other will succeed
      .write .lenovobios_sst "internal" rompath,
      .write .lenovobios_macronix "internal" rompath]
  | i945lenovo_secondflash => [.write .flashrom iWantABrick rompath, .bucts false]

/-- All calls of a mode are about the same file. -/
theorem Mode.mem_calls {rompath : String} {call : Call} (mode : Mode)
    (h : call ∈ mode.calls rompath) :
    (∃ ts, call = .bucts ts) ∨ ∃ tool programmer, call = .write tool programmer rompath := by
  cases mode <;>
    simp only [calls, List.mem_cons, List.not_mem_nil, or_false] at h <;>
    rcases h with rfl | rfl | rfl <;> simp

/-! ## The script -/

def usage : String := "usage: ./flash mode path/to/yourrom.rom"

def availablemodes : String :=
  "update, forceupdate, i945lenovo_firstflash, i945lenovo_secondflash, i945apple_firstflash"

/-- Where a tool lies: in its own directory, or with the architecture below it. -/
def Host.tool (host : Host) (directory arch name : String) : String :=
  if host.isFile "build" then "./" ++ directory ++ "/" ++ name
  else "./" ++ directory ++ "/" ++ arch ++ "/" ++ name

/-- The checks on the binaries, and what is printed if one fails. -/
def checkTools (host : Host) (arch : String) (mode : Mode) : Option String :=
  let flashrom (tool : Flashrom) := host.tool "flashrom" arch tool.name
  if ¬ host.isFile (flashrom .flashrom) then some "flashrom binary not present\n"
  else if mode.isI945lenovo then
    -- anti-bricking precaution
    if ¬ host.isFile (host.tool "bucts" arch "bucts") then
      some "bucts binary not present. ABORTING so as to protect against bricking the system.\n"
    else if ¬ host.isFile (flashrom .lenovobios_sst) ∨ ¬ host.isFile (flashrom .lenovobios_macronix)
      then some "Flashrom binaries not present.\n"
    else none
  else none

/-- The calls of a run. A run that ends with 1 before the first call is an `error` with its output. -/
def flash (host : Host) (args : List String) : Except String (List Call) :=
  if host.euid ≠ 0 then .error "This script must be run as root\n"
  else
    match host.arch with
    | none =>
      .error "This script must be run on an i686 or x86_64 host. x86_64 is recommended.\n"
    | some arch =>
      match args with
      | mode :: rompath :: _ =>
        match Mode.ofText mode with
        | none =>
          .error (usage ++ "\n" ++ "Invalid mode. Modes available: " ++ availablemodes ++ "\n")
        | some mode =>
          let selected := "Mode selected: " ++ mode.text ++ "\n"
          if ¬ host.isFile rompath then .error (selected ++ "File not found!\n")
          else
            match checkTools host arch mode with
            | some message => .error (selected ++ message)
            | none => .ok (mode.calls rompath)
      | _ =>
        .error (usage ++ "\n" ++ "You need to specify exactly one mode, and one file\n"
          ++ availablemodes ++ "\n")

/-! ## What the checks say -/

theorem Mode.ofText_eq_some {text : String} {mode : Mode} (h : ofText text = some mode) :
    mode.text = text := by
  unfold ofText at h
  have hname := List.find?_some h
  exact of_decide_eq_true hname

theorem Mode.ofText_text (mode : Mode) : ofText mode.text = some mode := by
  cases mode <;> decide

/-- **A run that calls a tool has passed the checks,** and makes the calls of its mode. -/
theorem flash_eq_ok {host : Host} {args : List String} {calls : List Call}
    (h : flash host args = .ok calls) :
    host.euid = 0 ∧ ∃ arch mode rompath rest, host.arch = some arch
      ∧ args = mode.text :: rompath :: rest ∧ host.isFile rompath = true
      ∧ checkTools host arch mode = none ∧ calls = mode.calls rompath := by
  unfold flash at h
  by_cases heuid : host.euid = 0
  · rw [if_neg (not_not_intro heuid)] at h
    cases harch : host.arch with
    | none => rw [harch] at h; cases h
    | some arch =>
      rw [harch] at h
      match args, h with
      | text :: rompath :: rest, h =>
        simp only at h
        cases hmode : Mode.ofText text with
        | none => rw [hmode] at h; cases h
        | some mode =>
          rw [hmode] at h
          simp only at h
          by_cases hfile : host.isFile rompath = true
          · rw [if_neg (not_not_intro hfile)] at h
            cases hcheck : checkTools host arch mode with
            | some message => rw [hcheck] at h; cases h
            | none =>
              rw [hcheck] at h
              cases h
              exact ⟨heuid, arch, mode, rompath, rest, rfl, by rw [Mode.ofText_eq_some hmode],
                hfile, hcheck, rfl⟩
          · rw [if_pos hfile] at h
            cases h
  · rw [if_pos heuid] at h
    cases h

theorem Mode.text_injective {mode mode' : Mode} (h : mode.text = mode'.text) : mode = mode' := by
  have hsame := mode.ofText_text
  rw [h, Mode.ofText_text] at hsame
  exact (Option.some.inj hsame).symm

/-- The calls of a run with the name of a mode. -/
theorem calls_of_flash {host : Host} {mode : Mode} {rompath : String} {rest : List String}
    {calls : List Call} (h : flash host (mode.text :: rompath :: rest) = .ok calls) :
    calls = mode.calls rompath := by
  obtain ⟨-, -, mode', rompath', rest', -, hargs, -, -, hcalls⟩ := flash_eq_ok h
  simp only [List.cons.injEq] at hargs
  obtain ⟨htext, rfl, -⟩ := hargs
  rw [hcalls, Mode.text_injective htext]

/-- A run with the arguments that a mode needs, where everything is in place. -/
theorem flash_of_ready {host : Host} {arch : String} {mode : Mode} {rompath : String}
    {rest : List String} (heuid : host.euid = 0) (harch : host.arch = some arch)
    (hfile : host.isFile rompath = true) (hcheck : checkTools host arch mode = none) :
    flash host (mode.text :: rompath :: rest) = .ok (mode.calls rompath) := by
  unfold flash
  rw [if_neg (not_not_intro heuid), harch]
  simp only [Mode.ofText_text]
  rw [if_neg (not_not_intro hfile), hcheck]

end Libreboot.Flash
