import Mathlib.Logic.Function.Basic
import Libreboot.Infra.Bytes

/-!
# Files through the C library

A run of a program changes named files and prints to the terminal. For every file the C library
may fail in the ways its manual allows, and the outcomes it picks are an argument (`CLib`):

* `remove` may fail and leave the old file;
* `fopen` may return no stream;
* `fwrite` may accept fewer bytes than it is given;
* the bytes it accepted may sit in a buffer, and only a prefix of them may reach the file when
  the stream is closed or the program exits.

A function that returns an `int` is a `CFun`. It has no status when it uses the null stream, where
C defines no behaviour.
-/

namespace Libreboot.Infra

/-! ## The world -/

/-- File contents by name. -/
abbrev Files := String → Option Bytes

structure World where
  files : Files
  stdout : List String

/-- What the C library does with one file. `none` stands for "all of it". -/
structure Outcome where
  removes : Bool
  opens : Bool
  accepts : Nat → Option Nat
  flushes : Option Nat

/-- The outcomes for every file of a run. -/
abbrev CLib := String → Outcome

/-- A C function that returns an `int`. -/
abbrev CFun := World → Option Nat × World

namespace World

def printf (text : String) (w : World) : World := { w with stdout := w.stdout ++ [text] }

/-- Every file has the same contents. -/
def holding (content : Bytes) : World := ⟨fun _ => some content, []⟩

/-- One `printf` after another. -/
def printAll (texts : List String) (w : World) : World := texts.foldl (fun w t => w.printf t) w

/-- The file `name` is absent (`none`) or has the given contents. -/
def setFile (name : String) (content : Option Bytes) (w : World) : World :=
  { w with files := Function.update w.files name content }

@[simp] theorem files_printf (text : String) (w : World) : (w.printf text).files = w.files := rfl

@[simp] theorem files_printAll (texts : List String) (w : World) :
    (w.printAll texts).files = w.files := by
  unfold printAll
  induction texts generalizing w with
  | nil => rfl
  | cons t ts ih => rw [List.foldl_cons, ih, files_printf]

@[simp] theorem files_setFile_self (name : String) (content : Option Bytes) (w : World) :
    (w.setFile name content).files name = content := Function.update_self _ _ _

theorem files_setFile_of_ne {name other : String} (h : other ≠ name) (content : Option Bytes)
    (w : World) : (w.setFile name content).files other = w.files other :=
  Function.update_of_ne h _ _

end World

/-! ## Outcomes -/

/-- At most `limit` of the bytes. -/
def upTo (limit : Option Nat) (l : Bytes) : Bytes :=
  match limit with
  | none => l
  | some n => l.take n

@[simp] theorem upTo_none (l : Bytes) : upTo none l = l := rfl

/-- The limit cuts something off. -/
def CutsOff (limit : Option Nat) (size : Nat) : Prop := ∃ n, limit = some n ∧ n < size

theorem not_cutsOff_none (size : Nat) : ¬ CutsOff none size := by
  rintro ⟨n, hn, -⟩
  cases hn

theorem upTo_of_not_cutsOff {limit : Option Nat} {l : Bytes} (h : ¬ CutsOff limit l.length) :
    upTo limit l = l := by
  cases limit with
  | none => rfl
  | some n =>
    have hn : l.length ≤ n := by
      by_contra hlt
      exact h ⟨n, rfl, by omega⟩
    exact List.take_of_length_le hn

theorem length_upTo_eq_iff {limit : Option Nat} {l : Bytes} :
    (upTo limit l).length = l.length ↔ ¬ CutsOff limit l.length := by
  constructor
  · rintro h ⟨n, rfl, hn⟩
    rw [upTo, List.length_take] at h
    omega
  · intro h
    rw [upTo_of_not_cutsOff h]

/-- Bytes in front of a cut copy give the whole only if they are what the cut leaves room for. -/
theorem append_upTo_eq_iff (start : Bytes) (limit : Option Nat) (l : Bytes) :
    start ++ upTo limit l = l ↔
      (start = [] ∧ ¬ CutsOff limit l.length)
        ∨ ∃ n, limit = some n ∧ n < l.length
            ∧ start = l.take (l.length - n) ∧ l.drop (l.length - n) = l.take n := by
  constructor
  · intro h
    have hlen := congrArg List.length h
    rw [List.length_append] at hlen
    by_cases hcut : CutsOff limit l.length
    · obtain ⟨n, rfl, hn⟩ := hcut
      rw [upTo, List.length_take] at hlen
      have hstart : start.length = l.length - n := by omega
      refine Or.inr ⟨n, rfl, hn, ?_, ?_⟩
      · rw [← hstart, ← h, List.take_left]
      · calc l.drop (l.length - n)
            = (start ++ upTo (some n) l).drop start.length := by rw [h, hstart]
          _ = l.take n := by rw [List.drop_left, upTo]
    · rw [upTo_of_not_cutsOff hcut] at hlen
      exact Or.inl ⟨List.eq_nil_of_length_eq_zero (by omega), hcut⟩
  · rintro (⟨rfl, hcut⟩ | ⟨n, rfl, -, hstart, hrest⟩)
    · rw [List.nil_append, upTo_of_not_cutsOff hcut]
    · rw [upTo, ← hrest, hstart, List.take_append_drop]

/-- Nothing fails. -/
structure Outcome.Reliable (o : Outcome) : Prop where
  removes : o.removes = true
  opens : o.opens = true
  accepts : ∀ k, o.accepts k = none
  flushes : o.flushes = none

/-- Only `fopen` and `fwrite` fail, and both tell their caller. -/
structure Outcome.NoSilentLoss (o : Outcome) : Prop where
  removes : o.removes = true
  flushes : o.flushes = none

theorem Outcome.Reliable.noSilentLoss {o : Outcome} (h : o.Reliable) : o.NoSilentLoss :=
  ⟨h.removes, h.flushes⟩

/-- The outcome in which nothing fails. -/
def Outcome.reliable : Outcome := ⟨true, true, fun _ => none, none⟩

/-- A C library that never fails. -/
def CLib.reliable : CLib := fun _ => Outcome.reliable

theorem CLib.reliable_reliable (name : String) : (CLib.reliable name).Reliable :=
  ⟨rfl, rfl, fun _ => rfl, rfl⟩

/-! ## Output -/

variable (lib : CLib)

def remove (name : String) (w : World) : World :=
  if (lib name).removes then w.setFile name none else w

/-- An open output stream: the file, its contents when opened and the bytes accepted since. -/
structure Stream where
  name : String
  start : Bytes
  accepted : Bytes
  calls : Nat

/-- `fopen (name, "ab")`: writes go behind what the file holds. -/
def fopenAppend (name : String) (w : World) : Option (Stream × World) :=
  if (lib name).opens then
    let start := (w.files name).getD []
    some (⟨name, start, [], 0⟩, w.setFile name (some start))
  else none

/-- `fopen (name, "w+")`: the file is emptied first. -/
def fopenTruncate (name : String) (w : World) : Option (Stream × World) :=
  if (lib name).opens then some (⟨name, [], [], 0⟩, w.setFile name (some [])) else none

/-- The number of bytes accepted, and the stream afterwards. -/
def fwrite (data : Bytes) (s : Stream) : Nat × Stream :=
  let taken := upTo ((lib s.name).accepts s.calls) data
  (taken.length, { s with accepted := s.accepted ++ taken, calls := s.calls + 1 })

def fprintf (text : String) (s : Stream) : Stream := (fwrite lib (ascii text) s).2

/-- The stream is flushed, by `fclose` or at program exit. -/
def fclose (s : Stream) (w : World) : World :=
  w.setFile s.name (some (s.start ++ upTo (lib s.name).flushes s.accepted))

/-! ## Input -/

/-- `fopen (name, "rb")`: the contents to read from. -/
def fopenRead (name : String) (w : World) : Option Bytes :=
  if (lib name).opens then w.files name else none

/-- `fread (buffer, 1, n, fp)` at a position: the number of bytes read, and the buffer. -/
def fread (content : Bytes) (position n : Nat) (buffer : Bytes) : Nat × Bytes :=
  let data := (content.drop position).take n
  (data.length, data ++ buffer.drop data.length)

/-- The call reports `n` bytes exactly if they are there. -/
theorem fread_fst_eq_iff (content : Bytes) (position n : Nat) (buffer : Bytes) :
    n = (fread content position n buffer).1 ↔ n ≤ (content.drop position).length := by
  rw [fread, List.length_take]
  omega

/-- A complete read leaves nothing of the old contents of the buffer. -/
theorem fread_snd_of_le {content : Bytes} {position n : Nat} {buffer : Bytes}
    (hbuffer : buffer.length = n) (h : n ≤ (content.drop position).length) :
    (fread content position n buffer).2 = (content.drop position).take n := by
  have hlen : ((content.drop position).take n).length = n := by
    rw [List.length_take]
    omega
  rw [fread, hlen, List.drop_of_length_le (show buffer.length ≤ n by omega), List.append_nil]

end Libreboot.Infra
