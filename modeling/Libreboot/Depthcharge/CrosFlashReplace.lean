import Libreboot.Infra.Bytes
import Libreboot.Infra.Hex
import Libreboot.Infra.Shell
import Mathlib.Tactic.SplitIfs

/-!
# cros-flash-replace

The loop of `install/depthcharge/cros-flash-replace`. A requested part is looked up in the layout,
and the flash image is put together anew: a copy of what lies in front of the part, the file of the
part, a copy of what lies behind.

`grep` and the expansion of patterns are arguments, and no command fails for want of space or
rights. The flash image and the layout are files of their own, and the name of the flash image is a
plain word. The arithmetic of the shell is that of signed 64-bit numbers.

* `Setup.requested` — the checks that an argument has to pass
* `matchLine_text` — what is read from a line of the layout
* `requested_of_finds`, `assemble_eq` — what the checks say, and the new flash image
-/

namespace Libreboot.Depthcharge

open Infra Shell

/-! ## The layout -/

def isHexDigit (c : Char) : Bool := (Hex.digitValue c).isSome

/-- A character of a name: no blank of any kind, and of no meaning in a pattern. -/
def isNameChar (c : Char) : Bool := !isSpace c && !isPattern c

/-- A line `start:stop name`. The name is a plain word. -/
structure LayoutLine where
  start : Text
  stop : Text
  name : Text
  start_hex : ∀ c ∈ start, isHexDigit c = true
  stop_hex : ∀ c ∈ stop, isHexDigit c = true
  name_ne_nil : name ≠ []
  name_word : ∀ c ∈ name, isNameChar c = true

namespace LayoutLine

variable (line : LayoutLine)

def text : Text := line.start ++ ':' :: (line.stop ++ ' ' :: line.name)

/-- The first place of the part. -/
def first : Nat := Hex.value line.start

/-- Its last place. -/
def last : Nat := Hex.value line.stop

/-- The name of the file with the contents of the part. -/
def file : Text := line.name ++ ".img".toList

end LayoutLine

/-! ## The tools -/

/-- What `\([0-9a-fA-F]*\):\([0-9a-fA-F]*\)[[:space:]]*\(.*\)` finds, and what lies in front of it. -/
structure Match where
  front : Text
  start : Text
  stop : Text
  name : Text

/-- The first match in a line lies around the first colon and reaches to the end. -/
def matchLine (line : Text) : Option Match :=
  match line.dropWhile (· != ':') with
  | [] => none
  | _ :: rest =>
    let front := line.takeWhile (· != ':')
    some
      { front := front.rdropWhile isHexDigit
        start := front.rtakeWhile isHexDigit
        stop := rest.takeWhile isHexDigit
        name := (rest.dropWhile isHexDigit).dropWhile isSpace }

/-- One line of `sed "s/$regex/\group/g"`. -/
def sedLine (group : Match → Text) (line : Text) : Text :=
  match matchLine line with
  | none => line
  | some m => m.front ++ group m

/-- `$( echo "$range" | sed "s/$regex/\group/g" )` -/
def sed (group : Match → Text) (range : Text) : Text :=
  substitute (unlines ((range.splitOn '\n').map (sedLine group)))

/-- `$( printf "%d\n" "0x$digits" )`: the number that the text begins with, cut off at 63 bits. -/
def printfHex (digits : Text) : Nat := min (Hex.value (digits.takeWhile isHexDigit)) (2 ^ 63 - 1)

/-- The value of a shell expression. -/
def wrap64 (x : Int) : Int := (x + 2 ^ 63) % 2 ^ 64 - 2 ^ 63

def block : Int := 256

/-- `dd bs=$block skip=… count=…`, which refuses negative numbers. -/
def dd (input : Bytes) (skip count : Int) : Option Bytes :=
  if skip < 0 ∨ count < 0 then none
  else some ((input.drop (skip * block).toNat).take (count * block).toNat)

/-- `[ $size -ne $filesize ]`, which is false as well if there is not exactly one file size. -/
def sizeDiffers (size : Int) (filesize : List Nat) : Bool :=
  match filesize with
  | [filesize] => size ≠ filesize
  | _ => false

/-! ## The script -/

def beforeImg : Text := "before.img".toList

def afterImg : Text := "after.img".toList

/-- The files that are written. -/
structure State where
  flash : Bytes
  before : Option Bytes
  after : Option Bytes

/-- `before.img`: a copy, or the old file if nothing has to be copied. -/
def makeBefore (flash : Bytes) (start : Nat) (before : Option Bytes) : Option Bytes :=
  if start > 0 then (dd flash 0 ((start : Int).tdiv block)).or before else some (before.getD [])

/-- `after.img`, in the same way. -/
def makeAfter (flash : Bytes) (flashsize stop : Nat) (after : Option Bytes) : Option Bytes :=
  if wrap64 (stop + 1) < flashsize then
    let skip := (wrap64 (stop + 1)).tdiv block
    let count := (wrap64 (flashsize - stop - 1)).tdiv block
    (dd flash skip count).or after
  else some (after.getD [])

/-- The files that are only read, and what the tools find. -/
structure Setup where
  glob : Globbing
  grep : Text → List Text → List Text
  layout : List LayoutLine
  parts : Text → Option Bytes
  no_before : parts beforeImg = none
  no_after : parts afterImg = none

namespace Setup

variable (env : Setup)

/-- A file of the directory. -/
def file (s : State) (name : Text) : Option Bytes :=
  if name = beforeImg then s.before else if name = afterImg then s.after else env.parts name

/-- `$( grep "$image" "$layout" )` -/
def range (image : Text) : Text :=
  substitute (unlines (env.grep image (env.layout.map LayoutLine.text)))

/-- `"$name.img"` -/
def partFile (image : Text) : Text := sed Match.name (env.range image) ++ ".img".toList

/-- `$start` and `$stop`, if no check ends in `continue`. -/
def requested (flashsize : Nat) (image : Text) (s : State) : Option (Nat × Nat) :=
  let range := env.range image
  let file := env.partFile image
  if range = [] ∨ (env.file s file).isNone then none
  else
    let start := printfHex (sed Match.start range)
    let stop := printfHex (sed Match.stop range)
    let size := wrap64 (stop - start + 1)
    let filesize := ((env.glob.unquoted file).filterMap (env.file s)).map List.length
    if sizeDiffers size filesize then none
    else if size > flashsize then none
    else some (start, stop)

/-- What lies in front of the part and behind it, and the file in between. -/
def assemble (flashsize : Nat) (file : Text) (start stop : Nat) (s : State) : State :=
  let s := { s with before := makeBefore s.flash start s.before }
  let s := { s with after := makeAfter s.flash flashsize stop s.after }
  let images := (beforeImg :: env.glob.unquoted file ++ [afterImg]).filterMap (env.file s)
  { flash := images.flatten, before := none, after := none }

/-- The body of the loop. -/
def replaceImage (flashsize : Nat) (s : State) (image : Text) : State :=
  match env.requested flashsize image s with
  | none => s
  | some (start, stop) => env.assemble flashsize (env.partFile image) start stop s

/-- `for image in $@`, after the size of the flash image has been taken. -/
def replaceImages (args : List Text) (s : State) : State :=
  (args.flatMap env.glob.unquoted).foldl (env.replaceImage s.flash.length) s

end Setup

/-! ## Reading a line of the layout -/

theorem ne_colon_of_hexDigit {c : Char} (h : isHexDigit c = true) : (c != ':') = true := by
  rw [bne_iff_ne]
  rintro rfl
  exact absurd h (by decide)

theorem not_space_of_hexDigit {c : Char} (h : isHexDigit c = true) : isSpace c = false := by
  unfold isHexDigit Hex.digitValue at h
  unfold isSpace
  simp only at h
  have hspace : (c == ' ') = false := by
    rw [beq_eq_false_iff_ne]
    rintro rfl
    exact absurd h (by decide)
  rw [hspace, Bool.false_or, Bool.and_eq_false_iff, decide_eq_false_iff_not,
    decide_eq_false_iff_not]
  split_ifs at h <;> first | omega | cases h

theorem isNameChar_eq_true {c : Char} :
    isNameChar c = true ↔ isSpace c = false ∧ isPattern c = false := by
  rw [isNameChar, Bool.and_eq_true, Bool.not_eq_true', Bool.not_eq_true']

theorem not_blank_of_not_space {c : Char} (h : isSpace c = false) : isBlank c = false := by
  unfold isBlank
  rw [Bool.or_eq_false_iff, Bool.or_eq_false_iff]
  refine ⟨⟨?_, ?_⟩, ?_⟩ <;> rw [beq_eq_false_iff_ne] <;> rintro rfl <;> exact absurd h (by decide)

namespace LayoutLine

variable (line : LayoutLine)

theorem not_space_of_mem_name {c : Char} (hc : c ∈ line.name) : isSpace c = false :=
  (isNameChar_eq_true.mp (line.name_word c hc)).1

theorem name_plain : Plain line.name where
  ne_nil := line.name_ne_nil
  no_blank _ hc := not_blank_of_not_space (line.not_space_of_mem_name hc)
  no_pattern c hc := (isNameChar_eq_true.mp (line.name_word c hc)).2

theorem file_plain : Plain line.file :=
  line.name_plain.append ⟨by decide, by simp [isBlank], by simp [isPattern]⟩

/-- None of the fields has a newline. -/
theorem ne_newline_of_mem {c : Char}
    (h : c ∈ line.start ∨ c ∈ line.stop ∨ c ∈ line.name) : c ≠ '\n' := by
  rintro rfl
  have hspace : isSpace '\n' = false := by
    rcases h with h | h | h
    · exact not_space_of_hexDigit (line.start_hex _ h)
    · exact not_space_of_hexDigit (line.stop_hex _ h)
    · exact line.not_space_of_mem_name h
  exact absurd hspace (by decide)

theorem ne_newline_of_mem_text : ∀ c ∈ line.text, c ≠ '\n' := by
  intro c hc
  simp only [text, List.mem_append, List.mem_cons] at hc
  rcases hc with h | rfl | h | rfl | h
  · exact line.ne_newline_of_mem (Or.inl h)
  · decide
  · exact line.ne_newline_of_mem (Or.inr (Or.inl h))
  · decide
  · exact line.ne_newline_of_mem (Or.inr (Or.inr h))

/-- **The fields of a line are found.** -/
theorem matchLine_text : matchLine line.text = some ⟨[], line.start, line.stop, line.name⟩ := by
  have hcolon : ∀ c ∈ line.start, (c != ':') = true :=
    fun c hc => ne_colon_of_hexDigit (line.start_hex c hc)
  have hfront : line.text.takeWhile (· != ':') = line.start := by
    rw [text, List.takeWhile_append_of_pos hcolon, List.takeWhile_cons_of_neg (by decide),
      List.append_nil]
  have hrest : line.text.dropWhile (· != ':') = ':' :: (line.stop ++ ' ' :: line.name) := by
    rw [text, List.dropWhile_append_of_pos hcolon, List.dropWhile_cons_of_neg (by decide)]
  have hstop : (line.stop ++ ' ' :: line.name).takeWhile isHexDigit = line.stop := by
    rw [List.takeWhile_append_of_pos line.stop_hex, List.takeWhile_cons_of_neg (by decide),
      List.append_nil]
  have hname : ((line.stop ++ ' ' :: line.name).dropWhile isHexDigit).dropWhile isSpace
      = line.name := by
    rw [List.dropWhile_append_of_pos line.stop_hex, List.dropWhile_cons_of_neg (by decide),
      List.dropWhile_cons_of_pos (by decide), List.dropWhile_eq_self_iff]
    intro hlen
    rw [line.not_space_of_mem_name (List.getElem_mem hlen)]
    decide
  simp only [matchLine, hrest, hfront, hstop, hname, List.rdropWhile_eq_nil_iff.mpr line.start_hex,
    List.rtakeWhile_eq_self_iff.mpr line.start_hex]

theorem splitOn_text : line.text.splitOn '\n' = [line.text] :=
  List.splitOn_eq_singleton fun h => line.ne_newline_of_mem_text _ h rfl

/-- What `sed` makes of a single line. -/
theorem sed_text {group : Match → Text} {field : Text}
    (hgroup : group ⟨[], line.start, line.stop, line.name⟩ = field)
    (hfield : ∀ c ∈ field, c ∈ line.start ∨ c ∈ line.stop ∨ c ∈ line.name) :
    sed group line.text = field := by
  have hline : sedLine group line.text = field := by
    rw [sedLine, line.matchLine_text]
    exact hgroup
  rw [sed, line.splitOn_text, List.map_singleton, hline]
  exact substitute_unlines_singleton fun c hc => line.ne_newline_of_mem (hfield c hc)

theorem sed_start : sed Match.start line.text = line.start :=
  line.sed_text rfl fun _ hc => Or.inl hc

theorem sed_stop : sed Match.stop line.text = line.stop :=
  line.sed_text rfl fun _ hc => Or.inr (Or.inl hc)

theorem sed_name : sed Match.name line.text = line.name :=
  line.sed_text rfl fun _ hc => Or.inr (Or.inr hc)

theorem text_ne_nil : line.text ≠ [] := by
  unfold text
  exact List.append_ne_nil_of_right_ne_nil _ (List.cons_ne_nil _ _)

end LayoutLine

/-- The number in a field. -/
theorem printfHex_of_hex {digits : Text} (h : ∀ c ∈ digits, isHexDigit c = true) :
    printfHex digits = min (Hex.value digits) (2 ^ 63 - 1) := by
  rw [printfHex, List.takeWhile_eq_self_iff.mpr h]

/-! ## Arithmetic -/

theorem wrap64_eq {x : Int} (hlo : -2 ^ 63 ≤ x) (hhi : x < 2 ^ 63) : wrap64 x = x := by
  unfold wrap64
  omega

/-- Without a negative number, whole blocks are copied. -/
theorem dd_eq_some (input : Bytes) (skip count : Nat) :
    dd input ((skip : Int).tdiv block) ((count : Int).tdiv block)
      = some ((input.drop (skip / 256 * 256)).take (count / 256 * 256)) := by
  have hdiv : ∀ n : Nat, (n : Int).tdiv block = ((n / 256 : Nat) : Int) := by
    intro n
    rw [Int.tdiv_eq_ediv_of_nonneg (by omega)]
    rfl
  have hmul : ∀ n : Nat, ((n : Int) * block).toNat = n * 256 := by
    intro n
    unfold block
    omega
  rw [dd, hdiv, hdiv, if_neg (by omega), hmul, hmul]

/-- What lies in front of the part is written over the old file, up to a multiple of the block
size. -/
theorem makeBefore_of_pos {start : Nat} (hpos : 0 < start) (flash : Bytes)
    (before : Option Bytes) :
    makeBefore flash start before = some (flash.take (start / 256 * 256)) := by
  have hdd := dd_eq_some flash 0 start
  rw [Nat.zero_div, Nat.zero_mul, List.drop_zero] at hdd
  unfold makeBefore
  rw [if_pos hpos, show (0 : Int) = ((0 : Nat) : Int).tdiv block from rfl, hdd]
  rfl

/-- In front of the first byte, the old file is kept. -/
theorem makeBefore_zero (flash : Bytes) (before : Option Bytes) :
    makeBefore flash 0 before = some (before.getD []) := rfl

theorem makeBefore_none (flash : Bytes) (start : Nat) :
    makeBefore flash start none = some (flash.take (start / 256 * 256)) := by
  rcases Nat.eq_zero_or_pos start with rfl | hpos
  · rfl
  · exact makeBefore_of_pos hpos flash none

/-- What lies behind the part is written over the old file, from a multiple of the block size on. -/
theorem makeAfter_of_lt {flashsize stop : Nat} (hsize : flashsize < 2 ^ 63)
    (hlt : stop + 1 < flashsize) (flash : Bytes) (after : Option Bytes) :
    makeAfter flash flashsize stop after
      = some ((flash.drop ((stop + 1) / 256 * 256)).take ((flashsize - stop - 1) / 256 * 256)) := by
  have hnext : wrap64 (stop + 1) = ((stop + 1 : Nat) : Int) := by
    rw [wrap64_eq (by omega) (by omega)]
    omega
  have hrest : wrap64 (flashsize - stop - 1) = ((flashsize - stop - 1 : Nat) : Int) := by
    rw [wrap64_eq (by omega) (by omega)]
    omega
  unfold makeAfter
  rw [hnext, hrest, if_pos (by omega)]
  simp only [dd_eq_some]
  rfl

/-- Behind the last byte the old file is kept, also where the number of the next place wraps. -/
theorem makeAfter_of_le {flashsize stop : Nat} (hstop : stop < 2 ^ 63)
    (hle : flashsize ≤ stop + 1) (flash : Bytes) (after : Option Bytes) :
    (makeAfter flash flashsize stop after).getD [] = after.getD [] := by
  unfold makeAfter
  split
  · next h =>
    have hwrapped : wrap64 (stop + 1) = -2 ^ 63 := by
      unfold wrap64 at h ⊢
      omega
    have hskip : (wrap64 (stop + 1)).tdiv block < 0 := by
      rw [hwrapped]
      decide
    simp only
    rw [dd, if_pos (Or.inl hskip)]
    rfl
  · rfl

theorem getD_makeAfter_none (flash : Bytes) {flashsize stop : Nat} (hstop : stop < flashsize)
    (hsize : flashsize < 2 ^ 63) :
    (makeAfter flash flashsize stop none).getD []
      = (flash.drop ((stop + 1) / 256 * 256)).take ((flashsize - stop - 1) / 256 * 256) := by
  rcases Nat.lt_or_ge (stop + 1) flashsize with hlt | hle
  · rw [makeAfter_of_lt hsize hlt]
    rfl
  · rw [makeAfter_of_le (by omega) hle, show flashsize - stop - 1 = 0 by omega, Nat.zero_div,
      Nat.zero_mul, List.take_zero]
    rfl

theorem flatten_filterMap_cons {α β : Type} (f : α → Option (List β)) (a : α) (l : List α) :
    ((a :: l).filterMap f).flatten = (f a).getD [] ++ (l.filterMap f).flatten := by
  rw [List.filterMap_cons]
  cases f a with
  | none => rfl
  | some b => rfl

/-! ## The loop body -/

/-- The size of a part, as the shell computes it. -/
def LayoutLine.size (line : LayoutLine) : Int :=
  wrap64 (printfHex line.stop - printfHex line.start + 1)

namespace Setup

variable (env : Setup)

/-- `grep` finds this line and no other. -/
def Finds (image : Text) (line : LayoutLine) : Prop :=
  env.grep image (env.layout.map LayoutLine.text) = [line.text]

instance (image : Text) (line : LayoutLine) : Decidable (env.Finds image line) :=
  inferInstanceAs (Decidable (_ = _))

/-- The file of a part is missing, or its size is not the one expected, or it is too big. -/
def Refuses (flashsize : Nat) (line : LayoutLine) : Prop :=
  ∀ content, env.parts line.file = some content →
    line.size ≠ content.length ∨ flashsize < line.size

variable {env} {image : Text} {line : LayoutLine} {flashsize start stop : Nat} {s : State}

theorem range_of_finds (h : env.Finds image line) : env.range image = line.text := by
  rw [range, h]
  exact substitute_unlines_singleton line.ne_newline_of_mem_text

theorem partFile_of_finds (h : env.Finds image line) : env.partFile image = line.file := by
  rw [partFile, range_of_finds h, line.sed_name]
  rfl

/-! ### Files -/

/-- Without leftovers, a file is one of those that are only read. -/
theorem file_of_clean (hbefore : s.before = none) (hafter : s.after = none) (name : Text) :
    env.file s name = env.parts name := by
  unfold file
  split
  · next h => rw [h, hbefore, env.no_before]
  · split
    · next h => rw [h, hafter, env.no_after]
    · rfl

theorem file_of_ne {name : Text} (h : name ≠ beforeImg ∧ name ≠ afterImg) (s : State) :
    env.file s name = env.parts name := by
  rw [file, if_neg h.1, if_neg h.2]

/-- A file that exists without leftovers is none of the temporary ones. -/
theorem name_ne_of_parts {name : Text} {content : Bytes} (h : env.parts name = some content) :
    name ≠ beforeImg ∧ name ≠ afterImg := by
  constructor
  · rintro rfl
    rw [env.no_before] at h
    cases h
  · rintro rfl
    rw [env.no_after] at h
    cases h

theorem filterMap_file {file : Text}
    (h : ∀ name ∈ env.glob.unquoted file, name ≠ beforeImg ∧ name ≠ afterImg) (s : State) :
    (env.glob.unquoted file).filterMap (env.file s)
      = (env.glob.unquoted file).filterMap env.parts :=
  List.filterMap_congr fun name hname => file_of_ne (h name hname) s

/-! ### The checks and the new image -/

/-- The checks, if only one line is found and its file exists. -/
theorem requested_of_finds {content : Bytes} (h : env.Finds image line)
    (hcontent : env.parts line.file = some content) (s : State) :
    env.requested flashsize image s =
      if line.size ≠ content.length ∨ flashsize < line.size then none
      else some (printfHex line.start, printfHex line.stop) := by
  have hfile : env.file s line.file = some content := by
    rw [file_of_ne (name_ne_of_parts hcontent), hcontent]
  have hsize : ((env.glob.unquoted line.file).filterMap (env.file s)).map List.length
      = [content.length] := by
    rw [unquoted_plain _ line.file_plain]
    simp only [List.filterMap_cons, hfile, List.filterMap_nil, List.map_cons, List.map_nil]
  simp only [requested, range_of_finds h, partFile_of_finds h, hsize, hfile,
    line.sed_start, line.sed_stop, line.text_ne_nil, Option.isNone_some, Bool.false_eq_true,
    or_self, if_false, sizeDiffers]
  change (if decide (line.size ≠ content.length) = true then none else
    if line.size > flashsize then none else _) = _
  by_cases hne : line.size ≠ content.length
  · rw [if_pos (decide_eq_true hne), if_pos (Or.inl hne)]
  · rw [if_neg (by rwa [decide_eq_true_eq])]
    by_cases hbig : line.size > flashsize
    · rw [if_pos hbig, if_pos (Or.inr hbig)]
    · rw [if_neg hbig, if_neg (not_or.mpr ⟨hne, hbig⟩)]

/-- Without a file, nothing is done. -/
theorem requested_of_missing
    (h : env.range image = [] ∨ env.file s (env.partFile image) = none) :
    env.requested flashsize image s = none := by
  unfold requested
  rw [if_pos (h.imp_right Option.isNone_iff_eq_none.mpr)]

/-- The number of the last place is no greater than the shell can have. -/
theorem requested_lt (h : env.requested flashsize image s = some (start, stop)) :
    stop < 2 ^ 63 := by
  have hprintf : ∀ digits, printfHex digits < 2 ^ 63 := by
    intro digits
    unfold printfHex
    omega
  unfold requested at h
  simp only at h
  split_ifs at h
  rw [Option.some.injEq, Prod.mk.injEq] at h
  rw [← h.2]
  exact hprintf _

/-- **The two copies, with the file of the part in between.** -/
theorem assemble_eq {file : Text}
    (h : ∀ name ∈ env.glob.unquoted file, name ≠ beforeImg ∧ name ≠ afterImg)
    (flashsize start stop : Nat) (s : State) :
    env.assemble flashsize file start stop s =
      { flash := (makeBefore s.flash start s.before).getD []
          ++ ((env.glob.unquoted file).filterMap env.parts).flatten
          ++ (makeAfter s.flash flashsize stop s.after).getD []
        before := none
        after := none } := by
  generalize hbefore : makeBefore s.flash start s.before = before
  generalize hafter : makeAfter s.flash flashsize stop s.after = after
  have hfront : ∀ (before after : Option Bytes) (flash : Bytes),
      env.file ⟨flash, before, after⟩ beforeImg = before := fun _ _ _ => if_pos rfl
  have hback : ∀ (before after : Option Bytes) (flash : Bytes),
      env.file ⟨flash, before, after⟩ afterImg = after := fun _ _ _ =>
    (if_neg (by decide)).trans (if_pos rfl)
  unfold assemble
  simp only [hbefore, hafter, List.filterMap_append, List.flatten_append, flatten_filterMap_cons,
    List.filterMap_nil, List.flatten_nil, List.append_nil, hfront, hback, filterMap_file h]

/-- Without leftovers, the new image is made of the old one and the part. -/
theorem assemble_of_clean {content : Bytes} (hbefore : s.before = none) (hafter : s.after = none)
    (hcontent : env.parts line.file = some content) (hstop : stop < flashsize)
    (hsize : flashsize < 2 ^ 63) (start : Nat) :
    env.assemble flashsize line.file start stop s =
      { flash := s.flash.take (start / 256 * 256) ++ content
          ++ (s.flash.drop ((stop + 1) / 256 * 256)).take ((flashsize - stop - 1) / 256 * 256)
        before := none
        after := none } := by
  have hname := name_ne_of_parts hcontent
  have hwords := unquoted_plain env.glob line.file_plain
  rw [assemble_eq (by rw [hwords]; simpa using hname), hbefore, hafter, makeBefore_none,
    getD_makeAfter_none _ hstop hsize, hwords, flatten_filterMap_cons, hcontent]
  simp

/-- Words that do nothing. -/
theorem foldl_replaceImage_eq_self {words : List Text}
    (h : ∀ word ∈ words, env.replaceImage flashsize s word = s) :
    words.foldl (env.replaceImage flashsize) s = s := by
  induction words with
  | nil => rfl
  | cons word words ih =>
    rw [List.foldl_cons, h word List.mem_cons_self]
    exact ih fun w hw => h w (List.mem_cons_of_mem _ hw)

end Setup

end Libreboot.Depthcharge
