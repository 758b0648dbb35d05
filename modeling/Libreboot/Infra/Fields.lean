import Libreboot.Infra.Overlay

/-!
# The fields of a struct

A struct laid over memory shows it as fields, and every field is a range of bits. `Fields o` lists
the fields of an overlay from the first bit to the last, each with its place and its value. It is
built with the overlay, by one combinator for each of the overlay's own.

* `Fields.covered` — every bit belongs to exactly one field
* `Fields.bit_encode` — a field of a value is its range of bits in memory
* `Fields.assigned` — every choice of values for the fields is one value of the struct
-/

namespace Libreboot.Infra

variable {σ τ α β : Type}

/-- A range of bits and what a value shows there. -/
structure Field (σ : Type) where
  start : Nat
  width : Nat
  value : σ → BitVec width

namespace Field

/-- Bit `p` belongs to the field. -/
def Covers (f : Field σ) (p : Nat) : Prop := f.start ≤ p ∧ p < f.start + f.width

/-- A field of a part that starts at bit `off`. -/
def inside (part : σ → τ) (off : Nat) (f : Field τ) : Field σ where
  start := off + f.start
  width := f.width
  value s := f.value (part s)

/-- Each field starts where the one in front of it ends, from bit `i` up to bit `n`. -/
def Tile : List (Field σ) → Nat → Nat → Prop
  | [], i, n => i = n
  | f :: fs, i, n => f.start = i ∧ Tile fs (i + f.width) n

namespace Tile

theorem append : ∀ {as bs : List (Field σ)} {i j n : Nat}, Tile as i j → Tile bs j n →
    Tile (as ++ bs) i n
  | [], _, _, _, _, rfl, hb => hb
  | _ :: _, _, _, _, _, ⟨hstart, hrest⟩, hb => ⟨hstart, hrest.append hb⟩

theorem inside (part : σ → τ) (off : Nat) : ∀ {fs : List (Field τ)} {i n : Nat}, Tile fs i n →
    Tile (fs.map (Field.inside part off)) (off + i) (off + n)
  | [], _, _, rfl => rfl
  | f :: fs, i, n, ⟨hstart, hrest⟩ => by
    refine ⟨congrArg (off + ·) hstart, ?_⟩
    have h := inside part off hrest
    rwa [← Nat.add_assoc] at h

/-- A part that starts where the whole does. -/
theorem inside_zero (part : σ → τ) {fs : List (Field τ)} {i n : Nat} (h : Tile fs i n) :
    Tile (fs.map (Field.inside part 0)) i n := by
  have htile := h.inside part 0
  rwa [Nat.zero_add, Nat.zero_add] at htile

theorem le : ∀ {fs : List (Field σ)} {i n : Nat}, Tile fs i n → i ≤ n
  | [], _, _, rfl => Nat.le_refl _
  | _ :: _, _, _, ⟨_, hrest⟩ => by
    have h := hrest.le
    omega

/-- Every field lies between the first bit and the last. -/
theorem bounds : ∀ {fs : List (Field σ)} {i n : Nat}, Tile fs i n → ∀ f ∈ fs,
    i ≤ f.start ∧ f.start + f.width ≤ n
  | f :: fs, i, n, ⟨hstart, hrest⟩, g, hg => by
    have hle := hrest.le
    rcases List.mem_cons.mp hg with rfl | hg
    · omega
    · have h := hrest.bounds g hg
      omega

/-- **Every bit belongs to exactly one field.** -/
theorem covered : ∀ {fs : List (Field σ)} {i n : Nat}, Tile fs i n → ∀ {p : Nat}, i ≤ p → p < n →
    ∃! k : Fin fs.length, fs[k].Covers p
  | [], _, _, rfl, p, hp, hn => by omega
  | f :: fs, i, n, ⟨hstart, hrest⟩, p, hp, hn => by
    -- the fields behind `f` start where it ends, so that a bit of `f` is in none of them
    by_cases hf : p < i + f.width
    · refine ⟨⟨0, by simp⟩, ⟨by simpa [hstart] using hp, by simpa [hstart] using hf⟩, ?_⟩
      rintro ⟨k, hk⟩ hcover
      cases k with
      | zero => rfl
      | succ k =>
        have hlt : k < fs.length := Nat.lt_of_succ_lt_succ hk
        have h := (hrest.bounds fs[k] (List.getElem_mem hlt)).1
        have h' := hcover.1
        simp only [Fin.getElem_fin, List.getElem_cons_succ] at h'
        omega
    · obtain ⟨k, hcover, hunique⟩ := hrest.covered (p := p) (by omega) hn
      refine ⟨k.succ, by simpa using hcover, ?_⟩
      rintro ⟨j, hj⟩ hcover'
      cases j with
      | zero =>
        have h' := hcover'.2
        simp only [Fin.getElem_fin, List.getElem_cons_zero, hstart] at h'
        omega
      | succ j =>
        have h := hunique ⟨j, by simpa using hj⟩ (by simpa using hcover')
        exact congrArg Fin.succ h

end Tile

end Field

/--
The fields of an overlay: they fill its memory without a gap, and each shows the bits at its
place.
-/
structure Fields (o : Overlay σ) where
  list : List (Field σ)
  tile : Field.Tile list 0 (8 * o.size)
  reads : ∀ f ∈ list, ∀ l : Bytes, o.size ≤ l.length → ∀ j < f.width,
    (f.value (o.decode l)).getLsbD j = bit l (f.start + j)

namespace Fields

/-! ## The fields of a part -/

/-- The bits of a part are found where the part is. -/
theorem reads_inside {a : Overlay α} (fa : Fields a) (part : σ → α) {x : σ} {l : Bytes} {k : Nat}
    (hx : part x = a.decode (l.drop k)) (hlen : k + a.size ≤ l.length) :
    ∀ f ∈ fa.list.map (Field.inside part (8 * k)), ∀ j < f.width,
      (f.value x).getLsbD j = bit l (f.start + j) := by
  intro f hf j hj
  obtain ⟨g, hg, rfl⟩ := List.mem_map.mp hf
  show (g.value (part x)).getLsbD j = bit l (8 * k + g.start + j)
  rw [hx, fa.reads g hg _ (by simp; omega) j hj, bit_drop, Nat.add_assoc]

/-- An unsigned integer is one field. -/
def uint (k : Nat) : Fields (.uint k) where
  list := [⟨0, 8 * k, id⟩]
  tile := ⟨rfl, Nat.zero_add _⟩
  reads := by
    intro f hf l hlen j hj
    obtain rfl := List.mem_singleton.mp hf
    have hlen : k ≤ l.length := hlen
    show (BitVec.ofNat (8 * k) (leValue (l.take k))).getLsbD j = bit l (0 + j)
    have hj : j < 8 * k := hj
    rw [BitVec.getLsbD_ofNat, testBit_leValue_take hlen hj, Nat.zero_add]
    simp only [hj, decide_true, Bool.true_and]

/-- The members of a record of bit-fields that starts at bit `off`. -/
def ofBitFields : (fs : List BitField) → Nat → List (Field (Values fs))
  | [], _ => []
  | f :: fs, off =>
    ⟨f.place off, f.width, Prod.fst⟩
      :: (ofBitFields fs (f.place off + f.width)).map (Field.inside Prod.snd 0)

theorem tile_ofBitFields : ∀ (fs : List BitField) (off n : Nat), BitField.tight fs off n = true →
    Field.Tile (ofBitFields fs off) off n
  | [], _, _, h => eq_of_beq h
  | f :: fs, off, n, h => by
    simp only [BitField.tight, Bool.and_eq_true, beq_iff_eq] at h
    obtain ⟨hplace, htight⟩ := h
    refine ⟨hplace, ?_⟩
    rw [hplace]
    exact (tile_ofBitFields fs _ n htight).inside_zero Prod.snd

/-- A member that is read from a word is its bits of that word. -/
theorem reads_ofBitFields : ∀ (fs : List BitField) (off w : Nat), ∀ f ∈ ofBitFields fs off,
    ∀ j < f.width, (f.value (BitField.unpack fs off w)).getLsbD j = w.testBit (f.start + j)
  | f :: fs, off, w, g, hg, j, hj => by
    rcases List.mem_cons.mp hg with rfl | hg
    · show (BitVec.ofNat f.width (w >>> f.place off)).getLsbD j = w.testBit (f.place off + j)
      have hj : j < f.width := hj
      rw [BitVec.getLsbD_ofNat, Nat.testBit_shiftRight]
      simp only [hj, decide_true, Bool.true_and]
    · obtain ⟨g', hg', rfl⟩ := List.mem_map.mp hg
      show _ = w.testBit (0 + g'.start + j)
      rw [Nat.zero_add]
      exact reads_ofBitFields fs _ w g' hg' j hj

/-- The members of a struct of bit-fields. -/
def bitFields {fs : List BitField} {k : Nat} {h : BitField.tight fs 0 (8 * k) = true} :
    Fields (.bitFields fs k h) where
  list := ofBitFields fs 0
  tile := tile_ofBitFields fs 0 _ h
  reads := by
    intro f hf l hlen j hj
    have hlen : k ≤ l.length := hlen
    have hend := ((tile_ofBitFields fs 0 _ h).bounds f hf).2
    show (f.value (BitField.unpack fs 0 (leValue (l.take k)))).getLsbD j = _
    rw [reads_ofBitFields fs 0 _ f hf j hj, testBit_leValue_take hlen (by omega)]

/-- The fields of `a`, and behind them the fields of `b`. -/
def seq {a : Overlay α} {b : Overlay β} {h : b.align ∣ a.size} (fa : Fields a) (fb : Fields b) :
    Fields (a.seq b h) where
  list := fa.list.map (Field.inside Prod.fst (8 * 0))
    ++ fb.list.map (Field.inside Prod.snd (8 * a.size))
  tile := by
    have hsize : (a.seq b h).size = a.size + b.size := rfl
    have hsecond := fb.tile.inside (σ := α × β) Prod.snd (8 * a.size)
    rw [Nat.add_zero, ← Nat.mul_add, ← hsize] at hsecond
    exact (fa.tile.inside_zero Prod.fst).append hsecond
  reads := by
    intro f hf l hlen
    have hlen : a.size + b.size ≤ l.length := hlen
    rcases List.mem_append.mp hf with hf | hf
    · exact fa.reads_inside Prod.fst (x := (a.seq b h).decode l) rfl (by omega) f hf
    · exact fb.reads_inside Prod.snd (x := (a.seq b h).decode l) rfl hlen f hf

/-- The fields of the members are the fields of the struct. -/
def struct {o : Overlay α} {members : σ → α} {make : α → σ} {hm : ∀ s, make (members s) = s}
    {hm' : ∀ x, members (make x) = x} {h : o.align ∣ o.size} (fo : Fields o) :
    Fields (o.struct members make hm hm' h) where
  list := fo.list.map (Field.inside members (8 * 0))
  tile := fo.tile.inside_zero members
  reads := by
    intro f hf l hlen
    have hzero : 0 + o.size ≤ l.length := by rw [Nat.zero_add]; exact hlen
    exact fo.reads_inside members (x := make (o.decode l)) (by rw [hm', List.drop_zero]) hzero f hf

/-- The ranges of equal parts, one behind the other. -/
theorem tile_flatMap {w : Nat} : ∀ {n : Nat} (g : Fin n → List (Field σ)),
    (∀ i, Field.Tile (g i) (8 * (i * w)) (8 * (i * w) + 8 * w)) →
    Field.Tile ((List.finRange n).flatMap g) 0 (8 * (n * w))
  | 0, _, _ => by simp [Field.Tile]
  | n + 1, g, h => by
    have hinit := tile_flatMap (fun i : Fin n => g i.castSucc) fun i => h i.castSucc
    have hlast := h (Fin.last n)
    rw [Fin.val_last, ← Nat.mul_add, ← Nat.succ_mul] at hlast
    rw [List.finRange_succ_last, List.flatMap_append, List.flatMap_map, List.flatMap_singleton]
    exact hinit.append hlast

/-- The fields of the elements, in order. -/
def array {o : Overlay α} {n : Nat} {h : o.align ∣ o.size} (fo : Fields o) :
    Fields (o.array n h) where
  list := (List.finRange n).flatMap fun i =>
    fo.list.map (Field.inside (fun v : Vector α n => v.get i) (8 * (i * o.size)))
  tile := tile_flatMap _ fun i => fo.tile.inside _ _
  reads := by
    intro f hf l hlen
    obtain ⟨i, -, hf⟩ := List.mem_flatMap.mp hf
    have hlen : n * o.size ≤ l.length := hlen
    have helement : ((o.array n h).decode l).get i = o.decode (l.drop (i * o.size)) :=
      Vector.getElem_ofFn i.isLt
    have hend : i * o.size + o.size ≤ l.length := by
      rw [← Nat.succ_mul]
      exact Nat.le_trans (Nat.mul_le_mul_right _ i.isLt) hlen
    exact fo.reads_inside (fun v : Vector α n => v.get i) helement hend f hf

/-- The same fields under the names that the struct gives them. -/
def named {o : Overlay σ} (fo : Fields o) (list : List (Field σ))
    (h : fo.list = list := by rfl) : Fields o where
  list := list
  tile := h ▸ fo.tile
  reads := h ▸ fo.reads

/-! ## What the fields say about the overlay -/

section Codec

variable {o : Overlay σ} (fo : Fields o)

/-- **A field of a value is its range of bits.** -/
theorem bit_encode (s : σ) {f : Field σ} (hf : f ∈ fo.list) {j : Nat} (hj : j < f.width) :
    bit (o.encode s) (f.start + j) = (f.value s).getLsbD j := by
  rw [← fo.reads f hf (o.encode s) (by simp) j hj, o.decode_encode]

/-- A member of one bit. -/
theorem bit_flag (s : σ) {k : Nat} (flag : σ → BitVec 1) (h : ⟨k, 1, flag⟩ ∈ fo.list) :
    bit (o.encode s) k = (flag s).getLsbD 0 :=
  fo.bit_encode s (f := ⟨k, 1, flag⟩) h (j := 0) Nat.zero_lt_one

theorem covered {p : Nat} (hp : p < 8 * o.size) : ∃! k : Fin fo.list.length, fo.list[k].Covers p :=
  fo.tile.covered (Nat.zero_le p) hp

/-- A value is determined by its fields. -/
theorem ext {x y : σ} (h : ∀ f ∈ fo.list, f.value x = f.value y) : x = y := by
  apply o.encode_injective
  apply eq_of_bit_eq (by simp)
  intro p hp
  rw [o.length_encode] at hp
  obtain ⟨k, ⟨hlo, hhi⟩, -⟩ := fo.covered hp
  have hmem : fo.list[k] ∈ fo.list := List.getElem_mem _
  have hp : p = fo.list[k].start + (p - fo.list[k].start) := by omega
  rw [hp, fo.bit_encode x hmem (by omega), fo.bit_encode y hmem (by omega), h _ hmem]

/-- The memory in which bit `p` is `b p`. -/
theorem exists_bit_eq (n : Nat) (b : Nat → Bool) :
    ∃ l : Bytes, l.length = n ∧ ∀ p < 8 * n, bit l p = b p := by
  refine ⟨leBytes n (Nat.ofBits fun p : Fin (8 * n) => b p), length_leBytes n _, fun p hp => ?_⟩
  rw [bit_leBytes n _ p hp, Nat.testBit_ofBits_lt _ _ hp]

/-- **Every choice of values for the fields is one value of the struct.** -/
theorem assigned (v : (k : Fin fo.list.length) → BitVec fo.list[k].width) :
    ∃! s, ∀ k, fo.list[k].value s = v k := by
  classical
  -- each bit is taken from the value chosen for the field that it belongs to
  obtain ⟨l, hlen, hbits⟩ := exists_bit_eq o.size fun p =>
    if h : ∃ i : Fin fo.list.length, fo.list[i].Covers p then
      (v h.choose).getLsbD (p - fo.list[h.choose].start)
    else false
  have hread : ∀ k, fo.list[k].value (o.decode l) = v k := by
    intro k
    have hmem : fo.list[k] ∈ fo.list := List.getElem_mem _
    have hend := (fo.tile.bounds _ hmem).2
    apply BitVec.eq_of_getLsbD_eq
    intro j hj
    have hp : fo.list[k].start + j < 8 * o.size := by omega
    have hcover : fo.list[k].Covers (fo.list[k].start + j) := ⟨by omega, by omega⟩
    have hex : ∃ i : Fin fo.list.length, fo.list[i].Covers (fo.list[k].start + j) := ⟨k, hcover⟩
    have hk : hex.choose = k := (fo.covered hp).unique hex.choose_spec hcover
    have hchosen : ∀ i, i = k →
        (v i).getLsbD (fo.list[k].start + j - fo.list[i].start) = (v k).getLsbD j := by
      rintro i rfl
      rw [Nat.add_sub_cancel_left]
    rw [fo.reads _ hmem l (by omega) j hj, hbits _ hp, dif_pos hex, hchosen _ hk]
  refine ⟨o.decode l, hread, fun s hs => fo.ext fun f hf => ?_⟩
  obtain ⟨k, hk, rfl⟩ := List.mem_iff_getElem.mp hf
  exact (hs ⟨k, hk⟩).trans (hread ⟨k, hk⟩).symm

end Codec

end Fields

/--
An overlay that is a bijective codec of its memory, in terms of its fields: nothing is lost in
either direction, no two fields share a bit, and no bit is left out.
-/
structure BijectiveCodec (o : Overlay σ) (fields : List (Field σ)) : Prop where
  write_read : ∀ l : Bytes, l.length = o.size → o.encode (o.decode l) = l
  read_write : ∀ s, o.decode (o.encode s) = s
  unshared : ∀ p < 8 * o.size, ∃! k : Fin fields.length, fields[k].Covers p
  inMemory : ∀ f ∈ fields, f.start + f.width ≤ 8 * o.size
  bits : ∀ s, ∀ f ∈ fields, ∀ j < f.width,
    bit (o.encode s) (f.start + j) = (f.value s).getLsbD j
  assigned : ∀ v : (k : Fin fields.length) → BitVec fields[k].width,
    ∃! s, ∀ k, fields[k].value s = v k

theorem Fields.bijectiveCodec {o : Overlay σ} (fo : Fields o) : BijectiveCodec o fo.list where
  write_read _ h := o.encode_decode_of_length h
  read_write := o.decode_encode
  unshared _ hp := fo.covered hp
  inMemory f hf := (fo.tile.bounds f hf).2
  bits s _ hf _ hj := fo.bit_encode s hf hj
  assigned := fo.assigned

end Libreboot.Infra
