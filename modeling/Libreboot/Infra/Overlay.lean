import Libreboot.Infra.Bytes
import Libreboot.Infra.BitField

/-!
# C structs laid over memory

An `Overlay α` is the memory image of a C type: how a value of `α` is stored in `size` bytes and
how any `size` bytes are read as a value. Storing and reading are inverse to each other, so a
struct laid over a buffer is a bijective view of it.

Structs are built from their members by `seq`, left to right. Each member has to start at a
multiple of its alignment, which is the condition under which the compiler inserts no padding
of its own.
-/

namespace Libreboot.Infra

structure Overlay (α : Type) where
  size : Nat
  align : Nat
  encode : α → Bytes
  decode : Bytes → α
  length_encode : ∀ x, (encode x).length = size
  decode_encode_append : ∀ x rest, decode (encode x ++ rest) = x
  encode_decode : ∀ l : Bytes, size ≤ l.length → encode (decode l) = l.take size

namespace Overlay

variable {α β σ : Type}

attribute [simp] length_encode decode_encode_append

@[simp] theorem decode_encode (o : Overlay α) (x : α) : o.decode (o.encode x) = x := by
  have h := o.decode_encode_append x []
  rwa [List.append_nil] at h

/-- A buffer of the exact size is stored back unchanged. -/
theorem encode_decode_of_length (o : Overlay α) {l : Bytes} (h : l.length = o.size) :
    o.encode (o.decode l) = l := by
  rw [o.encode_decode l (by omega), List.take_of_length_le (by omega)]

theorem encode_injective (o : Overlay α) : Function.Injective o.encode := by
  intro x y h
  rw [← o.decode_encode x, h, o.decode_encode]

/-! ## Members -/

/-- An unsigned integer of `k` bytes. -/
def uint (k : Nat) : Overlay (BitVec (8 * k)) where
  size := k
  align := k
  encode v := leBytes k v.toNat
  decode l := BitVec.ofNat (8 * k) (leValue (l.take k))
  length_encode v := length_leBytes k v.toNat
  decode_encode_append v rest := by
    rw [List.take_left' (length_leBytes k _), leValue_leBytes]
    apply BitVec.eq_of_toNat_eq
    rw [BitVec.toNat_ofNat, Nat.mod_mod, Nat.mod_eq_of_lt v.isLt]
  encode_decode l h := by
    have hlen : (l.take k).length = k := by simp [h]
    have hlt := leValue_lt (l.take k)
    rw [hlen] at hlt
    rw [BitVec.toNat_ofNat, Nat.mod_eq_of_lt hlt]
    calc leBytes k (leValue (l.take k))
        = leBytes (l.take k).length (leValue (l.take k)) := by rw [hlen]
      _ = l.take k := leBytes_leValue _

/-- A record of bit-fields that fills `k` bytes. -/
def bitFields (fs : List BitField) (k : Nat)
    (h : BitField.tight fs 0 (8 * k) = true := by decide) : Overlay (Values fs) where
  size := k
  align := fs.foldl (fun a f => max a (f.unit / 8)) 1
  encode vs := leBytes k (BitField.pack fs 0 vs)
  decode l := BitField.unpack fs 0 (leValue (l.take k))
  length_encode vs := length_leBytes k _
  decode_encode_append vs rest := by
    rw [List.take_left' (length_leBytes k _), leValue_leBytes,
      Nat.mod_eq_of_lt (BitField.pack_lt h vs), BitField.unpack_pack]
  encode_decode l hl := by
    have hlen : (l.take k).length = k := by simp [hl]
    have hlt := leValue_lt (l.take k)
    rw [hlen] at hlt
    rw [BitField.pack_unpack h hlt]
    calc leBytes k (leValue (l.take k))
        = leBytes (l.take k).length (leValue (l.take k)) := by rw [hlen]
      _ = l.take k := leBytes_leValue _

/-- The next member behind the members of `a`. -/
def seq (a : Overlay α) (b : Overlay β) (_h : b.align ∣ a.size := by decide) :
    Overlay (α × β) where
  size := a.size + b.size
  align := max a.align b.align
  encode x := a.encode x.1 ++ b.encode x.2
  decode l := (a.decode l, b.decode (l.drop a.size))
  length_encode x := by simp
  decode_encode_append x rest := by
    rw [List.append_assoc, a.decode_encode_append, List.drop_left' (a.length_encode _),
      b.decode_encode_append]
  encode_decode l h := by
    rw [a.encode_decode l (by omega), b.encode_decode (l.drop a.size) (by simp; omega),
      List.take_add]

/-- The members together, seen as a struct. The struct fills whole units of its alignment. -/
def struct (o : Overlay α) (members : σ → α) (make : α → σ)
    (hm : ∀ s, make (members s) = s := by intro; rfl)
    (hm' : ∀ x, members (make x) = x := by intro; rfl)
    (_h : o.align ∣ o.size := by decide) : Overlay σ where
  size := o.size
  align := o.align
  encode s := o.encode (members s)
  decode l := make (o.decode l)
  length_encode s := o.length_encode _
  decode_encode_append s rest := by rw [o.decode_encode_append, hm]
  encode_decode l h := by rw [hm', o.encode_decode l h]

/-! ## Arrays -/

theorem length_flatMap_encode (o : Overlay α) (xs : List α) :
    (xs.flatMap o.encode).length = xs.length * o.size := by
  induction xs with
  | nil => simp
  | cons x xs ih =>
    rw [List.flatMap_cons, List.length_append, o.length_encode, ih, List.length_cons, Nat.succ_mul,
      Nat.add_comm]

/-- Element `i` of a stored array starts at `i * size`. -/
theorem decode_drop_flatMap_encode (o : Overlay α) (rest : Bytes) :
    ∀ (xs : List α) (i : Nat) (h : i < xs.length),
      o.decode ((xs.flatMap o.encode ++ rest).drop (i * o.size)) = xs[i]
  | x :: xs, 0, _ => by simp [List.append_assoc]
  | x :: xs, i + 1, h => by
    rw [List.flatMap_cons, List.append_assoc, Nat.succ_mul, Nat.add_comm, ← List.drop_drop,
      List.drop_left' (o.length_encode x), List.getElem_cons_succ]
    exact decode_drop_flatMap_encode o rest xs i (by simpa using h)

theorem flatMap_encode_decode_drop (o : Overlay α) : ∀ (n : Nat) (l : Bytes),
    n * o.size ≤ l.length →
    (List.ofFn fun i : Fin n => o.decode (l.drop (i * o.size))).flatMap o.encode
      = l.take (n * o.size)
  | 0, l, _ => by simp
  | n + 1, l, h => by
    rw [Nat.succ_mul] at h
    have hrest := flatMap_encode_decode_drop o n (l.drop o.size) (by simp; omega)
    have hshift : ∀ i : Fin n, l.drop ((i.succ : Nat) * o.size)
        = (l.drop o.size).drop (i * o.size) := by
      intro i
      rw [List.drop_drop, Fin.val_succ, Nat.succ_mul, Nat.add_comm]
    rw [List.ofFn_succ, List.flatMap_cons]
    simp only [hshift, hrest, Fin.val_zero, Nat.zero_mul, List.drop_zero]
    rw [o.encode_decode l (by omega), ← List.take_add, Nat.succ_mul, Nat.add_comm]

/-- The array `T name[n]`. -/
def array (o : Overlay α) (n : Nat) (_h : o.align ∣ o.size := by decide) :
    Overlay (Vector α n) where
  size := n * o.size
  align := o.align
  encode v := v.toList.flatMap o.encode
  decode l := Vector.ofFn fun i : Fin n => o.decode (l.drop (i * o.size))
  length_encode v := by rw [length_flatMap_encode, Vector.length_toList]
  decode_encode_append v rest := by
    apply Vector.ext
    intro i hi
    rw [Vector.getElem_ofFn, decode_drop_flatMap_encode o rest v.toList i (by simpa using hi),
      Vector.getElem_toList]
  encode_decode l h := by
    rw [Vector.toList_ofFn]
    exact flatMap_encode_decode_drop o n l h

/-- The bits of a stored record of bit-fields. -/
theorem bit_encode_bitFields {fs : List BitField} {k : Nat}
    (h : BitField.tight fs 0 (8 * k) = true) (vs : Values fs) {p : Nat} (hp : p < 8 * k) :
    bit ((bitFields fs k h).encode vs) p = (BitField.pack fs 0 vs).testBit p :=
  bit_leBytes k _ p hp

/-! ## Stored values -/

/-- The buffer holds `x` from byte `off` on. -/
def StoredAt (o : Overlay α) (l : Bytes) (off : Nat) (x : α) : Prop :=
  (l.drop off).take o.size = o.encode x

namespace StoredAt

variable {o : Overlay α} {a : Overlay α} {b : Overlay β} {l : Bytes} {off : Nat}

theorem encode (o : Overlay α) (x : α) : o.StoredAt (o.encode x) 0 x := by
  rw [StoredAt, List.drop_zero, List.take_of_length_le (by simp)]

theorem length_le {x : α} (h : o.StoredAt l off x) : o.size ≤ (l.drop off).length := by
  have hlen := congrArg List.length h
  rw [List.length_take, o.length_encode] at hlen
  omega

theorem decode {x : α} (h : o.StoredAt l off x) : o.decode (l.drop off) = x := by
  rw [← List.take_append_drop o.size (l.drop off), h, o.decode_encode_append]

/-- Whatever is read from a buffer is stored there. -/
theorem of_decode (h : o.size ≤ (l.drop off).length) :
    o.StoredAt l off (o.decode (l.drop off)) := by
  rw [StoredAt, o.encode_decode _ h]

/-- A member that is read from byte `k` of the struct is stored there. -/
theorem member {x : α} (hs : o.StoredAt l off x) (part : α → β) (k : Nat)
    (hpart : ∀ l, part (o.decode l) = b.decode (l.drop k) := by intro; rfl)
    (hend : k + b.size ≤ o.size := by decide) : b.StoredAt l (off + k) (part x) := by
  have hlen := hs.length_le
  rw [List.length_drop] at hlen
  rw [← hs.decode, hpart, List.drop_drop]
  exact of_decode (by rw [List.length_drop]; omega)

/-- Element `i` of an array. -/
theorem element {n : Nat} {h : o.align ∣ o.size} {v : Vector α n}
    (hs : (o.array n h).StoredAt l off v) (i : Fin n) :
    o.StoredAt l (off + i * o.size) (v.get i) :=
  hs.member (fun v => v.get i) (i * o.size) (fun _ => Vector.getElem_ofFn i.isLt) <| by
    rw [← Nat.succ_mul]
    exact Nat.mul_le_mul_right _ i.isLt

theorem members {h : o.align ∣ o.size} {f : σ → α} {g : α → σ} {hm : ∀ s, g (f s) = s}
    {hm' : ∀ x, f (g x) = x} {s : σ} (hs : (o.struct f g hm hm' h).StoredAt l off s) :
    o.StoredAt l off (f s) := hs

theorem left {h : b.align ∣ a.size} {x : α} {y : β}
    (hs : (a.seq b h).StoredAt l off (x, y)) : a.StoredAt l off x := by
  have hs : (l.drop off).take (a.size + b.size) = a.encode x ++ b.encode y := hs
  have hfirst : (a.encode x ++ b.encode y).take a.size = a.encode x :=
    List.take_left' (a.length_encode x)
  rw [StoredAt, ← hfirst, ← hs, List.take_take, Nat.min_eq_left (by omega)]

theorem right {h : b.align ∣ a.size} {x : α} {y : β}
    (hs : (a.seq b h).StoredAt l off (x, y)) : b.StoredAt l (off + a.size) y := by
  have hs : (l.drop off).take (a.size + b.size) = a.encode x ++ b.encode y := hs
  have hsecond : (a.encode x ++ b.encode y).drop a.size = b.encode y :=
    List.drop_left' (a.length_encode x)
  rw [StoredAt, ← hsecond, ← hs, List.drop_take, List.drop_drop, Nat.add_sub_cancel_left]

/-- A bit of the buffer is a bit of the value stored there. -/
theorem bit_eq {x : α} (h : o.StoredAt l off x) {p : Nat} (hlo : 8 * off ≤ p)
    (hhi : p < 8 * (off + o.size)) : bit l p = bit (o.encode x) (p - 8 * off) := by
  have hlen := h.length_le
  rw [List.length_drop] at hlen
  rw [← h]
  conv_lhs => rw [← List.take_append_drop off l]
  rw [bit_append_right (by simp; omega), List.length_take, Nat.min_eq_left (by omega),
    ← List.take_append_drop o.size (l.drop off), bit_append_left (by simp; omega),
    List.take_append_drop]

end StoredAt

/-! ## Frames -/

/--
Two values have the same stored bits when they are stored from byte `off` on, except where
`touched` allows a difference. The bits that `touched` speaks about are those of the buffer.
-/
def SameBits (o : Overlay α) (off : Nat) (touched : Nat → Prop) (x y : α) : Prop :=
  ∀ p, p < 8 * o.size → ¬ touched (8 * off + p) → bit (o.encode x) p = bit (o.encode y) p

namespace SameBits

variable {touched : Nat → Prop} {off : Nat}

theorem refl {o : Overlay α} {x : α} : o.SameBits off touched x x := fun _ _ _ => rfl

/-- Where every bit may differ, anything is allowed. -/
theorem of_touched {o : Overlay α} {x y : α} (h : ∀ p < 8 * o.size, touched (8 * off + p)) :
    o.SameBits off touched x y :=
  fun p hp ht => absurd (h p hp) ht

theorem mono {o : Overlay α} {t : Nat → Prop} {x y : α} (h : o.SameBits off t x y)
    (hsub : ∀ p, t p → touched p) : o.SameBits off touched x y :=
  fun p hp ht => h p hp fun hs => ht (hsub _ hs)

theorem struct {o : Overlay α} {h : o.align ∣ o.size} {f : σ → α} {g : α → σ}
    {hm : ∀ s, g (f s) = s} {hm' : ∀ x, f (g x) = x} {s s' : σ}
    (hs : o.SameBits off touched (f s) (f s')) :
    (o.struct f g hm hm' h).SameBits off touched s s' := hs

/-- A difference in a pair is a difference in one half, at the place where that half lies. -/
theorem seq {a : Overlay α} {b : Overlay β} {h : b.align ∣ a.size} {x x' : α} {y y' : β}
    (hx : a.SameBits off touched x x') (hy : b.SameBits (off + a.size) touched y y') :
    (a.seq b h).SameBits off touched (x, y) (x', y') := by
  intro p hp ht
  have hlx := a.length_encode x
  have hlx' := a.length_encode x'
  -- bit `p` of the pair is bit `p` of the first half, or comes that much later in the second
  show bit (a.encode x ++ b.encode y) p = bit (a.encode x' ++ b.encode y') p
  by_cases hlt : p < 8 * a.size
  · rw [bit_append_left (by omega), bit_append_left (by omega)]
    exact hx p hlt ht
  · rw [bit_append_right (by omega), bit_append_right (by omega), hlx, hlx']
    have hsize : (a.seq b h).size = a.size + b.size := rfl
    have hback : 8 * (off + a.size) + (p - 8 * a.size) = 8 * off + p := by omega
    exact hy (p - 8 * a.size) (by omega) (hback ▸ ht)

/-- A struct of bit-fields changes only in the bits of the members that change. -/
theorem bitFields {fs : List BitField} {k : Nat} {h : BitField.tight fs 0 (8 * k) = true}
    {vs vs' : Values fs}
    (hagree : ∀ p, ¬ touched (8 * off + p) → BitField.AgreeAt fs 0 vs vs' p) :
    (Overlay.bitFields fs k h).SameBits off touched vs vs' := by
  intro p hp ht
  rw [bit_encode_bitFields h vs hp, bit_encode_bitFields h vs' hp,
    BitField.testBit_pack_congr fs 0 vs vs' p (hagree p ht)]

end SameBits

end Overlay

end Libreboot.Infra
