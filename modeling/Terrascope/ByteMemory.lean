import Mathlib.Data.List.Basic
import Mathlib.Data.Nat.Basic
import Mathlib.Tactic.Linarith

/-!
# Byte memory and little-endian words

A C object read and written through byte offsets is a memory of bytes.
Two accesses interact only through the bytes they share: reading back what
was written gives what was written (`read_write_self`), and an access to a
disjoint range sees nothing of it (`read_write_of_disjoint`). Words are
stored least significant byte first.
-/

/-- **A memory of bytes**, addressed from the start of the object. -/
abbrev ByteMemory : Type := ℕ → UInt8

namespace ByteMemory

/-- The `len` bytes from `off` on. -/
def read (m : ByteMemory) (off len : ℕ) : List UInt8 :=
  (List.range len).map (fun i => m (off + i))

/-- Bytes copied to the range that starts at `off`. -/
def write (m : ByteMemory) (off : ℕ) (bs : List UInt8) : ByteMemory :=
  fun a => if off ≤ a then (bs[a - off]?).getD (m a) else m a

@[simp] theorem length_read (m : ByteMemory) (off len : ℕ) :
    (m.read off len).length = len := by
  rw [read, List.length_map, List.length_range]

/-- **A write is read back.** -/
theorem read_write_self (m : ByteMemory) (off : ℕ) (bs : List UInt8) :
    (m.write off bs).read off bs.length = bs := by
  refine List.ext_getElem (length_read _ _ _) (fun i h₁ h₂ => ?_)
  simp only [read, List.getElem_map, List.getElem_range, write,
    Nat.le_add_right, ite_true, Nat.add_sub_cancel_left]
  rw [List.getElem?_eq_getElem h₂, Option.getD_some]

/-- **A write changes nothing exactly when the bytes are there already.** -/
theorem write_eq_self_iff (m : ByteMemory) (off : ℕ) (bs : List UInt8) :
    m.write off bs = m ↔ m.read off bs.length = bs := by
  constructor
  · intro h
    have hread := read_write_self m off bs
    rwa [h] at hread
  · intro h
    funext a
    unfold write
    split
    · next hle =>
      cases hb : bs[a - off]? with
      | none => rfl
      | some b =>
        rw [← h, read, List.getElem?_map, Option.map_eq_some_iff] at hb
        obtain ⟨i, hi, rfl⟩ := hb
        obtain ⟨hlt, hi⟩ := List.getElem?_eq_some_iff.mp hi
        rw [List.getElem_range] at hi
        rw [Option.getD_some, ← hi, Nat.add_sub_cancel' hle]
    · rfl

/-- **A write is not seen through a disjoint range.** -/
theorem read_write_of_disjoint (m : ByteMemory) {off off' len : ℕ} {bs : List UInt8}
    (h : off + bs.length ≤ off' ∨ off' + len ≤ off) :
    (m.write off bs).read off' len = m.read off' len := by
  unfold read
  refine List.map_congr_left (fun i hi => ?_)
  have hlt : i < len := List.mem_range.mp hi
  unfold write
  by_cases hle : off ≤ off' + i
  · rw [if_pos hle, List.getElem?_eq_none (by omega), Option.getD_none]
  · rw [if_neg hle]

/-- A byte outside the range written is as it was. -/
theorem write_of_not_mem (m : ByteMemory) {off : ℕ} {bs : List UInt8} {a : ℕ}
    (h : a < off ∨ off + bs.length ≤ a) : m.write off bs a = m a := by
  unfold write
  by_cases hle : off ≤ a
  · rw [if_pos hle, List.getElem?_eq_none (by omega), Option.getD_none]
  · rw [if_neg hle]

/-- A byte inside it is the one written, whatever was there. -/
theorem write_of_mem (m m' : ByteMemory) {off : ℕ} {bs : List UInt8} {a : ℕ}
    (h : off ≤ a ∧ a < off + bs.length) : m.write off bs a = m'.write off bs a := by
  unfold write
  rw [if_pos h.1, if_pos h.1, List.getElem?_eq_getElem (by omega), Option.getD_some,
    Option.getD_some]

/-- **Writes to disjoint ranges commute.** -/
theorem write_comm (m : ByteMemory) {off off' : ℕ} {bs bs' : List UInt8}
    (h : off + bs.length ≤ off' ∨ off' + bs'.length ≤ off) :
    (m.write off bs).write off' bs' = (m.write off' bs').write off bs := by
  funext a
  by_cases ha : off ≤ a ∧ a < off + bs.length
  · rw [write_of_not_mem (m.write off bs) (by omega), write_of_mem m (m.write off' bs') ha]
  · rw [write_of_not_mem (m.write off' bs') (by omega)]
    by_cases ha' : off' ≤ a ∧ a < off' + bs'.length
    · exact write_of_mem _ _ ha'
    · rw [write_of_not_mem _ (by omega), write_of_not_mem _ (by omega),
        write_of_not_mem _ (by omega)]

/-! ## Little-endian words -/

/-- The `width` low bytes of a number, least significant first. -/
def leBytes : ℕ → ℕ → List UInt8
  | 0, _ => []
  | width + 1, v => UInt8.ofNat v :: leBytes width (v / 256)

/-- The number some bytes spell, least significant first. -/
def ofLe : List UInt8 → ℕ
  | [] => 0
  | b :: bs => b.toNat + 256 * ofLe bs

@[simp] theorem length_leBytes (width v : ℕ) : (leBytes width v).length = width := by
  induction width generalizing v with
  | zero => rfl
  | succ width ih => rw [leBytes, List.length_cons, ih]

/-- **Reading a stored word** gives the number modulo the word's size. -/
theorem ofLe_leBytes (width v : ℕ) : ofLe (leBytes width v) = v % 256 ^ width := by
  induction width generalizing v with
  | zero => rw [pow_zero, Nat.mod_one]; rfl
  | succ width ih =>
    have hlow : (UInt8.ofNat v).toNat = v % 256 := UInt8.toNat_ofNat'
    rw [leBytes, ofLe, ih, hlow, show (256 : ℕ) ^ (width + 1) = 256 * 256 ^ width from
      pow_succ' 256 width, Nat.mod_mul]

/-- A word that fits is read back as it was stored. -/
theorem ofLe_leBytes_of_lt {width v : ℕ} (h : v < 256 ^ width) :
    ofLe (leBytes width v) = v := by
  rw [ofLe_leBytes, Nat.mod_eq_of_lt h]

/-- **The bytes of a word are determined by its value.** -/
theorem leBytes_ofLe (bs : List UInt8) : leBytes bs.length (ofLe bs) = bs := by
  induction bs with
  | nil => rfl
  | cons b bs ih =>
    have hb : b.toNat < 256 := b.toNat_lt
    have hlow : UInt8.ofNat (b.toNat + 256 * ofLe bs) = b := by
      refine UInt8.toNat_inj.mp ?_
      rw [UInt8.toNat_ofNat', Nat.add_mul_mod_self_left, Nat.mod_eq_of_lt hb]
    have hhigh : (b.toNat + 256 * ofLe bs) / 256 = ofLe bs := by omega
    rw [List.length_cons, ofLe, leBytes, hlow, hhigh, ih]

/-- A word is less than its size allows. -/
theorem ofLe_lt (bs : List UInt8) : ofLe bs < 256 ^ bs.length := by
  rw [← leBytes_ofLe bs, ofLe_leBytes, length_leBytes]
  exact Nat.mod_lt _ (Nat.pow_pos (by decide))

/-- Words of one length are told apart by their numbers. -/
theorem ofLe_inj {bs bs' : List UInt8} (hlen : bs.length = bs'.length) :
    ofLe bs = ofLe bs' ↔ bs = bs' := by
  refine ⟨fun h => ?_, congrArg ofLe⟩
  rw [← leBytes_ofLe bs, h, hlen, leBytes_ofLe]

/-- Storing a number stores it modulo the word's size. -/
theorem leBytes_mod (width v : ℕ) : leBytes width (v % 256 ^ width) = leBytes width v := by
  rw [← ofLe_leBytes]
  have h := leBytes_ofLe (leBytes width v)
  rwa [length_leBytes] at h

end ByteMemory
