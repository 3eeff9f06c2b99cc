import Terrascope.ByteMemory

/-!
# CBOR as zcbor writes and reads it

The encoder and decoder calls of zcbor that a program makes to exchange
integers, text strings and nested maps, as an interface (`Zcbor`) and what
its documentation promises (`Zcbor.Lawful`). The items themselves are those
of the format: a head of major type and argument in its shortest form,
followed by the text of a string.

A decoder works on a state: the bytes not yet read, how many elements the
open map may still give – `none` when its length is indefinite – and one
backup of that count per open map, in a stack of limited size. Whether maps
are written with their length or with a terminator is a choice of the build
(`canonical`), and `left` is all a reader notices of it.

`reference` is an implementation with indefinite-length maps, and
`lawful_reference` shows that it keeps the promises.
-/

open ByteMemory

namespace Zcbor

/-! ## Items -/

/-- The additional information of a head with argument bytes: one byte, two
or four. -/
def argInfo (n : ℕ) : ℕ := if n < 2 ^ 8 then 24 else if n < 2 ^ 16 then 25 else 26

/-- **The head of an item**, in its shortest form. -/
def head (major n : ℕ) : List UInt8 :=
  if n < 24 then [UInt8.ofNat (32 * major + n)]
  else UInt8.ofNat (32 * major + argInfo n) :: (leBytes (2 ^ (argInfo n - 24)) n).reverse

/-- An unsigned integer. -/
def uintItem (n : ℕ) : List UInt8 := head 0 n

/-- An integer: a negative one is stored as the distance from `-1`. -/
def intItem (v : ℤ) : List UInt8 := if 0 ≤ v then head 0 v.toNat else head 1 (-1 - v).toNat

/-- A text string. -/
def tstrItem (s : List UInt8) : List UInt8 := head 3 s.length ++ s

/-- The head at the front of some bytes: major type, argument, and what
follows. -/
def parseHead : List UInt8 → Option (ℕ × ℕ × List UInt8)
  | [] => none
  | b :: rest =>
    let info := b.toNat % 32
    if info < 24 then some (b.toNat / 32, info, rest)
    else if info ≤ 26 ∧ 2 ^ (info - 24) ≤ rest.length then
      some (b.toNat / 32, ofLe (rest.take (2 ^ (info - 24))).reverse,
        rest.drop (2 ^ (info - 24)))
    else none

/-- The argument fits in the bytes its head announces. -/
theorem lt_pow_argInfo {n : ℕ} (h : n < 2 ^ 32) : n < 256 ^ (2 ^ (argInfo n - 24)) := by
  unfold argInfo
  split
  · next h8 => exact h8
  · split
    · next h16 => exact h16
    · exact h

/-- **A head is read back**, whatever follows it. -/
theorem parseHead_head {major n : ℕ} (hmajor : major < 8) (hn : n < 2 ^ 32)
    (rest : List UInt8) : parseHead (head major n ++ rest) = some (major, n, rest) := by
  have hinfo : 24 ≤ argInfo n ∧ argInfo n ≤ 26 := by
    unfold argInfo
    split
    · omega
    · split <;> omega
  have hbyte : ∀ k, k < 32 → (UInt8.ofNat (32 * major + k)).toNat = 32 * major + k := by
    intro k hk
    rw [UInt8.toNat_ofNat']
    exact Nat.mod_eq_of_lt (by omega)
  unfold head
  split
  · next hlt =>
    have hdiv : (32 * major + n) / 32 = major := by omega
    have hmod : (32 * major + n) % 32 = n := by omega
    simp only [List.cons_append, List.nil_append, parseHead]
    rw [hbyte n (by omega), hdiv, hmod, if_pos hlt]
  · have hdiv : (32 * major + argInfo n) / 32 = major := by omega
    have hmod : (32 * major + argInfo n) % 32 = argInfo n := by omega
    have hlen : (leBytes (2 ^ (argInfo n - 24)) n).reverse.length = 2 ^ (argInfo n - 24) := by
      rw [List.length_reverse, length_leBytes]
    simp only [List.cons_append, parseHead]
    rw [hbyte _ (by omega), hdiv, hmod, if_neg (by omega), if_pos]
    · rw [List.take_left' hlen, List.drop_left' hlen, List.reverse_reverse,
        ofLe_leBytes_of_lt (lt_pow_argInfo hn)]
    · rw [List.length_append, hlen]
      exact ⟨hinfo.2, Nat.le_add_right _ _⟩

end Zcbor

/-! ## The decoder state -/

/-- **The state of a decoder.** -/
structure ZcborState where
  /-- The bytes not yet read. -/
  payload : List UInt8
  /-- How many elements may still come, `none` if that is not known. -/
  elems : Option ℕ
  /-- The counts of the containers around the open one, innermost first. -/
  backups : List (Option ℕ)
  /-- How many containers may be open. -/
  numBackups : ℕ
deriving DecidableEq, Repr

/-- One element is read and `rest` is left. -/
def ZcborState.advance (st : ZcborState) (rest : List UInt8) : Option ZcborState :=
  match st.elems with
  | some 0 => none
  | some (k + 1) => some { st with payload := rest, elems := some k }
  | none => some { st with payload := rest }

/-! ## The interface -/

/-- **The calls.** Encoders give the bytes they append, decoders the value
and the state after it, or nothing on failure. -/
structure Zcbor where
  /-- Maps are written with their length. -/
  canonical : Bool
  uint32Put : UInt32 → List UInt8
  int32Put : Int32 → List UInt8
  tstrPut : List UInt8 → List UInt8
  mapStartEncode : ℕ → List UInt8
  mapEndEncode : ℕ → List UInt8
  uint32Decode : ZcborState → Option (UInt32 × ZcborState)
  int32Decode : ZcborState → Option (Int32 × ZcborState)
  tstrDecode : ZcborState → Option (List UInt8 × ZcborState)
  tstrExpect : List UInt8 → ZcborState → Option ZcborState
  mapStartDecode : ZcborState → Option ZcborState
  mapEndDecode : ZcborState → Option ZcborState

namespace Zcbor

/-- **The count of a map with `k` elements left**, as far as its reader knows
it. -/
def left (z : Zcbor) (k : ℕ) : Option ℕ := if z.canonical then some k else none

/-- **What the documentation promises**: the encoders write CBOR items, a
decoder that comes across the item it is for reads it, and a map is entered
where a map starts and left where it ends. -/
structure Lawful (z : Zcbor) : Prop where
  uint32Put_eq : ∀ v, z.uint32Put v = uintItem v.toNat
  int32Put_eq : ∀ v, z.int32Put v = intItem v.toInt
  tstrPut_eq : ∀ s, s.length < 2 ^ 32 → z.tstrPut s = tstrItem s
  uint32Decode_of : ∀ st v rest st', st.payload = uintItem v.toNat ++ rest →
    st.advance rest = some st' → z.uint32Decode st = some (v, st')
  int32Decode_of : ∀ st v rest st', st.payload = intItem v.toInt ++ rest →
    st.advance rest = some st' → z.int32Decode st = some (v, st')
  tstrDecode_of : ∀ st s rest st', s.length < 2 ^ 32 → st.payload = tstrItem s ++ rest →
    st.advance rest = some st' → z.tstrDecode st = some (s, st')
  tstrExpect_of : ∀ st s rest st', s.length < 2 ^ 32 → st.payload = tstrItem s ++ rest →
    st.advance rest = some st' → z.tstrExpect s st = some st'
  /-- The map's own count replaces the one around it, which is kept. -/
  mapStartDecode_of : ∀ st n rest st', st.payload = z.mapStartEncode n ++ rest →
    st.advance rest = some st' → st.backups.length < st.numBackups →
    z.mapStartDecode st
      = some { st' with elems := z.left (2 * n), backups := st'.elems :: st.backups }
  /-- A map all of whose elements were read is left. -/
  mapEndDecode_of : ∀ st n rest e bs, st.payload = z.mapEndEncode n ++ rest →
    st.elems = z.left 0 → st.backups = e :: bs →
    z.mapEndDecode st = some { st with payload := rest, elems := e, backups := bs }

/-- **What the items of small messages take**: an integer at most five bytes, a
short text at most two more than its own, the head of a small map one, and
its terminator, if there is one, another. -/
structure Compact (z : Zcbor) : Prop where
  uint32Put_le : ∀ v, (z.uint32Put v).length ≤ 5
  int32Put_le : ∀ v, (z.int32Put v).length ≤ 5
  tstrPut_le : ∀ s, s.length ≤ 32 → (z.tstrPut s).length ≤ s.length + 2
  mapStartEncode_eq : ∀ n, n < 24 → (z.mapStartEncode n).length = 1
  mapEndEncode_le : ∀ n, n < 24 → (z.mapEndEncode n).length ≤ 1

section Items

variable {z : Zcbor} (hz : z.Lawful)

/-- One element of a map is read. -/
theorem advance_left (payload rest : List UInt8) (k : ℕ) (bs : List (Option ℕ)) (nb : ℕ) :
    (⟨payload, z.left (k + 1), bs, nb⟩ : ZcborState).advance rest
      = some ⟨rest, z.left k, bs, nb⟩ := by
  unfold ZcborState.advance left
  cases z.canonical <;> rfl

include hz

/-! Each call on what its counterpart wrote, inside a map. -/

theorem Lawful.uint32Decode_put (v : UInt32) (rest : List UInt8) (k : ℕ)
    (bs : List (Option ℕ)) (nb : ℕ) :
    z.uint32Decode ⟨z.uint32Put v ++ rest, z.left (k + 1), bs, nb⟩
      = some (v, ⟨rest, z.left k, bs, nb⟩) := by
  rw [hz.uint32Put_eq]
  exact hz.uint32Decode_of _ v rest _ rfl (advance_left _ _ _ _ _)

theorem Lawful.int32Decode_put (v : Int32) (rest : List UInt8) (k : ℕ)
    (bs : List (Option ℕ)) (nb : ℕ) :
    z.int32Decode ⟨z.int32Put v ++ rest, z.left (k + 1), bs, nb⟩
      = some (v, ⟨rest, z.left k, bs, nb⟩) := by
  rw [hz.int32Put_eq]
  exact hz.int32Decode_of _ v rest _ rfl (advance_left _ _ _ _ _)

theorem Lawful.tstrDecode_put {s : List UInt8} (hs : s.length < 2 ^ 32) (rest : List UInt8)
    (k : ℕ) (bs : List (Option ℕ)) (nb : ℕ) :
    z.tstrDecode ⟨z.tstrPut s ++ rest, z.left (k + 1), bs, nb⟩
      = some (s, ⟨rest, z.left k, bs, nb⟩) := by
  rw [hz.tstrPut_eq s hs]
  exact hz.tstrDecode_of _ s rest _ hs rfl (advance_left _ _ _ _ _)

theorem Lawful.tstrExpect_put {s : List UInt8} (hs : s.length < 2 ^ 32) (rest : List UInt8)
    (k : ℕ) (bs : List (Option ℕ)) (nb : ℕ) :
    z.tstrExpect s ⟨z.tstrPut s ++ rest, z.left (k + 1), bs, nb⟩
      = some ⟨rest, z.left k, bs, nb⟩ := by
  rw [hz.tstrPut_eq s hs]
  exact hz.tstrExpect_of _ s rest _ hs rfl (advance_left _ _ _ _ _)

theorem Lawful.mapStartDecode_encode (n : ℕ) (rest : List UInt8) (k : ℕ)
    {bs : List (Option ℕ)} {nb : ℕ} (hb : bs.length < nb) :
    z.mapStartDecode ⟨z.mapStartEncode n ++ rest, z.left (k + 1), bs, nb⟩
      = some ⟨rest, z.left (2 * n), z.left k :: bs, nb⟩ :=
  hz.mapStartDecode_of _ n rest _ rfl (advance_left _ _ _ _ _) hb

theorem Lawful.mapEndDecode_encode (n : ℕ) (rest : List UInt8) (e : Option ℕ)
    (bs : List (Option ℕ)) (nb : ℕ) :
    z.mapEndDecode ⟨z.mapEndEncode n ++ rest, z.left 0, e :: bs, nb⟩
      = some ⟨rest, e, bs, nb⟩ :=
  hz.mapEndDecode_of _ n rest e bs rfl rfl rfl

end Items

/-! ## An implementation -/

/-- zcbor as it is built by default: maps of indefinite length when writing,
of either kind when reading. -/
def reference : Zcbor where
  canonical := false
  uint32Put := fun v => uintItem v.toNat
  int32Put := fun v => intItem v.toInt
  tstrPut := tstrItem
  mapStartEncode := fun _ => [0xBF]
  mapEndEncode := fun _ => [0xFF]
  uint32Decode := fun st =>
    match parseHead st.payload with
    | some (0, n, rest) => (st.advance rest).map (fun st' => (UInt32.ofNat n, st'))
    | _ => none
  int32Decode := fun st =>
    match parseHead st.payload with
    | some (0, n, rest) =>
      if n < 2 ^ 31 then (st.advance rest).map (fun st' => (Int32.ofInt n, st')) else none
    | some (1, n, rest) =>
      if n < 2 ^ 31 then (st.advance rest).map (fun st' => (Int32.ofInt (-1 - n), st'))
      else none
    | _ => none
  tstrDecode := fun st =>
    match parseHead st.payload with
    | some (3, n, rest) =>
      if n ≤ rest.length then
        (st.advance (rest.drop n)).map (fun st' => (rest.take n, st'))
      else none
    | _ => none
  tstrExpect := fun s st =>
    match parseHead st.payload with
    | some (3, n, rest) =>
      if n ≤ rest.length ∧ rest.take n = s then st.advance (rest.drop n) else none
    | _ => none
  mapStartDecode := fun st =>
    if st.backups.length < st.numBackups then
      match st.payload with
      | 0xBF :: rest =>
        (st.advance rest).map
          (fun st' => { st' with elems := none, backups := st'.elems :: st.backups })
      | payload =>
        match parseHead payload with
        | some (5, n, rest) =>
          (st.advance rest).map
            (fun st' => { st' with elems := some (2 * n), backups := st'.elems :: st.backups })
        | _ => none
    else none
  mapEndDecode := fun st =>
    match st.elems, st.payload, st.backups with
    | none, 0xFF :: rest, e :: bs => some { st with payload := rest, elems := e, backups := bs }
    | some 0, _, e :: bs => some { st with elems := e, backups := bs }
    | _, _, _ => none

/-- **A head takes at most five bytes**, and at most two for a small
argument. -/
theorem length_head_le (major n : ℕ) :
    (head major n).length ≤ 5 ∧ (n < 2 ^ 8 → (head major n).length ≤ 2) := by
  unfold head
  split
  · exact ⟨by simp, fun _ => by simp⟩
  · rw [List.length_cons, List.length_reverse, length_leBytes]
    unfold argInfo
    split
    · exact ⟨by decide, fun _ => by decide⟩
    · next hbig =>
      refine ⟨?_, fun hsmall => absurd hsmall hbig⟩
      split <;> decide

/-- A non-negative `int32_t` fits the unsigned items it is written as. -/
theorem toNat_lt_of_nonneg (v : Int32) (h : 0 ≤ v.toInt) : v.toInt.toNat < 2 ^ 31 := by
  have hlt := v.toInt_lt
  omega

theorem neg_toNat_lt_of_neg (v : Int32) (h : ¬ 0 ≤ v.toInt) : (-1 - v.toInt).toNat < 2 ^ 31 := by
  have hle := v.le_toInt
  omega

/-- **The promises are kept.** -/
theorem lawful_reference : reference.Lawful where
  uint32Put_eq := fun _ => rfl
  int32Put_eq := fun _ => rfl
  tstrPut_eq := fun _ _ => rfl
  uint32Decode_of := fun st v rest st' hp ha => by
    simp only [reference]
    rw [hp, uintItem, parseHead_head (by decide) v.toNat_lt]
    simp only [ha, Option.map_some, UInt32.ofNat_toNat]
  int32Decode_of := fun st v rest st' hp ha => by
    simp only [reference]
    by_cases h : 0 ≤ v.toInt
    · have hlt := toNat_lt_of_nonneg v h
      rw [hp, intItem, if_pos h, parseHead_head (by decide) (by omega)]
      simp only [if_pos hlt, ha, Option.map_some, Int.toNat_of_nonneg h, Int32.ofInt_toInt]
    · have hlt := neg_toNat_lt_of_neg v h
      have hback : (-1 - ((-1 - v.toInt).toNat : ℤ)) = v.toInt := by omega
      rw [hp, intItem, if_neg h, parseHead_head (by decide) (by omega)]
      simp only [if_pos hlt, ha, Option.map_some, hback, Int32.ofInt_toInt]
  tstrDecode_of := fun st s rest st' hs hp ha => by
    simp only [reference]
    rw [hp, tstrItem, List.append_assoc, parseHead_head (by decide) hs]
    simp only [List.length_append, Nat.le_add_right, if_true, List.drop_left, List.take_left,
      ha, Option.map_some]
  tstrExpect_of := fun st s rest st' hs hp ha => by
    simp only [reference]
    rw [hp, tstrItem, List.append_assoc, parseHead_head (by decide) hs]
    simp only [List.length_append, Nat.le_add_right, List.drop_left, List.take_left, and_self,
      if_true, ha]
  mapStartDecode_of := fun st n rest st' hp ha hb => by
    simp only [reference] at hp ⊢
    rw [if_pos hb, hp]
    simp only [List.cons_append, List.nil_append, ha, Option.map_some]
    rfl
  mapEndDecode_of := fun st n rest e bs hp he hb => by
    simp only [reference, left, Bool.false_eq_true, if_false] at hp he ⊢
    rw [hp, he, hb]
    rfl

/-- It keeps messages small. -/
theorem compact_reference : reference.Compact where
  uint32Put_le := fun _ => (length_head_le _ _).1
  int32Put_le := fun v => by
    show (intItem v.toInt).length ≤ 5
    unfold intItem
    split <;> exact (length_head_le _ _).1
  tstrPut_le := fun s hs => by
    show (head 3 s.length ++ s).length ≤ s.length + 2
    rw [List.length_append, Nat.add_comm]
    exact Nat.add_le_add_left ((length_head_le _ _).2 (by omega)) _
  mapStartEncode_eq := fun _ _ => rfl
  mapEndEncode_le := fun _ _ => le_refl _

end Zcbor
