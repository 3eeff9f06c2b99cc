import Terrascope.CborItem
import Terrascope.Zcbor

/-!
# What zcbor has read

`Zcbor.Lawful` says what a decoder makes of the items it is for. Here is the
other direction, that of the documentation on failing calls: a decoder call
that succeeds has come across a whole item of its kind, in whatever form it
was written, and a map is left only where it ends (`Zcbor.Sound`).

A sequence of calls is put together from `ZcborState.Read`: the bytes that
were read and the number of elements they made up. Inside a map they come in
entries (`ZcborState.ReadEntries`), and a map that was entered and left was
one element of the map around it (`Zcbor.Sound.map`).
-/

open ByteMemory CborItem

/-! ## Reading -/

/-- **The bytes were read as `k` elements** of the open container. -/
structure ZcborState.Read (st : ZcborState) (bs : List UInt8) (k : ℕ) (st' : ZcborState) :
    Prop where
  payload : st.payload = bs ++ st'.payload
  elems : st.elems = st'.elems.map (· + k)
  backups : st'.backups = st.backups
  numBackups : st'.numBackups = st.numBackups

/-- Some bytes, and then some more. -/
theorem ZcborState.Read.trans {st st₁ st₂ : ZcborState} {bs bs' : List UInt8} {k k' : ℕ}
    (h : st.Read bs k st₁) (h' : st₁.Read bs' k' st₂) : st.Read (bs ++ bs') (k' + k) st₂ where
  payload := by rw [h.payload, h'.payload, List.append_assoc]
  elems := by
    rw [h.elems, h'.elems, Option.map_map]
    exact congrArg (fun f => Option.map f st₂.elems) (funext fun n => Nat.add_assoc n k' k)
  backups := h'.backups.trans h.backups
  numBackups := h'.numBackups.trans h.numBackups

/-- An element is read by advancing over its bytes. -/
theorem ZcborState.Read.of_advance {st st' : ZcborState} {bs rest : List UInt8}
    (hp : st.payload = bs ++ rest) (h : st.advance rest = some st') : st.Read bs 1 st' := by
  unfold advance at h
  split at h
  · cases h
  · next k hk =>
    cases h
    exact ⟨hp, hk, rfl, rfl⟩
  · next hnone =>
    cases h
    exact ⟨hp, by rw [hnone]; rfl, rfl, rfl⟩

/-- **Entries of a map were read**, two elements each. -/
def ZcborState.ReadEntries (st : ZcborState) (entries : List (CborItem × CborItem))
    (st' : ZcborState) : Prop :=
  ∃ bs, EncodesAll entries bs ∧ st.Read bs (2 * entries.length) st'

/-- Entries after entries. -/
theorem ZcborState.ReadEntries.append {st st₁ st₂ : ZcborState}
    {entries entries' : List (CborItem × CborItem)} (h : st.ReadEntries entries st₁)
    (h' : st₁.ReadEntries entries' st₂) : st.ReadEntries (entries ++ entries') st₂ := by
  obtain ⟨bs, hall, hread⟩ := h
  obtain ⟨bs', hall', hread'⟩ := h'
  refine ⟨bs ++ bs', hall.append hall', ?_⟩
  have hlen : 2 * (entries ++ entries').length = 2 * entries'.length + 2 * entries.length := by
    rw [List.length_append]
    omega
  rw [hlen]
  exact hread.trans hread'

namespace Zcbor

/-! ## What a call that succeeds has read -/

/-- **A call that succeeds has read a whole item.** -/
structure Sound (z : Zcbor) : Prop where
  uint32Decode : ∀ st v st', z.uint32Decode st = some (v, st') →
    ∃ bs, Encodes (.int v.toNat) bs ∧ st.Read bs 1 st'
  int32Decode : ∀ st v st', z.int32Decode st = some (v, st') →
    ∃ bs, Encodes (.int v.toInt) bs ∧ st.Read bs 1 st'
  tstrDecode : ∀ st s st', z.tstrDecode st = some (s, st') →
    ∃ bs, Encodes (.tstr s) bs ∧ st.Read bs 1 st'
  tstrExpect : ∀ st s st', z.tstrExpect s st = some st' →
    ∃ bs, Encodes (.tstr s) bs ∧ st.Read bs 1 st'
  /-- The start of a map counts as an element of what is around it. -/
  mapStartDecode : ∀ st st', z.mapStartDecode st = some st' → ∃ start around,
    st.Read start 1 around ∧ st'.payload = around.payload
      ∧ st'.backups = around.elems :: st.backups ∧ st'.numBackups = st.numBackups
      ∧ (st'.elems = none ∧ start = [0xBF] ∨ ∃ n, st'.elems = some (2 * n) ∧ IsHead 5 n start)
  /-- A map is left at its terminator, or after as many elements as it
  announced. -/
  mapEndDecode : ∀ st st', z.mapEndDecode st = some st' → ∃ stop,
    st.payload = stop ++ st'.payload ∧ st.backups = st'.elems :: st'.backups
      ∧ st'.numBackups = st.numBackups
      ∧ (st.elems = none ∧ stop = [0xFF] ∨ st.elems = some 0 ∧ stop = [])

/-- **The encoder frames a map of known size** as the format does. -/
def Frames (z : Zcbor) : Prop := ∀ n, n < 24 → IsFrame n (z.mapStartEncode n) (z.mapEndEncode n)

namespace Sound

variable {z : Zcbor} (hz : z.Sound) {st st₁ st₂ st₃ : ZcborState}

include hz

/-- **A map that was entered and left** was one element, with the entries that
were read in between. -/
theorem map {entries : List (CborItem × CborItem)} (hstart : z.mapStartDecode st = some st₁)
    (hentries : st₁.ReadEntries entries st₂) (hend : z.mapEndDecode st₂ = some st₃) :
    ∃ bs, Encodes (.map entries) bs ∧ st.Read bs 1 st₃ := by
  obtain ⟨start, around, hread, hp₁, hb₁, hn₁, hkind⟩ := hz.mapStartDecode _ _ hstart
  obtain ⟨body, hall, hbody⟩ := hentries
  obtain ⟨stop, hp₂, hb₂, hn₃, hstop⟩ := hz.mapEndDecode _ _ hend
  obtain ⟨he, hb⟩ : st₃.elems = around.elems ∧ st₃.backups = st.backups := by
    rw [hbody.backups, hb₁] at hb₂
    obtain ⟨he, hb⟩ := List.cons_eq_cons.mp hb₂
    exact ⟨he.symm, hb.symm⟩
  have hcount := hbody.elems
  have hframe : IsFrame entries.length start stop := by
    rcases hkind with ⟨hnone, rfl⟩ | ⟨n, hsome, hh⟩
    · -- a map of unknown length still has an unknown length at its end
      rw [hnone] at hcount
      rcases hstop with ⟨-, rfl⟩ | ⟨hzero, -⟩
      · exact .indefinite
      · rw [hzero] at hcount
        cases hcount
    · rw [hsome] at hcount
      rcases hstop with ⟨hnone, -⟩ | ⟨hzero, rfl⟩
      · rw [hnone] at hcount
        cases hcount
      · rw [hzero] at hcount
        have hn : 2 * n = 0 + 2 * entries.length := Option.some.inj hcount
        obtain rfl : n = entries.length := by omega
        exact .definite hh
  refine ⟨_, .map hframe hall, ?_, ?_, hb, ?_⟩
  · rw [hread.payload, ← hp₁, hbody.payload, hp₂]
    simp only [List.append_assoc]
  · rw [he]
    exact hread.elems
  · rw [hn₃, hbody.numBackups, hn₁]

/-- One element under a name. -/
theorem entry {name bs : List UInt8} {item : CborItem} (hname : z.tstrExpect name st = some st₁)
    (hitem : Encodes item bs) (hread : st₁.Read bs 1 st₂) :
    st.ReadEntries [(.tstr name, item)] st₂ := by
  obtain ⟨nbs, henc, hnread⟩ := hz.tstrExpect _ _ _ hname
  exact ⟨nbs ++ bs, henc.entry hitem, hnread.trans hread⟩

theorem uintEntry {name : List UInt8} {v : UInt32} (hname : z.tstrExpect name st = some st₁)
    (hv : z.uint32Decode st₁ = some (v, st₂)) :
    st.ReadEntries [(.tstr name, .int v.toNat)] st₂ := by
  obtain ⟨bs, henc, hread⟩ := hz.uint32Decode _ _ _ hv
  exact hz.entry hname henc hread

theorem intEntry {name : List UInt8} {v : Int32} (hname : z.tstrExpect name st = some st₁)
    (hv : z.int32Decode st₁ = some (v, st₂)) :
    st.ReadEntries [(.tstr name, .int v.toInt)] st₂ := by
  obtain ⟨bs, henc, hread⟩ := hz.int32Decode _ _ _ hv
  exact hz.entry hname henc hread

theorem tstrEntry {name s : List UInt8} (hname : z.tstrExpect name st = some st₁)
    (hs : z.tstrDecode st₁ = some (s, st₂)) : st.ReadEntries [(.tstr name, .tstr s)] st₂ := by
  obtain ⟨bs, henc, hread⟩ := hz.tstrDecode _ _ _ hs
  exact hz.entry hname henc hread

end Sound

/-! ## What the encoders write -/

/-- The shortest form of a head is one. -/
theorem isHead_head (major : ℕ) {n : ℕ} (hn : n < 2 ^ 32) : IsHead major n (head major n) := by
  unfold head
  split
  · next hlt => exact .short hlt
  · have hinfo : argInfo n = 24 + (argInfo n - 24) ∧ argInfo n - 24 < 4 := by
      unfold argInfo
      split
      · omega
      · split <;> omega
    have hlong : IsHead major n (UInt8.ofNat (32 * major + (24 + (argInfo n - 24))) ::
        (leBytes (2 ^ (argInfo n - 24)) n).reverse) :=
      .long hinfo.2 (lt_pow_argInfo hn)
    rwa [← hinfo.1] at hlong

theorem encodes_uintItem {n : ℕ} (hn : n < 2 ^ 32) : Encodes (.int n) (uintItem n) :=
  .nonneg (isHead_head 0 hn)

theorem encodes_intItem (v : Int32) : Encodes (.int v.toInt) (intItem v.toInt) := by
  unfold intItem
  split
  · next h =>
    have henc := encodes_uintItem (lt_trans (toNat_lt_of_nonneg v h) (by decide))
    rwa [Int.toNat_of_nonneg h] at henc
  · next h =>
    have hback : (-1 - ((-1 - v.toInt).toNat : ℤ)) = v.toInt := by omega
    have henc := Encodes.neg (isHead_head 1 (lt_trans (neg_toNat_lt_of_neg v h) (by decide)))
    rwa [hback] at henc

theorem encodes_tstrItem {s : List UInt8} (hs : s.length < 2 ^ 32) :
    Encodes (.tstr s) (tstrItem s) :=
  .scalar (.tstr s) (isHead_head 3 hs)

/-! ## The implementation -/

/-- What `parseHead` takes off is a head, with an argument of four bytes at
most. -/
theorem parseHead_eq_some {bs rest : List UInt8} {major n : ℕ}
    (h : parseHead bs = some (major, n, rest)) :
    n < 2 ^ 32 ∧ ∃ hd, IsHead major n hd ∧ bs = hd ++ rest := by
  cases bs with
  | nil => cases h
  | cons b bs =>
    have hb : ∀ k, k = b.toNat % 32 → UInt8.ofNat (32 * (b.toNat / 32) + k) = b := by
      rintro k rfl
      rw [Nat.div_add_mod, UInt8.ofNat_toNat]
    simp only [parseHead] at h
    split at h
    · next hlt =>
      cases h
      refine ⟨by omega, _, .short hlt, ?_⟩
      rw [hb _ rfl]
      rfl
    · split at h
      · next hlt hfits =>
        cases h
        have hlen : (bs.take (2 ^ (b.toNat % 32 - 24))).reverse.length
            = 2 ^ (b.toNat % 32 - 24) := by
          rw [List.length_reverse, List.length_take, Nat.min_eq_left hfits.2]
        have hlt := ofLe_lt (bs.take (2 ^ (b.toNat % 32 - 24))).reverse
        have hback := leBytes_ofLe (bs.take (2 ^ (b.toNat % 32 - 24))).reverse
        rw [hlen] at hlt hback
        have hwidth : (256 : ℕ) ^ 2 ^ (b.toNat % 32 - 24) ≤ 256 ^ 2 ^ 2 :=
          Nat.pow_le_pow_right (by decide) (Nat.pow_le_pow_right (by decide) (by omega))
        refine ⟨lt_of_lt_of_le hlt hwidth, _, .long (by omega) hlt, ?_⟩
        rw [hb _ (by omega), hback, List.reverse_reverse, List.cons_append, List.take_append_drop]
      · cases h

/-- A text that is there in full behind its head. -/
theorem encodes_of_parseHead {st : ZcborState} {n : ℕ} {rest : List UInt8}
    (hp : parseHead st.payload = some (3, n, rest)) (hn : n ≤ rest.length) :
    ∃ bs, Encodes (.tstr (rest.take n)) bs ∧ st.payload = bs ++ rest.drop n := by
  obtain ⟨-, hd, hh, hp⟩ := parseHead_eq_some hp
  have hlen : (rest.take n).length = n := by rw [List.length_take, Nat.min_eq_left hn]
  rw [← hlen] at hh
  refine ⟨_, .scalar (.tstr _) hh, ?_⟩
  rw [List.append_assoc, List.take_append_drop, hp]

/-- **A call of the implementation that succeeds has read an item.** -/
theorem sound_reference : reference.Sound where
  uint32Decode := fun st v st' h => by
    simp only [reference] at h
    split at h
    · next n rest hp =>
      obtain ⟨st₁, hadv, heq⟩ := Option.map_eq_some_iff.mp h
      cases heq
      obtain ⟨hn, hd, hh, hp⟩ := parseHead_eq_some hp
      rw [UInt32.toNat_ofNat_of_lt' hn]
      exact ⟨hd, .nonneg hh, .of_advance hp hadv⟩
    · cases h
  int32Decode := fun st v st' h => by
    simp only [reference] at h
    split at h
    · next n rest hp =>
      split at h
      · next hlt =>
        obtain ⟨st₁, hadv, heq⟩ := Option.map_eq_some_iff.mp h
        cases heq
        obtain ⟨-, hd, hh, hp⟩ := parseHead_eq_some hp
        rw [Int32.toInt_ofInt_of_le (by omega) (by omega)]
        exact ⟨hd, .nonneg hh, .of_advance hp hadv⟩
      · cases h
    · next n rest hp =>
      split at h
      · next hlt =>
        obtain ⟨st₁, hadv, heq⟩ := Option.map_eq_some_iff.mp h
        cases heq
        obtain ⟨-, hd, hh, hp⟩ := parseHead_eq_some hp
        rw [Int32.toInt_ofInt_of_le (by omega) (by omega)]
        exact ⟨hd, .neg hh, .of_advance hp hadv⟩
      · cases h
    · cases h
  tstrDecode := fun st s st' h => by
    simp only [reference] at h
    split at h
    · next n rest hp =>
      split at h
      · next hle =>
        obtain ⟨st₁, hadv, heq⟩ := Option.map_eq_some_iff.mp h
        cases heq
        obtain ⟨bs, henc, hbs⟩ := encodes_of_parseHead hp hle
        exact ⟨bs, henc, .of_advance hbs hadv⟩
      · cases h
    · cases h
  tstrExpect := fun st s st' h => by
    simp only [reference] at h
    split at h
    · next n rest hp =>
      split at h
      · next hle =>
        obtain ⟨bs, henc, hbs⟩ := encodes_of_parseHead hp hle.1
        rw [hle.2] at henc
        exact ⟨bs, henc, .of_advance hbs h⟩
      · cases h
    · cases h
  mapStartDecode := fun st st' h => by
    simp only [reference] at h
    split at h
    · split at h
      · next rest hp =>
        obtain ⟨around, hadv, rfl⟩ := Option.map_eq_some_iff.mp h
        have hread : st.Read [0xBF] 1 around := .of_advance hp hadv
        exact ⟨_, around, hread, rfl, rfl, hread.numBackups, Or.inl ⟨rfl, rfl⟩⟩
      · split at h
        · next n rest hp =>
          obtain ⟨around, hadv, rfl⟩ := Option.map_eq_some_iff.mp h
          obtain ⟨-, hd, hh, hp⟩ := parseHead_eq_some hp
          have hread := ZcborState.Read.of_advance hp hadv
          exact ⟨hd, around, hread, rfl, rfl, hread.numBackups, Or.inr ⟨n, rfl, hh⟩⟩
        · cases h
    · cases h
  mapEndDecode := fun st st' h => by
    simp only [reference] at h
    split at h
    · next he hp hb =>
      cases h
      exact ⟨[0xFF], hp, hb, rfl, Or.inl ⟨he, rfl⟩⟩
    · next he hb =>
      cases h
      exact ⟨[], rfl, hb, rfl, Or.inr ⟨he, rfl⟩⟩
    · cases h

/-- Its maps are framed by a byte that opens them and one that closes them. -/
theorem frames_reference : reference.Frames := fun _ _ => .indefinite

end Zcbor
