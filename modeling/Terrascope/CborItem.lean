import Mathlib.Data.List.Basic
import Terrascope.ByteMemory

/-!
# CBOR data items

The part of the format that small messages are made of – integers, text
strings and maps – as trees (`CborItem`) with the byte strings that stand
for them (`Encodes`). A tree has many: the argument of a head may be written
wider than it needs to be, and a map may announce its length or be ended by
a terminator.

What all of them share is that they say themselves where they end.
`Encodes.prefix_free` is that property: of two encodings at the front of one
byte string neither goes on where the other stops, and they stand for the
same item.
-/

open ByteMemory

/-- **A data item**: an integer, a text string or a map, whose entries come in
an order. -/
inductive CborItem where
  | int (v : ℤ)
  | tstr (s : List UInt8)
  | map (entries : List (CborItem × CborItem))

namespace CborItem

/-! ## Encodings -/

/-- **A head** of a major type with an argument, which is in the first byte or
in one, two, four or eight bytes behind it. -/
inductive IsHead (major : ℕ) : ℕ → List UInt8 → Prop
  | short {n : ℕ} (hn : n < 24) : IsHead major n [UInt8.ofNat (32 * major + n)]
  | long {n w : ℕ} (hw : w < 4) (hn : n < 256 ^ 2 ^ w) :
      IsHead major n (UInt8.ofNat (32 * major + (24 + w)) :: (leBytes (2 ^ w) n).reverse)

/-- **An item without parts** is a head and, for a text, as many bytes as the
head says. A negative integer is stored as its distance from `-1`. -/
inductive IsScalar : CborItem → ℕ → ℕ → List UInt8 → Prop
  | nonneg (n : ℕ) : IsScalar (.int n) 0 n []
  | neg (n : ℕ) : IsScalar (.int (-1 - n)) 1 n []
  | tstr (s : List UInt8) : IsScalar (.tstr s) 3 s.length s

/-- **What is put around the entries of a map**: a head with their number, or
a byte that opens a map of unknown length and one that closes it. -/
inductive IsFrame : ℕ → List UInt8 → List UInt8 → Prop
  | definite {n : ℕ} {start : List UInt8} (hh : IsHead 5 n start) : IsFrame n start []
  | indefinite {n : ℕ} : IsFrame n [0xBF] [0xFF]

mutual

/-- **The bytes stand for the item.** -/
inductive Encodes : CborItem → List UInt8 → Prop
  | scalar {item : CborItem} {major n : ℕ} {start body : List UInt8}
      (hs : IsScalar item major n body) (hh : IsHead major n start) :
      Encodes item (start ++ body)
  | map {entries : List (CborItem × CborItem)} {start body stop : List UInt8}
      (hf : IsFrame entries.length start stop) (hall : EncodesAll entries body) :
      Encodes (.map entries) (start ++ (body ++ stop))

/-- The bytes stand for the entries, one after the other. -/
inductive EncodesAll : List (CborItem × CborItem) → List UInt8 → Prop
  | nil : EncodesAll [] []
  | cons {key value : CborItem} {entries : List (CborItem × CborItem)}
      {kbs vbs bs : List UInt8} (hkey : Encodes key kbs) (hvalue : Encodes value vbs)
      (hall : EncodesAll entries bs) :
      EncodesAll ((key, value) :: entries) (kbs ++ (vbs ++ bs))

end

/-- An integer is its head. -/
theorem Encodes.nonneg {n : ℕ} {hd : List UInt8} (hh : IsHead 0 n hd) : Encodes (.int n) hd := by
  have h := Encodes.scalar (IsScalar.nonneg n) hh
  rwa [List.append_nil] at h

theorem Encodes.neg {n : ℕ} {hd : List UInt8} (hh : IsHead 1 n hd) :
    Encodes (.int (-1 - n)) hd := by
  have h := Encodes.scalar (IsScalar.neg n) hh
  rwa [List.append_nil] at h

/-- One entry. -/
theorem Encodes.entry {key value : CborItem} {kbs vbs : List UInt8} (hkey : Encodes key kbs)
    (hvalue : Encodes value vbs) : EncodesAll [(key, value)] (kbs ++ vbs) := by
  have h := EncodesAll.cons hkey hvalue .nil
  rwa [List.append_nil] at h

/-- Entries after entries. -/
theorem EncodesAll.append {entries entries' : List (CborItem × CborItem)} {bs bs' : List UInt8}
    (h : EncodesAll entries bs) (h' : EncodesAll entries' bs') :
    EncodesAll (entries ++ entries') (bs ++ bs') := by
  induction entries generalizing bs with
  | nil =>
    cases h
    exact h'
  | cons e entries ih =>
    cases h with
    | cons hkey hvalue hall =>
      rw [List.append_assoc, List.append_assoc]
      exact .cons hkey hvalue (ih hall)

/-! ## Heads -/

/-- A head starts with its major type and less than the code of an open
map. -/
theorem IsHead.first {major n : ℕ} {h : List UInt8} (hh : IsHead major n h) (hmajor : major < 6) :
    ∃ b t, h = b :: t ∧ 32 * major ≤ b.toNat ∧ b.toNat < 32 * major + 28 := by
  have hbyte : ∀ k, k < 28 → (UInt8.ofNat (32 * major + k)).toNat = 32 * major + k := by
    intro k hk
    rw [UInt8.toNat_ofNat']
    exact Nat.mod_eq_of_lt (by omega)
  cases hh with
  | short hn =>
    refine ⟨_, _, rfl, ?_⟩
    rw [hbyte _ (by omega)]
    omega
  | @long w hw hn =>
    refine ⟨_, _, rfl, ?_⟩
    rw [hbyte _ (by omega)]
    omega

/-- A head does not start with a byte from the code of an open map on. -/
theorem IsHead.ne_cons {major n : ℕ} {h : List UInt8} (hh : IsHead major n h) (hmajor : major < 6)
    {b : UInt8} (hb : 188 ≤ b.toNat) (r r' : List UInt8) : h ++ r ≠ b :: r' := by
  intro heq
  obtain ⟨b', t, rfl, -, hlt⟩ := hh.first hmajor
  have hsame : b' = b := (List.cons_eq_cons.mp heq).1
  rw [hsame] at hlt
  omega

/-- **Two heads at one place are one head.** -/
theorem IsHead.unique {major major' n n' : ℕ} {h h' r r' : List UInt8} (hh : IsHead major n h)
    (hh' : IsHead major' n' h') (hmajor : major < 6) (hmajor' : major' < 6)
    (heq : h ++ r = h' ++ r') : major = major' ∧ n = n' ∧ h = h' ∧ r = r' := by
  have hfirst : ∀ {k k' : ℕ}, k < 28 → k' < 28 →
      UInt8.ofNat (32 * major + k) = UInt8.ofNat (32 * major' + k') → major = major' ∧ k = k' := by
    intro k k' hk hk' hb
    have hnat := congrArg UInt8.toNat hb
    rw [UInt8.toNat_ofNat', UInt8.toNat_ofNat', Nat.mod_eq_of_lt (by omega),
      Nat.mod_eq_of_lt (by omega)] at hnat
    omega
  cases hh with
  | short hn =>
    cases hh' with
    | short hn' =>
      obtain ⟨hb, hr⟩ := List.cons_eq_cons.mp heq
      obtain ⟨rfl, rfl⟩ := hfirst (by omega) (by omega) hb
      exact ⟨rfl, rfl, rfl, hr⟩
    | long hw' hn' =>
      obtain ⟨-, hk⟩ := hfirst (by omega) (by omega) (List.cons_eq_cons.mp heq).1
      omega
  | @long w hw hn =>
    cases hh' with
    | short hn' =>
      obtain ⟨-, hk⟩ := hfirst (by omega) (by omega) (List.cons_eq_cons.mp heq).1
      omega
    | @long w' hw' hn' =>
      -- the first byte tells how many bytes the argument has, and they tell what it is
      obtain ⟨hb, hrest⟩ := List.cons_eq_cons.mp heq
      obtain ⟨rfl, hk⟩ := hfirst (by omega) (by omega) hb
      obtain rfl : w = w' := by omega
      have hlen : (leBytes (2 ^ w) n).reverse.length = (leBytes (2 ^ w) n').reverse.length := by
        rw [List.length_reverse, List.length_reverse, length_leBytes, length_leBytes]
      obtain ⟨hbs, hr⟩ := List.append_inj hrest hlen
      have hval := congrArg ofLe (List.reverse_injective hbs)
      rw [ofLe_leBytes_of_lt hn, ofLe_leBytes_of_lt hn'] at hval
      rw [hval]
      exact ⟨rfl, rfl, rfl, hr⟩

/-- Scalars are not of the major type of maps. -/
theorem IsScalar.major_lt {item : CborItem} {major n : ℕ} {body : List UInt8}
    (hs : IsScalar item major n body) : major < 5 := by
  cases hs <;> decide

/-- **A head tells how long a scalar is**, and its bytes which one it is. -/
theorem IsScalar.unique {item item' : CborItem} {major n n' : ℕ} {body body' r r' : List UInt8}
    (hs : IsScalar item major n body) (hs' : IsScalar item' major n' body') (hn : n = n')
    (heq : body ++ r = body' ++ r') : item = item' ∧ body = body' ∧ r = r' := by
  cases hs with
  | nonneg =>
    cases hs'
    exact ⟨by rw [hn], rfl, heq⟩
  | neg =>
    cases hs'
    exact ⟨by rw [hn], rfl, heq⟩
  | tstr s =>
    cases hs' with
    | tstr s' =>
      obtain ⟨rfl, hr⟩ := List.append_inj heq hn
      exact ⟨rfl, rfl, hr⟩

/-! ## Frames -/

/-- A map does not start as a scalar does. -/
theorem IsFrame.ne_head {major n n' : ℕ} {start stop h r r' : List UInt8}
    (hf : IsFrame n start stop) (hh : IsHead major n' h) (hmajor : major < 5) :
    start ++ r ≠ h ++ r' := by
  intro heq
  cases hf with
  | definite hf =>
    obtain ⟨heq, -⟩ := hf.unique hh (by decide) (by omega) heq
    omega
  | indefinite => exact hh.ne_cons (by omega) (by decide) r' r heq.symm

/-- **Two frames at one place are of one kind**, and if they announce a number
of entries it is the same. -/
theorem IsFrame.unique {n n' : ℕ} {start start' stop stop' r r' : List UInt8}
    (hf : IsFrame n start stop) (hf' : IsFrame n' start' stop')
    (heq : start ++ r = start' ++ r') :
    start = start' ∧ r = r'
      ∧ (n = n' ∧ stop = [] ∧ stop' = [] ∨ stop = [0xFF] ∧ stop' = [0xFF]) := by
  cases hf with
  | definite hh =>
    cases hf' with
    | definite hh' =>
      obtain ⟨-, hn, hstart, hr⟩ := hh.unique hh' (by decide) (by decide) heq
      exact ⟨hstart, hr, Or.inl ⟨hn, rfl, rfl⟩⟩
    | indefinite => exact absurd heq (hh.ne_cons (by decide) (by decide) r r')
  | indefinite =>
    cases hf' with
    | definite hh' => exact absurd heq.symm (hh'.ne_cons (by decide) (by decide) r' r)
    | indefinite => exact ⟨rfl, (List.cons_eq_cons.mp heq).2, Or.inr ⟨rfl, rfl⟩⟩

/-- **No item starts with the byte that closes a map.** -/
theorem Encodes.ne_break {item : CborItem} {bs r r' : List UInt8} (h : Encodes item bs) :
    bs ++ r ≠ 0xFF :: r' := by
  cases h with
  | scalar hs hh =>
    have hmajor := hs.major_lt
    rw [List.append_assoc]
    exact hh.ne_cons (by omega) (by decide) _ _
  | map hf hall =>
    rw [List.append_assoc]
    cases hf with
    | definite hh => exact hh.ne_cons (by decide) (by decide) _ _
    | indefinite => exact fun heq => absurd (List.cons_eq_cons.mp heq).1 (by decide)

/-! ## Where an item ends -/

mutual

/-- **An encoding says where it ends**: two of them at the front of one byte
string are the same, and stand for the same item. -/
theorem Encodes.prefix_free {item item' : CborItem} {bs bs' r r' : List UInt8}
    (h : Encodes item bs) (h' : Encodes item' bs') (heq : bs ++ r = bs' ++ r') :
    item = item' ∧ bs = bs' ∧ r = r' := by
  cases h with
  | scalar hs hh =>
    have hmajor := hs.major_lt
    cases h' with
    | scalar hs' hh' =>
      have hmajor' := hs'.major_lt
      simp only [List.append_assoc] at heq
      obtain ⟨rfl, hn, rfl, hrest⟩ := hh.unique hh' (by omega) (by omega) heq
      obtain ⟨rfl, rfl, hr⟩ := hs.unique hs' hn hrest
      exact ⟨rfl, rfl, hr⟩
    | map hf' hall' =>
      simp only [List.append_assoc] at heq
      exact absurd heq.symm (hf'.ne_head hh hmajor)
  | map hf hall =>
    cases h' with
    | scalar hs' hh' =>
      simp only [List.append_assoc] at heq
      exact absurd heq (hf.ne_head hh' hs'.major_lt)
    | map hf' hall' =>
      simp only [List.append_assoc] at heq
      obtain ⟨rfl, hrest, hstop⟩ := hf.unique hf' heq
      rcases hstop with ⟨hlen, rfl, rfl⟩ | ⟨rfl, rfl⟩
      · obtain ⟨rfl, rfl, hr⟩ := hall.prefix_free hall' hrest (Or.inl hlen)
        exact ⟨rfl, rfl, hr⟩
      · obtain ⟨rfl, rfl, hr⟩ := hall.prefix_free hall' hrest (Or.inr ⟨r, r', rfl, rfl⟩)
        exact ⟨rfl, rfl, (List.cons_eq_cons.mp hr).2⟩

/-- Entries end where their number is reached, or where the byte that closes
the map comes. -/
theorem EncodesAll.prefix_free {entries entries' : List (CborItem × CborItem)}
    {bs bs' r r' : List UInt8} (h : EncodesAll entries bs) (h' : EncodesAll entries' bs')
    (heq : bs ++ r = bs' ++ r') (hstop : entries.length = entries'.length
      ∨ ∃ q q', r = 0xFF :: q ∧ r' = 0xFF :: q') : entries = entries' ∧ bs = bs' ∧ r = r' := by
  cases h with
  | nil =>
    cases h' with
    | nil => exact ⟨rfl, rfl, heq⟩
    | cons hkey' hvalue' hall' =>
      rcases hstop with hlen | ⟨q, q', rfl, rfl⟩
      · cases hlen
      · rw [List.append_assoc] at heq
        exact absurd heq.symm hkey'.ne_break
  | cons hkey hvalue hall =>
    cases h' with
    | nil =>
      rcases hstop with hlen | ⟨q, q', rfl, rfl⟩
      · cases hlen
      · rw [List.append_assoc] at heq
        exact absurd heq hkey.ne_break
    | cons hkey' hvalue' hall' =>
      simp only [List.append_assoc] at heq
      obtain ⟨rfl, rfl, hvs⟩ := hkey.prefix_free hkey' heq
      obtain ⟨rfl, rfl, hbs⟩ := hvalue.prefix_free hvalue' hvs
      obtain ⟨rfl, rfl, hr⟩ := hall.prefix_free hall' hbs (hstop.imp_left Nat.succ.inj)
      exact ⟨rfl, rfl, hr⟩

end

end CborItem
