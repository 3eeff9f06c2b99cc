import Mathlib.Data.List.GetD
import Terrascope.Unheard

/-!
# The network key

`ts_auth_init` parses the key that the image was built with from a string of
hex digits, two to a byte, and imports it into the key store. The bytes are
written as they are parsed, so a string that turns out wrong leaves the part
before the mistake behind.

`network_key_spelled` says which strings are taken for which keys, and what is
left of the others. `silent_without_key` is what depends on it: the threads of
the LoRa module run whether or not `main` gets past `ts_auth_init`, and a node
whose string spells no key never sends and never accepts a frame.
-/

namespace Terrascope

open Transition Node

/-- `TS_AUTH_KEY_SIZE`. -/
abbrev TS_AUTH_KEY_SIZE : ℕ := 16

/-- `network_key`. -/
abbrev NetworkKey : Type := Fin TS_AUTH_KEY_SIZE → UInt8

/-! ## What spells a key -/

/-- The hex digits in the order of their values. -/
def hexDigits : CString := cstr "0123456789abcdef"

/-- A character in lower case. -/
def lowerCase (c : UInt8) : UInt8 := if 'A'.toUInt8 ≤ c ∧ c ≤ 'Z'.toUInt8 then c + 32 else c

/-- **The value of a hex digit**, in either case. -/
def hexValue (c : UInt8) : Option ℕ := hexDigits.idxOf? (lowerCase c)

/-- **The hex text of a key**, in lower case and the first byte first. -/
def hexText (key : NetworkKey) : CString :=
  (List.finRange TS_AUTH_KEY_SIZE).flatMap (fun i =>
    [hexDigits.getD ((key i).toNat / 16) 0, hexDigits.getD ((key i).toNat % 16) 0])

/-- **The string spells the key**, in whichever case. -/
def Spells (hex : CString) (key : NetworkKey) : Prop := hex.map lowerCase = hexText key

/-! ## `ts_auth_init` -/

/-- `hex_char_to_nibble`. -/
def hexCharToNibble (c : UInt8) : ℤ :=
  if '0'.toUInt8 ≤ c ∧ c ≤ '9'.toUInt8 then c.toNat - '0'.toNat
  else if 'a'.toUInt8 ≤ c ∧ c ≤ 'f'.toUInt8 then c.toNat - 'a'.toNat + 10
  else if 'A'.toUInt8 ≤ c ∧ c ≤ 'F'.toUInt8 then c.toNat - 'A'.toNat + 10
  else -1

/-- **What `ts_auth_init` fails with**, and reports. -/
inductive AuthError where
  | keyLength (hexLen : ℕ)
  | hexCharacter (position : ℕ)
  | cryptoInit (status : Int32)
  | keyImport (status : Int32)
deriving DecidableEq

/-- What it returns. -/
def AuthError.ret : AuthError → Int32
  | .keyLength _ => -Errno.EINVAL
  | .hexCharacter _ => -Errno.EINVAL
  | .cryptoInit _ => -Errno.EIO
  | .keyImport _ => -Errno.EIO

/-- The statics of `auth.c`: the bytes parsed, and the key in the store that
`auth_key_id` stands for. -/
structure AuthState where
  networkKey : NetworkKey
  imported : Option NetworkKey

/-- The statics before `main`. -/
def AuthState.static : AuthState := ⟨fun _ => 0, none⟩

/-- The parsing loop, over the passes that are left. -/
def parseNetworkKey (hex : CString) :
    List (Fin TS_AUTH_KEY_SIZE) → NetworkKey → NetworkKey × Option AuthError
  | [], key => (key, none)
  | i :: rest, key =>
    let hi := hexCharToNibble (hex.getD (i * 2) 0)
    let lo := hexCharToNibble (hex.getD (i * 2 + 1) 0)
    if hi < 0 ∨ lo < 0 then
      (key, some (.hexCharacter (if hi < 0 then i * 2 else i * 2 + 1)))
    else
      parseNetworkKey hex rest
        (Function.update key i (UInt8.ofNat (hi.toNat <<< 4 ||| lo.toNat)))

/-- `ts_auth_init` over the string it is built with: the statics and what it
fails with, if it fails. The statuses are what `psa_crypto_init` and
`psa_import_key` return. -/
def tsAuthInit (hex : CString) (initStatus importStatus : Int32) (s : AuthState) :
    AuthState × Option AuthError :=
  if hex.length ≠ TS_AUTH_KEY_SIZE * 2 then (s, some (.keyLength hex.length))
  else
    match parseNetworkKey hex (List.finRange TS_AUTH_KEY_SIZE) s.networkKey with
    | (key, some e) => ({ s with networkKey := key }, some e)
    | (key, none) =>
      if initStatus ≠ 0 then ({ s with networkKey := key }, some (.cryptoInit initStatus))
      else if importStatus ≠ 0 then ({ s with networkKey := key }, some (.keyImport importStatus))
      else (⟨key, some key⟩, none)

/-- Every digit is taken for its value, and every other character for −1. -/
theorem hexCharToNibble_eq (c : UInt8) :
    hexCharToNibble c = (hexValue c).elim (-1) (fun v => (v : ℤ)) := by
  have hall : ∀ n < 2 ^ 8, hexCharToNibble (UInt8.ofNat n)
      = (hexValue (UInt8.ofNat n)).elim (-1) (fun v => (v : ℤ)) := by decide +kernel
  have hc := hall c.toNat c.toNat_lt
  rwa [UInt8.ofNat_toNat] at hc

/-- It is below 16, and its digit stands at its place. -/
theorem hexValue_eq_some_iff {c : UInt8} {v : ℕ} :
    hexValue c = some v ↔ v < 16 ∧ lowerCase c = hexDigits.getD v 0 := by
  have hall : ∀ n < 2 ^ 8, (∀ w ∈ hexValue (UInt8.ofNat n), w < 16)
      ∧ ∀ w < 16, hexValue (UInt8.ofNat n) = some w
        ↔ lowerCase (UInt8.ofNat n) = hexDigits.getD w 0 := by decide +kernel
  have hc := hall c.toNat c.toNat_lt
  rw [UInt8.ofNat_toNat] at hc
  exact ⟨fun h => ⟨hc.1 v h, (hc.2 v (hc.1 v h)).mp h⟩, fun h => (hc.2 v h.1).mpr h.2⟩

/-- **The byte of a pass**, if both its characters are digits. -/
def hexByte (hex : CString) (i : Fin TS_AUTH_KEY_SIZE) : Option UInt8 :=
  (hexValue (hex.getD (i * 2) 0)).bind (fun hi =>
    (hexValue (hex.getD (i * 2 + 1) 0)).map (fun lo => UInt8.ofNat (hi * 16 + lo)))

/-- The byte of two digits has their values for halves. -/
theorem hexByte_eq_some_iff {hex : CString} {i : Fin TS_AUTH_KEY_SIZE} {b : UInt8} :
    hexByte hex i = some b
      ↔ hexValue (hex.getD (i * 2) 0) = some (b.toNat / 16)
        ∧ hexValue (hex.getD (i * 2 + 1) 0) = some (b.toNat % 16) := by
  unfold hexByte
  constructor
  · intro h
    obtain ⟨hi, hhi, h⟩ := Option.bind_eq_some_iff.mp h
    obtain ⟨lo, hlo, rfl⟩ := Option.map_eq_some_iff.mp h
    have hhi' := (hexValue_eq_some_iff.mp hhi).1
    have hlo' := (hexValue_eq_some_iff.mp hlo).1
    have hb : (UInt8.ofNat (hi * 16 + lo)).toNat = hi * 16 + lo := by
      rw [UInt8.toNat_ofNat']
      omega
    rw [hhi, hlo, hb]
    exact ⟨congrArg some (by omega), congrArg some (by omega)⟩
  · rintro ⟨hhi, hlo⟩
    rw [hhi, hlo, Option.bind_some, Option.map_some, Nat.div_add_mod', UInt8.ofNat_toNat]

/-! ## The parsing loop -/

/-- The two halves of a byte, put together as the loop does it. -/
theorem shiftLeft_or_eq {hi lo : ℕ} (h : lo < 16) : hi <<< 4 ||| lo = hi * 16 + lo := by
  rw [Nat.shiftLeft_eq, ← Nat.mul_comm (2 ^ 4), Nat.two_pow_add_eq_or_of_lt h, Nat.mul_comm]

/-- **One pass of the loop.** -/
theorem parseNetworkKey_cons (hex : CString) (i : Fin TS_AUTH_KEY_SIZE)
    (rest : List (Fin TS_AUTH_KEY_SIZE)) (key : NetworkKey) :
    parseNetworkKey hex (i :: rest) key
      = match hexByte hex i with
        | some b => parseNetworkKey hex rest (Function.update key i b)
        | none => (key, some (.hexCharacter
            (if hexValue (hex.getD (i * 2) 0) = none then i * 2 else i * 2 + 1))) := by
  have hnonneg (n : ℕ) : ¬ (n : ℤ) < 0 := Int.not_lt.mpr (Int.natCast_nonneg n)
  rw [parseNetworkKey, hexByte]
  cases hhi : hexValue (hex.getD (i * 2) 0) with
  | none =>
    have hhi' : hexCharToNibble (hex.getD (i * 2) 0) = -1 := by rw [hexCharToNibble_eq, hhi]; rfl
    simp only [hhi']
    rfl
  | some hi =>
    have hhi' : hexCharToNibble (hex.getD (i * 2) 0) = hi := by rw [hexCharToNibble_eq, hhi]; rfl
    cases hlo : hexValue (hex.getD (i * 2 + 1) 0) with
    | none =>
      have hlo' : hexCharToNibble (hex.getD (i * 2 + 1) 0) = -1 := by
        rw [hexCharToNibble_eq, hlo]
        rfl
      have hneg : (-1 : ℤ) < 0 := by decide
      simp only [hhi', hlo', hnonneg, hneg, or_true, if_true, if_false]
      rfl
    | some lo =>
      have hlo' : hexCharToNibble (hex.getD (i * 2 + 1) 0) = lo := by
        rw [hexCharToNibble_eq, hlo]
        rfl
      simp only [hhi', hlo', hnonneg, or_self, if_false, Int.toNat_natCast,
        shiftLeft_or_eq (hexValue_eq_some_iff.mp hlo).1]
      rfl

/-- **What the loop does**: it writes the bytes of the passes up to the first
with a character that is no digit, and stops there. -/
theorem parseNetworkKey_spec (hex : CString) (l : List (Fin TS_AUTH_KEY_SIZE))
    (key : NetworkKey) :
    ∃ done rest, l = done ++ rest ∧ (∀ i ∈ done, (hexByte hex i).isSome)
      ∧ (∀ j, (parseNetworkKey hex l key).1 j
        = if j ∈ done then (hexByte hex j).getD 0 else key j)
      ∧ ((rest = [] ∧ (parseNetworkKey hex l key).2 = none)
        ∨ ∃ i post, rest = i :: post ∧ hexByte hex i = none
          ∧ (parseNetworkKey hex l key).2 = some (.hexCharacter
            (if hexValue (hex.getD (i * 2) 0) = none then i * 2 else i * 2 + 1))) := by
  induction l generalizing key with
  | nil => exact ⟨[], [], rfl, by simp, fun j => rfl, Or.inl ⟨rfl, rfl⟩⟩
  | cons i l ih =>
    rw [parseNetworkKey_cons]
    cases hb : hexByte hex i with
    | none => exact ⟨[], i :: l, rfl, by simp, fun j => rfl, Or.inr ⟨i, l, rfl, hb, rfl⟩⟩
    | some b =>
      obtain ⟨done, rest, hl, hdone, hbytes, hend⟩ := ih (Function.update key i b)
      refine ⟨i :: done, rest, by rw [hl, List.cons_append], ?_, fun j => ?_, hend⟩
      · exact List.forall_mem_cons.mpr ⟨by rw [hb]; rfl, hdone⟩
      · rw [hbytes j]
        by_cases hj : j = i
        · rw [hj, hb, Function.update_self, if_pos List.mem_cons_self]
          split <;> rfl
        · rw [Function.update_of_ne hj]
          simp only [List.mem_cons, hj, false_or]

/-! ## The text of a key -/

/-- A list of pairs, read at its places. -/
theorem getD_flatMap_pair {α β : Type*} (f g : α → β) (d : β) (l : List α) (k : ℕ) (h : k < l.length) :
    (l.flatMap (fun a => [f a, g a])).getD (k * 2) d = f (l.get ⟨k, h⟩)
      ∧ (l.flatMap (fun a => [f a, g a])).getD (k * 2 + 1) d = g (l.get ⟨k, h⟩) := by
  induction l generalizing k with
  | nil => cases h
  | cons a l ih =>
    cases k with
    | zero => exact ⟨rfl, rfl⟩
    | succ k =>
      rw [Nat.succ_mul]
      exact ih k (Nat.lt_of_succ_lt_succ h)

/-- The two digits of a byte of the text. -/
theorem getD_hexText (key : NetworkKey) (i : Fin TS_AUTH_KEY_SIZE) :
    (hexText key).getD (i * 2) 0 = hexDigits.getD ((key i).toNat / 16) 0
      ∧ (hexText key).getD (i * 2 + 1) 0 = hexDigits.getD ((key i).toNat % 16) 0 := by
  have h := getD_flatMap_pair (fun i => hexDigits.getD ((key i).toNat / 16) 0)
    (fun i => hexDigits.getD ((key i).toNat % 16) 0) 0 (List.finRange TS_AUTH_KEY_SIZE) i
    (by rw [List.length_finRange]; exact i.isLt)
  simp only [List.get_finRange, Fin.cast_mk, Fin.eta] at h
  exact h

@[simp] theorem length_hexText (key : NetworkKey) : (hexText key).length = TS_AUTH_KEY_SIZE * 2 :=
  rfl

/-- **A string spells a key if it has the length and each pair of its digits is
the key's byte.** -/
theorem spells_iff {hex : CString} {key : NetworkKey} :
    Spells hex key ↔ hex.length = TS_AUTH_KEY_SIZE * 2 ∧ ∀ i, hexByte hex i = some (key i) := by
  have hdigit (c : UInt8) (b : ℕ) (hb : b < 16) :
      hexValue c = some b ↔ lowerCase c = hexDigits.getD b 0 :=
    hexValue_eq_some_iff.trans (and_iff_right hb)
  have hbyte (i : Fin TS_AUTH_KEY_SIZE) : hexByte hex i = some (key i)
      ↔ lowerCase (hex.getD (i * 2) 0) = (hexText key).getD (i * 2) 0
        ∧ lowerCase (hex.getD (i * 2 + 1) 0) = (hexText key).getD (i * 2 + 1) 0 := by
    have hlt := (key i).toNat_lt
    rw [hexByte_eq_some_iff, (getD_hexText key i).1, (getD_hexText key i).2,
      hdigit _ _ (by omega), hdigit _ _ (by omega)]
  simp only [hbyte]
  have hmap (k : ℕ) : lowerCase (hex.getD k 0) = (hex.map lowerCase).getD k 0 :=
    (List.getD_map hex 0 lowerCase).symm
  constructor
  · intro h
    have hlen : hex.length = TS_AUTH_KEY_SIZE * 2 := by
      rw [← length_hexText key, ← h, List.length_map]
    refine ⟨hlen, fun i => ?_⟩
    rw [hmap, hmap, h]
    exact ⟨rfl, rfl⟩
  · rintro ⟨hlen, h⟩
    refine List.ext_getElem (by rw [List.length_map, hlen, length_hexText]) (fun k hk hk' => ?_)
    rw [length_hexText] at hk'
    rw [← List.getD_eq_getElem _ 0, ← List.getD_eq_getElem _ 0, ← hmap]
    obtain ⟨heven, hodd⟩ := h ⟨k / 2, by omega⟩
    rcases Nat.mod_two_eq_zero_or_one k with hk₂ | hk₂
    · rwa [show k / 2 * 2 = k from by omega] at heven
    · rwa [show k / 2 * 2 + 1 = k from by omega] at hodd

/-- A key is spelled by its own text. -/
theorem spells_hexText (key : NetworkKey) : Spells (hexText key) key := by
  have hdigits : ∀ v < 16, lowerCase (hexDigits.getD v 0) = hexDigits.getD v 0 := by decide
  refine (List.map_congr_left (fun c hc => ?_)).trans (List.map_id _)
  obtain ⟨i, -, hi⟩ := List.mem_flatMap.mp hc
  have hlt := (key i).toNat_lt
  rcases List.mem_cons.mp hi with rfl | hi
  · exact hdigits _ (by omega)
  · rw [List.mem_singleton.mp hi]
    exact hdigits _ (by omega)

/-- **The first character that is no hex digit.** -/
def FirstMistake (hex : CString) (p : ℕ) : Prop :=
  p < hex.length ∧ hexValue (hex.getD p 0) = none ∧ ∀ q < p, hexValue (hex.getD q 0) ≠ none

/-- There is one at most. -/
theorem FirstMistake.unique {hex : CString} {p q : ℕ} (hp : FirstMistake hex p)
    (hq : FirstMistake hex q) : p = q := by
  rcases Nat.lt_trichotomy p q with h | h | h
  · exact absurd hp.2.1 (hq.2.2 p h)
  · exact h
  · exact absurd hq.2.1 (hp.2.2 q h)

/-- The passes before one are those of the lower indices. -/
theorem mem_done_iff {n : ℕ} {done post : List (Fin n)} {i : Fin n}
    (h : List.finRange n = done ++ i :: post) (j : Fin n) : j ∈ done ↔ j < i := by
  have hsorted := List.pairwise_lt_finRange n
  rw [h] at hsorted
  obtain ⟨-, hright, hacross⟩ := List.pairwise_append.mp hsorted
  refine ⟨fun hj => hacross j hj i List.mem_cons_self, fun hj => ?_⟩
  have hmem := List.mem_finRange j
  rw [h] at hmem
  rcases List.mem_append.mp hmem with hmem | hmem
  · exact hmem
  · rcases List.mem_cons.mp hmem with rfl | hmem
    · exact absurd hj (lt_irrefl _)
    · exact absurd ((List.pairwise_cons.mp hright).1 j hmem) (not_lt_of_gt hj)

/-- A pass without a mistake has two digits. -/
theorem hexByte_isSome_iff {hex : CString} {i : Fin TS_AUTH_KEY_SIZE} :
    (hexByte hex i).isSome ↔ hexValue (hex.getD (i * 2) 0) ≠ none
      ∧ hexValue (hex.getD (i * 2 + 1) 0) ≠ none := by
  unfold hexByte
  cases hexValue (hex.getD (i * 2) 0) with
  | none => simp
  | some hi => cases hexValue (hex.getD (i * 2 + 1) 0) <;> simp

/-- **What the loop leaves behind**: the whole key, or the bytes before the
first mistake. -/
theorem parseNetworkKey_cases {hex : CString} (hlen : hex.length = TS_AUTH_KEY_SIZE * 2)
    (key : NetworkKey) :
    (∃ key', Spells hex key'
        ∧ parseNetworkKey hex (List.finRange TS_AUTH_KEY_SIZE) key = (key', none))
      ∨ ∃ p key', FirstMistake hex p
        ∧ (∀ j : Fin TS_AUTH_KEY_SIZE,
          key' j = if j * 2 + 1 < p then (hexByte hex j).getD 0 else key j)
        ∧ parseNetworkKey hex (List.finRange TS_AUTH_KEY_SIZE) key
          = (key', some (.hexCharacter p)) := by
  obtain ⟨done, rest, hl, hdone, hbytes, ⟨rfl, hnone⟩ | ⟨i, post, rfl, hi, herror⟩⟩ :=
    parseNetworkKey_spec hex (List.finRange TS_AUTH_KEY_SIZE) key
  · refine Or.inl ⟨_, spells_iff.mpr ⟨hlen, fun i => ?_⟩, Prod.ext rfl hnone⟩
    have hmem : i ∈ done := by
      rw [← List.append_nil done, ← hl]
      exact List.mem_finRange i
    obtain ⟨b, hb⟩ := Option.isSome_iff_exists.mp (hdone i hmem)
    have hi := hbytes i
    rw [if_pos hmem, hb, Option.getD_some] at hi
    exact hb.trans (congrArg some hi.symm)
  · have hmem := mem_done_iff hl
    have hbefore (q : ℕ) (hq : q < i * 2) : hexValue (hex.getD q 0) ≠ none := by
      have hlt : q / 2 < i.val := by omega
      obtain ⟨heven, hodd⟩ := hexByte_isSome_iff.mp
        (hdone ⟨q / 2, hlt.trans i.isLt⟩ ((hmem _).mpr hlt))
      rcases Nat.mod_two_eq_zero_or_one q with hq₂ | hq₂
      · rwa [show q / 2 * 2 = q from by omega] at heven
      · rwa [show q / 2 * 2 + 1 = q from by omega] at hodd
    refine Or.inr ⟨_, _, ?_, fun j => ?_, Prod.ext rfl herror⟩
    · split
      · next hhi => exact ⟨by omega, hhi, hbefore⟩
      · next hhi =>
        have hlo : hexValue (hex.getD (i * 2 + 1) 0) = none := by
          by_contra hlo
          have hsome := hexByte_isSome_iff.mpr ⟨hhi, hlo⟩
          rw [hi] at hsome
          cases hsome
        refine ⟨by omega, hlo, fun q hq => ?_⟩
        rcases Nat.lt_succ_iff_lt_or_eq.mp hq with hq | rfl
        · exact hbefore q hq
        · exact hhi
    · refine (hbytes j).trans (if_congr ((hmem j).trans ?_) rfl rfl)
      split <;> simp only [Fin.lt_def] <;> omega

/-- **The ways `ts_auth_init` can end.** -/
theorem tsAuthInit_cases (hex : CString) (initStatus importStatus : Int32) (s : AuthState) :
    (hex.length ≠ TS_AUTH_KEY_SIZE * 2
        ∧ tsAuthInit hex initStatus importStatus s = (s, some (.keyLength hex.length)))
      ∨ (hex.length = TS_AUTH_KEY_SIZE * 2 ∧ ∃ p key, FirstMistake hex p
        ∧ (∀ j : Fin TS_AUTH_KEY_SIZE,
          key j = if j * 2 + 1 < p then (hexByte hex j).getD 0 else s.networkKey j)
        ∧ tsAuthInit hex initStatus importStatus s
          = ({ s with networkKey := key }, some (.hexCharacter p)))
      ∨ ∃ key, Spells hex key
        ∧ tsAuthInit hex initStatus importStatus s
          = if initStatus ≠ 0 then ({ s with networkKey := key }, some (.cryptoInit initStatus))
            else if importStatus ≠ 0 then
              ({ s with networkKey := key }, some (.keyImport importStatus))
            else (⟨key, some key⟩, none) := by
  unfold tsAuthInit
  by_cases hlen : hex.length = TS_AUTH_KEY_SIZE * 2
  · rw [if_neg (not_not.mpr hlen)]
    rcases parseNetworkKey_cases hlen s.networkKey with
      ⟨key, hkey, heq⟩ | ⟨p, key, hp, hbytes, heq⟩
    · exact Or.inr (Or.inr ⟨key, hkey, by rw [heq]⟩)
    · exact Or.inr (Or.inl ⟨hlen, p, key, hp, hbytes, by rw [heq]⟩)
  · exact Or.inl ⟨hlen, if_pos hlen⟩

/-- The bytes of the default string are those of the default key. -/
example : (tsAuthInit (cstr "681312c55b1aadb66c15df53950b3145") 0 0 .static).1.imported.map
    (fun key => (List.ofFn key).foldl (fun n b => n * 2 ^ 8 + b.toNat) 0) = some networkKey := by
  decide +kernel

/-! ## A node without a key -/

/-- The return value of `ts_auth_init`. -/
def authRet (r : AuthState × Option AuthError) : Int32 := r.2.elim 0 AuthError.ret

/-- **The step of `main` is that of an image built with this string**: what
`ts_auth_init` returns is what it makes of the string. -/
def BuiltWith {τ : Type} (hex : CString) : BootAct τ → Prop
  | .tsAuthInit ret => ∃ initStatus importStatus,
    ret = authRet (tsAuthInit hex initStatus importStatus .static)
  | _ => True

/-- The event is one of a frame: sent, or taken note of. -/
def BootEvent.OfFrame {τ : Type} : BootEvent τ → Prop
  | .loaded _ => False
  | .judged _ _ => True
  | .cacheCleared _ => False
  | .tableCleared _ => False
  | .node (.originated _) => False
  | .node (.published _ _) => False
  | .node _ => True

/-- Without a key every string is refused. -/
theorem authRet_of_not_spells {hex : CString} (h : ∀ key, ¬ Spells hex key)
    (initStatus importStatus : Int32) (s : AuthState) :
    authRet (tsAuthInit hex initStatus importStatus s) = -Errno.EINVAL := by
  rcases tsAuthInit_cases hex initStatus importStatus s with
    ⟨-, heq⟩ | ⟨-, p, key, -, -, heq⟩ | ⟨key, hkey, -⟩
  · rw [heq]
    rfl
  · rw [heq]
    rfl
  · exact absurd hkey (h key)

section Silent

variable {τ : Type} [Inhabited τ] {P : Platform}

/-- **A node that is coming up without a key.** -/
structure Keyless (config : ConfigState) (s : Booting τ) : Prop where
  keyImported : s.keyImported = false
  main : s.main = .authInit ∨ s.main = .returned (-Errno.EINVAL)
  unheard : s.node.Unheard config

/-- Nothing can be signed, … -/
theorem Keyless.tsAuthSign_eq {config : ConfigState} {s : Booting τ} (h : Keyless config s)
    (data : List UInt8) : tsAuthSign (s.platform P) data = .error (-Errno.EIO) := by
  unfold tsAuthSign Booting.platform
  rw [h.keyImported]
  rfl

/-- … so there is no frame to be sent, … -/
theorem Keyless.loraOutFrame_ne_ok {config : ConfigState} {s : Booting τ} (h : Keyless config s)
    {msg : TsMsgLoraOutgoing} {frame : List UInt8} :
    loraOutFrame (s.platform P) msg ≠ .ok frame := by
  intro hframe
  obtain ⟨cbor, tag, -, htag, -⟩ := loraOutFrame_eq_ok hframe
  cases h.tsAuthSign_eq (P := P) cbor ▸ htag

/-- … and no frame is taken for authentic. -/
theorem Keyless.loraInParse_eq_none {config : ConfigState} {s : Booting τ}
    (h : Keyless config s) (frame : List UInt8) : loraInParse (s.platform P) frame = none := by
  have hverify (data tag : List UInt8) :
      tsAuthVerify (s.platform P) data tag = -Errno.EIO := by
    unfold tsAuthVerify
    rw [h.tsAuthSign_eq]
  unfold loraInParse
  split
  · rfl
  · exact if_pos (by rw [hverify]; decide)

/-- **A step of one of the node's threads** leaves it without a key, and what
it does is to no frame. -/
theorem Keyless.node {config : ConfigState} {s : Booting τ} (h : Keyless config s)
    {act : NodeAct τ} {n' : Node τ} {es : List (NodeEvent τ)}
    (hs : Step (s.platform P) s.node act n' es) :
    Keyless config { s with node := n' } ∧ ∀ e ∈ es, ¬ (BootEvent.node e).OfFrame := by
  have hnone : ∀ c, .accepted c ∉ es := fun c hc => by
    obtain ⟨frame, rssi, snr, now, -, hparse, -⟩ := hs.of_accepted_mem hc
    rw [h.loraInParse_eq_none] at hparse
    cases hparse
  obtain ⟨hunheard, hown⟩ := h.unheard.step hs hnone
  refine ⟨⟨h.keyImported, h.main, hunheard⟩, fun e he hframe => ?_⟩
  have he' := hown e he
  cases e with
  | originated | published => exact hframe
  | transmitted msg pub frame =>
    cases hs with
    | sent hbus hout => exact h.loraOutFrame_ne_ok hout
    | _ => simp at he
  | _ => cases he'

/-- **A step of the boot** of an image whose string spells no key. -/
theorem Keyless.step {hex : CString} (hhex : ∀ key, ¬ Spells hex key) {config : ConfigState}
    {s s' : Booting τ} (h : Keyless config s) {a : BootAct τ} (ha : BuiltWith hex a)
    (hs : Booting.step P s a = some s') :
    Keyless config s' ∧ ∀ e ∈ Booting.bootEvents P s a, ¬ e.OfFrame := by
  -- `main` does not come to any step after the first
  have hmain (pc : MainPc) (hpc : pc ≠ .authInit ∧ ∀ ret, pc ≠ .returned ret) : s.main ≠ pc := by
    rintro rfl
    rcases h.main with hmain | hmain
    · exact hpc.1 hmain
    · exact hpc.2 _ hmain
  cases a with
  | tsAuthInit ret =>
    obtain ⟨initStatus, importStatus, rfl⟩ := ha
    rw [authRet_of_not_spells hhex] at hs
    simp only [Booting.step] at hs
    split at hs
    · cases hs
      exact ⟨⟨h.keyImported, Or.inr rfl, h.unheard⟩, fun e he => absurd he List.not_mem_nil⟩
    · cases hs
  | tsConfigInit subsysRet loadRet order =>
    simp only [Booting.step, if_neg (hmain .configInit ⟨by decide, fun _ => by simp⟩)] at hs
    cases hs
  | tsRoutingInit =>
    simp only [Booting.step, if_neg (hmain .routingInit ⟨by decide, fun _ => by simp⟩)] at hs
    cases hs
  | tsRoutingTableInit =>
    simp only [Booting.step, if_neg (hmain .routingTableInit ⟨by decide, fun _ => by simp⟩)] at hs
    cases hs
  | node act =>
    simp only [Booting.step] at hs
    split at hs
    · obtain ⟨n', hn', rfl⟩ := Option.map_eq_some_iff.mp hs
      obtain ⟨h', hes⟩ := h.node (Step.of_step hn')
      refine ⟨h', fun e he => ?_⟩
      rcases List.mem_append.mp he with he | he
      · cases act with
        | receive frame tag rssi snr now =>
          rw [Booting.judgements, h.loraInParse_eq_none] at he
          cases he
        | deliver saveRet ackTag =>
          rw [Booting.judgements, h.unheard.fresh.listening] at he
          cases he
        | _ => cases he
      · obtain ⟨e', he', rfl⟩ := List.mem_map.mp he
        exact hes e' he'
    · cases hs

/-- **A node without a key is silent.** The threads of the LoRa module run
from `lora_init` on, and do not wait for `main`. But in every interleaving of
them with the `main` of an image whose string spells no key, whatever the
device, the key store and the settings do: `main` returns `-EINVAL` before it
comes to the configuration, no frame is ever sent, none that comes in is
compared, accepted, delivered, applied or relayed, and the configuration stays
the defaults. -/
theorem silent_without_key {hex : CString} (hhex : ∀ key, ¬ Spells hex key)
    (store : Zephyr.SettingsStore) (deviceReady : Bool) (configRet : Int32)
    {acts : List (BootAct τ)} (hacts : ∀ a ∈ acts, BuiltWith hex a) {s : Booting τ}
    (hrun : run (Booting.step P) (Booting.afterLoraInit store deviceReady configRet) acts
      = some s) :
    (s.main = .authInit ∨ s.main = .returned (-Errno.EINVAL))
      ∧ s.node.config = ⟨tsConfigDefaults, store⟩
      ∧ ∀ e ∈ bootLog P (Booting.afterLoraInit store deviceReady configRet) acts,
        ¬ e.OfFrame := by
  have hstart : Keyless ⟨tsConfigDefaults, store⟩
      (Booting.afterLoraInit store deviceReady configRet : Booting τ)
        ∧ ∀ e ∈ ([] : List (BootEvent τ)), ¬ e.OfFrame :=
    ⟨⟨rfl, Or.inl rfl, ⟨⟨rfl, rfl, fun _ => rfl⟩, rfl, rfl⟩⟩, fun e he => absurd he List.not_mem_nil⟩
  obtain ⟨h, hes⟩ := run_history_of_allSteps (P := fun _ => BuiltWith hex)
    (J := fun s (es : List (BootEvent τ)) =>
      Keyless ⟨tsConfigDefaults, store⟩ s ∧ ∀ e ∈ es, ¬ e.OfFrame)
    (fun s es a s' h ha hs => ⟨(h.1.step hhex ha hs).1, fun e he =>
      (List.mem_append.mp he).elim (h.2 e) ((h.1.step hhex ha hs).2 e)⟩)
    hstart (allSteps_of_forall _ hacts) hrun
  exact ⟨h.main, h.unheard.config, hes⟩

end Silent

/-- The default string with a slip in the last character. -/
def slippedKey : CString := cstr "681312c55b1aadb66c15df53950b314g"

/-- A node with it tries to send a heartbeat, and hears another node. -/
def triesToTakePart : List (BootAct Unit) :=
  [.tsAuthInit (-Errno.EINVAL), .node (.originate (.heartbeat 60) ()),
    .node (.publishOwn .heartbeat), .node .outWait, .node .outRead, .node .outSend, hearsStatus]

/-- It does neither. -/
theorem silent_without_key_slipped : ∃ s,
    run (Booting.step defaultPlatform) (Booting.afterLoraInit ∅ true 0) triesToTakePart = some s
      ∧ s.main ≠ .running
      ∧ ∀ e ∈ bootLog defaultPlatform (Booting.afterLoraInit ∅ true 0) triesToTakePart,
        ¬ e.OfFrame := by
  have hmistake : hexByte slippedKey ⟨15, by decide⟩ = none := by decide
  have hhex (key : NetworkKey) : ¬ Spells slippedKey key := fun h => by
    rw [(spells_iff.mp h).2] at hmistake
    cases hmistake
  have hacts : ∀ a ∈ triesToTakePart, BuiltWith slippedKey a := by
    simp only [triesToTakePart, hearsStatus, List.forall_mem_cons]
    exact ⟨⟨0, 0, (authRet_of_not_spells hhex 0 0 _).symm⟩, trivial, trivial, trivial, trivial,
      trivial, trivial, fun _ ha => absurd ha List.not_mem_nil⟩
  have hsome : (run (Booting.step defaultPlatform) (Booting.afterLoraInit ∅ true 0)
      triesToTakePart).isSome = true := by decide +kernel
  obtain ⟨s, hrun⟩ := Option.isSome_iff_exists.mp hsome
  obtain ⟨hmain, -, hes⟩ := silent_without_key hhex ∅ true 0 hacts hrun
  refine ⟨s, hrun, fun h => ?_, hes⟩
  rcases hmain with hmain | hmain <;> rw [h] at hmain <;> cases hmain

end Terrascope
