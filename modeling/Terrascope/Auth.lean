import Terrascope.Cmac
import Terrascope.Messages
import Terrascope.Zcbor

/-!
# Authentication

`auth.c` over the MAC that the crypto service computes with the imported
network key. The service is a parameter: `mac` gives the sixteen bytes it
computes for some data, or `none` where it fails. Nothing here depends on
which MAC it is.
-/

namespace Terrascope

/-- `TS_AUTH_TAG_SIZE`. -/
def TS_AUTH_TAG_SIZE : ℕ := 8

/-- **What a firmware image is built with**: the CBOR library, the MAC under
the network key, and `CONFIG_TS_KEY_ID`. -/
structure Platform where
  zcbor : Zcbor
  mac : List UInt8 → Option (Vector UInt8 16)
  keyId : UInt8

/-- The default of `CONFIG_TS_NETWORK_KEY`. -/
def networkKey : ℕ := 0x681312c55b1aadb66c15df53950b3145

/-- **The image as it is built by default.** -/
def defaultPlatform : Platform where
  zcbor := Zcbor.reference
  mac := fun data => some (Cmac.mac networkKey data)
  keyId := 0

/-- `ts_auth_get_key_id`. -/
def tsAuthGetKeyId (P : Platform) : UInt8 := P.keyId

/-- `ts_auth_sign`: the tag, or the error returned. -/
def tsAuthSign (P : Platform) (data : List UInt8) : Except Int32 (List UInt8) :=
  match P.mac data with
  | none => .error (-Errno.EIO)
  | some fullMac => .ok (fullMac.toList.take TS_AUTH_TAG_SIZE)

/-- `ts_auth_verify`: the tag is recomputed, and the differences of its bytes
are accumulated before they are looked at. -/
def tsAuthVerify (P : Platform) (data tag : List UInt8) : Int32 :=
  match tsAuthSign P data with
  | .error ret => ret
  | .ok computedTag =>
    let diff := (computedTag.zip tag).foldl (fun diff p => diff ||| (p.1 ^^^ p.2)) 0
    if diff = 0 then 0 else -Errno.EACCES

/-- A tag has the size the frame reserves for it. -/
theorem length_of_tsAuthSign {P : Platform} {data tag : List UInt8}
    (h : tsAuthSign P data = .ok tag) : tag.length = TS_AUTH_TAG_SIZE := by
  unfold tsAuthSign at h
  split at h
  · cases h
  · next full _ =>
    rw [← Except.ok.inj h, List.length_take, Vector.length_toList]
    rfl

/-- **The accumulated difference is zero only of equal bytes**: once a bit is
set, no later byte clears it. -/
theorem foldl_or_xor_eq_zero {l l' : List UInt8} (hlen : l.length = l'.length)
    (diff : UInt8) :
    (l.zip l').foldl (fun diff p => diff ||| (p.1 ^^^ p.2)) diff = 0 ↔ diff = 0 ∧ l = l' := by
  induction l generalizing l' diff with
  | nil =>
    obtain rfl := List.length_eq_zero_iff.mp hlen.symm
    simp
  | cons b l ih =>
    cases l' with
    | nil => cases hlen
    | cons b' l' =>
      rw [List.zip_cons_cons, List.foldl_cons, ih (Nat.succ.inj hlen), UInt8.or_eq_zero_iff,
        UInt8.xor_eq_zero_iff, List.cons.injEq, and_assoc]

/-- **What `ts_auth_verify` accepts** of a tag's size is what `ts_auth_sign`
makes. -/
theorem tsAuthVerify_eq_zero_iff {P : Platform} {data tag : List UInt8}
    (hlen : tag.length = TS_AUTH_TAG_SIZE) :
    tsAuthVerify P data tag = 0 ↔ tsAuthSign P data = .ok tag := by
  unfold tsAuthVerify
  cases hsign : tsAuthSign P data with
  | error ret =>
    -- the one error there is, and it is passed on
    unfold tsAuthSign at hsign
    split at hsign
    · cases hsign
      exact iff_of_false (show -Errno.EIO ≠ 0 by decide) (fun h => nomatch h)
    · cases hsign
  | ok computedTag =>
    have hsame : computedTag.length = tag.length := by rw [length_of_tsAuthSign hsign, hlen]
    have hdiff := foldl_or_xor_eq_zero hsame 0
    dsimp only
    split
    · next hzero => exact iff_of_true rfl (congrArg _ (hdiff.mp hzero).2)
    · next hzero =>
      refine iff_of_false (show -Errno.EACCES ≠ 0 by decide) (fun heq => hzero ?_)
      exact hdiff.mpr ⟨rfl, Except.ok.inj heq⟩

/-- **What was signed is verified.** -/
theorem tsAuthVerify_tsAuthSign {P : Platform} {data tag : List UInt8}
    (h : tsAuthSign P data = .ok tag) : tsAuthVerify P data tag = 0 :=
  (tsAuthVerify_eq_zero_iff (length_of_tsAuthSign h)).mpr h

end Terrascope
