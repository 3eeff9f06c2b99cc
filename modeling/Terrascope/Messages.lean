import Mathlib.Data.List.Basic
import Mathlib.Data.List.TakeWhile
import Mathlib.Data.Vector.Basic

/-!
# Messages and their headers

The data of `messages.h` and `routing.h`: the route header every message
carries and the tagged union of payloads behind it. A C string is the list
of its bytes without the terminator; a `char` array of the wire structs is
a `KeyBuf`, and `KeyBuf.cstr` is the string a reader of the array sees.

The `type` field and the union move together: the constructor of
`TsMsgData` is the value of `type`, so the member the type names is the
member that is there. A value outside the enumeration has no member, and
`TsMsgData.unknown` keeps only the value.
-/

namespace Terrascope

/-! ## Strings and error codes -/

/-- A C string: its bytes up to, and without, the terminating NUL. -/
abbrev CString : Type := List UInt8

/-- The bytes of a string literal. -/
def cstr (s : String) : CString :=
  s.toList.map (fun c => c.toNat.toUInt8)

namespace Errno

def ENOENT : Int32 := 2
def EIO : Int32 := 5
def ENOMEM : Int32 := 12
def EACCES : Int32 := 13
def ENODEV : Int32 := 19
def EINVAL : Int32 := 22
def ENOSPC : Int32 := 28
def EBADMSG : Int32 := 77
def EHOSTUNREACH : Int32 := 118

end Errno

/-! ## The route header -/

/-- `struct ts_route_header`. -/
structure TsRouteHeader where
  src : UInt16
  dst : UInt16
  msgId : UInt32
  ttl : UInt8
  keyId : UInt8
deriving DecidableEq, Repr

/-- **Message identity on the wire**: what duplicates are recognised by. -/
def TsRouteHeader.id (h : TsRouteHeader) : UInt16 × UInt32 := (h.src, h.msgId)

/-! ## Payloads -/

/-- `TS_MSG_CONFIG_KEY_MAX`. -/
def TS_MSG_CONFIG_KEY_MAX : ℕ := 32

/-- `char key[TS_MSG_CONFIG_KEY_MAX]`. -/
abbrev KeyBuf : Type := Vector UInt8 TS_MSG_CONFIG_KEY_MAX

/-- The string a reader of the array sees, bounded by the array as `strnlen`
bounds it. -/
def KeyBuf.cstr (k : KeyBuf) : CString := k.toList.takeWhile (fun c => c ≠ 0)

/-- The array holds a NUL, so it is a C string. -/
def KeyBuf.Terminated (k : KeyBuf) : Prop := 0 ∈ k.toList

instance (k : KeyBuf) : Decidable k.Terminated :=
  inferInstanceAs (Decidable (0 ∈ k.toList))

/-- A text copied to the front of a zeroed array. -/
def KeyBuf.ofText (s : CString) : KeyBuf :=
  Vector.ofFn (fun i => s.getD i 0)

/-- `struct ts_msg_telemetry`. -/
structure TsMsgTelemetry where
  timestamp : UInt32
  temperature : Int32
  humidity : UInt32
  pressure : UInt32
deriving DecidableEq, Repr

/-- `ts_status_t`, an enumeration the decoder fills from any 32-bit value. -/
abbrev TsStatus : Type := UInt32

/-- `OK`. -/
def TsStatus.ok : TsStatus := 0

/-- `struct ts_msg_node_status`. -/
structure TsMsgNodeStatus where
  timestamp : UInt32
  uptime : UInt32
  status : TsStatus
deriving DecidableEq, Repr

/-- `struct ts_msg_config_set`. -/
structure TsMsgConfigSet where
  key : KeyBuf
  value : Int32
deriving DecidableEq, Repr

/-- `struct ts_msg_config_ack`. -/
structure TsMsgConfigAck where
  key : KeyBuf
  value : Int32
  result : Int32
deriving DecidableEq, Repr

/-- **The payload union with its tag.** `ts_msg_type_t` is the constructor;
a `type` outside the enumeration selects no member. -/
inductive TsMsgData where
  | telemetry (t : TsMsgTelemetry)
  | nodeStatus (s : TsMsgNodeStatus)
  | configSet (c : TsMsgConfigSet)
  | configAck (a : TsMsgConfigAck)
  | unknown (type : {t : UInt32 // 3 < t})
deriving DecidableEq

/-- The value of the `type` field. -/
def TsMsgData.type : TsMsgData → UInt32
  | .telemetry _ => 0
  | .nodeStatus _ => 1
  | .configSet _ => 2
  | .configAck _ => 3
  | .unknown t => t.val

/-- Configuration messages are point-to-point, the others are flooded. -/
def TsMsgData.isConfig : TsMsgData → Bool
  | .configSet _ => true
  | .configAck _ => true
  | _ => false

/-- **The same active payload**: the member the type names agrees field by
field, a key being compared as the string it holds. -/
def TsMsgData.Agrees : TsMsgData → TsMsgData → Prop
  | .telemetry t, .telemetry t' => t = t'
  | .nodeStatus s, .nodeStatus s' => s = s'
  | .configSet c, .configSet c' => c.key.cstr = c'.key.cstr ∧ c.value = c'.value
  | .configAck a, .configAck a' =>
    a.key.cstr = a'.key.cstr ∧ a.value = a'.value ∧ a.result = a'.result
  | .unknown t, .unknown t' => t = t'
  | _, _ => False

/-- The key of a configuration message is a C string. -/
def TsMsgData.KeyTerminated : TsMsgData → Prop
  | .configSet c => c.key.Terminated
  | .configAck a => a.key.Terminated
  | _ => True

instance : (d : TsMsgData) → Decidable d.KeyTerminated
  | .configSet c => inferInstanceAs (Decidable c.key.Terminated)
  | .configAck a => inferInstanceAs (Decidable a.key.Terminated)
  | .telemetry _ => isTrue trivial
  | .nodeStatus _ => isTrue trivial
  | .unknown _ => isTrue trivial

/-- **A payload that a decoder makes**: of a known type, and with a C string
for a key. -/
def TsMsgData.Readable : TsMsgData → Prop
  | .unknown _ => False
  | d => d.KeyTerminated

/-- `struct ts_msg_lora_outgoing`. -/
structure TsMsgLoraOutgoing where
  route : TsRouteHeader
  data : TsMsgData
deriving DecidableEq

/-- A message of zero bytes, which is what static storage holds. -/
instance : Inhabited TsMsgLoraOutgoing :=
  ⟨⟨⟨0, 0, 0, 0, 0⟩, .telemetry ⟨0, 0, 0, 0⟩⟩⟩

/-- A status broadcast of node `src` as its neighbours hear it: a minute
after boot, four hops left. -/
def heardStatus (src : UInt16) (msgId : UInt32) : TsMsgLoraOutgoing :=
  ⟨⟨src, 0xFFFF, msgId, 4, 0⟩, .nodeStatus ⟨60, 60, TsStatus.ok⟩⟩

/-- `struct ts_msg_lora_incoming`. -/
structure TsMsgLoraIncoming where
  msg : TsMsgLoraOutgoing
  rssi : Int16
  snr : Int8
deriving DecidableEq

/-- **A message with a proof-only tag** that travels along and that no code
reads. With `Unit` for the tag it is the message. -/
structure Copy (τ : Type) where
  msg : TsMsgLoraOutgoing
  tag : τ
deriving DecidableEq

instance {τ : Type} [Inhabited τ] : Inhabited (Copy τ) := ⟨⟨default, default⟩⟩

/-! ## The payload relation -/

@[simp] theorem TsMsgData.Agrees.refl (d : TsMsgData) : d.Agrees d := by
  cases d <;> simp [TsMsgData.Agrees]

theorem TsMsgData.Agrees.trans {d₁ d₂ d₃ : TsMsgData} (h₁₂ : d₁.Agrees d₂)
    (h₂₃ : d₂.Agrees d₃) : d₁.Agrees d₃ := by
  cases d₁ <;> cases d₂ <;> simp only [TsMsgData.Agrees] at h₁₂ <;>
    cases d₃ <;> simp_all [TsMsgData.Agrees]

/-- Payloads that agree have the same type. -/
theorem TsMsgData.Agrees.type_eq {d d' : TsMsgData} (h : d.Agrees d') :
    d.type = d'.type := by
  cases d <;> cases d' <;> simp_all [TsMsgData.Agrees, TsMsgData.type]

theorem TsMsgData.Readable.keyTerminated {d : TsMsgData} (h : d.Readable) :
    d.KeyTerminated := by
  cases d with
  | unknown type => exact trivial
  | _ => exact h

/-- **What can be read and is not about the configuration** is telemetry or a
status. -/
theorem TsMsgData.Readable.flooded {d : TsMsgData} (h : d.Readable) (hd : d.isConfig = false) :
    (∃ t, d = .telemetry t) ∨ ∃ s, d = .nodeStatus s := by
  cases d with
  | telemetry t => exact Or.inl ⟨t, rfl⟩
  | nodeStatus s => exact Or.inr ⟨s, rfl⟩
  | configSet c => cases hd
  | configAck a => cases hd
  | unknown type => exact absurd h id

/-! ## Key arrays as strings -/

/-- A text in an array, followed by the zeros of the array. -/
theorem KeyBuf.toList_ofText {s : CString} (h : s.length ≤ TS_MSG_CONFIG_KEY_MAX) :
    (KeyBuf.ofText s).toList
      = s ++ List.replicate (TS_MSG_CONFIG_KEY_MAX - s.length) 0 := by
  unfold KeyBuf.ofText
  rw [Vector.toList_ofFn]
  refine List.ext_getElem ?_ (fun i h₁ h₂ => ?_)
  · rw [List.length_ofFn, List.length_append, List.length_replicate]
    omega
  · rw [List.getElem_ofFn]
    show s.getD i 0 = _
    rw [List.getD_eq_getElem?_getD]
    by_cases hi : i < s.length
    · rw [List.getElem?_eq_getElem hi, Option.getD_some, List.getElem_append_left hi]
    · rw [List.getElem?_eq_none (by omega), Option.getD_none,
        List.getElem_append_right (by omega), List.getElem_replicate]

/-- A text with room for its NUL is a C string in the array. -/
theorem KeyBuf.terminated_ofText {s : CString} (h : s.length < TS_MSG_CONFIG_KEY_MAX) :
    (KeyBuf.ofText s).Terminated := by
  have hpos : TS_MSG_CONFIG_KEY_MAX - s.length ≠ 0 := Nat.sub_ne_zero_of_lt h
  unfold KeyBuf.Terminated
  rw [KeyBuf.toList_ofText h.le]
  exact List.mem_append_right _ (List.mem_replicate.mpr ⟨hpos, rfl⟩)

/-- **The string in an array of a text** is the text up to its first NUL. -/
theorem KeyBuf.cstr_ofText {s : CString} (h : s.length ≤ TS_MSG_CONFIG_KEY_MAX) :
    (KeyBuf.ofText s).cstr = s.takeWhile (fun c => c ≠ 0) := by
  unfold KeyBuf.cstr
  rw [KeyBuf.toList_ofText h, List.takeWhile_append]
  split
  · next hs =>
    have hzeros : (List.replicate (TS_MSG_CONFIG_KEY_MAX - s.length) (0 : UInt8)).takeWhile
        (fun c => c ≠ 0) = [] := by
      rw [List.takeWhile_replicate]
      rfl
    rw [hzeros, List.append_nil]
    exact ((List.takeWhile_prefix _).eq_of_length hs).symm
  · rfl

/-- A string read off an array has no NUL in it. -/
theorem KeyBuf.takeWhile_cstr (k : KeyBuf) :
    k.cstr.takeWhile (fun c => c ≠ 0) = k.cstr := by
  unfold KeyBuf.cstr
  exact List.takeWhile_idem

/-- The string in an array is no longer than the array. -/
theorem KeyBuf.length_cstr_le (k : KeyBuf) : k.cstr.length ≤ TS_MSG_CONFIG_KEY_MAX := by
  have h := (List.takeWhile_prefix (fun c : UInt8 => c ≠ 0) (l := k.toList)).length_le
  rwa [Vector.length_toList] at h

/-- **A terminated array holds a shorter string**, so a decoder that makes
room for the NUL accepts it. -/
theorem KeyBuf.length_cstr_lt {k : KeyBuf} (h : k.Terminated) :
    k.cstr.length < TS_MSG_CONFIG_KEY_MAX := by
  refine lt_of_le_of_ne k.length_cstr_le (fun heq => ?_)
  have hpre := List.takeWhile_prefix (fun c : UInt8 => c ≠ 0) (l := k.toList)
  have hall : k.toList.takeWhile (fun c => c ≠ 0) = k.toList :=
    hpre.eq_of_length (by rw [Vector.length_toList]; exact heq)
  have hzero := List.takeWhile_eq_self_iff.mp hall 0 h
  simp at hzero

end Terrascope
