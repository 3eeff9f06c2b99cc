import Terrascope.ConfigRange

/-!
# Values that only the loader admits

`ts_config_set` checks a value against the range of its key, while the
callback that `settings_load` gives stored bytes to checks their number only.
So the two admit the same values exactly as far as the store holds nothing
out of range (`StoredInRange`): `settingsLoad_admits_iff`. A store that this
firmware alone has written is such a store (`InRange`), one that another
version has left behind need not be.
-/

namespace Terrascope

open Transition Zephyr ByteMemory

/-- A value that `ts_config_set` accepts for a key, in any state. -/
def SetAccepts (k : TsConfigKey) (v : ℤ) : Prop :=
  ∃ value : Int32, value.toInt = v ∧ ∀ s, (tsConfigSet s (loadName k.name) value 0).2 = 0

/-- **What is stored is in range**, wherever it has the size of its field. -/
def StoredInRange (store : SettingsStore) : Prop :=
  ∀ f k, DescribedBy f k → ∀ bs, store.lookup (loadName k.name) = some bs →
    bs.length = k.size → k.min.toInt ≤ f.ctype.value bs ∧ f.ctype.value bs ≤ k.max.toInt

/-- A key is found by the name it is loaded by. -/
theorem findKey_loadName {k : TsConfigKey} (hk : k ∈ configKeys) :
    findKey (keyField (loadName k.name)) = some k := by
  have hpre : (loadName k.name).take 3 = cstr "ts/" := List.take_left' rfl
  have hname : (loadName k.name).drop 3 = k.name := List.drop_left' rfl
  rw [keyField, if_pos hpre, hname]
  exact findKey_eq_some.mpr ⟨hk, rfl⟩

/-- **A set accepts the values in range.** -/
theorem setAccepts_iff {k : TsConfigKey} (hk : k ∈ configKeys) (v : ℤ) :
    SetAccepts k v ↔ k.min.toInt ≤ v ∧ v ≤ k.max.toInt := by
  constructor
  · rintro ⟨value, rfl, hset⟩
    have hzero := hset ConfigState.empty
    unfold tsConfigSet at hzero
    simp only [findKey_loadName hk] at hzero
    split at hzero
    · exact absurd hzero (by decide)
    · next hr =>
      obtain ⟨hmin, hmax⟩ := not_or.mp hr
      exact ⟨Int32.le_iff_toInt_le.mp (Int32.not_lt.mp hmin),
        Int32.le_iff_toInt_le.mp (Int32.not_lt.mp hmax)⟩
  · rintro ⟨hmin, hmax⟩
    have hval : (Int32.ofInt v).toInt = v :=
      Int32.toInt_ofInt_of_le (le_trans k.min.le_toInt hmin) (lt_of_le_of_lt hmax k.max.toInt_lt)
    have hr : ¬ (Int32.ofInt v < k.min ∨ Int32.ofInt v > k.max) := by
      rw [not_or]
      refine ⟨Int32.not_lt.mpr (Int32.le_iff_toInt_le.mpr ?_),
        Int32.not_lt.mpr (Int32.le_iff_toInt_le.mpr ?_)⟩
      · rwa [hval]
      · rwa [hval]
    refine ⟨Int32.ofInt v, hval, fun s => ?_⟩
    rw [tsConfigSet_of_findKey (findKey_loadName hk) hr]

/-- **The callback takes whatever has the size of the field.** -/
theorem configSettingsSet_eq_zero_iff (live : ByteMemory) {k : TsConfigKey} (hk : k ∈ configKeys)
    (bs : List UInt8) :
    (configSettingsSet live k.name bs.length (.ok bs)).2 = 0 ↔ bs.length = k.size := by
  unfold configSettingsSet
  simp only [findKey_eq_some.mpr ⟨hk, rfl⟩]
  split
  · next hsize =>
    have hcode : -Errno.EINVAL ≠ 0 := by decide
    exact iff_of_false hcode hsize
  · next hsize => exact iff_of_true rfl (not_not.mp hsize)

/-- **A load leaves a field in range exactly when** what it takes for it from
the store is. -/
theorem inRange_settingsLoad_iff {store : SettingsStore} (load : SettingsLoad store) {f : ConfigField}
    {k : TsConfigKey} (h : DescribedBy f k) :
    (k.min.toInt ≤ (tsConfigGet (settingsLoad tsConfigDefaults load.order)).value f
        ∧ (tsConfigGet (settingsLoad tsConfigDefaults load.order)).value f ≤ k.max.toInt)
      ↔ ∀ bs, store.lookup (loadName k.name) = some bs → bs.length = k.size →
        k.min.toInt ≤ f.ctype.value bs ∧ f.ctype.value bs ≤ k.max.toInt := by
  obtain ⟨hoff, hsize, -⟩ := h.shape
  obtain ⟨-, hdefault⟩ := bytesInRange_tsConfigDefaults h
  have hvalue : ∀ m, (tsConfigGet m).value f = f.ctype.value (fieldBytes m k) := by
    intro m
    rw [value_tsConfigGet, fieldBytes, hoff, hsize]
  rw [hvalue, fieldBytes_settingsLoad load _ h.1]
  cases hl : store.lookup (loadName k.name) with
  | none =>
    refine iff_of_true hdefault (fun bs hbs => ?_)
    cases hbs
  | some bs =>
    by_cases hlen : bs.length = k.size
    · simp only [Option.filter_some, hlen, decide_true, if_true, Option.getD_some]
      constructor
      · rintro hrange bs' hbs' -
        rwa [← Option.some.inj hbs']
      · exact fun hrange => hrange bs rfl hlen
    · simp only [Option.filter_some, hlen, decide_false, Bool.false_eq_true, if_false,
        Option.getD_none]
      refine iff_of_true hdefault (fun bs' hbs' hlen' => absurd ?_ hlen)
      rwa [Option.some.inj hbs']

/-- **Loading admits what setting admits exactly when** the store holds
nothing out of range. From such a store, and from no other, the callback
takes only values that a set would accept, and every boot that succeeds leaves
every field in its range. -/
theorem settingsLoad_admits_iff (store : SettingsStore) :
    ((∀ f k, DescribedBy f k → ∀ bs, store.lookup (loadName k.name) = some bs → ∀ live,
        (configSettingsSet live k.name bs.length (.ok bs)).2 = 0 → SetAccepts k (f.ctype.value bs))
      ↔ StoredInRange store)
    ∧ ((∀ live, ∀ load : SettingsLoad store, ∀ f k, DescribedBy f k →
        k.min.toInt ≤ (tsConfigGet (tsConfigInit ⟨live, store⟩ 0 0 load.order).1.live).value f
          ∧ (tsConfigGet (tsConfigInit ⟨live, store⟩ 0 0 load.order).1.live).value f ≤ k.max.toInt)
      ↔ StoredInRange store) := by
  refine ⟨⟨?_, ?_⟩, ⟨?_, ?_⟩⟩
  · intro h f k hk bs hbs hlen
    have htaken := (configSettingsSet_eq_zero_iff tsConfigDefaults hk.1 bs).mpr hlen
    exact (setAccepts_iff hk.1 _).mp (h f k hk bs hbs _ htaken)
  · intro h f k hk bs hbs live htaken
    have hlen := (configSettingsSet_eq_zero_iff live hk.1 bs).mp htaken
    exact (setAccepts_iff hk.1 _).mpr (h f k hk bs hbs hlen)
  · intro h f k hk
    exact (inRange_settingsLoad_iff ⟨_, List.Perm.refl _⟩ hk).mp
      (h tsConfigDefaults ⟨_, List.Perm.refl _⟩ f k hk)
  · intro h live load f k hk
    exact (inRange_settingsLoad_iff load hk).mpr (h f k hk)

/-- A store with a spreading factor of 200, of the right size. -/
def foreignSf : SettingsStore := (∅ : SettingsStore).insert (loadName (cstr "lora_sf")) [200]

/-- **A spreading factor of 200 is loaded**, which no set would accept, and
the node is up with it. -/
theorem foreignSf_admitted :
    ¬ ((∀ f k, DescribedBy f k → ∀ bs, foreignSf.lookup (loadName k.name) = some bs → ∀ live,
        (configSettingsSet live k.name bs.length (.ok bs)).2 = 0 → SetAccepts k (f.ctype.value bs))
      ∧ ∀ live, ∀ load : SettingsLoad foreignSf, ∀ f k, DescribedBy f k →
        k.min.toInt ≤ (tsConfigGet (tsConfigInit ⟨live, foreignSf⟩ 0 0 load.order).1.live).value f
          ∧ (tsConfigGet (tsConfigInit ⟨live, foreignSf⟩ 0 0 load.order).1.live).value f
            ≤ k.max.toInt) := by
  rintro ⟨-, hboot⟩
  obtain ⟨-, hle⟩ := hboot tsConfigDefaults ⟨_, List.Perm.refl _⟩ .loraSf (configKey .loraSf 5 12)
    ⟨by decide, rfl⟩
  exact absurd hle (by decide +kernel)

end Terrascope
