import Terrascope.ConfigRange

/-!
# One set, one field

`ts_config_set` finds the field by the key string and writes it through an
offset and a size. `tsConfigSet_exact` is what it does altogether: which of
its three codes it returns, that the field a successful set names has the
value afterwards when read at its declared type, and that no byte of another
field is touched. Two sets of different fields therefore commute.
-/

namespace Terrascope

open Zephyr ByteMemory

/-! ## Which field a key string names -/

/-- **The key string names the field**: it is the field's name, with `ts/` in
front of it or without. -/
def Names (pKey : CString) (f : ConfigField) : Prop :=
  pKey = f.name ∨ pKey = cstr "ts/" ++ f.name

theorem ConfigField.mem_all (f : ConfigField) : f ∈ ConfigField.all := by
  cases f <;> decide

/-- No two fields have one name. -/
theorem ConfigField.name_injective : Function.Injective ConfigField.name := by
  intro f f' h
  have hnd : (ConfigField.all.map ConfigField.name).Nodup := by
    rw [← map_name_configKeys]
    exact nodup_name_configKeys
  exact List.inj_on_of_nodup_map hnd f.mem_all f'.mem_all h

/-- **Removing one `ts/` finds the name** exactly if the string names the
field, since no name starts with `ts/` itself. -/
theorem keyField_eq_name_iff (pKey : CString) (f : ConfigField) :
    keyField pKey = f.name ↔ Names pKey f := by
  have hplain : ∀ f, (ConfigField.name f).take 3 ≠ cstr "ts/" := by
    intro f
    cases f <;> decide
  constructor
  · intro h
    unfold keyField at h
    split at h
    · next hpre =>
      have hsplit := List.take_append_drop 3 pKey
      rw [hpre, h] at hsplit
      exact Or.inr hsplit.symm
    · exact Or.inl h
  · rintro (rfl | rfl)
    · exact if_neg (hplain f)
    · have hpre : (cstr "ts/" ++ f.name).take 3 = cstr "ts/" := List.take_left' rfl
      rw [keyField, if_pos hpre]
      exact List.drop_left' rfl

/-- **`find_key` finds the descriptor of the field that is named.** -/
theorem findKey_keyField_iff (pKey : CString) (k : TsConfigKey) :
    findKey (keyField pKey) = some k ↔ ∃ f, Names pKey f ∧ DescribedBy f k := by
  rw [findKey_eq_some]
  constructor
  · rintro ⟨hk, hname⟩
    obtain ⟨f, hf⟩ := exists_describedBy hk
    exact ⟨f, (keyField_eq_name_iff pKey f).mp (hname.symm.trans hf.2), hf⟩
  · rintro ⟨f, hnames, hf⟩
    exact ⟨hf.1, hf.2.trans ((keyField_eq_name_iff pKey f).mpr hnames).symm⟩

/-- Every field has a descriptor. -/
theorem exists_key_of_field (f : ConfigField) : ∃ k, DescribedBy f k := by
  obtain ⟨k, hk, -, -, hname⟩ := exists_configKey f
  exact ⟨k, hk, hname⟩

theorem findKey_keyField_eq_none_iff (pKey : CString) :
    findKey (keyField pKey) = none ↔ ∀ f, ¬ Names pKey f := by
  constructor
  · intro h f hnames
    obtain ⟨k, hk⟩ := exists_key_of_field f
    have hfind := (findKey_keyField_iff pKey k).mpr ⟨f, hnames, hk⟩
    cases h.symm.trans hfind
  · intro h
    refine Option.eq_none_iff_forall_ne_some.mpr (fun k hfind => ?_)
    obtain ⟨f, hnames, -⟩ := (findKey_keyField_iff pKey k).mp hfind
    exact h f hnames

/-! ## What a set does -/

/-- **The three outcomes of a set**, each with its code. -/
theorem tsConfigSet_outcomes (s : ConfigState) (pKey : CString) (value saveRet : Int32) :
    ((∀ f, ¬ Names pKey f) ∧ tsConfigSet s pKey value saveRet = (s, -Errno.ENOENT))
      ∨ ∃ f k, Names pKey f ∧ DescribedBy f k
        ∧ ((value < k.min ∨ value > k.max)
            ∧ tsConfigSet s pKey value saveRet = (s, -Errno.EINVAL)
          ∨ ¬ (value < k.min ∨ value > k.max)
            ∧ tsConfigSet s pKey value saveRet
              = (⟨s.live.write k.offset (nativeBytes k.size value),
                  settingsSaveOne s.store saveRet (fullName k.name) (nativeBytes k.size value)⟩,
                saveRet)) := by
  cases hf : findKey (keyField pKey) with
  | none =>
    refine Or.inl ⟨(findKey_keyField_eq_none_iff pKey).mp hf, ?_⟩
    unfold tsConfigSet
    rw [hf]
  | some k =>
    obtain ⟨f, hnames, hk⟩ := (findKey_keyField_iff pKey k).mp hf
    refine Or.inr ⟨f, k, hnames, hk, ?_⟩
    by_cases hr : value < k.min ∨ value > k.max
    · refine Or.inl ⟨hr, ?_⟩
      unfold tsConfigSet
      simp only [hf, if_pos hr]
    · exact Or.inr ⟨hr, tsConfigSet_of_findKey hf hr⟩

/-- A key string names one field. -/
theorem Names.unique {pKey : CString} {f f' : ConfigField} (h : Names pKey f)
    (h' : Names pKey f') : f = f' :=
  ConfigField.name_injective
    (((keyField_eq_name_iff pKey f).mpr h).symm.trans ((keyField_eq_name_iff pKey f').mpr h'))

/-- A field has one descriptor. -/
theorem DescribedBy.unique {f : ConfigField} {k k' : TsConfigKey} (h : DescribedBy f k)
    (h' : DescribedBy f k') : k = k' :=
  eq_of_name_eq h.1 h'.1 (h.2.trans h'.2.symm)

/-- Different fields have different ones. -/
theorem DescribedBy.ne_of_ne {f f' : ConfigField} {k k' : TsConfigKey} (h : DescribedBy f k)
    (h' : DescribedBy f' k') (hne : f ≠ f') : k ≠ k' := by
  rintro rfl
  exact hne (ConfigField.name_injective (h.2.symm.trans h'.2))

/-- What is said of the descriptor that a key string leads to is said of the
one there is. -/
theorem exists_named_iff {pKey : CString} {f : ConfigField} {k : TsConfigKey}
    (hnames : Names pKey f) (hk : DescribedBy f k) {p : TsConfigKey → Prop} :
    (∃ f k, Names pKey f ∧ DescribedBy f k ∧ p k) ↔ p k := by
  constructor
  · rintro ⟨f', k', hnames', hk', hp⟩
    obtain rfl := hnames.unique hnames'
    rwa [hk.unique hk']
  · exact fun hp => ⟨f, k, hnames, hk, hp⟩

/-- **The field that is written has the value**, at its declared type. -/
theorem value_write_self (live : ByteMemory) {f : ConfigField} {k : TsConfigKey}
    (hk : DescribedBy f k) {value : Int32} (hr : ¬ (value < k.min ∨ value > k.max)) :
    (tsConfigGet (live.write k.offset (nativeBytes k.size value))).value f = value.toInt := by
  obtain ⟨hoff, hsize, hholds⟩ := hk.shape
  obtain ⟨hmin, hmax⟩ := not_or.mp hr
  have hbytes := fieldBytes_write_self live (k := k) (length_leBytes k.size value.toUInt32.toNat)
  rw [fieldBytes, hoff, hsize] at hbytes
  rw [value_tsConfigGet, hoff, hsize]
  refine (congrArg f.ctype.value hbytes).trans ?_
  exact value_nativeBytes (hholds value (Int32.not_lt.mp hmin) (Int32.not_lt.mp hmax))

/-- **The other fields keep their bytes.** -/
theorem read_write_of_ne (live : ByteMemory) {f f' : ConfigField} {k : TsConfigKey}
    (hk : DescribedBy f k) (hne : f' ≠ f) (value : Int32) :
    (live.write k.offset (nativeBytes k.size value)).read (offsetof f') f'.ctype.size
      = live.read (offsetof f') f'.ctype.size := by
  obtain ⟨k', hk'⟩ := exists_key_of_field f'
  obtain ⟨hoff, hsize, -⟩ := hk'.shape
  have hbytes := fieldBytes_write_of_ne live hk.1 hk'.1 (hk'.ne_of_ne hk hne).symm
    (length_leBytes k.size value.toUInt32.toNat)
  rwa [fieldBytes, fieldBytes, hoff, hsize] at hbytes

/-! ## Two sets -/

/-- **Two states hold the same**: the bytes of the struct, and what the store
has under each name. -/
def ConfigState.Same (s s' : ConfigState) : Prop :=
  s.live = s'.live ∧ ∀ name, s.store.lookup name = s'.store.lookup name

theorem ConfigState.Same.refl (s : ConfigState) : s.Same s := ⟨rfl, fun _ => rfl⟩

/-- **A set does the same in every state**: nothing, or one write. -/
theorem tsConfigSet_uniform (pKey : CString) (value : Int32) :
    (∀ s, (tsConfigSet s pKey value 0).1 = s)
      ∨ ∃ f k, Names pKey f ∧ DescribedBy f k ∧ ∀ s, (tsConfigSet s pKey value 0).1
        = ⟨s.live.write k.offset (nativeBytes k.size value),
            s.store.insert (fullName k.name) (nativeBytes k.size value)⟩ := by
  by_cases hnot : ∀ k, findKey (keyField pKey) = some k → value < k.min ∨ value > k.max
  · exact Or.inl fun s => tsConfigSet_of_not hnot
  · obtain ⟨k, hk⟩ := not_forall.mp hnot
    obtain ⟨hf, hr⟩ := Classical.not_imp.mp hk
    obtain ⟨f, hnames, hdesc⟩ := (findKey_keyField_iff pKey k).mp hf
    exact Or.inr ⟨f, k, hnames, hdesc, fun s => congrArg Prod.fst (tsConfigSet_of_findKey hf hr)⟩

/-- **Sets of different keys commute.** -/
theorem tsConfigSet_comm {pKey pKey' : CString} (hne : ∀ f, Names pKey f → ¬ Names pKey' f)
    (s : ConfigState) (value value' : Int32) :
    (tsConfigSet (tsConfigSet s pKey value 0).1 pKey' value' 0).1.Same
      (tsConfigSet (tsConfigSet s pKey' value' 0).1 pKey value 0).1 := by
  rcases tsConfigSet_uniform pKey value with hset | ⟨f, k, hnames, hk, hset⟩
  · rw [hset, hset]
    exact .refl _
  · rcases tsConfigSet_uniform pKey' value' with hset' | ⟨f', k', hnames', hk', hset'⟩
    · rw [hset', hset']
      exact .refl _
    · have hkk : k ≠ k' := hk.ne_of_ne hk' (fun heq => hne f hnames (heq ▸ hnames'))
      have hlen : (nativeBytes k.size value).length = k.size := length_leBytes _ _
      have hlen' : (nativeBytes k'.size value').length = k'.size := length_leBytes _ _
      rw [hset', hset, hset, hset']
      refine ⟨write_comm _ ?_, fun name => ?_⟩
      · rw [hlen, hlen']
        exact disjoint_of_ne hk.1 hk'.1 hkk
      · -- the two are stored under different names
        have hfull : fullName k.name ≠ fullName k'.name :=
          fun heq => hkk (eq_of_fullName_eq hk.1 hk'.1 heq)
        by_cases hname : name = fullName k.name
        · rw [hname, AList.lookup_insert_ne hfull, AList.lookup_insert, AList.lookup_insert]
        · rw [AList.lookup_insert_ne hname]
          by_cases hname' : name = fullName k'.name
          · rw [hname', AList.lookup_insert, AList.lookup_insert]
          · rw [AList.lookup_insert_ne hname', AList.lookup_insert_ne hname',
              AList.lookup_insert_ne hname]

/-! ## Altogether -/

/-- **A set writes one field, exactly.** An unknown key gives `-ENOENT`, a
known one with a value out of its range `-EINVAL`, any other call `0`. A call
that fails changes nothing. After one that does not, the field that was named
holds the value, and every other field its bytes. Sets of different keys
commute. -/
theorem tsConfigSet_exact (s : ConfigState) (pKey : CString) (value : Int32) :
    ((tsConfigSet s pKey value 0).2 = -Errno.ENOENT ↔ ∀ f, ¬ Names pKey f)
      ∧ ((tsConfigSet s pKey value 0).2 = -Errno.EINVAL
        ↔ ∃ f k, Names pKey f ∧ DescribedBy f k ∧ (value < k.min ∨ value > k.max))
      ∧ ((tsConfigSet s pKey value 0).2 = 0
        ↔ ∃ f k, Names pKey f ∧ DescribedBy f k ∧ ¬ (value < k.min ∨ value > k.max))
      ∧ ((tsConfigSet s pKey value 0).2 ≠ 0 → (tsConfigSet s pKey value 0).1 = s)
      ∧ (∀ f, Names pKey f → (tsConfigSet s pKey value 0).2 = 0 →
        (tsConfigGet (tsConfigSet s pKey value 0).1.live).value f = value.toInt
          ∧ ∀ f', f' ≠ f → (tsConfigSet s pKey value 0).1.live.read (offsetof f') f'.ctype.size
            = s.live.read (offsetof f') f'.ctype.size)
      ∧ ∀ pKey' value', (∀ f, Names pKey f → ¬ Names pKey' f) →
        (tsConfigSet (tsConfigSet s pKey value 0).1 pKey' value' 0).1.Same
          (tsConfigSet (tsConfigSet s pKey' value' 0).1 pKey value 0).1 := by
  obtain ⟨hcodes, hnoent, hinval⟩ :
      -Errno.ENOENT ≠ -Errno.EINVAL ∧ -Errno.ENOENT ≠ 0 ∧ -Errno.EINVAL ≠ 0 := by decide
  rcases tsConfigSet_outcomes s pKey value 0 with
    ⟨hnone, heq⟩ | ⟨f, k, hnames, hk, ⟨hr, heq⟩ | ⟨hr, heq⟩⟩
  · refine ⟨?_, ?_, ?_, ?_, ?_, fun pKey' value' hne => tsConfigSet_comm hne s value value'⟩
      <;> rw [heq]
    · exact iff_of_true rfl hnone
    · exact iff_of_false hcodes (fun ⟨f, k, hnames, _⟩ => hnone f hnames)
    · exact iff_of_false hnoent (fun ⟨f, k, hnames, _⟩ => hnone f hnames)
    · exact fun _ => rfl
    · exact fun f hnames => absurd hnames (hnone f)
  · refine ⟨?_, ?_, ?_, ?_, ?_, fun pKey' value' hne => tsConfigSet_comm hne s value value'⟩
      <;> rw [heq]
    · exact iff_of_false hcodes.symm (fun hnone => hnone f hnames)
    · exact iff_of_true rfl ((exists_named_iff hnames hk).mpr hr)
    · exact iff_of_false hinval (fun h => (exists_named_iff hnames hk).mp h hr)
    · exact fun _ => rfl
    · exact fun _ _ hzero => absurd hzero hinval
  · refine ⟨?_, ?_, ?_, ?_, ?_, fun pKey' value' hne => tsConfigSet_comm hne s value value'⟩
      <;> rw [heq]
    · exact iff_of_false hnoent.symm (fun hnone => hnone f hnames)
    · exact iff_of_false hinval.symm (fun h => hr ((exists_named_iff hnames hk).mp h))
    · exact iff_of_true rfl ((exists_named_iff hnames hk).mpr hr)
    · exact fun hne => absurd rfl hne
    · intro f' hnames' _
      obtain rfl := hnames.unique hnames'
      exact ⟨value_write_self s.live hk hr, fun f'' hne => read_write_of_ne s.live hk hne value⟩

end Terrascope
