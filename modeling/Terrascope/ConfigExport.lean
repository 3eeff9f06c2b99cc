import Terrascope.ConfigPersistence

/-!
# The configuration as a whole

`config_settings_export` hands every field to a function of the settings
service, which stores it, and stops at the first that cannot be stored. What
the service finds at the next boot is therefore a mixture: the keys before the
failure are as exported, the others as they were. The stale timeout is among
the others in any case, as its rebuilt name does not fit, so even a complete
export brings the configuration back only when that field needs no export.
`settingsSave_reload` says all this for whichever calls fail.
-/

namespace Terrascope

open Zephyr ByteMemory

/-! ## Exporting -/

/-- The loop of `config_settings_export` over the keys that are left, with what
`export_func` does to the state it works on and what it returns. -/
def exportKeys {σ : Type} (exportFunc : σ → CString → List UInt8 → σ × Int32)
    (live : ByteMemory) : List TsConfigKey → σ → σ × Int32
  | [], st => (st, 0)
  | k :: ks, st =>
    let (st, ret) := exportFunc st (fullName k.name) (live.read k.offset k.size)
    if ret ≠ 0 then (st, ret) else exportKeys exportFunc live ks st

/-- `config_settings_export`. -/
def configSettingsExport {σ : Type} (exportFunc : σ → CString → List UInt8 → σ × Int32)
    (live : ByteMemory) (st : σ) : σ × Int32 :=
  exportKeys exportFunc live configKeys st

/-- The function that `settings_save` exports to, `settings_save_one`; `saveRet`
is what it returns for each name. -/
def saveTo (saveRet : CString → Int32) (store : SettingsStore) (name : CString)
    (val : List UInt8) : SettingsStore × Int32 :=
  (settingsSaveOne store (saveRet name) name val, saveRet name)

/-- `settings_save`. -/
def settingsSave (saveRet : CString → Int32) (s : ConfigState) : ConfigState × Int32 :=
  let (store, ret) := configSettingsExport (saveTo saveRet) s.live s.store
  ({ s with store := store }, ret)

/-- The keys before the first that cannot be stored. -/
def savedOf (saveRet : CString → Int32) (ks : List TsConfigKey) : List TsConfigKey :=
  ks.takeWhile (fun k => saveRet (fullName k.name) == 0)

/-! ## What it leaves in the store -/

section Store

variable {saveRet : CString → Int32} {live : ByteMemory}

/-- One key is stored, and the loop goes on. -/
theorem exportKeys_cons_of_saved {k : TsConfigKey} (hret : saveRet (fullName k.name) = 0)
    (ks : List TsConfigKey) (store : SettingsStore) :
    exportKeys (saveTo saveRet) live (k :: ks) store
      = exportKeys (saveTo saveRet) live ks
        (store.insert (fullName k.name) (fieldBytes live k)) := by
  simp only [exportKeys, saveTo, hret, ne_eq, not_true_eq_false, ite_false, settingsSaveOne,
    ite_true]
  rfl

/-- One cannot be stored, and the loop ends. -/
theorem exportKeys_cons_of_failed {k : TsConfigKey} (hret : saveRet (fullName k.name) ≠ 0)
    (ks : List TsConfigKey) (store : SettingsStore) :
    exportKeys (saveTo saveRet) live (k :: ks) store = (store, saveRet (fullName k.name)) := by
  simp only [exportKeys, saveTo, hret, ne_eq, not_false_eq_true, ite_true, settingsSaveOne,
    ite_false]

/-- **The loop returns the first failure.** -/
theorem exportKeys_ret (ks : List TsConfigKey) (store : SettingsStore) :
    (exportKeys (saveTo saveRet) live ks store).2
      = ((ks.map (fun k => saveRet (fullName k.name))).find? (fun ret => ret != 0)).getD 0 := by
  induction ks generalizing store with
  | nil => rfl
  | cons k ks ih =>
    by_cases hret : saveRet (fullName k.name) = 0
    · rw [exportKeys_cons_of_saved hret, ih, List.map_cons,
        List.find?_cons_of_neg (by simp [hret])]
    · rw [exportKeys_cons_of_failed hret, List.map_cons, List.find?_cons_of_pos (by simp [hret])]
      rfl

/-- **A name of no key that was stored** is as it was. -/
theorem lookup_exportKeys_of_notMem {ks : List TsConfigKey} {a : CString}
    (h : ∀ k ∈ savedOf saveRet ks, fullName k.name ≠ a) (store : SettingsStore) :
    (exportKeys (saveTo saveRet) live ks store).1.lookup a = store.lookup a := by
  induction ks generalizing store with
  | nil => rfl
  | cons k ks ih =>
    by_cases hret : saveRet (fullName k.name) = 0
    · have hsaved : savedOf saveRet (k :: ks) = k :: savedOf saveRet ks :=
        List.takeWhile_cons_of_pos (by simp [hret])
      rw [hsaved] at h
      rw [exportKeys_cons_of_saved hret, ih (fun k' hk' => h k' (List.mem_cons_of_mem k hk')),
        AList.lookup_insert_ne (h k List.mem_cons_self).symm]
    · rw [exportKeys_cons_of_failed hret]

/-- **A key that was stored** has its field there. No later key takes its
name. -/
theorem lookup_exportKeys_of_mem {ks : List TsConfigKey}
    (hnd : (ks.map (fun k => fullName k.name)).Nodup) {k : TsConfigKey}
    (hk : k ∈ savedOf saveRet ks) (store : SettingsStore) :
    (exportKeys (saveTo saveRet) live ks store).1.lookup (fullName k.name)
      = some (fieldBytes live k) := by
  induction ks generalizing store with
  | nil => cases hk
  | cons k' ks ih =>
    rw [List.map_cons, List.nodup_cons] at hnd
    by_cases hret : saveRet (fullName k'.name) = 0
    · have hsaved : savedOf saveRet (k' :: ks) = k' :: savedOf saveRet ks :=
        List.takeWhile_cons_of_pos (by simp [hret])
      rw [hsaved] at hk
      rw [exportKeys_cons_of_saved hret]
      rcases List.mem_cons.mp hk with rfl | hk
      · rw [lookup_exportKeys_of_notMem, AList.lookup_insert]
        rintro k₂ hk₂ hname
        refine hnd.1 (hname ▸ List.mem_map.mpr ⟨k₂, ?_, rfl⟩)
        exact List.takeWhile_subset _ hk₂
      · exact ih hnd.2 hk _
    · have hsaved : savedOf saveRet (k' :: ks) = [] := List.takeWhile_cons_of_neg (by simp [hret])
      rw [hsaved] at hk
      cases hk

end Store

/-! ## What comes back -/

/-- **What a reload makes of a saved configuration**, field by field, whichever
calls fail: a key that was stored under the name it is loaded by is as it was
exported, and any other as though nothing had been saved. -/
theorem fieldBytes_reload_settingsSave (saveRet : CString → Int32) (s : ConfigState)
    (load : SettingsLoad (settingsSave saveRet s).1.store) (load₀ : SettingsLoad s.store)
    {k : TsConfigKey} (hk : k ∈ configKeys) :
    fieldBytes (tsConfigInit (settingsSave saveRet s).1 0 0 load.order).1.live k
      = if k ∈ savedOf saveRet configKeys ∧ k ≠ staleKey then fieldBytes s.live k
        else fieldBytes (tsConfigInit s 0 0 load₀.order).1.live k := by
  have hload := fieldBytes_settingsLoad load tsConfigDefaults hk
  have hload₀ := fieldBytes_settingsLoad load₀ tsConfigDefaults hk
  change fieldBytes (settingsLoad tsConfigDefaults load.order) k = if _ then _
    else fieldBytes (settingsLoad tsConfigDefaults load₀.order) k
  rw [hload, hload₀]
  have hstore : (settingsSave saveRet s).1.store
      = (exportKeys (saveTo saveRet) s.live configKeys s.store).1 := rfl
  rw [hstore]
  split
  · next h =>
    obtain ⟨hsaved, hne⟩ := h
    have hlen : (fieldBytes s.live k).length = k.size := length_read _ _ _
    rw [← fullName_eq_loadName hk hne, lookup_exportKeys_of_mem nodup_fullName_configKeys hsaved]
    simp only [Option.filter_some, hlen, decide_true, if_true, Option.getD_some]
  · next h =>
    rw [lookup_exportKeys_of_notMem]
    rintro k' hk' hname
    have hk'mem : k' ∈ configKeys := List.takeWhile_subset _ hk'
    by_cases hst : k = staleKey
    · exact fullName_ne_loadName_staleKey hk'mem (hst ▸ hname)
    · rw [← fullName_eq_loadName hk hst] at hname
      exact h ⟨eq_of_fullName_eq hk'mem hk hname ▸ hk', hst⟩

/-- A save that returns zero has stored every key. -/
theorem savedOf_eq_of_ret {saveRet : CString → Int32} {s : ConfigState}
    (h : (settingsSave saveRet s).2 = 0) : savedOf saveRet configKeys = configKeys := by
  have hret : (settingsSave saveRet s).2 = _ := exportKeys_ret configKeys s.store
  rw [h] at hret
  refine List.takeWhile_eq_self_iff.mpr (fun k hk => ?_)
  by_contra hne
  cases hfind : (configKeys.map (fun k => saveRet (fullName k.name))).find? (fun ret => ret != 0) with
  | none =>
    have hzero := List.find?_eq_none.mp hfind _ (List.mem_map_of_mem hk)
    exact hne (by simpa using hzero)
  | some ret =>
    rw [hfind, Option.getD_some] at hret
    have hnonzero := List.find?_some hfind
    rw [← hret] at hnonzero
    exact absurd hnonzero (by decide)

/-- **The readers see the stale timeout and the rest.** -/
theorem tsConfigGet_eq_of_ne {live live' : ByteMemory}
    (h : ∀ k ∈ configKeys, k ≠ staleKey → fieldBytes live k = fieldBytes live' k)
    (hstale : (tsConfigGet live).routingTableStaleTimeoutS
      = (tsConfigGet live').routingTableStaleTimeoutS) : tsConfigGet live = tsConfigGet live' := by
  have hraw : ∀ f, f ≠ .routingTableStaleTimeoutS → rawField live f = rawField live' f := by
    intro f hf
    obtain ⟨k, hk, hoff, hsize, hname⟩ := exists_configKey f
    have hne : k ≠ staleKey := by
      rintro rfl
      revert hname
      cases f <;> first | exact absurd rfl hf | decide
    have hbytes := h k hk hne
    unfold fieldBytes at hbytes
    rw [hoff, hsize] at hbytes
    exact congrArg ofLe hbytes
  have hword : UInt32.ofNat (rawField live .routingTableStaleTimeoutS)
      = UInt32.ofNat (rawField live' .routingTableStaleTimeoutS) := hstale
  unfold tsConfigGet
  simp only [hword, hraw, ne_eq, reduceCtorEq, not_false_eq_true]

/-- **A saved configuration comes back, but for what was not saved.** For every
configuration, every store and whichever calls fail: `settings_save` returns
the first failure, and after a reboot from the store it leaves, in whatever
order that is loaded, the keys before the failure are as they were exported and
the others as they would be without the save. The stale timeout is always among
the others, so a save without a failure brings the whole configuration back if
and only if this field is what would have been loaded without it. -/
theorem settingsSave_reload (saveRet : CString → Int32) (s : ConfigState)
    (load : SettingsLoad (settingsSave saveRet s).1.store) (load₀ : SettingsLoad s.store) :
    let reloaded := (tsConfigInit (settingsSave saveRet s).1 0 0 load.order).1.live
    let unsaved := (tsConfigInit s 0 0 load₀.order).1.live
    (settingsSave saveRet s).2
        = ((configKeys.map (fun k => saveRet (fullName k.name))).find? (fun ret => ret != 0)).getD 0
      ∧ (∀ k ∈ configKeys, fieldBytes reloaded k
        = if k ∈ savedOf saveRet configKeys ∧ k ≠ staleKey then fieldBytes s.live k
          else fieldBytes unsaved k)
      ∧ ((settingsSave saveRet s).2 = 0 → (tsConfigGet reloaded = tsConfigGet s.live
        ↔ (tsConfigGet s.live).routingTableStaleTimeoutS
          = (tsConfigGet unsaved).routingTableStaleTimeoutS)) := by
  intro reloaded unsaved
  have hfields : ∀ k ∈ configKeys, fieldBytes reloaded k
      = if k ∈ savedOf saveRet configKeys ∧ k ≠ staleKey then fieldBytes s.live k
        else fieldBytes unsaved k :=
    fun k hk => fieldBytes_reload_settingsSave saveRet s load load₀ hk
  refine ⟨exportKeys_ret configKeys s.store, hfields, fun hret => ?_⟩
  have hsaved := savedOf_eq_of_ret hret
  -- the stale timeout was not stored under the name it is loaded by
  have hstale : (tsConfigGet reloaded).routingTableStaleTimeoutS
      = (tsConfigGet unsaved).routingTableStaleTimeoutS := by
    have hbytes := hfields staleKey staleKey_mem
    rw [if_neg (fun h => h.2 rfl)] at hbytes
    exact congrArg (fun bs => UInt32.ofNat (ofLe bs)) hbytes
  constructor
  · intro h
    rw [← hstale, h]
  · intro h
    refine tsConfigGet_eq_of_ne (fun k hk hne => ?_) (hstale.trans h.symm)
    rw [hfields k hk, if_pos ⟨by rw [hsaved]; exact hk, hne⟩]

end Terrascope
