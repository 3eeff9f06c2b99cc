import Terrascope.ConfigRange

/-!
# Settings calls that fail

A change to the configuration goes to two places, the struct in RAM and the
settings store behind it, and the call that reaches the second may fail after
the first was written. `tsConfigSet_atomic_iff` says when a set that reports
such a failure has changed nothing all the same. A reset does not look at what
its deletions return: `tsConfigReset_durable_iff` says when the next boot
still sees the defaults.
-/

namespace Terrascope

open Transition Zephyr ByteMemory

/-! ## Setting a value -/

/-- **A set that fails changes nothing exactly when** the save does not fail or
the field has the value already. -/
theorem tsConfigSet_atomic_iff (s : ConfigState) (pKey : CString) (value saveRet : Int32) :
    ((tsConfigSet s pKey value saveRet).2 ≠ 0 → (tsConfigSet s pKey value saveRet).1 = s)
      ↔ saveRet = 0 ∨ ∀ k, findKey (keyField pKey) = some k → k.min ≤ value → value ≤ k.max →
        fieldBytes s.live k = nativeBytes k.size value := by
  rcases tsConfigSet_cases s pKey value saveRet with ⟨hnot, heq⟩ | ⟨k, hf, hr, heq⟩
  · -- the value is refused before anything is written
    refine iff_of_true (fun _ => heq) (Or.inr fun k hf hmin hmax => ?_)
    rcases hnot k hf with hlt | hgt
    · exact absurd hmin (Int32.not_le.mpr hlt)
    · exact absurd hmax (Int32.not_le.mpr hgt)
  · have hlen : (nativeBytes k.size value).length = k.size := length_leBytes _ _
    have hsame : s.live.write k.offset (nativeBytes k.size value) = s.live
        ↔ fieldBytes s.live k = nativeBytes k.size value := by
      rw [write_eq_self_iff, hlen]
      rfl
    rw [heq]
    by_cases hret : saveRet = 0
    · exact iff_of_true (fun h => absurd hret h) (Or.inl hret)
    · dsimp only [settingsSaveOne]
      rw [if_neg hret]
      constructor
      · intro h
        refine Or.inr fun k' hf' _ _ => ?_
        obtain rfl : k = k' := Option.some.inj (hf.symm.trans hf')
        exact hsame.mp (congrArg ConfigState.live (h hret))
      · rintro (h | h) -
        · exact absurd h hret
        · obtain ⟨hmin, hmax⟩ := not_or.mp hr
          rw [hsame.mpr (h k hf (Int32.not_lt.mp hmin) (Int32.not_lt.mp hmax))]

/-- **A ttl of 3 that cannot be saved is in use all the same.** -/
theorem tsConfigSet_not_atomic :
    ¬ ((tsConfigSet ConfigState.empty (cstr "ts/routing_ttl") 3 (-Errno.EIO)).2 ≠ 0 →
      (tsConfigSet ConfigState.empty (cstr "ts/routing_ttl") 3 (-Errno.EIO)).1
        = ConfigState.empty) := by
  intro h
  have hsame := h (by decide +kernel)
  have hlive := congrArg (fun s => rawField s.live .routingTtl) hsame
  exact absurd hlive (by decide +kernel)

/-! ## Resetting -/

/-- Every stored name was rebuilt from a key. -/
def NamesRebuilt (store : SettingsStore) : Prop :=
  ∀ name ∈ store, ∃ k ∈ configKeys, name = fullName k.name

/-- **No call stores anything under another name.** -/
theorem NamesRebuilt.apply {s s' : ConfigState} (h : NamesRebuilt s.store) {call : ConfigCall}
    (hs : call.apply s = some s') : NamesRebuilt s'.store := by
  cases call with
  | init subsysRet loadRet order =>
    simp only [ConfigCall.apply] at hs
    split at hs
    · cases hs
      unfold tsConfigInit
      split <;> exact h
    · cases hs
  | set key value saveRet =>
    cases hs
    rcases tsConfigSet_cases s key value saveRet with ⟨-, heq⟩ | ⟨k, hf, -, heq⟩
    · rw [heq]
      exact h
    · rw [heq]
      intro name hname
      dsimp only [settingsSaveOne] at hname
      split at hname
      · rcases (AList.mem_insert _).mp hname with rfl | hold
        · exact ⟨k, (findKey_eq_some.mp hf).1, rfl⟩
        · exact h name hold
      · exact h name hname
  | reset delRet =>
    cases hs
    intro name hname
    obtain ⟨bs, hbs⟩ := Option.isSome_iff_exists.mp (AList.lookup_isSome.mpr hname)
    rw [lookup_tsConfigReset] at hbs
    split at hbs
    · cases hbs
    · exact h name (AList.lookup_isSome.mp (Option.isSome_iff_exists.mpr ⟨bs, hbs⟩))

/-- **The name of the stale timeout is never loaded.** -/
theorem NamesRebuilt.lookup_staleKey {store : SettingsStore} (h : NamesRebuilt store) :
    store.lookup (loadName staleKey.name) = none := by
  refine AList.lookup_eq_none.mpr (fun hin => ?_)
  obtain ⟨k, hk, hname⟩ := h _ hin
  exact fullName_ne_loadName_staleKey hk hname.symm

/-- **The configuration is back at its defaults**, now and after the next
boot. -/
def AtDefaults (s : ConfigState) : Prop :=
  s.live = tsConfigDefaults ∧ ∀ load : SettingsLoad s.store,
    tsConfigGet (tsConfigInit s 0 0 load.order).1.live = tsConfigGet tsConfigDefaults

/-- What a boot after a reset makes of a field: what could not be deleted comes
back. -/
theorem fieldBytes_boot_after_reset {s : ConfigState} (hrange : InRange s)
    (delRet : CString → Int32) (load : SettingsLoad (tsConfigReset s delRet).1.store)
    {k : TsConfigKey} (hk : k ∈ configKeys) (hne : k ≠ staleKey) :
    fieldBytes (tsConfigInit (tsConfigReset s delRet).1 0 0 load.order).1.live k
      = (if delRet (fullName k.name) = 0 then none else s.store.lookup (fullName k.name)).getD
        (fieldBytes tsConfigDefaults k) := by
  refine (fieldBytes_settingsLoad load tsConfigDefaults hk).trans (congrArg (Option.getD · _) ?_)
  have hmem : fullName k.name ∈ configKeys.map (fun k => fullName k.name) :=
    List.mem_map_of_mem hk
  rw [← fullName_eq_loadName hk hne, lookup_tsConfigReset]
  simp only [hmem, true_and]
  split
  · rfl
  · cases hl : s.store.lookup (fullName k.name) with
    | none => rfl
    | some bs =>
      obtain ⟨f, hf⟩ := exists_describedBy hk
      have hsize := (hrange.store f k hf _ (Or.inl rfl) bs hl).1
      simp only [Option.filter_some, hsize, decide_true, if_true]

/-- **A reset lasts exactly when** every key whose deletion fails – the stale
timeout apart, whose stored name nobody loads – has nothing stored but its
default. Before it, boots, sets and resets may have come in any order, with
any of their settings calls failing. -/
theorem tsConfigReset_durable_iff {calls : List ConfigCall} {s : ConfigState}
    (hrun : run ConfigCall.apply ConfigState.empty calls = some s) (delRet : CString → Int32) :
    ((tsConfigReset s delRet).2 = 0 → AtDefaults (tsConfigReset s delRet).1)
      ↔ ∀ k ∈ configKeys, k ≠ staleKey → delRet (fullName k.name) ≠ 0 →
        ∀ bs, s.store.lookup (fullName k.name) = some bs → bs = fieldBytes tsConfigDefaults k := by
  have hrange : InRange s := run_invariant (fun _ _ _ hI hs => hI.apply hs) inRange_empty hrun
  have hnames : NamesRebuilt s.store :=
    run_invariant (I := fun s => NamesRebuilt s.store) (fun _ _ _ hI hs => hI.apply hs)
      (fun name h => absurd h (AList.notMem_empty name)) hrun
  constructor
  · intro h k hk hne hfail bs hbs
    obtain ⟨-, hboot⟩ := h rfl
    have hfield := (tsConfigGet_eq_iff _ _).mp (hboot ⟨_, List.Perm.refl _⟩) k hk
    rwa [fieldBytes_boot_after_reset hrange _ _ hk hne, if_neg hfail, hbs] at hfield
  · intro h _
    refine ⟨rfl, fun load => tsConfigGet_congr (fun k hk => ?_)⟩
    by_cases hst : k = staleKey
    · have hcall : ConfigCall.apply s (.reset delRet) = some (tsConfigReset s delRet).1 := rfl
      have hreset : NamesRebuilt (tsConfigReset s delRet).1.store := hnames.apply hcall
      refine (fieldBytes_settingsLoad load tsConfigDefaults hk).trans ?_
      rw [hst, hreset.lookup_staleKey]
      rfl
    · rw [fieldBytes_boot_after_reset hrange _ load hk hst]
      split
      · rfl
      · next hfail =>
        cases hl : s.store.lookup (fullName k.name) with
        | none => rfl
        | some bs => exact h k hk hst hfail bs hl

/-- A ttl of 3 that was saved. -/
def ttlSaved : List ConfigCall := [.set (cstr "ts/routing_ttl") 3 0]

/-- It is gone for good once it is deleted. -/
theorem tsConfigReset_durable_ttlSaved :
    ∃ s, run ConfigCall.apply ConfigState.empty ttlSaved = some s
      ∧ AtDefaults (tsConfigReset s (fun _ => 0)).1 := by
  obtain ⟨s, hrun⟩ : ∃ s, run ConfigCall.apply ConfigState.empty ttlSaved = some s := ⟨_, rfl⟩
  exact ⟨s, hrun, (tsConfigReset_durable_iff hrun (fun _ => 0)).mpr
    (fun _ _ _ hfail => absurd rfl hfail) rfl⟩

/-- **It comes back at the next boot if it cannot be deleted**, although the
reset returns `0`. -/
theorem tsConfigReset_not_durable :
    ∃ s, run ConfigCall.apply ConfigState.empty ttlSaved = some s
      ∧ ¬ ((tsConfigReset s (fun _ => -Errno.EIO)).2 = 0 →
        AtDefaults (tsConfigReset s (fun _ => -Errno.EIO)).1) := by
  refine ⟨_, rfl, fun h => ?_⟩
  obtain ⟨-, hboot⟩ := h rfl
  have hfield := congrArg TsConfig.routingTtl (hboot ⟨_, List.Perm.refl _⟩)
  exact absurd hfield (by decide +kernel)

end Terrascope
