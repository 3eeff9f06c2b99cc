import Terrascope.Config

/-!
# Configuration across a reboot

`ts_config_set` stores a value under `ts/` and the key's name, rebuilt with
`snprintf` in 32 bytes, and the loader looks a stored name up without the
prefix. The two agree as long as the rebuilt name fits, which it does for
every key but `routing_table_stale_timeout_s`: its full name needs 33 bytes
with the terminator, so it is stored without its last letter and not
recognised again.

`Persisted` is what every operation keeps: a field holds what the store has
under the key's rebuilt name, and its default if there is nothing.
`read_settingsLoad_of_mem` and `read_settingsLoad_of_forall` say what a
reload makes of a store, whatever the order of its entries. The two meet in
`tsConfigInit_eq_iff`: a reboot changes nothing exactly when the stale
timeout was left at its default.
-/

namespace Terrascope

open Zephyr ByteMemory

/-! ## Operations between two boots -/

/-- A call that changes the configuration. -/
inductive ConfigOp where
  | set (key : CString) (value : Int32)
  | reset

/-- The call, with every settings call succeeding. -/
def ConfigOp.apply (s : ConfigState) : ConfigOp → ConfigState
  | .set key value => (tsConfigSet s key value 0).1
  | .reset => (tsConfigReset s (fun _ => 0)).1

/-- A sequence of calls after the first boot. -/
def runOps (ops : List ConfigOp) : ConfigState :=
  ops.foldl ConfigOp.apply ConfigState.empty

/-- The full name the loader recognises a key by. -/
def loadName (name : CString) : CString := cstr "ts/" ++ name

/-- The descriptor of the key whose full name does not fit. -/
def staleKey : TsConfigKey := configKey .routingTableStaleTimeoutS 1 86400

theorem staleKey_mem : staleKey ∈ configKeys := by decide

/-- **The rebuilt names are distinct**, the truncated one included. -/
theorem nodup_fullName_configKeys : (configKeys.map (fun k => fullName k.name)).Nodup := by
  decide +kernel

/-- A rebuilt name tells its key. -/
theorem eq_of_fullName_eq {k k' : TsConfigKey} (hk : k ∈ configKeys)
    (hk' : k' ∈ configKeys) (h : fullName k.name = fullName k'.name) : k = k' :=
  List.inj_on_of_nodup_map nodup_fullName_configKeys hk hk' h

/-- Every key but one is stored under the name it is loaded by. -/
theorem fullName_eq_loadName {k : TsConfigKey} (hk : k ∈ configKeys) (hne : k ≠ staleKey) :
    fullName k.name = loadName k.name := by
  have hall : ∀ k ∈ configKeys, k ≠ staleKey → fullName k.name = loadName k.name := by
    decide +kernel
  exact hall k hk hne

/-- **The remaining name is stored by nobody.** -/
theorem fullName_ne_loadName_staleKey {k : TsConfigKey} (hk : k ∈ configKeys) :
    fullName k.name ≠ loadName staleKey.name := by
  have hall : ∀ k ∈ configKeys, fullName k.name ≠ loadName staleKey.name := by
    decide +kernel
  exact hall k hk

/-! ## What the store says about the fields -/

/-- The bytes of a key's field. -/
def fieldBytes (live : ByteMemory) (k : TsConfigKey) : List UInt8 :=
  live.read k.offset k.size

/-- Writing a key's field is read back through the key … -/
theorem fieldBytes_write_self (live : ByteMemory) {k : TsConfigKey} {bs : List UInt8}
    (h : bs.length = k.size) : fieldBytes (live.write k.offset bs) k = bs := by
  unfold fieldBytes
  rw [← h]
  exact read_write_self _ _ _

/-- … and through no other. -/
theorem fieldBytes_write_of_ne (live : ByteMemory) {k k' : TsConfigKey}
    (hk : k ∈ configKeys) (hk' : k' ∈ configKeys) (hne : k ≠ k') {bs : List UInt8}
    (h : bs.length = k.size) :
    fieldBytes (live.write k.offset bs) k' = fieldBytes live k' := by
  refine read_write_of_disjoint _ ?_
  rw [h]
  exact disjoint_of_ne hk hk' hne

/-- **The store backs the struct**: a field holds what is stored under its
key's rebuilt name, or else its default, and nothing else is stored. -/
structure Persisted (s : ConfigState) : Prop where
  /-- Every field is as the store has it. -/
  agree : ∀ k ∈ configKeys, fieldBytes s.live k
    = (s.store.lookup (fullName k.name)).getD (fieldBytes tsConfigDefaults k)
  /-- What is stored has the size of its field. -/
  size : ∀ k ∈ configKeys, ∀ bs, s.store.lookup (fullName k.name) = some bs →
    bs.length = k.size
  /-- Every stored name was rebuilt from a key. -/
  names : ∀ name ∈ s.store, ∃ k ∈ configKeys, name = fullName k.name

theorem persisted_empty : Persisted ConfigState.empty where
  agree := fun k _ => by
    show _ = (AList.lookup (fullName k.name) (∅ : SettingsStore)).getD _
    rw [AList.lookup_empty, Option.getD_none]
    rfl
  size := fun k _ bs h => by
    rw [show ConfigState.empty.store = ∅ from rfl, AList.lookup_empty] at h
    cases h
  names := fun name h => absurd h (AList.notMem_empty name)

/-- **What a recognised, in-range set does**: the value goes to the struct, and
to the store if it can be saved. -/
theorem tsConfigSet_of_findKey {s : ConfigState} {pKey : CString} {value saveRet : Int32}
    {k : TsConfigKey} (hf : findKey (keyField pKey) = some k)
    (hr : ¬ (value < k.min ∨ value > k.max)) :
    tsConfigSet s pKey value saveRet
      = (⟨s.live.write k.offset (nativeBytes k.size value),
          settingsSaveOne s.store saveRet (fullName k.name) (nativeBytes k.size value)⟩,
        saveRet) := by
  have hk : k ∈ configKeys := (findKey_eq_some.mp hf).1
  have hread : (s.live.write k.offset (nativeBytes k.size value)).read k.offset k.size
      = nativeBytes k.size value := fieldBytes_write_self _ (length_leBytes _ _)
  unfold tsConfigSet
  simp only [hf, if_neg hr, writeField_eq _ hk, hread]

/-- A set that is not recognised, or out of range, changes nothing. -/
theorem tsConfigSet_of_not {s : ConfigState} {pKey : CString} {value saveRet : Int32}
    (h : ∀ k, findKey (keyField pKey) = some k → value < k.min ∨ value > k.max) :
    (tsConfigSet s pKey value saveRet).1 = s := by
  unfold tsConfigSet
  cases hf : findKey (keyField pKey) with
  | none => rfl
  | some k => simp only [if_pos (h k hf)]

/-- **The two outcomes of a set.** -/
theorem tsConfigSet_cases (s : ConfigState) (pKey : CString) (value saveRet : Int32) :
    (∀ k, findKey (keyField pKey) = some k → value < k.min ∨ value > k.max)
        ∧ (tsConfigSet s pKey value saveRet).1 = s
      ∨ ∃ k, findKey (keyField pKey) = some k ∧ ¬ (value < k.min ∨ value > k.max)
        ∧ tsConfigSet s pKey value saveRet
          = (⟨s.live.write k.offset (nativeBytes k.size value),
              settingsSaveOne s.store saveRet (fullName k.name) (nativeBytes k.size value)⟩,
            saveRet) := by
  by_cases h : ∀ k, findKey (keyField pKey) = some k → value < k.min ∨ value > k.max
  · exact Or.inl ⟨h, tsConfigSet_of_not h⟩
  · obtain ⟨k, hk⟩ := not_forall.mp h
    obtain ⟨hf, hr⟩ := Classical.not_imp.mp hk
    exact Or.inr ⟨k, hf, hr, tsConfigSet_of_findKey hf hr⟩

/-- **A set keeps the store behind the struct.** -/
theorem Persisted.set {s : ConfigState} (hs : Persisted s) (pKey : CString)
    (value : Int32) : Persisted (tsConfigSet s pKey value 0).1 := by
  rcases tsConfigSet_cases s pKey value 0 with ⟨-, heq⟩ | ⟨k, hf, -, heq⟩
  · rw [heq]
    exact hs
  · have hk : k ∈ configKeys := (findKey_eq_some.mp hf).1
    have hlen : (nativeBytes k.size value).length = k.size := length_leBytes _ _
    rw [heq]
    dsimp only [settingsSaveOne]
    rw [if_pos rfl]
    refine ⟨fun k' hk' => ?_, fun k' hk' bs hbs => ?_, fun name hname => ?_⟩
    -- the key that is set has new bytes in both places, the others have theirs in both
    · by_cases hkk : k = k'
      · subst hkk
        show fieldBytes (s.live.write k.offset _) k = _
        rw [fieldBytes_write_self _ hlen, AList.lookup_insert, Option.getD_some]
      · have hne : fullName k'.name ≠ fullName k.name :=
          fun he => hkk (eq_of_fullName_eq hk hk' he.symm)
        show fieldBytes (s.live.write k.offset _) k' = _
        rw [fieldBytes_write_of_ne _ hk hk' hkk hlen, AList.lookup_insert_ne hne]
        exact hs.agree k' hk'
    · by_cases hkk : k = k'
      · subst hkk
        rw [AList.lookup_insert] at hbs
        cases hbs
        exact hlen
      · have hne : fullName k'.name ≠ fullName k.name :=
          fun he => hkk (eq_of_fullName_eq hk hk' he.symm)
        rw [AList.lookup_insert_ne hne] at hbs
        exact hs.size k' hk' bs hbs
    · rcases (AList.mem_insert _).mp hname with rfl | hold
      · exact ⟨k, hk, rfl⟩
      · exact hs.names name hold

/-- Deleting names one after the other. -/
theorem lookup_foldl_settingsDelete (delRet : CString → Int32) (names : List CString)
    (st : SettingsStore) (a : CString) :
    (names.foldl (fun st n => settingsDelete st (delRet n) n) st).lookup a
      = if a ∈ names ∧ delRet a = 0 then none else st.lookup a := by
  induction names generalizing st with
  | nil => rfl
  | cons n names ih =>
    rw [List.foldl_cons, ih]
    by_cases hmem : a ∈ names ∧ delRet a = 0
    · rw [if_pos hmem, if_pos ⟨List.mem_cons_of_mem n hmem.1, hmem.2⟩]
    · rw [if_neg hmem, settingsDelete]
      by_cases hret : delRet n = 0
      · rw [if_pos hret]
        by_cases han : a = n
        · subst han
          rw [if_pos ⟨List.mem_cons_self, hret⟩, AList.lookup_erase]
        · rw [AList.lookup_erase_ne han,
            if_neg (fun h => hmem ⟨(List.mem_cons.mp h.1).resolve_left han, h.2⟩)]
      · rw [if_neg hret, if_neg]
        rintro ⟨hin, ha⟩
        rcases List.mem_cons.mp hin with rfl | hin
        · exact hret ha
        · exact hmem ⟨hin, ha⟩

/-- **A reset removes from the store** every name a set may have left there
and whose deletion succeeds. -/
theorem lookup_tsConfigReset (s : ConfigState) (delRet : CString → Int32) (a : CString) :
    (tsConfigReset s delRet).1.store.lookup a
      = if a ∈ configKeys.map (fun k => fullName k.name) ∧ delRet a = 0 then none
        else s.store.lookup a := by
  rw [← lookup_foldl_settingsDelete, List.foldl_map]
  rfl

/-- **A reset keeps the store behind the struct.** -/
theorem Persisted.reset {s : ConfigState} (hs : Persisted s) :
    Persisted (tsConfigReset s (fun _ => 0)).1 := by
  have hnone : ∀ k ∈ configKeys,
      (tsConfigReset s (fun _ => 0)).1.store.lookup (fullName k.name) = none := by
    intro k hk
    rw [lookup_tsConfigReset, if_pos ⟨List.mem_map_of_mem hk, rfl⟩]
  refine ⟨fun k hk => ?_, fun k hk bs hbs => ?_, fun name hname => ?_⟩
  · rw [hnone k hk, Option.getD_none]
    rfl
  · rw [hnone k hk] at hbs
    cases hbs
  · obtain ⟨bs, hbs⟩ := Option.isSome_iff_exists.mp (AList.lookup_isSome.mpr hname)
    rw [lookup_tsConfigReset] at hbs
    split at hbs
    · cases hbs
    · exact hs.names name (AList.lookup_isSome.mp (Option.isSome_iff_exists.mpr ⟨bs, hbs⟩))

/-- **The store is behind the struct after any sequence of calls.** -/
theorem persisted_runOps (ops : List ConfigOp) : Persisted (runOps ops) := by
  have hstep : ∀ s, Persisted s → ∀ op : ConfigOp, Persisted (op.apply s) := by
    intro s hs op
    cases op with
    | set key value => exact hs.set key value
    | reset => exact hs.reset
  unfold runOps
  generalize hst : ConfigState.empty = st
  have hs : Persisted st := hst ▸ persisted_empty
  clear hst
  induction ops generalizing st with
  | nil => exact hs
  | cons op ops ih => exact ih _ (hstep st hs op)

/-! ## What a reload makes of a store -/

/-- **One loaded entry, seen through a key**: it replaces the field it is
the full name of when its size fits, and is not seen otherwise. -/
theorem fieldBytes_settingsLoadEntry (live : ByteMemory)
    (e : Sigma fun _ : CString => List UInt8) {k : TsConfigKey} (hk : k ∈ configKeys) :
    fieldBytes (settingsLoadEntry live e) k
      = if e.fst = loadName k.name ∧ e.snd.length = k.size then e.snd
        else fieldBytes live k := by
  have hload : ∀ name : CString, e.fst = loadName name ↔
      e.fst.take 3 = cstr "ts/" ∧ e.fst.drop 3 = name := by
    intro name
    constructor
    · intro h
      rw [h]
      exact ⟨List.take_left' rfl, List.drop_left' rfl⟩
    · rintro ⟨htake, hdrop⟩
      rw [loadName, ← htake, ← hdrop, List.take_append_drop]
  simp only [hload]
  unfold settingsLoadEntry
  by_cases hpre : e.fst.take 3 = cstr "ts/"
  · rw [if_pos hpre]
    unfold configSettingsSet
    -- the handler looks the stripped name up, then insists on the size of the field it found
    cases hf : findKey (e.fst.drop 3) with
    | none =>
      rw [if_neg]
      rintro ⟨⟨-, hname⟩, -⟩
      rw [hname, (findKey_eq_some).mpr ⟨hk, rfl⟩] at hf
      cases hf
    | some k' =>
      obtain ⟨hk', hname⟩ := findKey_eq_some.mp hf
      by_cases hsize : e.snd.length = k'.size
      · simp only [hsize, ne_eq, not_true_eq_false, ite_false]
        by_cases hkk : k' = k
        · subst hkk
          rw [fieldBytes_write_self _ hsize, if_pos ⟨⟨hpre, hname.symm⟩, rfl⟩]
        · rw [fieldBytes_write_of_ne _ hk' hk hkk hsize, if_neg]
          rintro ⟨⟨-, h⟩, -⟩
          exact hkk (eq_of_name_eq hk' hk (hname.trans h))
      · simp only [ne_eq, hsize, not_false_eq_true, ite_true]
        rw [if_neg]
        rintro ⟨⟨-, h⟩, hs⟩
        exact hsize (by rw [hs, eq_of_name_eq hk hk' (h.symm.trans hname.symm)])
  · rw [if_neg hpre, if_neg (fun h => hpre h.1.1)]

/-- A key nothing loads keeps its field. -/
theorem read_settingsLoad_of_forall {order : List (Sigma fun _ : CString => List UInt8)}
    {k : TsConfigKey} (hk : k ∈ configKeys)
    (h : ∀ e ∈ order, ¬ (e.fst = loadName k.name ∧ e.snd.length = k.size))
    (live : ByteMemory) :
    fieldBytes (settingsLoad live order) k = fieldBytes live k := by
  unfold settingsLoad
  induction order generalizing live with
  | nil => rfl
  | cons e order ih =>
    rw [List.foldl_cons, ih (fun e' he' => h e' (List.mem_cons_of_mem e he')),
      fieldBytes_settingsLoadEntry _ _ hk, if_neg (h e List.mem_cons_self)]

/-- **A key with an entry of its size gets that entry**, in whatever order
the entries come. -/
theorem read_settingsLoad_of_mem {order : List (Sigma fun _ : CString => List UInt8)}
    (hnd : order.NodupKeys) {k : TsConfigKey} (hk : k ∈ configKeys) {bs : List UInt8}
    (hmem : ⟨loadName k.name, bs⟩ ∈ order) (hsize : bs.length = k.size)
    (live : ByteMemory) : fieldBytes (settingsLoad live order) k = bs := by
  induction order generalizing live with
  | nil => exact absurd hmem List.not_mem_nil
  | cons e order ih =>
    rw [List.nodupKeys_cons] at hnd
    show fieldBytes (settingsLoad (settingsLoadEntry live e) order) k = bs
    rcases List.mem_cons.mp hmem with heq | hmem
    · -- the entry comes now, and no later one has its name
      have hlater : ∀ e' ∈ order, ¬ (e'.fst = loadName k.name ∧ e'.snd.length = k.size) := by
        rintro e' he' ⟨hname, -⟩
        have hkey := List.mem_keys_of_mem he'
        rw [hname] at hkey
        exact hnd.1 (by rw [← heq]; exact hkey)
      rw [read_settingsLoad_of_forall hk hlater, fieldBytes_settingsLoadEntry _ _ hk,
        ← heq, if_pos ⟨rfl, hsize⟩]
    · exact ih hnd.2 hmem _

/-- **What a load makes of a field**: the bytes stored under the name the
loader knows its key by, if they have its size. Otherwise it is left as it
was. -/
theorem fieldBytes_settingsLoad {store : SettingsStore} (load : SettingsLoad store)
    (live : ByteMemory) {k : TsConfigKey} (hk : k ∈ configKeys) :
    fieldBytes (settingsLoad live load.order) k
      = ((store.lookup (loadName k.name)).filter (fun bs => bs.length = k.size)).getD
        (fieldBytes live k) := by
  have hnd : load.order.NodupKeys := (List.perm_nodupKeys load.perm).mpr store.nodupKeys
  have hlookup : ∀ {e : Sigma fun _ : CString => List UInt8}, e ∈ load.order →
      e.fst = loadName k.name → store.lookup (loadName k.name) = some e.snd := by
    intro e he hname
    rw [← hname]
    exact AList.mem_lookup_iff.mpr (load.perm.mem_iff.mp he)
  cases hl : store.lookup (loadName k.name) with
  | none =>
    refine read_settingsLoad_of_forall hk ?_ _
    rintro e he ⟨hname, -⟩
    rw [hlookup he hname] at hl
    cases hl
  | some bs =>
    by_cases hsize : bs.length = k.size
    · simp only [Option.filter_some, hsize, decide_true, if_true, Option.getD_some]
      have hmem : (⟨loadName k.name, bs⟩ : Sigma fun _ : CString => List UInt8) ∈ load.order :=
        load.perm.mem_iff.mpr (AList.mem_lookup_iff.mp hl)
      exact read_settingsLoad_of_mem hnd hk hmem hsize _
    · simp only [Option.filter_some, hsize, decide_false, Bool.false_eq_true, if_false,
        Option.getD_none]
      refine read_settingsLoad_of_forall hk ?_ _
      rintro e he ⟨hname, hlen⟩
      rw [hlookup he hname] at hl
      exact hsize (Option.some.inj hl ▸ hlen)

/-- **After a reboot a field holds what is stored under the name the loader
knows it by**, or else its default. -/
theorem fieldBytes_tsConfigInit {s : ConfigState} (hs : Persisted s)
    (load : SettingsLoad s.store) {k : TsConfigKey} (hk : k ∈ configKeys) :
    fieldBytes (tsConfigInit s 0 0 load.order).1.live k
      = (s.store.lookup (loadName k.name)).getD (fieldBytes tsConfigDefaults k) := by
  refine (fieldBytes_settingsLoad load tsConfigDefaults hk).trans (congrArg (Option.getD · _) ?_)
  cases hl : s.store.lookup (loadName k.name) with
  | none => rfl
  | some bs =>
    obtain ⟨k', hk', hname⟩ := hs.names _ (AList.lookup_isSome.mp
      (Option.isSome_iff_exists.mpr ⟨bs, hl⟩))
    -- only a key stored under the name it is loaded by can be stored under it
    have hkk : k' = k := by
      by_cases hst : k = staleKey
      · exact absurd (hst ▸ hname).symm (fullName_ne_loadName_staleKey hk')
      · rw [← fullName_eq_loadName hk hst] at hname
        exact eq_of_fullName_eq hk' hk hname.symm
    rw [hname, hkk] at hl
    simp only [Option.filter_some, hs.size k hk bs hl, decide_true, if_true]

/-! ## The field that does not survive -/

/-- The value of the stale timeout after one more call: that of an accepted
set of its key, its default after a reset. -/
def staleTimeoutStep (v : Int32) : ConfigOp → Int32
  | .set key value =>
    if keyField key = staleKey.name ∧ ¬ (value < staleKey.min ∨ value > staleKey.max)
    then value else v
  | .reset => ConfigField.default .routingTableStaleTimeoutS

/-- The value of the stale timeout that a sequence of calls asks for: that
of the last accepted set since the last reset, or else the default. -/
def staleTimeoutAfter (ops : List ConfigOp) : Int32 :=
  ops.foldl staleTimeoutStep (ConfigField.default .routingTableStaleTimeoutS)

theorem fieldBytes_tsConfigDefaults_staleKey : fieldBytes tsConfigDefaults staleKey
    = nativeBytes 4 (ConfigField.default .routingTableStaleTimeoutS) := by
  decide +kernel

/-- **One call changes the stale timeout as it asks for**, and no other call
touches it. -/
theorem fieldBytes_apply_staleKey {s : ConfigState} {v : Int32}
    (hs : fieldBytes s.live staleKey = nativeBytes 4 v) (op : ConfigOp) :
    fieldBytes (op.apply s).live staleKey = nativeBytes 4 (staleTimeoutStep v op) := by
  cases op with
  | reset =>
    exact fieldBytes_tsConfigDefaults_staleKey
  | set key value =>
    show fieldBytes (tsConfigSet s key value 0).1.live staleKey = nativeBytes 4 (ite _ _ _)
    rcases tsConfigSet_cases s key value 0 with ⟨h, heq⟩ | ⟨k, hf, hr, heq⟩
    · rw [heq, if_neg, hs]
      rintro ⟨hname, hr⟩
      exact hr (h staleKey (findKey_eq_some.mpr ⟨staleKey_mem, hname.symm⟩))
    · obtain ⟨hk, hname⟩ := findKey_eq_some.mp hf
      have hlen : (nativeBytes k.size value).length = k.size := length_leBytes _ _
      rw [heq]
      by_cases hst : k = staleKey
      · subst hst
        rw [if_pos ⟨hname.symm, hr⟩]
        exact fieldBytes_write_self _ hlen
      · rw [if_neg, ← hs]
        · exact fieldBytes_write_of_ne _ hk staleKey_mem hst hlen
        · rintro ⟨hkey, -⟩
          exact hst (eq_of_name_eq hk staleKey_mem (hname.trans hkey))

/-- **The live struct holds the value asked for.** -/
theorem fieldBytes_runOps_staleKey (ops : List ConfigOp) :
    fieldBytes (runOps ops).live staleKey = nativeBytes 4 (staleTimeoutAfter ops) := by
  have hfold : ∀ (ops : List ConfigOp) (s : ConfigState) (v : Int32),
      fieldBytes s.live staleKey = nativeBytes 4 v →
      fieldBytes (ops.foldl ConfigOp.apply s).live staleKey
        = nativeBytes 4 (ops.foldl staleTimeoutStep v) := by
    intro ops
    induction ops with
    | nil => exact fun _ _ hs => hs
    | cons op ops ih => exact fun _ _ hs => ih _ _ (fieldBytes_apply_staleKey hs op)
  exact hfold ops _ _ fieldBytes_tsConfigDefaults_staleKey

/-- Every field of the struct has its descriptor. -/
theorem exists_configKey (f : ConfigField) : ∃ k ∈ configKeys,
    k.offset = offsetof f ∧ k.size = f.ctype.size ∧ k.name = f.name := by
  cases f <;> decide

/-- **The readers of the struct see the bytes of its fields** and no others. -/
theorem tsConfigGet_congr {live live' : ByteMemory}
    (h : ∀ k ∈ configKeys, fieldBytes live k = fieldBytes live' k) :
    tsConfigGet live = tsConfigGet live' := by
  have hraw : ∀ f, rawField live f = rawField live' f := by
    intro f
    obtain ⟨k, hk, hoff, hsize, -⟩ := exists_configKey f
    have hbytes := h k hk
    unfold fieldBytes at hbytes
    rw [hoff, hsize] at hbytes
    exact congrArg ofLe hbytes
  unfold tsConfigGet
  simp only [hraw]

/-- **A reboot keeps every field but one**, and returns that one to its
default. -/
theorem fieldBytes_reboot (ops : List ConfigOp) (load : SettingsLoad (runOps ops).store)
    {k : TsConfigKey} (hk : k ∈ configKeys) :
    fieldBytes (tsConfigInit (runOps ops) 0 0 load.order).1.live k
      = if k = staleKey then nativeBytes 4 (ConfigField.default .routingTableStaleTimeoutS)
        else fieldBytes (runOps ops).live k := by
  have hs := persisted_runOps ops
  rw [fieldBytes_tsConfigInit hs load hk]
  by_cases hst : k = staleKey
  · subst hst
    have hnone : (runOps ops).store.lookup (loadName staleKey.name) = none := by
      refine AList.lookup_eq_none.mpr (fun hin => ?_)
      obtain ⟨k, hk, hname⟩ := hs.names _ hin
      exact fullName_ne_loadName_staleKey hk hname.symm
    rw [hnone, if_pos rfl, Option.getD_none]
    decide +kernel
  · rw [if_neg hst, hs.agree k hk, fullName_eq_loadName hk hst]

/-- Four bytes written natively are read back as the value. -/
theorem ofLe_nativeBytes (v : Int32) : UInt32.ofNat (ofLe (nativeBytes 4 v)) = v.toUInt32 := by
  unfold nativeBytes
  rw [ofLe_leBytes_of_lt (UInt32.toNat_lt _), UInt32.ofNat_toNat]

/-- What the readers see of the stale timeout is what was asked for … -/
theorem staleTimeout_runOps (ops : List ConfigOp) :
    (tsConfigGet (runOps ops).live).routingTableStaleTimeoutS
      = (staleTimeoutAfter ops).toUInt32 := by
  show UInt32.ofNat (ofLe (fieldBytes (runOps ops).live staleKey)) = _
  rw [fieldBytes_runOps_staleKey, ofLe_nativeBytes]

/-- … until the next boot, which always sees the default. -/
theorem staleTimeout_reboot (ops : List ConfigOp) (load : SettingsLoad (runOps ops).store) :
    (tsConfigGet (tsConfigInit (runOps ops) 0 0 load.order).1.live).routingTableStaleTimeoutS
      = 300 := by
  show UInt32.ofNat (ofLe (fieldBytes
    (tsConfigInit (runOps ops) 0 0 load.order).1.live staleKey)) = _
  rw [fieldBytes_reboot ops load staleKey_mem, if_pos rfl, ofLe_nativeBytes]
  rfl

/-- **The configuration survives a reboot exactly when the stale timeout is
at its default.** After any sequence of sets and resets with no failing
settings call, a following `ts_config_init` – whatever order the store is
loaded in – leaves every field as it was if and only if the last value
accepted for `routing_table_stale_timeout_s` since the last reset, if there
is one, is the default. -/
theorem tsConfigInit_eq_iff (ops : List ConfigOp)
    (load : SettingsLoad (runOps ops).store) :
    tsConfigGet (tsConfigInit (runOps ops) 0 0 load.order).1.live
        = tsConfigGet (runOps ops).live
      ↔ staleTimeoutAfter ops = 300 := by
  constructor
  · intro h
    have hfield := congrArg TsConfig.routingTableStaleTimeoutS h
    rw [staleTimeout_reboot, staleTimeout_runOps] at hfield
    exact (Int32.toBitVec_inj.mp (congrArg UInt32.toBitVec hfield)).symm
  · intro h
    refine tsConfigGet_congr (fun k hk => (fieldBytes_reboot ops load hk).trans ?_)
    split
    · next hst =>
      -- the one field that went back to its default was at it already
      subst hst
      refine Eq.trans ?_ (fieldBytes_runOps_staleKey ops).symm
      rw [h]
      rfl
    · rfl

/-- A stale timeout of half an hour instead of five minutes. -/
def staleTimeoutSet : List ConfigOp := [.set (cstr "ts/routing_table_stale_timeout_s") 1800]

/-- **A stale timeout of half an hour is lost at the next boot.** -/
theorem staleTimeoutSet_lost : ∃ load : SettingsLoad (runOps staleTimeoutSet).store,
    tsConfigGet (tsConfigInit (runOps staleTimeoutSet) 0 0 load.order).1.live
      ≠ tsConfigGet (runOps staleTimeoutSet).live := by
  refine ⟨⟨_, List.Perm.refl _⟩, fun h => ?_⟩
  have hfield := congrArg TsConfig.routingTableStaleTimeoutS h
  rw [staleTimeout_reboot, staleTimeout_runOps] at hfield
  exact absurd hfield (by decide)

end Terrascope
