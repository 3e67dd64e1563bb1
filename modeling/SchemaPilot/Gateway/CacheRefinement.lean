import SchemaPilot.Gateway.QueryCache

/-!
# The query cache as a bounded map

Any sequence of `get`, `set` and `invalidate_prefix` calls beside a plain map that keeps the last value set
for a key until it is invalidated. The entries never exceed the bound and are all in the plain map
(`simulates_run`), so what `get` returns is the last value set, younger than the lifetime.

`set` makes room whenever the cache is full, also for a key that has an entry already. So a refresh removes
no other key exactly when there is room left or the key is the oldest itself (`refinement_iff`).
-/

namespace SchemaPilot.Gateway

namespace QueryCache

/-- `invalidate_prefix`. -/
def invalidatePrefix (entries : QueryCache) (start : String) : QueryCache :=
  entries.filter fun e ↦ ¬start.toList <+: e.1.toList

inductive Call where
  | get (key : String)
  | set (key : String) (value : Rows)
  | invalidatePrefix (start : String)

/-- A call with the reading of `time.time()`. -/
structure TimedCall where
  now : ℚ
  call : Call

def step (settings : QueryCacheSettings) (entries : QueryCache) (timed : TimedCall) :
    Option Rows × QueryCache :=
  match timed.call with
  | .get key => entries.get settings timed.now key
  | .set key value => (none, entries.set settings timed.now key value)
  | .invalidatePrefix start => (none, entries.invalidatePrefix start)

/-- The entries after a sequence of calls to an empty cache. -/
def after (settings : QueryCacheSettings) (calls : List TimedCall) : QueryCache :=
  calls.foldl (fun entries timed ↦ (step settings entries timed).2) []

/-- The last value set for each key and when it was set. -/
abbrev PlainMap := String → Option (Rows × ℚ)

def PlainMap.step (settings : QueryCacheSettings) (plain : PlainMap) (timed : TimedCall) : PlainMap :=
  match timed.call with
  | .get _ => plain
  | .set key value =>
    if settings.enabled then Function.update plain key (some (value, timed.now)) else plain
  | .invalidatePrefix start => fun key ↦ if start.toList <+: key.toList then none else plain key

def plainAfter (settings : QueryCacheSettings) (calls : List TimedCall) : PlainMap :=
  calls.foldl (fun plain timed ↦ plain.step settings timed) fun _ ↦ none

/-- `self.ttl_seconds`. -/
def lifetime (settings : QueryCacheSettings) : ℚ := (max settings.ttlSeconds 1 : ℤ)

def Present (entries : QueryCache) (key : String) : Prop := key ∈ entries.map Prod.fst

/-- What one call may do to a bounded map that stands for a plain one. -/
structure StepRefines (settings : QueryCacheSettings) (plain : PlainMap) (entries : QueryCache)
    (timed : TimedCall) : Prop where
  bounded : ((step settings entries timed).2.length : ℤ) ≤ max settings.maxEntries 1
  answer : ∀ key value, timed.call = .get key → (step settings entries timed).1 = some value →
    ∃ setAt, plain key = some (value, setAt) ∧ timed.now < setAt + lifetime settings
  refresh : ∀ key value, timed.call = .set key value → Present entries key →
    ∀ other ≠ key, Present entries other → Present (step settings entries timed).2 other

/-- Every call of a run does what it may do. -/
def RunRefines (settings : QueryCacheSettings) (calls : List TimedCall) : Prop :=
  ∀ earlier timed, earlier ++ [timed] <+: calls →
    StepRefines settings (plainAfter settings earlier) (after settings earlier) timed

/-- There is room for an entry of the key: the cache is not full, or the key is the one to go. -/
def Fits (settings : QueryCacheSettings) (entries : QueryCache) (key : String) : Prop :=
  (entries.length : ℤ) < max settings.maxEntries 1 ∨ entries.oldest?.map Prod.fst = some key

/-- No key that has an entry is set while the cache is full of others to go first. -/
def RefreshesFit (settings : QueryCacheSettings) (calls : List TimedCall) : Prop :=
  ∀ earlier now key value, earlier ++ [⟨now, .set key value⟩] <+: calls →
    Present (after settings earlier) key → Fits settings (after settings earlier) key

theorem after_concat (settings : QueryCacheSettings) (calls : List TimedCall) (timed : TimedCall) :
    after settings (calls ++ [timed]) = (step settings (after settings calls) timed).2 := by
  rw [after, List.foldl_append]
  rfl

theorem plainAfter_concat (settings : QueryCacheSettings) (calls : List TimedCall)
    (timed : TimedCall) : plainAfter settings (calls ++ [timed]) =
      (plainAfter settings calls).step settings timed := by
  rw [plainAfter, List.foldl_append]
  rfl

theorem present_insert {entries : QueryCache} {key other : String} {hit : QueryCacheHit} :
    Present (entries.insert key hit) other ↔ other = key ∨ Present entries other := by
  unfold Present insert
  split_ifs with hany
  · have hmap : (entries.map fun e ↦ if e.1 = key then (key, hit) else e).map Prod.fst =
        entries.map Prod.fst := by
      rw [List.map_map]
      refine List.map_congr_left fun e _ ↦ ?_
      by_cases hkey : e.1 = key
      · rw [Function.comp_apply, if_pos hkey, hkey]
      · rw [Function.comp_apply, if_neg hkey]
    rw [hmap]
    refine ⟨Or.inr, fun h ↦ h.elim (fun heq ↦ ?_) id⟩
    obtain ⟨e, he, hkey⟩ := List.any_eq_true.mp hany
    rw [heq, ← of_decide_eq_true hkey]
    exact List.mem_map_of_mem he
  · rw [List.map_append, List.mem_append, List.map_singleton, List.mem_singleton]
    exact or_comm

theorem present_pop {entries : QueryCache} {key other : String} :
    Present (entries.pop key) other ↔ other ≠ key ∧ Present entries other := by
  unfold Present pop
  constructor
  · intro h
    obtain ⟨e, he, rfl⟩ := List.mem_map.mp h
    obtain ⟨hmem, hkey⟩ := List.mem_filter.mp he
    exact ⟨of_decide_eq_true hkey, List.mem_map_of_mem hmem⟩
  · rintro ⟨hne, h⟩
    obtain ⟨e, he, rfl⟩ := List.mem_map.mp h
    exact List.mem_map_of_mem (List.mem_filter.mpr ⟨he, decide_eq_true hne⟩)

/-- What `insert` leaves of another key was there before. -/
theorem eq_or_mem_of_mem_insert {entries : QueryCache} {key : String} {hit : QueryCacheHit}
    {e : String × QueryCacheHit} (h : e ∈ entries.insert key hit) :
    e = (key, hit) ∨ e.1 ≠ key ∧ e ∈ entries := by
  unfold insert at h
  split_ifs at h with hany
  · obtain ⟨old, hold, rfl⟩ := List.mem_map.mp h
    by_cases hkey : old.1 = key
    · exact Or.inl (if_pos hkey)
    · rw [if_neg hkey]
      exact Or.inr ⟨hkey, hold⟩
  · rcases List.mem_append.mp h with hold | hnew
    · exact Or.inr ⟨fun hkey ↦ hany (List.any_eq_true.mpr ⟨e, hold, decide_eq_true hkey⟩), hold⟩
    · exact Or.inl (List.mem_singleton.mp hnew)

theorem length_insert_le (entries : QueryCache) (key : String) (hit : QueryCacheHit) :
    (entries.insert key hit).length ≤ entries.length + 1 := by
  unfold insert
  split_ifs
  · rw [List.length_map]
    exact Nat.le_succ _
  · rw [List.length_append]
    exact le_refl _

/-- The oldest entry is an entry. -/
theorem mem_of_oldest? {entries : QueryCache} {e : String × QueryCacheHit}
    (h : entries.oldest? = some e) : e ∈ entries := by
  have hrun : ∀ (rest : QueryCache) (best : String × QueryCacheHit),
      rest.foldl (fun best e ↦ if e.2.expiresAt < best.2.expiresAt then e else best) best ∈
        best :: rest := by
    intro rest
    induction rest with
    | nil => exact fun best ↦ List.mem_cons_self
    | cons first rest ih =>
      intro best
      rw [List.foldl_cons]
      split_ifs
      · exact List.mem_cons_of_mem _ (ih first)
      · rcases List.mem_cons.mp (ih best) with heq | hmem
        · rw [heq]
          exact List.mem_cons_self
        · exact List.mem_cons_of_mem _ (List.mem_cons_of_mem _ hmem)
  cases entries with
  | nil => cases h
  | cons first rest =>
    rw [oldest?, Option.some.injEq] at h
    rw [← h]
    exact hrun rest first

theorem exists_oldest? {entries : QueryCache} (h : entries ≠ []) : ∃ e, entries.oldest? = some e := by
  cases entries with
  | nil => exact absurd rfl h
  | cons first rest => exact ⟨_, rfl⟩

theorem length_pop_lt {entries : QueryCache} {e : String × QueryCacheHit} (h : e ∈ entries) :
    (entries.pop e.1).length < entries.length := by
  unfold pop
  refine List.length_filter_lt_length_iff_exists.mpr ⟨e, h, ?_⟩
  simp

/-- What a `set` of an enabled cache does: it puts in the entry, after taking out the oldest one where the
cache is full. -/
theorem set_cases (settings : QueryCacheSettings) (now : ℚ) (entries : QueryCache) (key : String)
    (value : Rows) (henabled : settings.enabled = true) :
    ((entries.length : ℤ) < max settings.maxEntries 1 ∧ entries.set settings now key value =
        entries.insert key ⟨value, now + lifetime settings⟩) ∨
      ∃ oldest, max settings.maxEntries 1 ≤ (entries.length : ℤ) ∧ entries.oldest? = some oldest ∧
        entries.set settings now key value =
          (entries.pop oldest.1).insert key ⟨value, now + lifetime settings⟩ := by
  have hne : ¬settings.enabled = false := by simp [henabled]
  unfold set
  rw [if_neg hne]
  by_cases hfull : max settings.maxEntries 1 ≤ (entries.length : ℤ)
  · right
    have hentries : entries ≠ [] := by
      rintro rfl
      have hone : (1 : ℤ) ≤ max settings.maxEntries 1 := le_max_right _ _
      exact absurd (hone.trans hfull) (by decide)
    obtain ⟨oldest, holdest⟩ := exists_oldest? hentries
    refine ⟨oldest, hfull, holdest, ?_⟩
    simp only [if_pos hfull, holdest, lifetime]
  · left
    refine ⟨not_le.mp hfull, ?_⟩
    simp only [if_neg hfull, lifetime]

/-- A `get` leaves the entries, or removes one. -/
theorem get_sublist (settings : QueryCacheSettings) (now : ℚ) (entries : QueryCache) (key : String) :
    List.Sublist (entries.get settings now key).2 entries := by
  unfold get
  split_ifs
  · exact List.Sublist.refl _
  · cases entries.lookup key with
    | none => exact List.Sublist.refl _
    | some hit =>
      dsimp only
      split_ifs
      · exact List.filter_sublist
      · exact List.Sublist.refl _

theorem length_step_le {settings : QueryCacheSettings} {entries : QueryCache}
    (h : (entries.length : ℤ) ≤ max settings.maxEntries 1) (timed : TimedCall) :
    ((step settings entries timed).2.length : ℤ) ≤ max settings.maxEntries 1 := by
  obtain ⟨now, call⟩ := timed
  cases call with
  | get key =>
    have hlength := (get_sublist settings now entries key).length_le
    change ((entries.get settings now key).2.length : ℤ) ≤ _
    omega
  | invalidatePrefix start =>
    have hlength : (entries.invalidatePrefix start).length ≤ entries.length := List.length_filter_le _ _
    change ((entries.invalidatePrefix start).length : ℤ) ≤ _
    omega
  | set key value =>
    change ((entries.set settings now key value).length : ℤ) ≤ _
    by_cases henabled : settings.enabled = true
    · rcases set_cases settings now entries key value henabled with
        ⟨hroom, heq⟩ | ⟨oldest, -, holdest, heq⟩
      · have hlength := length_insert_le entries key ⟨value, now + lifetime settings⟩
        rw [heq]
        omega
      · have hlength := length_insert_le (entries.pop oldest.1) key ⟨value, now + lifetime settings⟩
        have hpop := length_pop_lt (mem_of_oldest? holdest)
        rw [heq]
        omega
    · unfold set
      rwa [if_pos (Bool.eq_false_iff.mpr henabled)]

/-- Every entry is in the plain map, with the time it was set. -/
def Simulates (settings : QueryCacheSettings) (plain : PlainMap) (entries : QueryCache) : Prop :=
  ∀ key hit, (key, hit) ∈ entries →
    ∃ setAt, plain key = some (hit.value, setAt) ∧ hit.expiresAt = setAt + lifetime settings

section Simulation

variable {settings : QueryCacheSettings} {plain : PlainMap} {entries : QueryCache}

theorem Simulates.mono (h : Simulates settings plain entries) {fewer : QueryCache}
    (hfewer : ∀ e ∈ fewer, e ∈ entries) : Simulates settings plain fewer :=
  fun key hit hmem ↦ h key hit (hfewer _ hmem)

theorem Simulates.insert (h : Simulates settings plain entries) (key : String) (value : Rows)
    (now : ℚ) : Simulates settings (Function.update plain key (some (value, now)))
      (entries.insert key ⟨value, now + lifetime settings⟩) := by
  intro other hit hmem
  rcases eq_or_mem_of_mem_insert hmem with heq | ⟨hother, hold⟩
  · obtain ⟨rfl, rfl⟩ := Prod.mk.inj heq
    exact ⟨now, Function.update_self _ _ _, rfl⟩
  · rw [Function.update_of_ne hother]
    exact h other hit hold

/-- Every call keeps the entries in the plain map. -/
theorem Simulates.step (h : Simulates settings plain entries) (timed : TimedCall) :
    Simulates settings (plain.step settings timed) (QueryCache.step settings entries timed).2 := by
  obtain ⟨now, call⟩ := timed
  cases call with
  | get key => exact h.mono fun _ hmem ↦ (get_sublist settings now entries key).subset hmem
  | invalidatePrefix start =>
    intro key hit hmem
    obtain ⟨hold, hkept⟩ := List.mem_filter.mp hmem
    obtain ⟨setAt, hplain, hexpires⟩ := h key hit hold
    refine ⟨setAt, ?_, hexpires⟩
    change (if start.toList <+: key.toList then none else plain key) = _
    rw [if_neg (of_decide_eq_true hkept), hplain]
  | set key value =>
    by_cases henabled : settings.enabled = true
    · change Simulates settings (if settings.enabled then _ else plain)
        (entries.set settings now key value)
      rw [if_pos henabled]
      rcases set_cases settings now entries key value henabled with
        ⟨-, heq⟩ | ⟨oldest, -, -, heq⟩
      · rw [heq]
        exact h.insert key value now
      · rw [heq]
        exact (h.mono fun _ ↦ mem_of_mem_pop).insert key value now
    · change Simulates settings (if settings.enabled then _ else plain)
        (entries.set settings now key value)
      rw [if_neg henabled]
      unfold QueryCache.set
      rwa [if_pos (Bool.eq_false_iff.mpr henabled)]

end Simulation

/-- After every run, the entries are within the bound and in the plain map. -/
theorem simulates_run (settings : QueryCacheSettings) (calls : List TimedCall) :
    Simulates settings (plainAfter settings calls) (after settings calls) ∧
      ((after settings calls).length : ℤ) ≤ max settings.maxEntries 1 := by
  induction calls using List.reverseRecOn with
  | nil => exact ⟨fun _ _ hmem ↦ absurd hmem List.not_mem_nil, Int.zero_le_ofNat 1 |>.trans (le_max_right _ _)⟩
  | append_singleton earlier timed ih =>
    rw [after_concat, plainAfter_concat]
    exact ⟨ih.1.step timed, length_step_le ih.2 timed⟩

/-- What `get` returns is an entry that has not expired. -/
theorem fresh_of_get {settings : QueryCacheSettings} {now : ℚ} {entries : QueryCache} {key : String}
    {value : Rows} (h : (entries.get settings now key).1 = some value) :
    ∃ expiresAt, (key, ⟨value, expiresAt⟩) ∈ entries ∧ now < expiresAt := by
  unfold get at h
  split_ifs at h
  cases hlookup : entries.lookup key with
  | none =>
    rw [hlookup] at h
    cases h
  | some hit =>
    rw [hlookup] at h
    dsimp only at h
    split_ifs at h with hexpired
    cases h
    exact ⟨hit.expiresAt, mem_of_lookup hlookup, Rat.not_le.mp hexpired⟩

/-- Setting a key that has an entry keeps the others exactly when there is room. -/
theorem refresh_iff {settings : QueryCacheSettings} {now : ℚ} {entries : QueryCache} {key : String}
    {value : Rows} (henabled : settings.enabled = true) :
    (∀ other ≠ key, Present entries other → Present (entries.set settings now key value) other) ↔
      Fits settings entries key := by
  rcases set_cases settings now entries key value henabled with
    ⟨hroom, heq⟩ | ⟨oldest, hfull, holdest, heq⟩
  · refine iff_of_true (fun other _ hpresent ↦ ?_) (Or.inl hroom)
    rw [heq]
    exact present_insert.mpr (Or.inr hpresent)
  · rw [heq, Fits, holdest, Option.map_some, Option.some.injEq]
    constructor
    · intro hkept
      by_contra hother
      rw [not_or] at hother
      have hpresent : Present entries oldest.1 := List.mem_map_of_mem (mem_of_oldest? holdest)
      rcases present_insert.mp (hkept oldest.1 hother.2 hpresent) with hkey | hpopped
      · exact hother.2 hkey
      · exact (present_pop.mp hpopped).1 rfl
    · rintro (hroom | rfl) other hother hpresent
      · exact absurd hroom (not_lt.mpr hfull)
      · exact present_insert.mpr (Or.inr (present_pop.mpr ⟨hother, hpresent⟩))

theorem after_of_disabled {settings : QueryCacheSettings} (hdisabled : settings.enabled = false)
    (calls : List TimedCall) : after settings calls = [] := by
  induction calls using List.reverseRecOn with
  | nil => rfl
  | append_singleton earlier timed ih =>
    rw [after_concat, ih]
    obtain ⟨now, call⟩ := timed
    cases call with
    | get key => exact congrArg Prod.snd (if_pos hdisabled)
    | set key value => exact if_pos hdisabled
    | invalidatePrefix start => rfl

/-- Every call of a run does what a bounded map may do exactly when every refresh finds room. -/
theorem refinement_iff (settings : QueryCacheSettings) (calls : List TimedCall) :
    RunRefines settings calls ↔ RefreshesFit settings calls := by
  constructor
  · intro h earlier now key value hpre hpresent
    have hstep := (h earlier ⟨now, .set key value⟩ hpre).refresh key value rfl hpresent
    by_cases henabled : settings.enabled = true
    · exact (refresh_iff henabled).mp hstep
    · rw [after_of_disabled (Bool.eq_false_iff.mpr henabled)] at hpresent
      exact absurd hpresent List.not_mem_nil
  · intro h earlier timed hpre
    obtain ⟨hsimulates, hbound⟩ := simulates_run settings earlier
    refine ⟨length_step_le hbound timed, ?_, ?_⟩
    · intro key value hcall hanswer
      obtain ⟨now, call⟩ := timed
      subst hcall
      obtain ⟨expiresAt, hmem, hfresh⟩ := fresh_of_get hanswer
      obtain ⟨setAt, hplain, hexpires⟩ := hsimulates key _ hmem
      exact ⟨setAt, hplain, hexpires ▸ hfresh⟩
    · intro key value hcall hpresent
      obtain ⟨now, call⟩ := timed
      subst hcall
      by_cases henabled : settings.enabled = true
      · exact (refresh_iff henabled).mpr (h earlier now key value hpre hpresent)
      · rw [after_of_disabled (Bool.eq_false_iff.mpr henabled)] at hpresent
        exact absurd hpresent List.not_mem_nil

/-- In a full cache of two, setting the younger key again removes the other one. -/
theorem refresh_evicts : ¬RunRefines ⟨true, 30, 2⟩ [⟨1, .set "sales" ⟨[], []⟩⟩,
    ⟨2, .set "orders" ⟨[], []⟩⟩, ⟨3, .set "orders" ⟨[], []⟩⟩] := by
  intro h
  have hkept := (h [⟨1, .set "sales" ⟨[], []⟩⟩, ⟨2, .set "orders" ⟨[], []⟩⟩] _
    (List.prefix_refl _)).refresh "orders" ⟨[], []⟩ rfl (by unfold Present; decide +kernel) "sales" (by decide)
    (by unfold Present; decide +kernel)
  revert hkept
  unfold Present
  decide +kernel

end QueryCache

end SchemaPilot.Gateway
