import SchemaPilot.Gateway.Interface
import Mathlib.Data.Rat.Defs

/-!
# The query cache

`InMemoryQueryCache` of `backend/gateway/query_cache.py`. The entries are the dictionary in insertion
order, which decides which of several oldest entries is evicted. Both methods hold the lock
throughout; the reading of `time.time()` is an argument, in seconds.

A payload that `get` returns was stored by a `set` under the same key (`mem_of_get`,
`mem_of_mem_set`).
-/

namespace SchemaPilot.Gateway

open Library

/-- `QueryCacheHit`. -/
structure QueryCacheHit where
  value : Rows
  expiresAt : ℚ

/-- The parameters of a cache; `__init__` raises the last two to at least one. -/
structure QueryCacheSettings where
  enabled : Bool
  ttlSeconds : ℤ
  maxEntries : ℤ

abbrev QueryCache := List (String × QueryCacheHit)

namespace QueryCache

/-- `self._entries.pop(key, None)`. -/
def pop (entries : QueryCache) (key : String) : QueryCache := entries.filter fun e ↦ e.1 ≠ key

/-- `self._entries[key] = hit`. -/
def insert (entries : QueryCache) (key : String) (hit : QueryCacheHit) : QueryCache :=
  if entries.any fun e ↦ e.1 = key then
    entries.map fun e ↦ if e.1 = key then (key, hit) else e
  else entries ++ [(key, hit)]

/-- The first entry that expires no later than any other. -/
def oldest? : QueryCache → Option (String × QueryCacheHit)
  | [] => none
  | e :: rest =>
    some (rest.foldl (fun best e ↦ if e.2.expiresAt < best.2.expiresAt then e else best) e)

/-- `get`. -/
def get (settings : QueryCacheSettings) (now : ℚ) (entries : QueryCache) (key : String) :
    Option Rows × QueryCache :=
  if settings.enabled = false then (none, entries)
  else
    match entries.lookup key with
    | none => (none, entries)
    | some hit =>
      if hit.expiresAt ≤ now then (none, entries.pop key) else (some hit.value, entries)

/-- `set`. -/
def set (settings : QueryCacheSettings) (now : ℚ) (entries : QueryCache) (key : String)
    (value : Rows) : QueryCache :=
  if settings.enabled = false then entries
  else
    let hit : QueryCacheHit := ⟨value, now + max settings.ttlSeconds 1⟩
    let room :=
      if max settings.maxEntries 1 ≤ entries.length then
        match entries.oldest? with
        | some oldest => entries.pop oldest.1
        | none => entries
      else entries
    room.insert key hit

theorem mem_of_mem_pop {entries : QueryCache} {key : String} {e : String × QueryCacheHit}
    (h : e ∈ entries.pop key) : e ∈ entries := (List.mem_filter.mp h).1

theorem mem_of_mem_insert {entries : QueryCache} {key : String} {hit : QueryCacheHit}
    {e : String × QueryCacheHit} (h : e ∈ entries.insert key hit) :
    e = (key, hit) ∨ e ∈ entries := by
  unfold insert at h
  split_ifs at h
  · obtain ⟨old, hold, heq⟩ := List.mem_map.mp h
    split_ifs at heq
    · exact Or.inl heq.symm
    · exact Or.inr (heq ▸ hold)
  · rcases List.mem_append.mp h with hmem | hmem
    · exact Or.inr hmem
    · exact Or.inl (List.mem_singleton.mp hmem)

theorem mem_of_lookup {entries : QueryCache} {key : String} {hit : QueryCacheHit}
    (h : entries.lookup key = some hit) : (key, hit) ∈ entries := by
  induction entries with
  | nil => exact absurd h (by simp)
  | cons e rest ih =>
    obtain ⟨name, value⟩ := e
    rw [List.lookup_cons] at h
    by_cases hkey : key = name
    · rw [beq_iff_eq.mpr hkey] at h
      rw [hkey, ← Option.some.inj h]
      exact List.mem_cons_self
    · rw [beq_eq_false_iff_ne.mpr hkey] at h
      exact List.mem_cons_of_mem _ (ih h)

/-- What `get` returns is in the cache, and it only removes entries. -/
theorem mem_of_get {settings : QueryCacheSettings} {now : ℚ} {entries : QueryCache}
    {key : String} :
    (∀ value, (get settings now entries key).1 = some value →
      ∃ expiresAt, (key, ⟨value, expiresAt⟩) ∈ entries) ∧
    ∀ e ∈ (get settings now entries key).2, e ∈ entries := by
  unfold get
  by_cases henabled : settings.enabled = false
  · rw [if_pos henabled]
    exact ⟨fun _ h ↦ absurd h (by simp), fun _ h ↦ h⟩
  rw [if_neg henabled]
  cases hlookup : entries.lookup key with
  | none => exact ⟨fun _ h ↦ absurd h (by simp), fun _ h ↦ h⟩
  | some hit =>
    by_cases hexpired : hit.expiresAt ≤ now
    · simp only [if_pos hexpired]
      exact ⟨fun _ h ↦ absurd h (by simp), fun _ h ↦ mem_of_mem_pop h⟩
    · simp only [if_neg hexpired]
      refine ⟨fun value h ↦ ⟨hit.expiresAt, ?_⟩, fun _ h ↦ h⟩
      rw [← Option.some.inj h]
      exact mem_of_lookup hlookup

/-- `set` adds nothing but the entry it was given. -/
theorem mem_of_mem_set {settings : QueryCacheSettings} {now : ℚ} {entries : QueryCache}
    {key : String} {value : Rows} {e : String × QueryCacheHit}
    (h : e ∈ set settings now entries key value) :
    (e.1 = key ∧ e.2.value = value) ∨ e ∈ entries := by
  unfold set at h
  by_cases henabled : settings.enabled = false
  · rw [if_pos henabled] at h
    exact Or.inr h
  rw [if_neg henabled] at h
  rcases mem_of_mem_insert h with rfl | hroom
  · exact Or.inl ⟨rfl, rfl⟩
  refine Or.inr ?_
  split_ifs at hroom
  · cases holdest : entries.oldest? with
    | none =>
      rw [holdest] at hroom
      exact hroom
    | some oldest =>
      rw [holdest] at hroom
      exact mem_of_mem_pop hroom
  · exact hroom

theorem lookup_insert (entries : QueryCache) (key : String) (hit : QueryCacheHit) :
    (entries.insert key hit).lookup key = some hit := by
  unfold insert
  split_ifs with hpresent
  · induction entries with
    | nil => simp at hpresent
    | cons e rest ih =>
      by_cases hkey : e.1 = key
      · simp [hkey]
      · have hrest : rest.any (fun e ↦ decide (e.1 = key)) = true := by
          simpa [hkey] using hpresent
        have hne : (key == e.1) = false := beq_eq_false_iff_ne.mpr (Ne.symm hkey)
        rw [List.map_cons, if_neg hkey, List.lookup_cons, hne]
        exact ih hrest
  · induction entries with
    | nil => simp
    | cons e rest ih =>
      have hkey : e.1 ≠ key := by
        intro hkey
        simp [hkey] at hpresent
      have hrest : ¬rest.any (fun e ↦ decide (e.1 = key)) = true := by
        simpa [hkey] using hpresent
      have hne : (key == e.1) = false := beq_eq_false_iff_ne.mpr hkey.symm
      rw [List.cons_append, List.lookup_cons, hne]
      exact ih hrest

/-- What was stored is found until it expires. -/
theorem get_set {settings : QueryCacheSettings} {now later : ℚ} {entries : QueryCache}
    {key : String} {value : Rows} (henabled : settings.enabled = true)
    (hfresh : later < now + max settings.ttlSeconds 1) :
    get settings later (set settings now entries key value) key =
      (some value, set settings now entries key value) := by
  unfold set
  simp only [henabled, Bool.true_eq_false, if_false]
  unfold get
  simp only [henabled, Bool.true_eq_false, if_false, lookup_insert, Rat.not_le.mpr hfresh]

end QueryCache

end SchemaPilot.Gateway
