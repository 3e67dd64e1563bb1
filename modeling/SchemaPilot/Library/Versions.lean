import Mathlib.Data.List.Induction
import Mathlib.Tactic.Common

/-!
# Runs and the values they make effective

A run folds a step over a list of operations. What is shown of every prefix of a run goes from one
prefix to the next (`prefix_induction`). A value read off the state has a history along a run, the
values it took in order (`history`); `lastOther?` is the most recent entry of a history whose key
differs from that of its last one, which a register that remembers one predecessor restores exactly
when that predecessor differs (`lastOther?_eq_some_iff_ne`).
-/

namespace SchemaPilot.Library.Versions

variable {σ ω β κ : Type}

def run (step : σ → ω → σ) (state : σ) (ops : List ω) : σ := ops.foldl step state

@[simp] theorem run_nil (step : σ → ω → σ) (state : σ) : run step state [] = state := rfl

@[simp] theorem run_snoc (step : σ → ω → σ) (state : σ) (ops : List ω) (op : ω) :
    run step state (ops ++ [op]) = step (run step state ops) op := by
  simp [run]

/-- What holds of the empty run and goes on from one prefix of a run to the next holds of all its
prefixes. -/
theorem prefix_induction {P : List ω → Prop} {ops : List ω} (hnil : P [])
    (hsnoc : ∀ earlier op, earlier ++ [op] <+: ops → P earlier → P (earlier ++ [op])) :
    ∀ earlier, earlier <+: ops → P earlier := by
  intro earlier
  induction earlier using List.reverseRecOn with
  | nil => exact fun _ ↦ hnil
  | append_singleton earlier op ih =>
    intro h
    exact hsnoc earlier op h (ih ((List.prefix_append _ _).trans h))

/-- The operations of a run, each with the state it was applied to. -/
def trace (step : σ → ω → σ) (state : σ) : List ω → List (σ × ω)
  | [] => []
  | op :: rest => (state, op) :: trace step (step state op) rest

theorem trace_append (step : σ → ω → σ) (ops more : List ω) (state : σ) :
    trace step state (ops ++ more) =
      trace step state ops ++ trace step (run step state ops) more := by
  induction ops generalizing state with
  | nil => rfl
  | cons first rest ih =>
    rw [List.cons_append, trace, ih, trace]
    rfl

@[simp] theorem trace_snoc (step : σ → ω → σ) (ops : List ω) (op : ω) (state : σ) :
    trace step state (ops ++ [op]) = trace step state ops ++ [(run step state ops, op)] :=
  trace_append step ops [op] state

/-- An operation of a prefix is in the trace with the state the rest of the prefix leads to. -/
theorem mem_trace {step : σ → ω → σ} {state : σ} {ops earlier : List ω} {op : ω}
    (h : earlier ++ [op] <+: ops) : (run step state earlier, op) ∈ trace step state ops := by
  obtain ⟨rest, rfl⟩ := h
  rw [trace_append, trace_snoc]
  exact List.mem_append_left _ (List.mem_append_right _ (List.mem_singleton_self _))

theorem exists_prefix_of_mem_trace {step : σ → ω → σ} {start state : σ} {ops : List ω} {op : ω}
    (h : (state, op) ∈ trace step start ops) :
    ∃ earlier, earlier ++ [op] <+: ops ∧ run step start earlier = state := by
  induction ops using List.reverseRecOn with
  | nil => cases h
  | append_singleton ops last ih =>
    rw [trace_snoc] at h
    rcases List.mem_append.mp h with hbefore | hlast
    · obtain ⟨earlier, hprefix, hstate⟩ := ih hbefore
      exact ⟨earlier, hprefix.trans (List.prefix_append _ _), hstate⟩
    · obtain ⟨rfl, rfl⟩ := Prod.mk.inj (List.mem_singleton.mp hlast)
      exact ⟨ops, List.prefix_rfl, rfl⟩

section History

variable [DecidableEq β]

/-- The values taken after the first, in order. -/
def changes (step : σ → ω → σ) (value : σ → Option β) (state : σ) : List ω → List β
  | [] => []
  | op :: rest =>
    (if value (step state op) = value state then [] else (value (step state op)).toList) ++
      changes step value (step state op) rest

def history (step : σ → ω → σ) (value : σ → Option β) (state : σ) (ops : List ω) : List β :=
  (value state).toList ++ changes step value state ops

theorem changes_snoc (step : σ → ω → σ) (value : σ → Option β) (ops : List ω) (op : ω) :
    ∀ state, changes step value state (ops ++ [op]) = changes step value state ops ++
      if value (run step state (ops ++ [op])) = value (run step state ops) then []
      else (value (run step state (ops ++ [op]))).toList := by
  induction ops with
  | nil =>
    intro state
    exact List.append_nil _
  | cons first rest ih =>
    intro state
    rw [List.cons_append, changes, ih, changes, List.append_assoc]
    rfl

theorem history_snoc (step : σ → ω → σ) (value : σ → Option β) (state : σ) (ops : List ω)
    (op : ω) : history step value state (ops ++ [op]) = history step value state ops ++
      if value (run step state (ops ++ [op])) = value (run step state ops) then []
      else (value (run step state (ops ++ [op]))).toList := by
  rw [history, changes_snoc, ← List.append_assoc]
  rfl

/-- The entries of a history are values of prefixes of the run. -/
theorem mem_history {step : σ → ω → σ} {value : σ → Option β} {state : σ} {ops : List ω} {entry : β}
    (h : entry ∈ history step value state ops) :
    ∃ earlier, earlier <+: ops ∧ value (run step state earlier) = some entry := by
  induction ops using List.reverseRecOn with
  | nil =>
    rw [history, changes, List.append_nil, Option.mem_toList] at h
    exact ⟨[], List.prefix_rfl, h⟩
  | append_singleton ops op ih =>
    rw [history_snoc] at h
    rcases List.mem_append.mp h with hbefore | hlast
    · obtain ⟨earlier, hprefix, hentry⟩ := ih hbefore
      exact ⟨earlier, hprefix.trans (List.prefix_append _ _), hentry⟩
    · split_ifs at hlast
      · cases hlast
      · exact ⟨ops ++ [op], List.prefix_rfl, Option.mem_toList.mp hlast⟩

/-- A register that every change of a value writes with the value before it: the value is the last
of its history, and the register holds what precedes it there. -/
theorem history_linked {γ : Type} {step : σ → ω → σ} {value : σ → Option β} (register : σ → γ)
    (written : Option β → γ) {state : σ} {ops : List ω} (hstart : value state = none)
    (hstep : ∀ earlier op, earlier ++ [op] <+: ops →
      (value (run step state (earlier ++ [op])) = value (run step state earlier) ∧
        register (run step state (earlier ++ [op])) = register (run step state earlier)) ∨
      ∃ next, value (run step state (earlier ++ [op])) = some next ∧
        some next ≠ value (run step state earlier) ∧
        register (run step state (earlier ++ [op])) = written (value (run step state earlier))) :
    (history step value state ops).getLast? = value (run step state ops) ∧
      ∀ entries current, history step value state ops = entries ++ [current] →
        register (run step state ops) = written entries.getLast? := by
  refine prefix_induction (P := fun earlier ↦
    (history step value state earlier).getLast? = value (run step state earlier) ∧
      ∀ entries current, history step value state earlier = entries ++ [current] →
        register (run step state earlier) = written entries.getLast?)
    ?_ (fun earlier op hprefix ih ↦ ?_) ops List.prefix_rfl
  · have hnone : history step value state [] = [] := by
      rw [history, hstart]
      rfl
    rw [hnone, run_nil, hstart]
    exact ⟨rfl, fun entries current hentries ↦ absurd hentries.symm (by simp)⟩
  · obtain ⟨hlast, hregister⟩ := ih
    rw [history_snoc]
    rcases hstep earlier op hprefix with ⟨hsame, hkept⟩ | ⟨next, hnext, hne, hwritten⟩
    · rw [if_pos hsame, List.append_nil, hsame, hkept]
      exact ⟨hlast, hregister⟩
    · rw [hnext, if_neg hne, Option.toList_some, List.getLast?_concat]
      refine ⟨rfl, fun entries current hentries ↦ ?_⟩
      obtain ⟨rfl, -⟩ := List.append_inj' hentries rfl
      rw [hwritten, hlast]

end History

section LastOther

variable {γ : Type} [DecidableEq κ]

/-- The most recent entry of a history whose key differs from that of its last one. -/
def lastOther? (key : β → κ) (entries : List β) : Option β :=
  entries.getLast?.bind fun current ↦ entries.reverse.find? fun entry ↦ key entry ≠ key current

/-- The predecessor of the last entry is the most recent other one exactly when its key is another.
Entries are compared by a value that determines the key. -/
theorem lastOther?_eq_some_iff_ne {key : β → κ} {value : β → γ} (entries : List β)
    (previous current : β)
    (hvalue : ∀ entry ∈ entries ++ [previous, current], value entry = value previous →
      key entry = key previous) :
    (lastOther? key (entries ++ [previous, current])).map value = some (value previous) ↔
      key previous ≠ key current := by
  have hlast : (entries ++ [previous, current]).getLast? = some current := by simp
  constructor
  · intro h
    obtain ⟨other, hother, hsame⟩ := Option.map_eq_some_iff.mp h
    rw [lastOther?, hlast, Option.bind_some] at hother
    have hmem := List.mem_reverse.mp (List.mem_of_find?_eq_some hother)
    have hfound := List.find?_some hother
    rw [← hvalue other hmem hsame]
    exact of_decide_eq_true hfound
  · intro hne
    rw [lastOther?, hlast, Option.bind_some, List.reverse_append]
    simp [hne]

end LastOther

end SchemaPilot.Library.Versions
