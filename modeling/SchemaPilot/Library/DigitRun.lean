import SchemaPilot.Library.ItemByItem
import SchemaPilot.Library.Json
import Mathlib.Tactic.NormNum
import Mathlib.Tactic.Ring

/-!
# Runs of decimal digits

The digits `int` and `float` read (`Json.digitRun?`) and the number they denote (`Json.ofDigits`): a text
without underscores is a run of digits exactly when each character is one (`digitRun?_eq_some_iff`), a
number of `n` digits is below `10 ^ n`, and the decimal text of a number is read as that number.
-/

namespace SchemaPilot.Library.Json

theorem digitValue?_lt {c : Char} {digit : ℕ} (h : digitValue? c = some digit) : digit < 10 := by
  obtain ⟨base, hbase, rfl⟩ := Option.map_eq_some_iff.mp h
  have hrange := List.find?_some hbase
  rw [Bool.and_eq_true, decide_eq_true_iff, decide_eq_true_iff] at hrange
  omega

theorem digitValue?_digitChar {digit : ℕ} (h : digit < 10) :
    digitValue? (Nat.digitChar digit) = some digit := by
  have hall : ∀ digit < 10, digitValue? (Nat.digitChar digit) = some digit := by decide
  exact hall digit h

/-- A text without underscores is a run of the digits its characters are. -/
theorem digitRun?_eq_some_iff {chars : List Char} (hplain : '_' ∉ chars) {digits : List ℕ} :
    digitRun? chars = some digits ↔
      chars ≠ [] ∧ List.Forall₂ (fun c digit ↦ digitValue? c = some digit) chars digits := by
  induction chars generalizing digits with
  | nil => exact iff_of_false (fun h ↦ by cases h) fun h ↦ h.1 rfl
  | cons c rest ih =>
    rw [and_iff_right (List.cons_ne_nil c rest)]
    rw [List.mem_cons, not_or] at hplain
    cases rest with
    | nil =>
      rw [digitRun?, Option.map_eq_some_iff, List.forall₂_cons_left_iff]
      constructor
      · rintro ⟨digit, hdigit, rfl⟩
        exact ⟨digit, [], hdigit, List.Forall₂.nil, rfl⟩
      · rintro ⟨digit, others, hdigit, hothers, rfl⟩
        rw [List.forall₂_nil_left_iff.mp hothers]
        exact ⟨digit, hdigit, rfl⟩
    | cons next rest =>
      have hnext : next ≠ '_' := fun h ↦ hplain.2 (h ▸ List.mem_cons_self)
      have hrun : digitRun? (c :: next :: rest) =
          (digitValue? c).bind fun digit ↦ (digitRun? (next :: rest)).map (digit :: ·) := by
        rw [digitRun?.eq_4 c _ (List.cons_ne_nil next rest)
          fun tail htail ↦ hnext (List.cons.inj htail).1]
      rw [hrun, Option.bind_eq_some_iff, List.forall₂_cons_left_iff]
      constructor
      · rintro ⟨digit, hdigit, hothers⟩
        obtain ⟨others, hrest, rfl⟩ := Option.map_eq_some_iff.mp hothers
        exact ⟨digit, others, hdigit, ((ih hplain.2).mp hrest).2, rfl⟩
      · rintro ⟨digit, others, hdigit, hothers, rfl⟩
        exact ⟨digit, hdigit, Option.map_eq_some_iff.mpr
          ⟨others, (ih hplain.2).mpr ⟨List.cons_ne_nil next rest, hothers⟩, rfl⟩⟩

theorem forall_mem_of_forall₂_digitValue? {chars : List Char} {digits : List ℕ}
    (h : List.Forall₂ (fun c digit ↦ digitValue? c = some digit) chars digits) :
    (∀ c ∈ chars, (digitValue? c).isSome = true) ∧ ∀ digit ∈ digits, digit < 10 := by
  induction h with
  | nil => exact ⟨fun _ hc ↦ absurd hc List.not_mem_nil, fun _ hd ↦ absurd hd List.not_mem_nil⟩
  | cons hdigit _ ih =>
    rw [List.forall_mem_cons, List.forall_mem_cons]
    exact ⟨⟨Option.isSome_iff_exists.mpr ⟨_, hdigit⟩, ih.1⟩, digitValue?_lt hdigit, ih.2⟩

theorem ofDigits_append (first second : List ℕ) :
    ofDigits (first ++ second) = ofDigits first * 10 ^ second.length + ofDigits second := by
  induction second using List.reverseRecOn with
  | nil => rw [List.append_nil, List.length_nil, Nat.pow_zero, Nat.mul_one]; rfl
  | append_singleton second digit ih =>
    have hsnoc : ∀ digits : List ℕ, ofDigits (digits ++ [digit]) = 10 * ofDigits digits + digit := by
      intro digits
      rw [ofDigits, List.foldl_append]
      rfl
    rw [← List.append_assoc, hsnoc, hsnoc, ih, List.length_append, List.length_singleton, Nat.pow_succ]
    ring

theorem ofDigits_singleton (digit : ℕ) : ofDigits [digit] = digit := by
  rw [ofDigits, List.foldl_cons, List.foldl_nil, Nat.mul_zero, Nat.zero_add]

theorem ofDigits_lt {digits : List ℕ} (h : ∀ digit ∈ digits, digit < 10) :
    ofDigits digits < 10 ^ digits.length := by
  induction digits using List.reverseRecOn with
  | nil => exact Nat.one_pos
  | append_singleton digits digit ih =>
    rw [List.forall_mem_append, List.forall_mem_singleton] at h
    have hrest := ih h.1
    have hlast := h.2
    rw [ofDigits_append, ofDigits_singleton, List.length_append, List.length_singleton, Nat.pow_one,
      Nat.pow_succ]
    omega

/-- The decimal text of a number consists of its digits. -/
theorem exists_digits_toDigits (n : ℕ) : ∃ digits,
    List.Forall₂ (fun c digit ↦ digitValue? c = some digit) (Nat.toDigits 10 n) digits ∧
      ofDigits digits = n := by
  induction n using Nat.strong_induction_on with
  | _ n ih =>
    by_cases hlt : n < 10
    · refine ⟨[n], ?_, ofDigits_singleton n⟩
      rw [Nat.toDigits_of_lt_base hlt]
      exact List.Forall₂.cons (digitValue?_digitChar hlt) List.Forall₂.nil
    · have hle := Nat.le_of_not_lt hlt
      have hmod : n % 10 < 10 := Nat.mod_lt n (by norm_num)
      obtain ⟨digits, hdigits, hvalue⟩ := ih (n / 10) (Nat.div_lt_self (by omega) (by norm_num))
      refine ⟨digits ++ [n % 10], ?_, ?_⟩
      · rw [Nat.toDigits_of_base_le (by norm_num) hle]
        refine List.rel_append hdigits ?_
        exact List.Forall₂.cons (digitValue?_digitChar hmod) List.Forall₂.nil
      · rw [ofDigits_append, hvalue, ofDigits_singleton, List.length_singleton, Nat.pow_one]
        omega

end SchemaPilot.Library.Json
