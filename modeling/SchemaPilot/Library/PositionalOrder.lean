import Mathlib.Data.List.Lex
import Mathlib.Data.Nat.Digits.Lemmas
import Mathlib.Order.Monotone.Defs

/-!
# The order of positional numerals

Numerals of one length, with the most significant digit first, are in the order of lists when their
numbers are in the order of numbers, and they stay in that order when each digit is replaced by a
character, as long as the characters are in the order of the digits.
-/

namespace SchemaPilot.Library

variable {α β : Type}

/-- What follows lists of one length does not change their order. -/
theorem append_lt_append_of_length_eq [LT α] {tail tail' : List α} :
    ∀ {first second : List α}, first.length = second.length → first < second →
      first ++ tail < second ++ tail'
  | [], [], _, h => absurd h (List.not_lt_nil _)
  | [], _ :: _, hlength, _ => absurd hlength (Nat.succ_ne_zero _).symm
  | _ :: _, [], hlength, _ => absurd hlength (Nat.succ_ne_zero _)
  | a :: first, b :: second, hlength, h => by
    rw [List.cons_append, List.cons_append, List.cons_lt_cons_iff]
    rcases List.cons_lt_cons_iff.mp h with hhead | ⟨hhead, hrest⟩
    · exact Or.inl hhead
    · exact Or.inr ⟨hhead, append_lt_append_of_length_eq (Nat.succ.inj hlength) hrest⟩

/-- Lists that begin with lists of one length are compared by these first. -/
theorem append_lt_append_iff_of_length_eq [LinearOrder α] {tail tail' : List α} :
    ∀ {first second : List α}, first.length = second.length →
      (first ++ tail < second ++ tail' ↔ first < second ∨ first = second ∧ tail < tail')
  | [], [], _ => by simp
  | [], _ :: _, hlength => absurd hlength (Nat.succ_ne_zero _).symm
  | _ :: _, [], hlength => absurd hlength (Nat.succ_ne_zero _)
  | a :: first, b :: second, hlength => by
    rw [List.cons_append, List.cons_append, List.cons_lt_cons_iff, List.cons_lt_cons_iff,
      append_lt_append_iff_of_length_eq (Nat.succ.inj hlength), List.cons.injEq]
    tauto

/-- A map that is strictly increasing on the elements of two lists keeps their order. -/
theorem map_lt_map_of_strictMonoOn [Preorder α] [Preorder β] {f : α → β} {s : Set α}
    (hf : StrictMonoOn f s) : ∀ {first second : List α}, (∀ a ∈ first, a ∈ s) →
      (∀ b ∈ second, b ∈ s) → first < second → first.map f < second.map f
  | _, [], _, _, h => absurd h (List.not_lt_nil _)
  | [], _ :: _, _, _, _ => List.nil_lt_cons _ _
  | a :: first, b :: second, hfirst, hsecond, h => by
    rw [List.forall_mem_cons] at hfirst hsecond
    rw [List.map_cons, List.map_cons, List.cons_lt_cons_iff]
    rcases List.cons_lt_cons_iff.mp h with hhead | ⟨hhead, hrest⟩
    · exact Or.inl (hf hfirst.1 hsecond.1 hhead)
    · exact Or.inr ⟨congrArg f hhead,
        map_lt_map_of_strictMonoOn hf hfirst.2 hsecond.2 hrest⟩

/-- The number of a numeral whose most significant digit comes first. -/
theorem ofDigits_reverse_cons (base digit : ℕ) (rest : List ℕ) :
    Nat.ofDigits base (digit :: rest).reverse =
      Nat.ofDigits base rest.reverse + base ^ rest.length * digit := by
  rw [List.reverse_cons, Nat.ofDigits_append, Nat.ofDigits_singleton, List.length_reverse]

/-- Numerals of one length are in the order of their numbers. -/
theorem lt_of_ofDigits_reverse_lt {base : ℕ} (hbase : 1 < base) : ∀ {first second : List ℕ},
    first.length = second.length → (∀ digit ∈ first, digit < base) →
      Nat.ofDigits base first.reverse < Nat.ofDigits base second.reverse →
      (∀ digit ∈ second, digit < base) → first < second
  | [], [], _, _, h, _ => absurd h (Nat.lt_irrefl _)
  | [], _ :: _, hlength, _, _, _ => absurd hlength (Nat.succ_ne_zero _).symm
  | _ :: _, [], hlength, _, _, _ => absurd hlength (Nat.succ_ne_zero _)
  | a :: first, b :: second, hlength, hfirst, h, hsecond => by
    have hlengths : first.length = second.length := Nat.succ.inj hlength
    rw [List.forall_mem_cons] at hfirst hsecond
    rw [ofDigits_reverse_cons, ofDigits_reverse_cons, hlengths] at h
    rw [List.cons_lt_cons_iff]
    rcases Nat.lt_trichotomy a b with hhead | rfl | hhead
    · exact Or.inl hhead
    · exact Or.inr ⟨rfl, lt_of_ofDigits_reverse_lt hbase hlengths hfirst.2
        (Nat.lt_of_add_lt_add_right h) hsecond.2⟩
    · -- the digits that follow cannot make up for a smaller first digit
      have hrest : Nat.ofDigits base second.reverse < base ^ second.length := by
        have hbound := Nat.ofDigits_lt_base_pow_length hbase
          fun digit hdigit ↦ hsecond.2 digit (List.mem_reverse.mp hdigit)
        rwa [List.length_reverse] at hbound
      have hgap : base ^ second.length * (b + 1) ≤ base ^ second.length * a :=
        Nat.mul_le_mul_left _ hhead
      rw [Nat.mul_succ] at hgap
      omega

end SchemaPilot.Library
