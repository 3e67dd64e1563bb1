import SchemaPilot.Library.ItemByItem
import SchemaPilot.Gateway.RetrievalSafety

/-!
# Addresses in masked snippets

The `email` mask of a snippet stars every character strictly inside a match of the e-mail pattern and
keeps the others in their places (`maskEmailTokens_eq`). The pattern is matched on the snippet, the
first 180 characters of the text, so the beginning of an address is left in clear exactly where no
character of it is strictly inside a match of these 180 characters (`shows_maskedSnippet_iff`), as
when the cut takes the end of the address from its last full stop on (`cut_address_left_clear`).
-/

namespace SchemaPilot.Gateway

open Library Library.Program Library.Text Library.Json SharedDomain

/-- `EMAIL_TOKEN_PATTERN.finditer`: the matches with their positions, the number of characters still
to skip given. -/
def emailMatches (position skip : ℕ) : List Char → List (ℕ × List Char)
  | [] => []
  | c :: rest =>
    match skip with
    | skip + 1 => emailMatches (position + 1) skip rest
    | 0 =>
      match emailLength? (c :: rest) with
      | some length =>
        (position, (c :: rest).take length) :: emailMatches (position + 1) (length - 1) rest
      | none => emailMatches (position + 1) 0 rest

def emailTokens (text : String) : List (List Char) := (emailMatches 0 0 text.toList).map Prod.snd

/-- For each character whether it is strictly inside a match, the number of characters left of a
match given. -/
def insideMatch (skip : ℕ) : List Char → List Bool
  | [] => []
  | c :: rest =>
    match skip with
    | skip + 1 => decide (skip ≠ 0) :: insideMatch skip rest
    | 0 =>
      match emailLength? (c :: rest) with
      | some length => false :: insideMatch (length - 1) rest
      | none => false :: insideMatch 0 rest

theorem isMailboxChar_of_isDomainChar {c : Char} (h : isDomainChar c = true) :
    isMailboxChar c = true := by
  simp only [isDomainChar, isMailboxChar, Bool.or_eq_true] at h ⊢
  tauto

theorem domainLength?_bounds {run : List Char} : ∀ {position length : ℕ},
    domainLength? position run = some length →
      position + 3 ≤ length ∧ length ≤ position + run.length := by
  induction run with
  | nil =>
    intro position length h
    cases h
  | cons c rest ih =>
    intro position length h
    rw [domainLength?] at h
    cases hrest : domainLength? (position + 1) rest with
    | some later =>
      rw [hrest] at h
      have hlater := ih hrest
      rw [List.length_cons, ← Option.some.inj h]
      omega
    | none =>
      rw [hrest] at h
      simp only at h
      split_ifs at h with hdot
      have hletters := (List.takeWhile_sublist Char.isAlpha (l := rest)).length_le
      rw [List.length_cons, ← Option.some.inj h]
      omega

theorem takeWhile_mailbox {mailbox : List Char} (hmailbox : ∀ c ∈ mailbox, isMailboxChar c = true)
    (tail : List Char) : (mailbox ++ '@' :: tail).takeWhile isMailboxChar = mailbox := by
  rw [List.takeWhile_append_of_pos hmailbox, List.takeWhile_cons_of_neg (by decide),
    List.append_nil]

/-- The match at a mailbox before an `@` is decided by the domain characters behind it. -/
theorem emailLength?_mailbox {mailbox : List Char} (hne : mailbox ≠ [])
    (hmailbox : ∀ c ∈ mailbox, isMailboxChar c = true) (tail : List Char) :
    emailLength? (mailbox ++ '@' :: tail) =
      (domainLength? 0 (tail.takeWhile isDomainChar)).map (mailbox.length + 1 + ·) := by
  simp only [emailLength?, takeWhile_mailbox hmailbox, if_neg hne, List.drop_left]

/-- A match is a mailbox, an `@` and at least three characters of a domain. -/
theorem emailLength?_spec {chars : List Char} {length : ℕ} (h : emailLength? chars = some length) :
    ∃ mailbox tail domain, chars = mailbox ++ '@' :: tail ∧ mailbox ≠ [] ∧
      (∀ c ∈ mailbox, isMailboxChar c = true) ∧
      domainLength? 0 (tail.takeWhile isDomainChar) = some domain ∧
      length = mailbox.length + 1 + domain := by
  have hsplit := List.takeWhile_append_dropWhile (p := isMailboxChar) (l := chars)
  have hall : ∀ c ∈ chars.takeWhile isMailboxChar, isMailboxChar c = true := fun c hc ↦
    List.mem_takeWhile_imp hc
  unfold emailLength? at h
  simp only at h
  split_ifs at h with hmailbox
  have hdrop : chars.drop (chars.takeWhile isMailboxChar).length =
      chars.dropWhile isMailboxChar := by
    have hboth := congrArg (List.drop (chars.takeWhile isMailboxChar).length) hsplit
    rwa [List.drop_left, eq_comm] at hboth
  rw [hdrop] at h
  split at h
  · next tail htail =>
    rw [htail] at hsplit
    obtain ⟨domain, hdomain, hlength⟩ := Option.map_eq_some_iff.mp h
    exact ⟨_, tail, domain, hsplit.symm, hmailbox, hall, hdomain, hlength.symm⟩
  · cases h

/-- A match lies in the text, is at least five characters long and has no star. -/
theorem emailLength?_bounds {chars : List Char} {length : ℕ}
    (h : emailLength? chars = some length) :
    5 ≤ length ∧ length ≤ chars.length ∧ '*' ∉ chars.take length := by
  obtain ⟨mailbox, tail, domain, rfl, hne, hmailbox, hdomain, rfl⟩ := emailLength?_spec h
  have hbounds := domainLength?_bounds hdomain
  have hrun := (List.takeWhile_sublist isDomainChar (l := tail)).length_le
  have hpos := List.length_pos_iff.mpr hne
  refine ⟨by omega, by rw [List.length_append, List.length_cons]; omega, fun hstar ↦ ?_⟩
  rw [Nat.add_assoc, List.take_length_add_append, Nat.add_comm 1, List.take_succ_cons] at hstar
  rcases List.mem_append.mp hstar with hmem | hmem
  · exact absurd (hmailbox _ hmem) (by decide)
  rcases List.mem_cons.mp hmem with heq | hmem
  · exact absurd heq (by decide)
  · have hrunTake : tail.take domain = (tail.takeWhile isDomainChar).take domain := by
      conv_lhs => rw [← List.takeWhile_append_dropWhile (p := isDomainChar) (l := tail)]
      exact List.take_append_of_le_length (by omega)
    rw [hrunTake] at hmem
    exact absurd (List.mem_takeWhile_imp (List.mem_of_mem_take hmem)) (by decide)

def starred (c : Char) (inside : Bool) : Char := if inside then '*' else c

theorem length_insideMatch (chars : List Char) : ∀ skip : ℕ,
    (insideMatch skip chars).length = chars.length := by
  induction chars with
  | nil => intro skip; rfl
  | cons c rest ih =>
    intro skip
    cases skip with
    | zero =>
      rw [insideMatch]
      split <;> rw [List.length_cons, List.length_cons, ih]
    | succ skip => rw [insideMatch, List.length_cons, List.length_cons, ih]

/-- The part of a revealed match that is left after its first characters. -/
def revealedTail (skip : ℕ) (chars : List Char) : List Char :=
  List.replicate (skip - 1) '*' ++ (chars.take skip).drop (skip - 1)

@[simp] theorem revealedTail_zero (chars : List Char) : revealedTail 0 chars = [] := rfl

theorem revealedTail_take (skip : ℕ) (chars : List Char) :
    revealedTail skip (chars.take skip) = revealedTail skip chars := by
  rw [revealedTail, revealedTail, List.take_take, Nat.min_self]

theorem revealedTail_cons (c : Char) (skip : ℕ) (rest : List Char) :
    revealedTail (skip + 1) (c :: rest) =
      starred c (decide (skip ≠ 0)) :: revealedTail skip rest := by
  cases skip with
  | zero => rfl
  | succ skip => simp [revealedTail, starred, List.replicate_succ]

theorem partialReveal_cons {c : Char} {rest : List Char} (h : 2 ≤ rest.length) :
    (partialReveal (String.ofList (c :: rest))).toList = c :: revealedTail rest.length rest := by
  have hlong : ¬(c :: rest).length ≤ 2 := by
    rw [List.length_cons]
    omega
  simp only [partialReveal, String.toList_ofList, revealedTail]
  rw [if_neg hlong, String.toList_ofList, List.take_length]
  simp only [List.length_cons, Nat.add_sub_cancel, List.take_succ_cons, List.take_zero,
    List.cons_append, List.nil_append]
  obtain ⟨last, hlast⟩ : ∃ last, rest.length = last + 1 := ⟨rest.length - 1, by omega⟩
  rw [hlast, List.drop_succ_cons]
  rfl

/-- The mask of a match in the mode of the ABAC decisions. -/
theorem applyMask_partialReveal (sha256Hex : String → String) (text : String) :
    (applyMask sha256Hex (.text text) "partial_reveal").toStr = partialReveal text := by
  rfl

/-- The mask stars the characters strictly inside a match and keeps the others in their places, from
the end of a match on. -/
theorem substituteEmails_eq (platform : Platform) (chars : List Char) : ∀ skip ≤ chars.length,
    chars.zipWith starred (insideMatch skip chars) = revealedTail skip chars ++
      substituteEmails (fun token ↦ (applyMask platform.sha256Hex
        (.text (String.ofList token)) "partial_reveal").toStr.toList) skip chars := by
  induction chars with
  | nil =>
    intro skip hskip
    rw [Nat.le_zero.mp hskip]
    rfl
  | cons c rest ih =>
    intro skip hskip
    rw [List.length_cons] at hskip
    cases skip with
    | zero =>
      cases hmatch : emailLength? (c :: rest) with
      | none =>
        simp only [insideMatch, substituteEmails, hmatch, List.zipWith_cons_cons]
        rw [ih 0 (Nat.zero_le _)]
        rfl
      | some length =>
        obtain ⟨hlong, hfits, -⟩ := emailLength?_bounds hmatch
        rw [List.length_cons] at hfits
        have htoken : (c :: rest).take length = c :: rest.take (length - 1) := by
          rw [← List.take_succ_cons, show length - 1 + 1 = length by omega]
        have hlength : (rest.take (length - 1)).length = length - 1 := by
          rw [List.length_take]
          omega
        simp only [insideMatch, substituteEmails, hmatch, List.zipWith_cons_cons]
        rw [ih (length - 1) (by omega), htoken, applyMask_partialReveal,
          partialReveal_cons (by omega), hlength, revealedTail_take]
        rfl
    | succ skip =>
      simp only [insideMatch, substituteEmails, List.zipWith_cons_cons]
      rw [ih skip (by omega), revealedTail_cons]
      rfl

theorem maskEmailTokens_eq (platform : Platform) (text : String) :
    (maskEmailTokens platform text "partial_reveal").toList =
      text.toList.zipWith starred (insideMatch 0 text.toList) := by
  rw [maskEmailTokens, String.toList_ofList, substituteEmails_eq platform _ 0 (Nat.zero_le _),
    revealedTail_zero, List.nil_append]

/-- A starless text begins a masked one exactly where it begins the text outside of the matches. -/
theorem prefix_starred_iff {shown : List Char} (hstar : '*' ∉ shown) :
    ∀ {chars : List Char} {flags : List Bool}, flags.length = chars.length →
      (shown <+: chars.zipWith starred flags ↔
        shown <+: chars ∧ ∀ inside ∈ flags.take shown.length, inside = false) := by
  induction shown with
  | nil =>
    intro chars flags _
    simp
  | cons c shown ih =>
    rw [List.mem_cons, not_or] at hstar
    intro chars flags hlength
    cases chars with
    | nil => simp
    | cons d chars =>
      cases flags with
      | nil => cases hlength
      | cons inside flags =>
        rw [List.zipWith_cons_cons, List.cons_prefix_cons, List.cons_prefix_cons,
          ih hstar.2 (Nat.succ.inj hlength), List.length_cons, List.take_succ_cons,
          List.forall_mem_cons]
        cases inside with
        | false => simp [starred, and_assoc]
        | true => simp [starred, Ne.symm hstar.1]

/-- A starless text stands in a masked one exactly where it stands in the text outside of the
matches. -/
theorem infix_starred_iff {shown chars : List Char} {flags : List Bool} (hstar : '*' ∉ shown)
    (hlength : flags.length = chars.length) :
    shown <:+: chars.zipWith starred flags ↔ ∃ start, shown <+: chars.drop start ∧
      ∀ inside ∈ (flags.drop start).take shown.length, inside = false := by
  have hdrop : ∀ start : ℕ, (chars.zipWith starred flags).drop start =
      (chars.drop start).zipWith starred (flags.drop start) := fun start ↦ List.drop_zipWith
  have hrest : ∀ start : ℕ, (flags.drop start).length = (chars.drop start).length := fun start ↦ by
    rw [List.length_drop, List.length_drop, hlength]
  constructor
  · intro h
    obtain ⟨before, after, heq⟩ := h
    have hbegin : shown <+: (chars.zipWith starred flags).drop before.length := by
      rw [← heq, List.append_assoc, List.drop_left]
      exact List.prefix_append shown after
    rw [hdrop] at hbegin
    exact ⟨before.length, (prefix_starred_iff hstar (hrest _)).mp hbegin⟩
  · rintro ⟨start, hstands⟩
    have hbegin := (prefix_starred_iff hstar (hrest start)).mpr hstands
    rw [← hdrop] at hbegin
    exact hbegin.isInfix.trans (List.drop_suffix _ _).isInfix

/-- A beginning of an address that reaches past its `@`. -/
def ReachesPastAt (shown address : List Char) : Prop :=
  shown <+: address ∧ ∃ mailbox c rest, shown = mailbox ++ '@' :: c :: rest

/-- A snippet contains a beginning of an address that reaches past its `@`. -/
def Shows (snippet : String) (address : List Char) : Prop :=
  ∃ shown, ReachesPastAt shown address ∧ shown <:+: snippet.toList

/-- Somewhere in the first 180 characters of a text stands a beginning of an address that reaches
past its `@`, no character of it strictly inside a match of the pattern in these 180 characters. -/
def LeftClear (text : String) (address : List Char) : Prop :=
  ∃ shown start, ReachesPastAt shown address ∧ shown <+: (text.toList.take 180).drop start ∧
    ∀ inside ∈ ((insideMatch 0 (text.toList.take 180)).drop start).take shown.length,
      inside = false

theorem starless_of_mem_emailMatches {chars : List Char} : ∀ {position skip : ℕ}
    {found : ℕ × List Char}, found ∈ emailMatches position skip chars → '*' ∉ found.2 := by
  induction chars with
  | nil =>
    intro position skip found h
    cases h
  | cons c rest ih =>
    intro position skip found h
    cases skip with
    | succ skip => exact ih h
    | zero =>
      cases hmatch : emailLength? (c :: rest) with
      | none =>
        simp only [emailMatches, hmatch] at h
        exact ih h
      | some length =>
        simp only [emailMatches, hmatch] at h
        rcases List.mem_cons.mp h with rfl | hlater
        · exact (emailLength?_bounds hmatch).2.2
        · exact ih hlater

theorem starless_of_mem_emailTokens {text : String} {address : List Char}
    (h : address ∈ emailTokens text) : '*' ∉ address := by
  obtain ⟨found, hfound, rfl⟩ := List.mem_map.mp h
  exact starless_of_mem_emailMatches hfound

theorem shows_maskedSnippet_iff (platform : Platform) (text : String) {address : List Char}
    (haddress : '*' ∉ address) :
    Shows (maskEmailTokens platform (snippetOf text) "partial_reveal") address ↔
      LeftClear text address := by
  have hstarless : ∀ {shown : List Char}, ReachesPastAt shown address → '*' ∉ shown :=
    fun hshown hstar ↦ haddress (hshown.1.subset hstar)
  unfold Shows LeftClear
  rw [maskEmailTokens_eq, snippetOf, String.toList_ofList]
  constructor
  · rintro ⟨shown, hpast, hinfix⟩
    obtain ⟨start, hstands⟩ :=
      (infix_starred_iff (hstarless hpast) (length_insideMatch _ 0)).mp hinfix
    exact ⟨shown, start, hpast, hstands⟩
  · rintro ⟨shown, start, hpast, hstands⟩
    exact ⟨shown, hpast, (infix_starred_iff (hstarless hpast) (length_insideMatch _ 0)).mpr
      ⟨start, hstands⟩⟩

theorem takeWhile_take {α : Type} (p : α → Bool) (items : List α) : ∀ n : ℕ,
    (items.take n).takeWhile p = (items.takeWhile p).take n := by
  induction items with
  | nil => intro n; simp
  | cons item rest ih =>
    intro n
    cases n with
    | zero => simp
    | succ n =>
      rw [List.take_succ_cons, List.takeWhile_cons, List.takeWhile_cons]
      split_ifs
      · rw [ih, List.take_succ_cons]
      · rfl

/-- A cut run of domain characters has no match the whole run does not have. -/
theorem domainLength?_take_eq_none {run : List Char} : ∀ {position : ℕ} (n : ℕ),
    domainLength? position run = none → domainLength? position (run.take n) = none := by
  induction run with
  | nil => intro position n _; rw [List.take_nil]; rfl
  | cons c rest ih =>
    intro position n h
    cases n with
    | zero => rfl
    | succ n =>
      rw [List.take_succ_cons]
      cases hrest : domainLength? (position + 1) rest with
      | some later =>
        rw [domainLength?, hrest] at h
        cases h
      | none =>
        simp only [domainLength?, hrest, ih n hrest, takeWhile_take] at h ⊢
        split_ifs at h with hdot
        refine if_neg fun hcut ↦ hdot ⟨hcut.1, hcut.2.1, hcut.2.2.trans ?_⟩
        exact (List.take_sublist _ _).length_le

/-- A match that fits into a cut run of domain characters is the match of the cut run. -/
theorem domainLength?_take {run : List Char} : ∀ {position n length : ℕ},
    domainLength? position run = some length → length ≤ position + n →
      domainLength? position (run.take n) = some length := by
  induction run with
  | nil =>
    intro position n length h
    cases h
  | cons c rest ih =>
    intro position n length h hfits
    have hbounds := domainLength?_bounds h
    cases n with
    | zero => omega
    | succ n =>
      rw [List.take_succ_cons]
      cases hrest : domainLength? (position + 1) rest with
      | some later =>
        simp only [domainLength?, hrest] at h
        rw [domainLength?, ih hrest (by rw [Option.some.inj h]; omega)]
        exact h
      | none =>
        simp only [domainLength?, hrest, domainLength?_take_eq_none n hrest] at h ⊢
        split_ifs at h with hdot
        have hletters : ((rest.take n).takeWhile Char.isAlpha).length =
            (rest.takeWhile Char.isAlpha).length := by
          rw [takeWhile_take, List.length_take, Nat.min_eq_right]
          have := Option.some.inj h
          omega
        rw [hletters, if_pos hdot]
        exact h

/-- A cut text has no match at its beginning that the whole text does not have. -/
theorem emailLength?_take_eq_none {chars : List Char} (n : ℕ) (h : emailLength? chars = none) :
    emailLength? (chars.take n) = none := by
  cases hcut : emailLength? (chars.take n) with
  | none => rfl
  | some length =>
    obtain ⟨mailbox, tail, domain, hsplit, hne, hmailbox, hdomain, -⟩ := emailLength?_spec hcut
    have hchars : chars = mailbox ++ '@' :: (tail ++ chars.drop n) := by
      conv_lhs => rw [← List.take_append_drop n chars, hsplit]
      rw [List.append_assoc, List.cons_append]
    rw [hchars, emailLength?_mailbox hne hmailbox, Option.map_eq_none_iff] at h
    have hnone := domainLength?_take_eq_none tail.length h
    rw [← takeWhile_take, List.take_left, hdomain] at hnone
    cases hnone

/-- A match that fits into a cut text is the match of the cut text. -/
theorem emailLength?_take {chars : List Char} {n length : ℕ} (h : emailLength? chars = some length)
    (hfits : length ≤ n) : emailLength? (chars.take n) = some length := by
  obtain ⟨mailbox, tail, domain, rfl, hne, hmailbox, hdomain, rfl⟩ := emailLength?_spec h
  obtain ⟨room, rfl⟩ : ∃ room, n = mailbox.length + (room + 1) :=
    ⟨n - mailbox.length - 1, by omega⟩
  rw [List.take_length_add_append, List.take_succ_cons, emailLength?_mailbox hne hmailbox,
    takeWhile_take, domainLength?_take hdomain (by omega)]
  rfl

theorem position_of_mem_emailMatches {chars : List Char} : ∀ {position skip : ℕ}
    {found : ℕ × List Char}, found ∈ emailMatches position skip chars →
      position + skip ≤ found.1 := by
  induction chars with
  | nil =>
    intro position skip found h
    cases h
  | cons c rest ih =>
    intro position skip found h
    cases skip with
    | succ skip =>
      have := ih h
      omega
    | zero =>
      cases hmatch : emailLength? (c :: rest) with
      | none =>
        simp only [emailMatches, hmatch] at h
        have := ih h
        omega
      | some length =>
        simp only [emailMatches, hmatch] at h
        rcases List.mem_cons.mp h with rfl | hlater
        · exact Nat.le_refl _
        · have := ih hlater
          omega

/-- A match of the whole text begins where the scan of the cut text looks for one. -/
theorem insideMatch_take_drop {chars : List Char} : ∀ {position skip n start : ℕ}
    {address : List Char}, (position + start, address) ∈ emailMatches position skip chars →
      start < n → emailLength? (chars.drop start) = some address.length ∧
        (chars.drop start).take address.length = address ∧
        (insideMatch skip (chars.take n)).drop start =
          insideMatch 0 ((chars.take n).drop start) := by
  induction chars with
  | nil =>
    intro position skip n start address h
    cases h
  | cons c rest ih =>
    intro position skip n start address h hcut
    obtain ⟨n, rfl⟩ : ∃ m, n = m + 1 := ⟨n - 1, by omega⟩
    have hposition := position_of_mem_emailMatches h
    -- a match behind the head is one of the rest
    have hstep : ∀ {skip' : ℕ} {head : Bool}, 0 < start → (position + start, address) ∈
        emailMatches (position + 1) skip' rest →
        emailLength? ((c :: rest).drop start) = some address.length ∧
        ((c :: rest).drop start).take address.length = address ∧
        (head :: insideMatch skip' (rest.take n)).drop start =
          insideMatch 0 ((c :: rest.take n).drop start) := by
      intro skip' head hpos hlater
      obtain ⟨start, rfl⟩ : ∃ m, start = m + 1 := ⟨start - 1, by omega⟩
      rw [show position + (start + 1) = position + 1 + start by omega] at hlater
      exact ih hlater (by omega)
    rw [List.take_succ_cons]
    cases skip with
    | succ skip => exact hstep (by omega) h
    | zero =>
      cases hmatch : emailLength? (c :: rest) with
      | none =>
        have hcutMatch := emailLength?_take_eq_none (n + 1) hmatch
        rw [List.take_succ_cons] at hcutMatch
        simp only [emailMatches, hmatch] at h
        simp only [insideMatch, hcutMatch]
        have hlater := position_of_mem_emailMatches h
        exact hstep (by omega) h
      | some length =>
        have hbounds := emailLength?_bounds hmatch
        simp only [emailMatches, hmatch] at h
        rcases List.mem_cons.mp h with hhead | hlater
        · obtain ⟨hstart, haddress⟩ := Prod.mk.inj hhead
          obtain rfl : start = 0 := by omega
          have hlength : address.length = length := by
            rw [haddress, List.length_take]
            omega
          rw [List.drop_zero, hlength, hmatch]
          exact ⟨rfl, haddress.symm, rfl⟩
        · have hbehind := position_of_mem_emailMatches hlater
          have hcutMatch := emailLength?_take hmatch (show length ≤ n + 1 by omega)
          rw [List.take_succ_cons] at hcutMatch
          simp only [insideMatch, hcutMatch]
          exact hstep (by omega) hlater

/-- A text of domain characters holds no match. -/
theorem insideMatch_domain {run : List Char} (hrun : ∀ c ∈ run, isDomainChar c = true) :
    ∀ inside ∈ insideMatch 0 run, inside = false := by
  induction run with
  | nil =>
    intro inside hinside
    cases hinside
  | cons c rest ih =>
    have hnone : emailLength? (c :: rest) = none := by
      have hall : (c :: rest).takeWhile isMailboxChar = c :: rest := by
        rw [List.takeWhile_eq_self_iff]
        exact fun d hd ↦ isMailboxChar_of_isDomainChar (hrun d hd)
      simp only [emailLength?, hall, List.drop_length, reduceCtorEq, if_false]
    simp only [insideMatch, hnone]
    exact List.forall_mem_cons.mpr
      ⟨rfl, ih fun d hd ↦ hrun d (List.mem_cons_of_mem _ hd)⟩

theorem insideMatch_unmatched {mailbox run : List Char}
    (hmailbox : ∀ c ∈ mailbox, isMailboxChar c = true) (hrun : ∀ c ∈ run, isDomainChar c = true)
    (hnone : domainLength? 0 run = none) :
    ∀ inside ∈ insideMatch 0 (mailbox ++ '@' :: run), inside = false := by
  have htake : run.takeWhile isDomainChar = run := List.takeWhile_eq_self_iff.mpr hrun
  induction mailbox with
  | nil =>
    have hat : emailLength? ('@' :: run) = none := by
      rw [emailLength?, List.takeWhile_cons_of_neg (by decide)]
      rfl
    simp only [List.nil_append, insideMatch, hat]
    exact List.forall_mem_cons.mpr ⟨rfl, insideMatch_domain hrun⟩
  | cons c rest ih =>
    have hmatch : emailLength? (c :: rest ++ '@' :: run) = none := by
      rw [emailLength?_mailbox (List.cons_ne_nil c rest) hmailbox, htake, hnone]
      rfl
    rw [List.cons_append] at hmatch ⊢
    simp only [insideMatch, hmatch]
    exact List.forall_mem_cons.mpr
      ⟨rfl, ih fun d hd ↦ hmailbox d (List.mem_cons_of_mem _ hd)⟩

/-- The first 180 characters of a text hold some characters from a position on, none of them strictly
inside a match of the pattern in these 180 characters. -/
def ClearAt (text : String) (start count : ℕ) : Prop :=
  start + count ≤ (text.toList.take 180).length ∧
    ∀ inside ∈ ((insideMatch 0 (text.toList.take 180)).drop start).take count, inside = false

def mailboxOf (address : List Char) : List Char := address.takeWhile isMailboxChar

theorem address_shape {chars address : List Char} (hmatch : emailLength? chars = some address.length)
    (haddress : chars.take address.length = address) :
    ∃ c rest, address = mailboxOf address ++ '@' :: c :: rest := by
  obtain ⟨mailbox, tail, domain, hsplit, hne, hmailbox, hdomain, hlength⟩ :=
    emailLength?_spec hmatch
  have hbounds := domainLength?_bounds hdomain
  have hrun := (List.takeWhile_sublist isDomainChar (l := tail)).length_le
  have hshape : address = mailbox ++ '@' :: tail.take domain := by
    rw [← haddress, hlength, hsplit, Nat.add_assoc, List.take_length_add_append,
      Nat.add_comm 1, List.take_succ_cons]
  have hown : mailboxOf address = mailbox := by
    rw [mailboxOf, hshape, takeWhile_mailbox hmailbox]
  obtain ⟨c, rest, hdomainChars⟩ : ∃ c rest, tail.take domain = c :: rest := by
    cases htake : tail.take domain with
    | nil =>
      have hempty := congrArg List.length htake
      rw [List.length_take, List.length_nil] at hempty
      omega
    | cons c rest => exact ⟨c, rest, rfl⟩
  exact ⟨c, rest, by rw [hown, ← hdomainChars]; exact hshape⟩

/-- A match at the beginning of a text stars its second character. -/
theorem inside_second {chars : List Char} {length count : ℕ}
    (h : emailLength? chars = some length) (hcount : 2 ≤ count) :
    ∃ inside ∈ (insideMatch 0 chars).take count, inside = true := by
  obtain ⟨hlong, hfits, -⟩ := emailLength?_bounds h
  match chars, hfits with
  | c :: d :: rest, _ =>
    obtain ⟨left, hleft⟩ : ∃ left, length - 1 = left + 2 := ⟨length - 3, by omega⟩
    obtain ⟨more, rfl⟩ : ∃ more, count = more + 2 := ⟨count - 2, by omega⟩
    simp only [insideMatch, h, hleft, List.take_succ_cons]
    exact ⟨_, .tail _ (.head _), rfl⟩
  | [_], hshort =>
    rw [List.length_singleton] at hshort
    omega
  | [], hshort =>
    rw [List.length_nil] at hshort
    omega

/-- At its own place an address is left clear past its `@` exactly when the first 180 characters
reach past the `@` and what they hold of the address is no match. -/
theorem address_clear_iff {text : String} {position : ℕ} {address : List Char}
    (h : (position, address) ∈ emailMatches 0 0 text.toList) :
    ClearAt text position ((mailboxOf address).length + 2) ↔
      position + (mailboxOf address).length + 2 ≤ 180 ∧
        emailLength? ((text.toList.take 180).drop position) = none := by
  rw [← Nat.zero_add position] at h
  constructor
  · rintro ⟨hholds, hclear⟩
    have hshort : (text.toList.take 180).length ≤ 180 := List.length_take_le _ _
    refine ⟨by omega, ?_⟩
    obtain ⟨-, -, hflags⟩ := insideMatch_take_drop h (show position < 180 by omega)
    rw [hflags] at hclear
    cases hcut : emailLength? ((text.toList.take 180).drop position) with
    | none => rfl
    | some length =>
      have hsecond : ∃ inside ∈ (insideMatch 0 ((text.toList.take 180).drop position)).take
          ((mailboxOf address).length + 2), inside = true := inside_second hcut (by omega)
      obtain ⟨inside, hmem, htrue⟩ := hsecond
      rw [hclear inside hmem] at htrue
      cases htrue
  · rintro ⟨hreaches, hnone⟩
    obtain ⟨hmatch, haddress, hflags⟩ := insideMatch_take_drop h (show position < 180 by omega)
    obtain ⟨mailbox, tail, domain, hsplit, hne, hmailbox, hdomain, hlength⟩ :=
      emailLength?_spec hmatch
    have hown : mailboxOf address = mailbox := by
      rw [mailboxOf, ← haddress, hlength, hsplit, Nat.add_assoc, List.take_length_add_append,
        Nat.add_comm 1, List.take_succ_cons, takeWhile_mailbox hmailbox]
    rw [hown] at hreaches ⊢
    have hbounds := domainLength?_bounds hdomain
    have hrun := (List.takeWhile_sublist isDomainChar (l := tail)).length_le
    have hwhole : mailbox.length + 1 + tail.length + position ≤ text.toList.length := by
      have := congrArg List.length hsplit
      rw [List.length_drop, List.length_append, List.length_cons] at this
      omega
    -- the address does not fit, so what is cut of it are domain characters
    have hcut : 180 < position + address.length := by
      by_contra hfits
      rw [List.drop_take, emailLength?_take hmatch (by omega)] at hnone
      cases hnone
    obtain ⟨room, hroom⟩ : ∃ room, 180 - position = mailbox.length + (room + 1) :=
      ⟨180 - position - mailbox.length - 1, by omega⟩
    have hpiece : (text.toList.take 180).drop position = mailbox ++ '@' :: tail.take room := by
      rw [List.drop_take, hsplit, hroom, List.take_length_add_append, List.take_succ_cons]
    have hbegin : tail.take room = (tail.takeWhile isDomainChar).take room := by
      conv_lhs => rw [← List.takeWhile_append_dropWhile (p := isDomainChar) (l := tail)]
      exact List.take_append_of_le_length (by omega)
    have hchars : ∀ c ∈ tail.take room, isDomainChar c = true := fun c hc ↦
      List.mem_takeWhile_imp (List.mem_of_mem_take (hbegin ▸ hc))
    rw [hpiece, emailLength?_mailbox hne hmailbox, List.takeWhile_eq_self_iff.mpr hchars,
      Option.map_eq_none_iff] at hnone
    refine ⟨by rw [List.length_take]; omega, fun inside hinside ↦ ?_⟩
    rw [hflags, hpiece] at hinside
    exact insideMatch_unmatched hmailbox hchars hnone inside (List.mem_of_mem_take hinside)

/-- The cut leaves the beginning of an address clear when it takes the end of the address from its
last full stop on. -/
theorem cut_address_left_clear {text : String} {position : ℕ} {address : List Char}
    (h : (position, address) ∈ emailMatches 0 0 text.toList)
    (hreaches : position + (mailboxOf address).length + 2 ≤ 180)
    (hcut : emailLength? ((text.toList.take 180).drop position) = none) :
    LeftClear text address := by
  obtain ⟨hholds, hclear⟩ := (address_clear_iff h).mpr ⟨hreaches, hcut⟩
  rw [← Nat.zero_add position] at h
  obtain ⟨hmatch, haddress, -⟩ := insideMatch_take_drop h (show position < 180 by omega)
  obtain ⟨c, rest, hshape⟩ := address_shape hmatch haddress
  have hcount : (mailboxOf address ++ ['@', c]).length = (mailboxOf address).length + 2 := by
    rw [List.length_append]
    rfl
  have hbegins : mailboxOf address ++ ['@', c] <+: address := by
    conv_rhs => rw [hshape]
    exact ⟨rest, by simp⟩
  refine ⟨mailboxOf address ++ ['@', c], position, ⟨hbegins, mailboxOf address, c, [], rfl⟩, ?_,
    hcount ▸ hclear⟩
  rw [List.drop_take, List.prefix_take_iff, hcount]
  exact ⟨hbegins.trans (haddress ▸ List.take_prefix _ _), by omega⟩

/-- `row["snippet"]`. -/
def snippetTextOf (row : Fields) : String := (getD row "snippet" (.str "")).toStr

/-- The row shows the masked snippet of a text that a backend answered. -/
def ShowsDocument (platform : Platform) (events : List GatewayEvent) (row : Fields)
    (text : String) : Prop :=
  (∃ event ∈ events, ∃ source, SourceOf event source ∧ text = textOf source) ∧
    snippetTextOf row = maskEmailTokens platform (snippetOf text) "partial_reveal"

theorem abacOf_masks {payload actor : Fields} (h : (abacOf payload actor).masks ≠ []) :
    (abacOf payload actor).masks = [("email", "partial_reveal")] := by
  rcases evaluateAbac_cases actor (resourceAttributesOf payload)
    (getD payload "abac_mode" (.str "internal")).toStr with ⟨-, -, hmasks⟩ | ⟨-, -, hmasks⟩
  · exact absurd hmasks h
  · rw [abacOf, hmasks] at h ⊢
    split_ifs at h ⊢
    · rfl
    · exact absurd rfl h

theorem applyRetrievalMasks_snippet {platform : Platform} {results : List Fields} {row : Fields}
    (h : row ∈ applyRetrievalMasks platform results [("email", "partial_reveal")]) :
    ∃ given ∈ results,
      snippetTextOf row = maskEmailTokens platform (snippetTextOf given) "partial_reveal" := by
  unfold applyRetrievalMasks at h
  rw [if_neg (by simp)] at h
  obtain ⟨given, hgiven, rfl⟩ := List.mem_map.mp h
  refine ⟨given, hgiven, ?_⟩
  have hsnippet : List.lookup "snippet" [("email", "partial_reveal")] = none := rfl
  have hemail : List.lookup "email" [("email", "partial_reveal")] = some "partial_reveal" := rfl
  rw [snippetTextOf, getD, get?_set_self, hsnippet, hemail]
  change (if (if snippetTextOf given ≠ "" ∧ _ then _ else snippetTextOf given) ≠ "" ∧ "" ≠ "" then
    _ else _) = _
  rw [if_neg fun h ↦ h.2 rfl]
  by_cases hempty : snippetTextOf given = ""
  · rw [if_neg fun h ↦ h.1 hempty]
    change snippetTextOf given = _
    rw [hempty]
    rfl
  · exact if_pos ⟨hempty, by decide⟩

theorem applyRetrievalRowFilter_subset {found : List Fields} {rowFilter : Option (String × String)}
    {summaries : List (String × Fields)} {row : Fields}
    (h : row ∈ applyRetrievalRowFilter found rowFilter summaries) : row ∈ found := by
  cases rowFilter with
  | none => exact h
  | some filter => exact (List.mem_filter.mp h).1

/-- Under an `email` mask every row of a response shows the masked snippet of a text that a backend
answered. -/
theorem masked_rows {platform : Platform} {settings : Settings} {request : Request}
    {events : List GatewayEvent} {response : RetrieveResponse}
    (h : Run (retrieve platform settings request) events (.ok response))
    {actor : Fields} (hactor : ⟨.authenticatedActor, .ok (some actor)⟩ ∈ events)
    (hmask : (abacOf request.payload actor).masks ≠ []) :
    ∀ row ∈ response.results, ∃ text, ShowsDocument platform events row text := by
  obtain ⟨context, actor', policyPack, abac, found, before, checks, search, after, rfl, -,
    hunique, hchecks, hsearch, hanswer⟩ := retrieve_ok h
  obtain rfl : actor = actor' := hunique actor hactor
  obtain ⟨searched, released, rfl, hbackend, -⟩ := run_tryFinally_ok hsearch
  obtain ⟨first, second, summaries, citations, rfl, -, hresults, -⟩ := retrieveAnswer_ok hanswer
  rw [retrieveChecks_ok hchecks, abacOf_masks hmask] at hresults
  intro row hrow
  rw [hresults] at hrow
  obtain ⟨given, hgiven, hmasked⟩ := applyRetrievalMasks_snippet hrow
  obtain ⟨event, hevent, -, ⟨source, hsource, hsnippet⟩, -⟩ :=
    searchBackend_found hbackend given (applyRetrievalRowFilter_subset hgiven)
  refine ⟨textOf source, ⟨event, by simp [hevent], source, hsource, rfl⟩, ?_⟩
  have hgivenText : snippetTextOf given = snippetOf (textOf source) := by
    rw [snippetTextOf, getD, hsnippet]
    rfl
  rw [hmasked, hgivenText]

/-- Under an `email` mask the snippets of a response show no address of the texts they are taken
from past its `@` exactly when none of these texts leaves one clear. -/
theorem masked_snippets_clear_iff {platform : Platform} {settings : Settings} {request : Request}
    {events : List GatewayEvent} {response : RetrieveResponse}
    (h : Run (retrieve platform settings request) events (.ok response))
    {actor : Fields} (hactor : ⟨.authenticatedActor, .ok (some actor)⟩ ∈ events)
    (hmask : (abacOf request.payload actor).masks ≠ []) :
    ∃ documents, List.Forall₂ (ShowsDocument platform events) response.results documents ∧
      ((∀ text ∈ documents, ∀ address ∈ emailTokens text, ∀ row ∈ response.results,
          ¬Shows (snippetTextOf row) address) ↔
        ∀ text ∈ documents, ∀ address ∈ emailTokens text, ∀ shown ∈ documents,
          ¬LeftClear shown address) := by
  obtain ⟨documents, hdocuments⟩ := exists_forall₂ (masked_rows h hactor hmask)
  refine ⟨documents, hdocuments, forall₂_congr fun text _ ↦ forall₂_congr fun address haddress ↦ ?_⟩
  refine forall_mem_iff_of_forall₂ (fun row shown hshown ↦ ?_) hdocuments
  rw [hshown.2, shows_maskedSnippet_iff platform shown (starless_of_mem_emailTokens haddress)]

/-- The answers to the analyst: OpenSearch returns one document of the given text. -/
def documentAnswers (text : String) : (op : GatewayOp) → Except Exn op.Answer
  | .searchOpensearch _ =>
    .ok [("hits", .obj [("hits", .arr [.obj [("_source", .obj [("artifact_id", .str "a1"),
      ("dataset_id", .str "d1"), ("text", .str text)])]])])]
  | op => leadsAnswers op

/-- The calls of the analyst's retrieval. -/
def documentHistory (text : String) : List GatewayEvent :=
  history (documentAnswers text) leadsRetrieval

/-- How many rows the analyst is returned. -/
def returnedRows (text : String) : Option ℕ :=
  (eval (documentAnswers text) leadsRetrieval).toOption.map fun response ↦ response.results.length

theorem documentRetrieval_run {text : String} (h : returnedRows text = some 1) :
    ∃ response, Run leadsRetrieval (documentHistory text) (.ok response) ∧
      ∃ row, response.results = [row] := by
  have hrun := run_history (documentAnswers text) leadsRetrieval
  unfold returnedRows at h
  cases hresult : eval (documentAnswers text) leadsRetrieval with
  | error exception =>
    rw [hresult] at h
    cases h
  | ok response =>
    rw [hresult] at hrun h
    exact ⟨response, hrun, List.length_eq_one_iff.mp (Option.some.inj h)⟩

theorem analyst_authenticated (text : String) :
    (⟨.authenticatedActor, .ok (some entitledAnalyst)⟩ : GatewayEvent) ∈ documentHistory text :=
  .tail _ (.head _)

theorem document_answered (text : String) :
    (∃ event ∈ documentHistory text, ∃ source, SourceOf event source ∧ text = textOf source) ∧
    ∀ event ∈ documentHistory text, ∀ source, SourceOf event source → textOf source = text := by
  constructor
  · exact ⟨_, .tail _ (.tail _ (.tail _ (.tail _ (.tail _ (.tail _ (.head _)))))), _,
      ⟨_, .head _, rfl⟩, rfl⟩
  · intro event hevent source hsource
    obtain ⟨op, answer⟩ := event
    obtain rfl : answer = documentAnswers text op := answer_of_mem_history hevent
    cases op with
    | searchOpensearch payload =>
      obtain ⟨hit, hhit, hfields⟩ := hsource
      rw [List.mem_singleton.mp hhit] at hfields
      cases hfields
      rfl
    | retrievalCorpus workspaceId => exact absurd hsource List.not_mem_nil
    | searchQdrant payload =>
      obtain ⟨point, hpoint, -⟩ := hsource
      exact absurd hpoint List.not_mem_nil
    | _ => exact hsource.elim

def wholeText : String := "the leads are at bob@example.com"

/-- A text whose address begins at the character 172. -/
def cutChars : List Char := List.replicate 172 ' ' ++ "bob@example.com".toList

def cutText : String := String.ofList cutChars

theorem returnedRows_examples : returnedRows wholeText = some 1 ∧ returnedRows cutText = some 1 := by
  decide +kernel

/-- The analyst is shown the masked snippet of a document with a whole address. -/
theorem whole_address_masked : ∃ response, ∃ documents : List String,
    Run leadsRetrieval (documentHistory wholeText) (.ok response) ∧
      ((∀ text ∈ documents, ∀ address ∈ emailTokens text, ∀ row ∈ response.results,
          ¬Shows (snippetTextOf row) address) ↔
        ∀ text ∈ documents, ∀ address ∈ emailTokens text, ∀ shown ∈ documents,
          ¬LeftClear shown address) := by
  obtain ⟨response, hrun, -⟩ := documentRetrieval_run returnedRows_examples.1
  obtain ⟨documents, -, hiff⟩ :=
    masked_snippets_clear_iff hrun (analyst_authenticated wholeText) (by decide)
  exact ⟨response, documents, hrun, hiff⟩

theorem cutText_matches :
    (172, "bob@example.com".toList) ∈ emailMatches 0 0 cutText.toList := by
  have hmatches : (172, "bob@example.com".toList) ∈ emailMatches 0 0 cutChars := by
    decide +kernel
  rw [cutText, String.toList_ofList]
  exact hmatches

theorem cutText_leftClear : LeftClear cutText "bob@example.com".toList := by
  have hpiece : emailLength? ((cutChars.take 180).drop 172) = none := by
    decide +kernel
  refine cut_address_left_clear cutText_matches (by decide) ?_
  rw [cutText, String.toList_ofList]
  exact hpiece

/-- The snippet of an address cut after `bob@exam` shows it to an analyst with an `email` mask. -/
theorem cut_address_shown : ¬∀ {platform : Platform} {settings : Settings} {request : Request}
    {events : List GatewayEvent} {response : RetrieveResponse},
    Run (retrieve platform settings request) events (.ok response) →
    ∀ {actor : Fields}, ⟨.authenticatedActor, .ok (some actor)⟩ ∈ events →
    (abacOf request.payload actor).masks ≠ [] →
    ∀ text, (∃ event ∈ events, ∃ source, SourceOf event source ∧ text = textOf source) →
    ∀ address ∈ emailTokens text, ∀ row ∈ response.results,
      ¬Shows (snippetTextOf row) address := by
  intro hall
  obtain ⟨response, hrun, row, hrow⟩ := documentRetrieval_run returnedRows_examples.2
  have hmem : row ∈ response.results := hrow ▸ List.mem_singleton_self row
  have hactor := analyst_authenticated cutText
  obtain ⟨text, ⟨event, hevent, source, hsource, rfl⟩, hsnippet⟩ :=
    masked_rows hrun hactor (by decide) row hmem
  rw [(document_answered cutText).2 event hevent source hsource] at hsnippet
  have haddress : "bob@example.com".toList ∈ emailTokens cutText :=
    List.mem_map.mpr ⟨_, cutText_matches, rfl⟩
  have hhidden := hall hrun hactor (by decide) cutText (document_answered cutText).1 _ haddress
    row hmem
  rw [hsnippet, shows_maskedSnippet_iff _ _ (by decide)] at hhidden
  exact hhidden cutText_leftClear

end SchemaPilot.Gateway
