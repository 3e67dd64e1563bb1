import SchemaPilot.Gateway.MaskedSnippets

/-!
# What a masked text still matches

The pattern is matched once, from left to right, and the text that replaces a match ends in a character
of a mailbox. So an `@` that follows a match directly, which no match can contain, has a mailbox again, and
with a domain behind it that no further match takes up the masked text holds an address. This is the only
way it can (`masked_clean_iff`), in each of the modes `hash`, `null` and `partial_reveal`.
-/

namespace SchemaPilot.Gateway

open Library Library.Text Library.Json SharedDomain

/-- The text matches `EMAIL_TOKEN_PATTERN`. -/
def IsAddress (chars : List Char) : Prop :=
  ∃ mailbox domain letters : List Char, chars = mailbox ++ '@' :: (domain ++ '.' :: letters) ∧
    mailbox ≠ [] ∧ (∀ c ∈ mailbox, isMailboxChar c = true) ∧
    domain ≠ [] ∧ (∀ c ∈ domain, isDomainChar c = true) ∧
    2 ≤ letters.length ∧ ∀ c ∈ letters, c.isAlpha = true

/-- A part of the text matches the pattern. -/
def HoldsAddress (chars : List Char) : Prop := ∃ token, token <:+: chars ∧ IsAddress token

/-- The text begins with what the pattern takes behind an `@`. -/
def BeginsDomain (chars : List Char) : Prop :=
  (domainLength? 0 (chars.takeWhile isDomainChar)).isSome = true

/-- A full stop and two letters stand among the domain characters the text begins with. -/
def BeginsEnding (chars : List Char) : Prop :=
  (domainLength? 1 (chars.takeWhile isDomainChar)).isSome = true

/-- A match of the pattern is followed by an `@` and a domain that no further match begins. -/
def Seamed (chars : List Char) : Prop :=
  ∃ found ∈ emailMatches 0 0 chars, ∃ rest, chars.drop (found.1 + found.2.length) = '@' :: rest ∧
    BeginsDomain rest ∧ emailLength? rest = none

theorem isDomainChar_of_isAlpha {c : Char} (h : c.isAlpha = true) : isDomainChar c = true := by
  rw [isDomainChar, Char.isAlphanum, h]
  rfl

/-- The domain of a run ends behind a full stop and two letters. -/
theorem isSome_domainLength?_iff {run : List Char} : ∀ {position : ℕ},
    (domainLength? position run).isSome = true ↔ ∃ before rest, run = before ++ '.' :: rest ∧
      1 ≤ position + before.length ∧ 2 ≤ (rest.takeWhile Char.isAlpha).length := by
  induction run with
  | nil =>
    intro position
    refine iff_of_false (by simp [domainLength?]) ?_
    rintro ⟨before, rest, hrun, -⟩
    exact absurd hrun (by simp)
  | cons c run ih =>
    intro position
    rw [domainLength?]
    cases hlater : domainLength? (position + 1) run with
    | some length =>
      refine iff_of_true rfl ?_
      have hsome : (domainLength? (position + 1) run).isSome = true := by
        rw [hlater]
        rfl
      obtain ⟨before, rest, rfl, -, hletters⟩ := ih.mp hsome
      exact ⟨c :: before, rest, rfl, by rw [List.length_cons]; omega, hletters⟩
    | none =>
      constructor
      · intro h
        dsimp only at h
        split_ifs at h with hdot
        · exact ⟨[], run, by rw [hdot.2.1]; rfl, by simpa using hdot.1, hdot.2.2⟩
        · cases h
      · rintro ⟨before, rest, hrun, hposition, hletters⟩
        cases before with
        | nil =>
          obtain ⟨rfl, rfl⟩ := List.cons.inj hrun
          dsimp only
          rw [if_pos ⟨by simpa using hposition, rfl, hletters⟩]
          rfl
        | cons d before =>
          have hrest : run = before ++ '.' :: rest := (List.cons.inj hrun).2
          rw [List.length_cons] at hposition
          have hsome : (domainLength? (position + 1) run).isSome = true :=
            ih.mpr ⟨before, rest, hrest, by omega, hletters⟩
          rw [hlater] at hsome
          cases hsome

/-- Behind the domain of a run stands no further full stop with two letters. -/
theorem domainLength?_drop {run : List Char} : ∀ {position length : ℕ},
    domainLength? position run = some length →
      domainLength? 1 (run.drop (length - position)) = none := by
  induction run with
  | nil =>
    intro position length h
    cases h
  | cons c run ih =>
    intro position length h
    have hbounds := domainLength?_bounds h
    rw [domainLength?] at h
    cases hlater : domainLength? (position + 1) run with
    | some later =>
      rw [hlater] at h
      obtain rfl : later = length := Option.some.inj h
      have hlaterBounds := domainLength?_bounds hlater
      rw [show later - position = later - (position + 1) + 1 by omega, List.drop_succ_cons]
      exact ih hlater
    | none =>
      rw [hlater] at h
      dsimp only at h
      split_ifs at h with hdot
      obtain rfl : position + 1 + (run.takeWhile Char.isAlpha).length = length := Option.some.inj h
      rw [show position + 1 + (run.takeWhile Char.isAlpha).length - position =
        (run.takeWhile Char.isAlpha).length + 1 by omega, List.drop_succ_cons]
      by_contra hsome
      obtain ⟨before, rest, hrun, -, hletters⟩ :=
        isSome_domainLength?_iff.mp (Option.isSome_iff_ne_none.mpr hsome)
      have hrunSome : (domainLength? (position + 1) run).isSome = true := by
        refine isSome_domainLength?_iff.mpr
          ⟨run.take (run.takeWhile Char.isAlpha).length ++ before, rest, ?_, by omega, hletters⟩
        rw [List.append_assoc, ← hrun, List.take_append_drop]
      rw [hlater] at hrunSome
      cases hrunSome

/-- The domain of a run ends in a letter. -/
theorem domainLength?_last {run : List Char} : ∀ {position length : ℕ},
    domainLength? position run = some length →
      ∃ before c, run.take (length - position) = before ++ [c] ∧ c.isAlpha = true := by
  induction run with
  | nil =>
    intro position length h
    cases h
  | cons c run ih =>
    intro position length h
    rw [domainLength?] at h
    cases hlater : domainLength? (position + 1) run with
    | some later =>
      rw [hlater] at h
      obtain rfl : later = length := Option.some.inj h
      have hbounds := domainLength?_bounds hlater
      obtain ⟨before, last, hlast, halpha⟩ := ih hlater
      refine ⟨c :: before, last, ?_, halpha⟩
      rw [show later - position = later - (position + 1) + 1 by omega, List.take_succ_cons, hlast]
      rfl
    | none =>
      rw [hlater] at h
      dsimp only at h
      split_ifs at h with hdot
      obtain rfl : position + 1 + (run.takeWhile Char.isAlpha).length = length := Option.some.inj h
      have hne : run.takeWhile Char.isAlpha ≠ [] := List.length_pos_iff.mp (by omega)
      refine ⟨c :: (run.takeWhile Char.isAlpha).dropLast, (run.takeWhile Char.isAlpha).getLast hne, ?_,
        List.mem_takeWhile_imp (List.getLast_mem hne)⟩
      have htake : run.take (run.takeWhile Char.isAlpha).length = run.takeWhile Char.isAlpha :=
        List.prefix_iff_eq_take.mp (List.takeWhile_prefix _) |>.symm
      rw [show position + 1 + (run.takeWhile Char.isAlpha).length - position =
        (run.takeWhile Char.isAlpha).length + 1 by omega, List.take_succ_cons, htake, List.cons_append,
        List.dropLast_append_getLast hne]

theorem BeginsDomain.ending {chars : List Char} (h : BeginsDomain chars) : BeginsEnding chars := by
  obtain ⟨before, rest, hrun, hposition, hletters⟩ := isSome_domainLength?_iff.mp h
  exact isSome_domainLength?_iff.mpr ⟨before, rest, hrun, by omega, hletters⟩

/-- A match begins at a mailbox whose domain follows its `@`. -/
theorem emailLength?_mailbox_isSome {mailbox : List Char} (hne : mailbox ≠ [])
    (hmailbox : ∀ c ∈ mailbox, isMailboxChar c = true) (tail : List Char) :
    (emailLength? (mailbox ++ '@' :: tail)).isSome = true ↔ BeginsDomain tail := by
  rw [emailLength?_mailbox hne hmailbox, Option.isSome_map]
  rfl

section Scan

variable {replace : List Char → List Char}

theorem substituteEmails_drop (replace : List Char → List Char) (chars : List Char) : ∀ skip,
    substituteEmails replace skip chars = substituteEmails replace 0 (chars.drop skip) := by
  induction chars with
  | nil =>
    intro skip
    rw [List.drop_nil]
    cases skip <;> rfl
  | cons c rest ih =>
    intro skip
    cases skip with
    | zero => rfl
    | succ skip =>
      rw [substituteEmails, List.drop_succ_cons]
      exact ih skip

theorem substituteEmails_none {c : Char} {rest : List Char} (h : emailLength? (c :: rest) = none) :
    substituteEmails replace 0 (c :: rest) = c :: substituteEmails replace 0 rest := by
  rw [substituteEmails, h]

theorem substituteEmails_some {chars : List Char} {length : ℕ} (h : emailLength? chars = some length) :
    substituteEmails replace 0 chars =
      replace (chars.take length) ++ substituteEmails replace 0 (chars.drop length) := by
  obtain ⟨hlong, hfits, -⟩ := emailLength?_bounds h
  cases chars with
  | nil =>
    rw [List.length_nil] at hfits
    omega
  | cons c rest =>
    rw [substituteEmails, h]
    dsimp only
    rw [substituteEmails_drop replace rest (length - 1), show length = length - 1 + 1 by omega]
    rfl

theorem emailMatches_drop (chars : List Char) : ∀ position skip,
    emailMatches position skip chars = emailMatches (position + skip) 0 (chars.drop skip) := by
  induction chars with
  | nil =>
    intro position skip
    rw [List.drop_nil]
    cases skip <;> rfl
  | cons c rest ih =>
    intro position skip
    cases skip with
    | zero => rfl
    | succ skip =>
      rw [emailMatches, List.drop_succ_cons, ih, Nat.add_right_comm]
      rfl

/-- The scan of a text, place by place and match by match. -/
theorem scan_induction {motive : List Char → Prop} (nil : motive [])
    (skip : ∀ c rest, emailLength? (c :: rest) = none → motive rest → motive (c :: rest))
    (found : ∀ chars length, emailLength? chars = some length → motive (chars.drop length) →
      motive chars) (chars : List Char) : motive chars := by
  induction hlength : chars.length using Nat.strong_induction_on generalizing chars with
  | _ n ih =>
    subst hlength
    cases hmatch : emailLength? chars with
    | some length =>
      obtain ⟨hlong, hfits, -⟩ := emailLength?_bounds hmatch
      refine found chars length hmatch (ih _ ?_ _ rfl)
      rw [List.length_drop]
      omega
    | none =>
      cases chars with
      | nil => exact nil
      | cons c rest => exact skip c rest hmatch (ih _ (Nat.lt_succ_self _) rest rfl)

/-- Where no match begins, none begins before the mailbox ends. -/
theorem emailLength?_tail {c : Char} {rest : List Char} (hc : isMailboxChar c = true)
    (h : emailLength? (c :: rest) = none) : emailLength? rest = none := by
  cases hrest : emailLength? rest with
  | none => rfl
  | some length =>
    obtain ⟨mailbox, tail, domain, rfl, hne, hmailbox, hdomain, -⟩ := emailLength?_spec hrest
    have hsome : (emailLength? ((c :: mailbox) ++ '@' :: tail)).isSome = true := by
      refine (emailLength?_mailbox_isSome (List.cons_ne_nil _ _) ?_ tail).mpr ?_
      · exact List.forall_mem_cons.mpr ⟨hc, hmailbox⟩
      · rw [BeginsDomain, hdomain]
        rfl
    rw [List.cons_append, h] at hsome
    cases hsome

/-- Where no match begins, the text begins with the same domain characters when it is masked. -/
theorem takeWhile_substituteEmails (chars : List Char) (h : emailLength? chars = none) :
    (substituteEmails replace 0 chars).takeWhile isDomainChar = chars.takeWhile isDomainChar := by
  induction chars with
  | nil => rfl
  | cons c rest ih =>
    rw [substituteEmails_none h, List.takeWhile_cons, List.takeWhile_cons]
    split_ifs with hc
    · rw [ih (emailLength?_tail (isMailboxChar_of_isDomainChar hc) h)]
    · rfl

/-- Behind a match stands no full stop with two letters among the domain characters. -/
theorem not_beginsEnding_drop {chars : List Char} {length : ℕ} (h : emailLength? chars = some length) :
    ¬BeginsEnding (chars.drop length) := by
  obtain ⟨mailbox, tail, domain, rfl, -, -, hdomain, rfl⟩ := emailLength?_spec h
  have hbounds := domainLength?_bounds hdomain
  have hdrop : (mailbox ++ '@' :: tail).drop (mailbox.length + 1 + domain) = tail.drop domain := by
    rw [Nat.add_assoc, List.drop_append, List.drop_eq_nil_of_le (by omega), List.nil_append,
      Nat.add_sub_cancel_left, Nat.add_comm, List.drop_succ_cons]
  have hrun : (tail.drop domain).takeWhile isDomainChar =
      (tail.takeWhile isDomainChar).drop domain := by
    conv_lhs => rw [← List.takeWhile_append_dropWhile (p := isDomainChar) (l := tail)]
    rw [List.drop_append_of_le_length (by omega), List.takeWhile_append_of_pos]
    · cases hrest : tail.dropWhile isDomainChar with
      | nil => exact List.append_nil _
      | cons c rest =>
        have hc : isDomainChar c = false := by
          have hhead := List.head?_dropWhile_not isDomainChar tail
          rw [hrest] at hhead
          exact hhead
        rw [List.takeWhile_cons_of_neg (by rw [hc]; decide), List.append_nil]
    · exact fun c hc ↦ List.mem_takeWhile_imp (List.mem_of_mem_drop hc)
  rw [BeginsEnding, hdrop, hrun, ← Nat.sub_zero domain, domainLength?_drop hdomain]
  decide

/-- What replaces a match: it has no `@`, ends in a character of a mailbox, and brings no domain about. -/
structure Inert (replacement : List Char) : Prop where
  noAt : '@' ∉ replacement
  last : ∃ before c, replacement = before ++ [c] ∧ isMailboxChar c = true
  ending : ∀ rest, BeginsEnding (replacement ++ rest) → BeginsEnding rest

/-- In a masked text no domain begins behind a match, unless one did before. -/
theorem not_beginsEnding_substituteEmails
    (hreplace : ∀ chars length, emailLength? chars = some length → Inert (replace (chars.take length)))
    (chars : List Char) : ¬BeginsEnding chars → ¬BeginsEnding (substituteEmails replace 0 chars) := by
  induction chars using scan_induction with
  | nil => exact id
  | skip c rest hmatch _ =>
    intro h
    rwa [BeginsEnding, takeWhile_substituteEmails _ hmatch]
  | found chars length hmatch ih =>
    intro _ hending
    rw [substituteEmails_some hmatch] at hending
    exact ih (not_beginsEnding_drop hmatch) ((hreplace _ _ hmatch).ending _ hending)

/-- A domain begins in the masked text where it begins in the text and no match does. -/
theorem beginsDomain_substituteEmails_iff
    (hreplace : ∀ chars length, emailLength? chars = some length → Inert (replace (chars.take length)))
    (chars : List Char) : BeginsDomain (substituteEmails replace 0 chars) ↔
      BeginsDomain chars ∧ emailLength? chars = none := by
  cases hmatch : emailLength? chars with
  | none =>
    rw [BeginsDomain, takeWhile_substituteEmails _ hmatch]
    exact (and_iff_left rfl).symm
  | some length =>
    refine iff_of_false (fun hdomain ↦ ?_) fun h ↦ by cases h.2
    rw [substituteEmails_some hmatch] at hdomain
    exact not_beginsEnding_substituteEmails hreplace _ (not_beginsEnding_drop hmatch)
      ((hreplace _ _ hmatch).ending _ hdomain.ending)

end Scan

/-- An `@` of the text has a domain behind it and, before it, a character of a mailbox, or whatever stands
before the text. -/
def Exposed (before : Prop) : List Char → Prop
  | [] => False
  | c :: rest => (c = '@' ∧ before ∧ BeginsDomain rest) ∨ Exposed (isMailboxChar c = true) rest

theorem exposed_iff (chars : List Char) : ∀ before : Prop, Exposed before chars ↔
    (∃ rest, chars = '@' :: rest ∧ before ∧ BeginsDomain rest) ∨
      ∃ first c rest, chars = first ++ c :: '@' :: rest ∧ isMailboxChar c = true ∧
        BeginsDomain rest := by
  induction chars with
  | nil =>
    intro before
    refine iff_of_false id ?_
    rintro (⟨rest, heq, -⟩ | ⟨first, c, rest, heq, -⟩)
    · cases heq
    · exact absurd heq (by simp)
  | cons d chars ih =>
    intro before
    rw [Exposed, ih]
    constructor
    · rintro (⟨rfl, hbefore, hdomain⟩ | ⟨rest, rfl, hd, hdomain⟩ | ⟨first, c, rest, rfl, hc, hdomain⟩)
      · exact Or.inl ⟨chars, rfl, hbefore, hdomain⟩
      · exact Or.inr ⟨[], d, rest, rfl, hd, hdomain⟩
      · exact Or.inr ⟨d :: first, c, rest, rfl, hc, hdomain⟩
    · rintro (⟨rest, heq, hbefore, hdomain⟩ | ⟨first, c, rest, heq, hc, hdomain⟩)
      · obtain ⟨rfl, rfl⟩ := List.cons.inj heq
        exact Or.inl ⟨rfl, hbefore, hdomain⟩
      · cases first with
        | nil =>
          obtain ⟨rfl, rfl⟩ := List.cons.inj heq
          exact Or.inr (Or.inl ⟨rest, rfl, hc, hdomain⟩)
        | cons e first =>
          obtain ⟨rfl, rfl⟩ := List.cons.inj heq
          exact Or.inr (Or.inr ⟨first, c, rest, rfl, hc, hdomain⟩)

/-- A text holds an address exactly where an `@` stands between a mailbox and a domain. -/
theorem holdsAddress_iff (chars : List Char) : HoldsAddress chars ↔ Exposed False chars := by
  rw [exposed_iff]
  constructor
  · rintro ⟨token, ⟨first, last, rfl⟩, mailbox, domain, letters, rfl, hmailbox, hmailboxChars,
      hdomain, hdomainChars, hletters, hlettersAlpha⟩
    obtain ⟨start, c, rfl⟩ : ∃ start c, mailbox = start ++ [c] :=
      ⟨mailbox.dropLast, mailbox.getLast hmailbox, (List.dropLast_append_getLast hmailbox).symm⟩
    refine Or.inr ⟨first ++ start, c, domain ++ '.' :: (letters ++ last), by simp, ?_, ?_⟩
    · exact hmailboxChars c (List.mem_append_right _ (List.mem_singleton_self c))
    · have hrun : ∀ d ∈ domain ++ '.' :: letters, isDomainChar d = true := by
        intro d hd
        rcases List.mem_append.mp hd with hd | hd
        · exact hdomainChars d hd
        · rcases List.mem_cons.mp hd with rfl | hd
          · decide
          · exact isDomainChar_of_isAlpha (hlettersAlpha d hd)
      have hwhole : domain ++ '.' :: (letters ++ last) = domain ++ '.' :: letters ++ last := by simp
      refine isSome_domainLength?_iff.mpr
        ⟨domain, letters ++ last.takeWhile isDomainChar, ?_, ?_, ?_⟩
      · rw [hwhole, List.takeWhile_append_of_pos hrun, List.append_assoc, List.cons_append]
      · have hpos := List.length_pos_iff.mpr hdomain
        omega
      · rw [List.takeWhile_append_of_pos hlettersAlpha, List.length_append]
        omega
  · rintro (⟨rest, -, hfalse, -⟩ | ⟨first, c, rest, rfl, hc, hdomain⟩)
    · exact absurd hfalse id
    · obtain ⟨domain, later, hrun, hpos, hletters⟩ := isSome_domainLength?_iff.mp hdomain
      have hrest := List.takeWhile_append_dropWhile (p := isDomainChar) (l := rest)
      have hlater := List.takeWhile_append_dropWhile (p := Char.isAlpha) (l := later)
      rw [hrun, ← hlater] at hrest
      refine ⟨[c] ++ '@' :: (domain ++ '.' :: later.takeWhile Char.isAlpha),
        ⟨first, later.dropWhile Char.isAlpha ++ rest.dropWhile isDomainChar, ?_⟩,
        [c], domain, later.takeWhile Char.isAlpha, rfl, List.cons_ne_nil _ _, ?_, ?_, ?_, hletters, ?_⟩
      · refine Eq.trans ?_ (congrArg (fun tail ↦ first ++ c :: '@' :: tail) hrest)
        simp only [List.append_assoc, List.cons_append, List.nil_append]
      · exact List.forall_mem_singleton.mpr hc
      · exact List.length_pos_iff.mp (by omega)
      · intro d hd
        refine List.mem_takeWhile_imp (p := isDomainChar) (l := rest) ?_
        rw [hrun]
        exact List.mem_append_left _ hd
      · exact fun d hd ↦ List.mem_takeWhile_imp hd

/-- Behind what replaces a match, the `@` of the rest count with a mailbox before them. -/
theorem Inert.exposed_append {replacement : List Char} (h : Inert replacement) (before : Prop)
    (rest : List Char) : Exposed before (replacement ++ rest) ↔ Exposed True rest := by
  obtain ⟨start, c, rfl, hc⟩ := h.last
  have hrun : ∀ (start : List Char) (before : Prop), '@' ∉ start →
      (Exposed before (start ++ [c] ++ rest) ↔ Exposed (isMailboxChar c = true) rest) := by
    have hcat : c ≠ '@' := by
      rintro rfl
      exact absurd hc (by decide)
    intro start
    induction start with
    | nil =>
      intro before _
      exact or_iff_right fun h ↦ hcat h.1
    | cons d start ih =>
      intro before hnone
      rw [List.mem_cons, not_or] at hnone
      change (d = '@' ∧ _) ∨ Exposed _ (start ++ [c] ++ rest) ↔ _
      rw [ih _ hnone.2]
      exact or_iff_right fun h ↦ hnone.1 h.1.symm
  rw [hrun start before fun hmem ↦ h.noAt (List.mem_append_left _ hmem), hc]
  exact iff_of_eq (congrArg (Exposed · rest) (eq_true rfl))

/-- The text begins with an `@` and a domain that no match begins. -/
def BeginsSeam (chars : List Char) : Prop :=
  ∃ rest, chars = '@' :: rest ∧ BeginsDomain rest ∧ emailLength? rest = none

/-- Somewhere a match ends before an `@` and a domain that no match begins, the matches of the text having
their positions from a number on. -/
theorem seamed_iff (position : ℕ) (chars : List Char) :
    (∃ found ∈ emailMatches position 0 chars,
      BeginsSeam (chars.drop (found.1 - position + found.2.length))) ↔ Seamed chars := by
  have hshift : ∀ (chars : List Char) (position skip shift : ℕ),
      emailMatches (position + shift) skip chars =
        (emailMatches position skip chars).map fun found ↦ (found.1 + shift, found.2) := by
    intro chars
    induction chars with
    | nil => exact fun _ _ _ ↦ rfl
    | cons c rest ih =>
      intro position skip shift
      cases skip with
      | succ skip =>
        rw [emailMatches, emailMatches, ← ih, Nat.add_right_comm]
      | zero =>
        cases hmatch : emailLength? (c :: rest) with
        | none =>
          simp only [emailMatches, hmatch]
          rw [← ih, Nat.add_right_comm]
        | some length =>
          simp only [emailMatches, hmatch, List.map_cons]
          rw [← ih, Nat.add_right_comm]
  have hmoved := hshift chars 0 0 position
  rw [Nat.zero_add] at hmoved
  rw [hmoved]
  simp only [Seamed, BeginsSeam, List.mem_map, Prod.exists]
  constructor
  · rintro ⟨_, token, ⟨start, _, hfound, heq⟩, hseam⟩
    obtain ⟨rfl, rfl⟩ := Prod.mk.inj heq
    rw [Nat.add_sub_cancel] at hseam
    exact ⟨start, _, hfound, hseam⟩
  · rintro ⟨start, token, hfound, hseam⟩
    refine ⟨start + position, token, ⟨start, token, hfound, rfl⟩, ?_⟩
    rwa [Nat.add_sub_cancel]

theorem seamed_nil : ¬Seamed [] := by
  rintro ⟨found, hfound, -⟩
  cases hfound

theorem seamed_cons_iff {c : Char} {rest : List Char} (h : emailLength? (c :: rest) = none) :
    Seamed (c :: rest) ↔ Seamed rest := by
  have hmatches : emailMatches 0 0 (c :: rest) = emailMatches 1 0 rest := by
    rw [emailMatches, h]
  rw [← seamed_iff 1 rest, Seamed, hmatches]
  refine exists_congr fun found ↦ and_congr_right fun hfound ↦ ?_
  have hposition := position_of_mem_emailMatches hfound
  rw [show found.1 + found.2.length = found.1 - 1 + found.2.length + 1 by omega, List.drop_succ_cons]
  rfl

theorem seamed_found_iff {chars : List Char} {length : ℕ} (h : emailLength? chars = some length) :
    Seamed chars ↔ BeginsSeam (chars.drop length) ∨ Seamed (chars.drop length) := by
  obtain ⟨hlong, hfits, -⟩ := emailLength?_bounds h
  have hmatches : emailMatches 0 0 chars =
      (0, chars.take length) :: emailMatches length 0 (chars.drop length) := by
    cases chars with
    | nil =>
      rw [List.length_nil] at hfits
      omega
    | cons c rest =>
      rw [emailMatches, h]
      dsimp only
      obtain ⟨last, rfl⟩ : ∃ last, length = last + 1 := ⟨length - 1, by omega⟩
      rw [emailMatches_drop rest, List.drop_succ_cons, Nat.zero_add, Nat.add_sub_cancel, Nat.add_comm]
  rw [← seamed_iff length (chars.drop length), Seamed, hmatches]
  simp only [List.mem_cons, exists_eq_or_imp]
  have hlength : (chars.take length).length = length := by
    rw [List.length_take]
    omega
  rw [hlength, Nat.zero_add]
  refine or_congr Iff.rfl (exists_congr fun found ↦ and_congr_right fun hfound ↦ ?_)
  have hposition := position_of_mem_emailMatches hfound
  rw [List.drop_drop, show length + (found.1 - length + found.2.length) =
    found.1 + found.2.length by omega]
  rfl

/-- The masked text has an `@` between a mailbox and a domain exactly where the text has a seam. -/
theorem exposed_substituteEmails_iff {replace : List Char → List Char}
    (hreplace : ∀ chars length, emailLength? chars = some length → Inert (replace (chars.take length)))
    (chars : List Char) :
    (Exposed True (substituteEmails replace 0 chars) ↔ BeginsSeam chars ∨ Seamed chars) ∧
      ∀ before : Prop, (before → ∀ rest, chars = '@' :: rest → ¬BeginsDomain rest) →
        (Exposed before (substituteEmails replace 0 chars) ↔ Seamed chars) := by
  induction chars using scan_induction with
  | nil =>
    refine ⟨iff_of_false id ?_, fun _ _ ↦ iff_of_false id seamed_nil⟩
    rintro (⟨rest, heq, -⟩ | hseamed)
    · cases heq
    · exact seamed_nil hseamed
  | skip c rest hmatch ih =>
    -- a mailbox before the `@` of the rest would have begun a match with a domain behind it
    have hrest : Exposed (isMailboxChar c = true) (substituteEmails replace 0 rest) ↔ Seamed rest := by
      refine ih.2 _ fun hc tail htail hdomain ↦ ?_
      have hsome := (emailLength?_mailbox_isSome (List.cons_ne_nil c [])
        (List.forall_mem_singleton.mpr hc) tail).mpr hdomain
      rw [List.singleton_append, ← htail, hmatch] at hsome
      cases hsome
    have hdomain := beginsDomain_substituteEmails_iff hreplace rest
    rw [substituteEmails_none hmatch, seamed_cons_iff hmatch]
    refine ⟨?_, fun before hbefore ↦ ?_⟩
    · rw [Exposed, hrest, hdomain, BeginsSeam]
      refine or_congr ⟨?_, ?_⟩ Iff.rfl
      · rintro ⟨rfl, -, hdomain, hnone⟩
        exact ⟨rest, rfl, hdomain, hnone⟩
      · rintro ⟨tail, heq, hdomain, hnone⟩
        obtain ⟨rfl, rfl⟩ := List.cons.inj heq
        exact ⟨rfl, trivial, hdomain, hnone⟩
    · rw [Exposed, hrest, hdomain]
      refine or_iff_right ?_
      rintro ⟨rfl, hheld, hbegins, -⟩
      exact hbefore hheld rest rfl hbegins
  | found chars length hmatch ih =>
    have hrun : ∀ before : Prop, Exposed before (substituteEmails replace 0 chars) ↔ Seamed chars := by
      intro before
      rw [substituteEmails_some hmatch, (hreplace _ _ hmatch).exposed_append, ih.1,
        seamed_found_iff hmatch]
    refine ⟨(hrun True).trans (or_iff_right ?_).symm, fun before _ ↦ hrun before⟩
    rintro ⟨rest, rfl, -⟩
    obtain ⟨mailbox, tail, domain, heq, hne, hmailbox, -⟩ := emailLength?_spec hmatch
    obtain ⟨c, mailbox, rfl⟩ := List.exists_cons_of_ne_nil hne
    obtain ⟨rfl, -⟩ := List.cons.inj heq
    exact absurd (hmailbox '@' List.mem_cons_self) (by decide)

def IsHexDigest (text : String) : Prop :=
  text.toList.length = 64 ∧ ∀ c ∈ text.toList, c ∈ "0123456789abcdef".toList

/-- A text of letters and digits replaces a match without a trace of an address. -/
theorem inert_of_alphanum {replacement : List Char} (hne : replacement ≠ [])
    (hchars : ∀ c ∈ replacement, c.isAlphanum = true) : Inert replacement := by
  have hdomain : ∀ c ∈ replacement, isDomainChar c = true := fun c hc ↦ by
    rw [isDomainChar, hchars c hc]
    rfl
  refine ⟨fun hat ↦ absurd (hchars _ hat) (by decide), ?_, fun rest hending ↦ ?_⟩
  · refine ⟨replacement.dropLast, replacement.getLast hne,
      (List.dropLast_append_getLast hne).symm, ?_⟩
    exact isMailboxChar_of_isDomainChar (hdomain _ (List.getLast_mem hne))
  · obtain ⟨before, letters, hrun, -, hletters⟩ := isSome_domainLength?_iff.mp hending
    rw [List.takeWhile_append_of_pos hdomain] at hrun
    -- the full stop is none of the replacement
    rcases List.append_eq_append_iff.mp hrun with ⟨start, rfl, hrest⟩ | ⟨start, hreplacement, hrest⟩
    · exact isSome_domainLength?_iff.mpr ⟨start, letters, hrest, by omega, hletters⟩
    · cases start with
      | nil =>
        rw [List.nil_append] at hrest
        exact isSome_domainLength?_iff.mpr ⟨[], letters, hrest.symm, by simp, hletters⟩
      | cons c start =>
        obtain ⟨rfl, -⟩ := List.cons.inj hrest
        have hdot : ('.' : Char).isAlphanum = true := by
          refine hchars '.' ?_
          rw [hreplacement]
          exact List.mem_append_right _ List.mem_cons_self
        exact absurd hdot (by decide)

/-- A match begins with a character of a mailbox and ends in a letter. -/
theorem take_emailLength? {chars : List Char} {length : ℕ} (h : emailLength? chars = some length) :
    ∃ c middle last, chars.take length = c :: (middle ++ [last]) ∧ isMailboxChar c = true ∧
      last.isAlpha = true ∧ 3 ≤ middle.length := by
  have hlong := (emailLength?_bounds h).1
  have hfits := (emailLength?_bounds h).2.1
  obtain ⟨mailbox, tail, domain, rfl, hne, hmailbox, hdomain, rfl⟩ := emailLength?_spec h
  obtain ⟨c, mailbox, rfl⟩ := List.exists_cons_of_ne_nil hne
  obtain ⟨before, last, hlast, halpha⟩ := domainLength?_last hdomain
  have hbounds := domainLength?_bounds hdomain
  have htail : tail.take domain = (tail.takeWhile isDomainChar).take domain := by
    conv_lhs => rw [← List.takeWhile_append_dropWhile (p := isDomainChar) (l := tail)]
    exact List.take_append_of_le_length (by omega)
  have htoken : (c :: mailbox ++ '@' :: tail).take ((c :: mailbox).length + 1 + domain) =
      c :: ((mailbox ++ '@' :: before) ++ [last]) := by
    rw [Nat.add_assoc, List.take_length_add_append, Nat.add_comm 1, List.take_succ_cons, htail]
    rw [Nat.sub_zero] at hlast
    rw [hlast]
    simp
  have hlength := congrArg List.length htoken
  rw [List.length_take, Nat.min_eq_left hfits, List.length_cons, List.length_cons,
    List.length_append, List.length_singleton] at hlength
  exact ⟨c, _, last, htoken, hmailbox c List.mem_cons_self, halpha, by omega⟩

/-- A match of which the first and the last character are revealed leaves no trace of an address. -/
theorem inert_partialReveal {chars : List Char} {length : ℕ} (h : emailLength? chars = some length) :
    Inert (partialReveal (String.ofList (chars.take length))).toList := by
  obtain ⟨c, middle, last, htoken, hc, hlast, hmiddle⟩ := take_emailLength? h
  have hrevealed : (partialReveal (String.ofList (c :: (middle ++ [last])))).toList =
      c :: (List.replicate middle.length '*' ++ [last]) := by
    rw [partialReveal_cons (by rw [List.length_append]; omega), revealedTail, List.length_append,
      List.length_singleton, Nat.add_sub_cancel, List.take_of_length_le (by simp), List.drop_left]
  rw [htoken, hrevealed]
  refine ⟨?_, ⟨c :: List.replicate middle.length '*', last, rfl, ?_⟩, fun rest hending ↦ ?_⟩
  · simp only [List.mem_cons, List.mem_append, List.mem_replicate, List.not_mem_nil, or_false, not_or]
    refine ⟨?_, fun hstar ↦ absurd hstar.2 (by decide), ?_⟩
    · rintro rfl
      exact absurd hc (by decide)
    · rintro rfl
      exact absurd hlast (by decide)
  · exact isMailboxChar_of_isDomainChar (isDomainChar_of_isAlpha hlast)
  · -- the star behind the first character ends the domain
    obtain ⟨stars, hstars⟩ : ∃ stars, middle.length = stars + 1 := ⟨middle.length - 1, by omega⟩
    obtain ⟨before, letters, hrun, -, hletters⟩ := isSome_domainLength?_iff.mp hending
    have hshort : ((c :: (List.replicate middle.length '*' ++ [last]) ++ rest).takeWhile
        isDomainChar).length ≤ 1 := by
      rw [hstars, List.replicate_succ, List.cons_append, List.takeWhile_cons]
      split_ifs
      · exact le_refl 1
      · exact Nat.zero_le 1
    rw [hrun, List.length_append, List.length_cons] at hshort
    have hprefix := (List.takeWhile_sublist Char.isAlpha (l := letters)).length_le
    omega

/-- A masked text matches the pattern nowhere exactly when no match of the text is followed by an `@` and a
domain that no further match begins. -/
theorem masked_clean_iff {platform : Platform}
    (hdigest : ∀ text, IsHexDigest (platform.sha256Hex text)) {mode : String}
    (hmode : mode ∈ ["hash", "null", "partial_reveal"]) (text : String) :
    ¬HoldsAddress (maskEmailTokens platform text mode).toList ↔ ¬Seamed text.toList := by
  have hreplace : ∀ chars length, emailLength? chars = some length →
      Inert (applyMask platform.sha256Hex (.text (String.ofList (chars.take length))) mode).toStr.toList := by
    intro chars length hmatch
    simp only [List.mem_cons, List.not_mem_nil, or_false] at hmode
    rcases hmode with rfl | rfl | rfl
    · have hhash := hdigest (String.ofList (chars.take length))
      refine inert_of_alphanum (fun hnil ↦ ?_) fun c hc ↦ ?_
      · have hlength := hhash.1
        change (platform.sha256Hex (String.ofList (chars.take length))).toList = [] at hnil
        rw [hnil] at hlength
        cases hlength
      · have hdigits : "0123456789abcdef".toList.all Char.isAlphanum = true := by decide
        exact List.all_eq_true.mp hdigits c (hhash.2 c hc)
    · change Inert "None".toList
      exact inert_of_alphanum (by decide) (List.all_eq_true.mp (by decide))
    · exact inert_partialReveal hmatch
  rw [maskEmailTokens, String.toList_ofList, holdsAddress_iff,
    (exposed_substituteEmails_iff hreplace text.toList).2 False fun hfalse ↦ absurd hfalse id]

/-- The digest of `a@b.co`. -/
theorem isHexDigest_address :
    IsHexDigest "80305c9bb1bb2480e03894350e0a8a366dcbdeb302e69e0817aa0743abd77054" :=
  ⟨by decide, fun c hc ↦ of_decide_eq_true (List.all_eq_true.mp (show
    ("80305c9bb1bb2480e03894350e0a8a366dcbdeb302e69e0817aa0743abd77054".toList.all fun c ↦
      c ∈ "0123456789abcdef".toList) = true by decide) c hc)⟩

/-- The address of a text is replaced by its digest. -/
theorem masked_clean_hash : ¬HoldsAddress (maskEmailTokens
    ⟨fun _ ↦ "80305c9bb1bb2480e03894350e0a8a366dcbdeb302e69e0817aa0743abd77054", id⟩
    "write to a@b.co" "hash").toList := by
  refine (masked_clean_iff (fun _ ↦ isHexDigest_address) (by decide) _).mpr ?_
  rintro ⟨found, hfound, rest, hrest, -⟩
  have hmatches : emailMatches 0 0 "write to a@b.co".toList = [(9, "a@b.co".toList)] := by
    decide +kernel
  rw [hmatches, List.mem_singleton] at hfound
  subst hfound
  cases hrest

/-- Behind a replaced address, an `@` and a domain make another one. -/
theorem seam_left : ¬∀ {platform : Platform}, (∀ text, IsHexDigest (platform.sha256Hex text)) →
    ∀ mode ∈ ["hash", "null", "partial_reveal"], ∀ text,
      ¬HoldsAddress (maskEmailTokens platform text mode).toList := by
  intro hall
  refine @hall ⟨fun _ ↦ "80305c9bb1bb2480e03894350e0a8a366dcbdeb302e69e0817aa0743abd77054", id⟩
    (fun _ ↦ isHexDigest_address) "null" (by decide) "a@b.co@c.com" ?_
  refine ⟨"None@c.com".toList, ?_, "None".toList, "c".toList, "com".toList, ?_⟩
  · rw [maskEmailTokens, String.toList_ofList]
    have hmasked : substituteEmails (fun _ ↦ "None".toList) 0 "a@b.co@c.com".toList =
        "None@c.com".toList := by
      decide +kernel
    exact hmasked ▸ List.infix_refl _
  · exact ⟨by decide, by decide,
      List.all_eq_true.mp (show "None".toList.all isMailboxChar = true by decide), by decide,
      List.all_eq_true.mp (show "c".toList.all isDomainChar = true by decide), by decide,
      List.all_eq_true.mp (show "com".toList.all Char.isAlpha = true by decide)⟩

end SchemaPilot.Gateway
