import Mathlib.Data.String.Basic
import SchemaPilot.Library.PositionalOrder
import SchemaPilot.SharedDomain.Ids

/-!
# Identifiers of one process

`new_ulid` says that it is monotonic per process, and the run queue and the outbox order their rows by
its identifiers. The text of an identifier is in the order of the time and the counter it is made of, but
the time is the reading of the wall clock, also where that is before the last one, and the counter starts
again at each change of it. So the identifiers of a process increase exactly while its clock advances
(`processUlids_increasing_iff`).
-/

namespace SchemaPilot.SharedDomain

/-- The identifiers a process returns one after the other, the clock being read at each call. -/
def processUlids (readings : List ClockMillis) : List String :=
  issuedUlids (readings.map (UlidCall.mk ()))

/-- A later reading is the same one, or is written as a later time. -/
def Follows (earlier later : ClockMillis) : Prop :=
  earlier = later ∨ earlier.millis.toNat < later.millis.toNat

/-- The clock of a process advances: no reading is before an earlier one (all times before the epoch
being one time), and none is read more often than a counter has room for. -/
def Advances (readings : List ClockMillis) : Prop :=
  readings.Pairwise Follows ∧ ∀ reading, readings.count reading ≤ 32 ^ 16

theorem ulidChar_strictMonoOn : StrictMonoOn ulidChar (Set.Iio 32) := by
  have hall : ∀ second < 32, ∀ first < second, ulidChar first < ulidChar second := by decide
  exact fun first _ second hsecond h ↦ hall second hsecond first h

theorem length_paddedDigits {value length : ℕ} (h : value < 32 ^ length) :
    (paddedDigits value length).length = length := by
  have hfits : (Nat.digits 32 value).length ≤ length :=
    (Nat.digits_length_le_iff (by norm_num) value).mpr h
  rw [paddedDigits, List.length_append, List.length_replicate]
  omega

/-- Numbers that have room are written in their order. -/
theorem encodeBase32_lt {first second length : ℕ} (h : first < second)
    (hsecond : second < 32 ^ length) (hlength : 0 < length) :
    encodeBase32 first length < encodeBase32 second length := by
  have hfirst : first < 32 ^ length := h.trans hsecond
  rw [encodeBase32_of_lt hfirst hlength, encodeBase32_of_lt hsecond hlength,
    String.lt_iff_toList_lt, String.toList_ofList, String.toList_ofList]
  have hdigits : ∀ value, ∀ digit ∈ (paddedDigits value length).reverse, digit < 32 :=
    fun value digit hdigit ↦ paddedDigits_lt (List.mem_reverse.mp hdigit)
  apply Library.map_lt_map_of_strictMonoOn ulidChar_strictMonoOn (hdigits first) (hdigits second)
  apply Library.lt_of_ofDigits_reverse_lt (by norm_num) _ (hdigits first) _ (hdigits second)
  · rw [List.length_reverse, List.length_reverse, length_paddedDigits hfirst,
      length_paddedDigits hsecond]
  · rw [List.reverse_reverse, List.reverse_reverse, ofDigits_paddedDigits, ofDigits_paddedDigits]
    exact h

/-- A field of an identifier has all its characters, and is in the order of the numbers that have room in
it. -/
theorem encodeBase32_orderEmbeds {length first second : ℕ} (hfirst : first < 32 ^ length)
    (hsecond : second < 32 ^ length) :
    (encodeBase32 first length).toList.length = length ∧
      (encodeBase32 first length = encodeBase32 second length → first = second) ∧
      (first < second ↔ encodeBase32 first length < encodeBase32 second length) := by
  refine ⟨length_encodeBase32 _ _, ?_⟩
  rcases Nat.eq_zero_or_pos length with rfl | hlength
  · -- a field without characters has room for zero alone
    obtain rfl : first = 0 := by omega
    obtain rfl : second = 0 := by omega
    exact ⟨fun _ ↦ rfl, iff_of_false (lt_irrefl _) (lt_irrefl _)⟩
  · refine ⟨encodeBase32_inj hfirst hsecond hlength, fun h ↦ encodeBase32_lt h hsecond hlength, fun h ↦ ?_⟩
    rcases Nat.lt_trichotomy first second with hbefore | rfl | hafter
    · exact hbefore
    · exact absurd h (lt_irrefl _)
    · exact absurd h (lt_asymm (encodeBase32_lt hafter hfirst hlength))

theorem counters_are_in_order :
    (encodeBase32 (31 : ℕ) 16).toList.length = 16 ∧
      (encodeBase32 (31 : ℕ) 16 = encodeBase32 (32 : ℕ) 16 → 31 = 32) ∧
      (31 < 32 ↔ encodeBase32 (31 : ℕ) 16 < encodeBase32 (32 : ℕ) 16) :=
  encodeBase32_orderEmbeds (by norm_num) (by norm_num)

/-- Identifiers are in the order of their times, whatever their counters. -/
theorem ulidOf_lt_of_time_lt {first second : ℕ × ℕ} (h : first.1 < second.1)
    (hsecond : second.1 < 32 ^ 10) : ulidOf first < ulidOf second := by
  have htime := encodeBase32_lt h hsecond (by norm_num)
  rw [String.lt_iff_toList_lt] at htime
  rw [ulidOf, ulidOf, String.lt_iff_toList_lt, String.toList_append, String.toList_append]
  refine Library.append_lt_append_of_length_eq ?_ htime
  rw [length_encodeBase32, length_encodeBase32]

/-- Identifiers of one time are in the order of their counters. -/
theorem ulidOf_lt_of_counter_lt {time first second : ℕ} (h : first < second)
    (hsecond : second < 32 ^ 16) : ulidOf (time, first) < ulidOf (time, second) := by
  have hcounter := encodeBase32_lt h hsecond (by norm_num)
  rw [String.lt_iff_toList_lt] at hcounter
  rw [ulidOf, ulidOf, String.lt_iff_toList_lt, String.toList_append, String.toList_append]
  exact List.append_left_lt hcounter

def callsOf (readings : List ClockMillis) : List (UlidCall Unit) := readings.map (UlidCall.mk ())

theorem callsOf_snoc (readings : List ClockMillis) (reading : ClockMillis) :
    callsOf (readings ++ [reading]) = callsOf readings ++ [UlidCall.mk () reading] := by
  rw [callsOf, List.map_append, List.map_singleton, callsOf]

theorem mem_callsOf {readings : List ClockMillis} {call : UlidCall Unit} :
    call ∈ callsOf readings ↔ call.clock ∈ readings := by
  constructor
  · intro h
    obtain ⟨reading, hreading, rfl⟩ := List.mem_map.mp h
    exact hreading
  · exact fun h ↦ List.mem_map.mpr ⟨call.clock, h, rfl⟩

theorem clock_ext {first second : ClockMillis} (h : first.millis = second.millis) :
    first = second := by
  cases first
  cases second
  congr

theorem advances_snoc {readings : List ClockMillis} {reading : ClockMillis} :
    Advances (readings ++ [reading]) ↔ Advances readings ∧
      (∀ earlier ∈ readings, Follows earlier reading) ∧ readings.count reading < 32 ^ 16 := by
  have hcount : ∀ other, (readings ++ [reading]).count other =
      readings.count other + if reading = other then 1 else 0 := by
    intro other
    rw [List.count_append, List.count_singleton]
    simp only [beq_iff_eq]
  rw [Advances, Advances, List.pairwise_append]
  constructor
  · rintro ⟨⟨hpairs, -, hlast⟩, hroom⟩
    refine ⟨⟨hpairs, fun other ↦ (hroom other).trans' ?_⟩,
      fun earlier hmem ↦ hlast earlier hmem reading (List.mem_singleton_self _), ?_⟩
    · exact (hcount other).symm ▸ Nat.le_add_right _ _
    · have hone := hroom reading
      rw [hcount, if_pos rfl] at hone
      exact hone
  · rintro ⟨⟨hpairs, hroom⟩, hlast, hone⟩
    refine ⟨⟨hpairs, List.pairwise_singleton _ _, fun earlier hmem other hother ↦ ?_⟩,
      fun other ↦ ?_⟩
    · rw [List.mem_singleton.mp hother]
      exact hlast earlier hmem
    · rw [hcount]
      by_cases hsame : reading = other
      · rw [if_pos hsame, ← hsame]
        exact hone
      · rw [if_neg hsame]
        exact hroom other

/-- Readings of a clock that advances are the same where they are written as one time. -/
theorem Advances.eq_of_toNat_eq {readings : List ClockMillis} (h : Advances readings)
    {first second : ClockMillis} (hfirst : first ∈ readings) (hsecond : second ∈ readings)
    (htime : first.millis.toNat = second.millis.toNat) : first = second := by
  have hpairs : readings.Pairwise fun earlier later ↦
      earlier.millis.toNat = later.millis.toNat → earlier = later :=
    h.1.imp fun hfollows (hsame : _ = _) ↦ Or.resolve_right hfollows (Nat.not_lt_of_ge hsame.ge)
  have : Std.Symm fun earlier later : ClockMillis ↦
      earlier.millis.toNat = later.millis.toNat → earlier = later :=
    ⟨fun _ _ hsame hback ↦ (hsame hback.symm).symm⟩
  exact hpairs.forall_of_forall (fun _ _ _ ↦ rfl) hfirst hsecond htime

/-- A reading that no earlier one is after has been read in one go. -/
theorem burst_eq_count {readings : List ClockMillis} {reading : ClockMillis}
    (hadvances : Advances readings) (hlast : ∀ earlier ∈ readings, Follows earlier reading) :
    burst (callsOf readings) () reading.millis = readings.count reading := by
  induction readings using List.reverseRecOn with
  | nil => rfl
  | append_singleton earlier last ih =>
    obtain ⟨hearlier, hfollows, -⟩ := advances_snoc.mp hadvances
    rw [callsOf_snoc, List.count_append, List.count_singleton]
    by_cases hsame : last = reading
    · subst hsame
      rw [beq_self_eq_true, if_pos rfl, ← ih hearlier hfollows]
      exact burst_snoc_self (callsOf earlier) (UlidCall.mk () last)
    · have hmillis : last.millis ≠ reading.millis := fun h ↦ hsame (clock_ext h)
      have habsent : reading ∉ earlier := by
        intro hmem
        -- the last reading would be both before and after it
        have hback := hfollows reading hmem
        have hforth := hlast last (List.mem_append_right _ (List.mem_singleton_self _))
        rcases hback with rfl | hback
        · exact hsame rfl
        · rcases hforth with rfl | hforth
          · exact hsame rfl
          · exact Nat.lt_asymm hback hforth
      rw [List.count_eq_zero_of_not_mem habsent, beq_eq_false_iff_ne.mpr hsame]
      exact burst_snoc_of_millis_ne (callsOf earlier) hmillis

theorem spaced_of_advances {readings : List ClockMillis} (h : Advances readings) :
    Spaced (callsOf readings) := by
  induction readings using List.reverseRecOn with
  | nil =>
    intro earlier call hpre
    exact absurd (List.prefix_nil.mp hpre)
      (List.append_ne_nil_of_right_ne_nil _ (List.cons_ne_nil _ _))
  | append_singleton earlier last ih =>
    obtain ⟨hearlier, hfollows, hroom⟩ := advances_snoc.mp h
    rw [callsOf_snoc, spaced_snoc]
    refine ⟨ih hearlier, ?_⟩
    have hburst := burst_eq_count hearlier hfollows
    by_cases hmem : last ∈ earlier
    · refine Or.inl ?_
      dsimp only
      rw [hburst]
      exact ⟨List.count_pos_iff.mpr hmem, hroom⟩
    · refine Or.inr fun other hother ↦ ?_
      rcases hfollows other.clock (mem_callsOf.mp hother) with hsame | hbefore
      · exact absurd (hsame ▸ mem_callsOf.mp hother) hmem
      · exact Nat.ne_of_lt hbefore

theorem processUlids_eq (readings : List ClockMillis) :
    processUlids readings = (stamps (callsOf readings)).map ulidOf :=
  issuedUlids_eq (callsOf readings)

theorem processUlids_snoc (readings : List ClockMillis) (reading : ClockMillis) :
    processUlids (readings ++ [reading]) =
      processUlids readings ++ [ulidOf (stamp (callsOf readings) (UlidCall.mk () reading))] := by
  rw [processUlids_eq, callsOf_snoc, stamps_snoc, List.map_append, List.map_singleton,
    ← processUlids_eq]

/-- The identifier of a reading that advances is after those of all earlier ones. -/
theorem lt_of_follows {readings : List ClockMillis} {reading : ClockMillis}
    (hadvances : Advances readings) (hfollows : ∀ earlier ∈ readings, Follows earlier reading)
    (hroom : readings.count reading < 32 ^ 16) {entry : ℕ × ℕ}
    (hentry : entry ∈ stamps (callsOf readings)) :
    ulidOf entry < ulidOf (stamp (callsOf readings) (UlidCall.mk () reading)) := by
  obtain ⟨call, hcall, htime⟩ := exists_of_mem_stamps hentry
  rcases hfollows call.clock (mem_callsOf.mp hcall) with hsame | hbefore
  · have hburst := burst_eq_count hadvances hfollows
    have hpos : 0 < burst (callsOf readings) () reading.millis := by
      rw [hburst]
      exact List.count_pos_iff.mpr (hsame ▸ mem_callsOf.mp hcall)
    rw [hsame] at htime
    have hcounter := (spaced_of_advances hadvances).counter_lt_burst hpos entry hentry htime
    rw [← Prod.mk.eta (p := entry), htime]
    exact ulidOf_lt_of_counter_lt hcounter (hburst ▸ hroom)
  · exact ulidOf_lt_of_time_lt (htime ▸ hbefore) (time_lt (UlidCall.mk () reading))

/-- A reading whose identifier is after those of all earlier ones advances. -/
theorem follows_of_lt {readings : List ClockMillis} {reading : ClockMillis}
    (hadvances : Advances readings)
    (hlast : ∀ entry ∈ stamps (callsOf readings),
      ulidOf entry < ulidOf (stamp (callsOf readings) (UlidCall.mk () reading))) :
    ∀ earlier ∈ readings, Follows earlier reading := by
  intro earlier hearlier
  have hcall : UlidCall.mk () earlier ∈ callsOf readings := mem_callsOf.mpr hearlier
  have hfirst := hlast _ (zero_mem_stamps hcall)
  rcases Nat.lt_trichotomy earlier.millis.toNat reading.millis.toNat with hbefore | hsame | hafter
  · exact Or.inr hbefore
  · -- both are written as one time
    by_cases hburst : burst (callsOf readings) () reading.millis = 0
    · rw [stamp, hburst, hsame] at hfirst
      exact absurd hfirst (lt_irrefl _)
    · obtain ⟨other, hother, -, hread⟩ := mem_of_burst_pos (Nat.pos_of_ne_zero hburst)
      rw [← clock_ext hread] at hsame ⊢
      exact Or.inl (hadvances.eq_of_toNat_eq hearlier (mem_callsOf.mp hother) hsame)
  · exact absurd hfirst (lt_asymm (ulidOf_lt_of_time_lt hafter (time_lt (UlidCall.mk () earlier))))

/-- A reading whose identifier is after those of all earlier ones has a counter with room. -/
theorem count_lt_of_lt {readings : List ClockMillis} {reading : ClockMillis}
    (hadvances : Advances readings)
    (hlast : ∀ entry ∈ stamps (callsOf readings),
      ulidOf entry < ulidOf (stamp (callsOf readings) (UlidCall.mk () reading))) :
    readings.count reading < 32 ^ 16 := by
  have hburst := burst_eq_count hadvances (follows_of_lt hadvances hlast)
  by_contra hfull
  have hcount : readings.count reading = 32 ^ 16 :=
    Nat.le_antisymm (hadvances.2 reading) (Nat.le_of_not_lt hfull)
  rw [hcount] at hburst
  -- the counter without room is written as one that has been used
  have hused : (reading.millis.toNat, 32 ^ 15) ∈ stamps (callsOf readings) :=
    mem_stamps_of_lt_burst (by rw [hburst]; norm_num)
  have hover := hlast _ hused
  rw [stamp, hburst, ulidOf, ulidOf, encodeBase32_overflow] at hover
  exact absurd hover (lt_irrefl _)

/-- The identifiers of one process are distinct and increasing exactly when its clock advances. -/
theorem processUlids_increasing_iff (readings : List ClockMillis) :
    ((processUlids readings).Nodup ∧ (processUlids readings).Pairwise (· < ·)) ↔
      Advances readings := by
  have hdistinct : (processUlids readings).Pairwise (· < ·) → (processUlids readings).Nodup :=
    fun h ↦ h.imp fun hlt ↦ ne_of_lt hlt
  rw [and_iff_right_of_imp hdistinct]
  clear hdistinct
  induction readings using List.reverseRecOn with
  | nil => exact iff_of_true List.Pairwise.nil ⟨List.Pairwise.nil, fun _ ↦ Nat.zero_le _⟩
  | append_singleton earlier last ih =>
    rw [processUlids_snoc, List.pairwise_append, advances_snoc]
    constructor
    · rintro ⟨hpairs, -, hlast⟩
      have hearlier := ih.mp hpairs
      have hentries : ∀ entry ∈ stamps (callsOf earlier),
          ulidOf entry < ulidOf (stamp (callsOf earlier) (UlidCall.mk () last)) := by
        intro entry hentry
        refine hlast _ ?_ _ (List.mem_singleton_self _)
        rw [processUlids_eq]
        exact List.mem_map_of_mem hentry
      exact ⟨hearlier, follows_of_lt hearlier hentries, count_lt_of_lt hearlier hentries⟩
    · rintro ⟨hearlier, hfollows, hroom⟩
      refine ⟨ih.mpr hearlier, List.pairwise_singleton _ _, fun id hid other hother ↦ ?_⟩
      rw [processUlids_eq] at hid
      obtain ⟨entry, hentry, rfl⟩ := List.mem_map.mp hid
      rw [List.mem_singleton.mp hother]
      exact lt_of_follows hearlier hfollows hroom hentry

/-- A clock that is set back by a millisecond and goes on gives one identifier twice. -/
theorem clock_set_back_repeats_id :
    ¬((processUlids [⟨1735689600000, by decide⟩, ⟨1735689599999, by decide⟩,
        ⟨1735689600000, by decide⟩]).Nodup ∧
      (processUlids [⟨1735689600000, by decide⟩, ⟨1735689599999, by decide⟩,
        ⟨1735689600000, by decide⟩]).Pairwise (· < ·)) := by
  rintro ⟨hdistinct, -⟩
  revert hdistinct
  decide +kernel

end SchemaPilot.SharedDomain
