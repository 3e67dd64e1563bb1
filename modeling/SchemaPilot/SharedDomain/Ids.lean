import Mathlib.Data.List.Basic
import Mathlib.Data.List.Infix
import Mathlib.Data.List.Nodup
import Mathlib.Data.Nat.Digits.Lemmas

/-!
# Identifiers

`new_ulid` of `backend/shared_domain/ids.py`, called by several processes that read one clock. Each
process has its own last time and counter, and nothing in an identifier names the process, so the
identifiers of a run of calls are distinct exactly when every process has the milliseconds it calls in to
itself (`nodup_issued_iff`). Times before the epoch are written as the epoch.
-/

namespace SchemaPilot.SharedDomain

/-! ### The text of an identifier -/

/-- `ULID_ALPHABET`. -/
def ulidAlphabet : List Char := "0123456789ABCDEFGHJKMNPQRSTVWXYZ".toList

/-- `ULID_ALPHABET[remainder]`. -/
def ulidChar (remainder : ℕ) : Char := ulidAlphabet.getD remainder '0'

/-- `_encode_base32`. -/
def encodeBase32 (value : ℤ) (length : ℕ) : String :=
  let chars := (Nat.digits 32 value.toNat).map ulidChar
  let encoded := if chars = [] then ['0'] else chars.reverse
  String.ofList ((List.replicate (length - encoded.length) '0' ++ encoded).take length)

/-- The time `datetime.now(tz=dt.UTC)` gives, in milliseconds; a `datetime` ends with the year 9999. -/
structure ClockMillis where
  millis : ℤ
  represented : -62135596800000 ≤ millis ∧ millis ≤ 253402300799999
deriving DecidableEq

/-- `_LAST_ULID_MILLIS` and `_LAST_ULID_COUNTER`. -/
structure UlidState where
  lastMillis : ℤ
  lastCounter : ℤ

/-- The counter of a process that calls at a time. -/
def UlidState.counterAt (state : UlidState) (millis : ℤ) : ℤ :=
  if millis = state.lastMillis then state.lastCounter + 1 else 0

/-- `new_ulid` in a process that reads a time. -/
def newUlidAt (millis : ℤ) (state : UlidState) : String × UlidState :=
  let counter := state.counterAt millis
  (encodeBase32 millis 10 ++ encodeBase32 counter 16, ⟨millis, counter⟩)

/-! ### Calls of several processes -/

section Calls

variable {δ : Type} [DecidableEq δ]

structure UlidCall (δ : Type) where
  process : δ
  clock : ClockMillis

def ulidStart : δ → UlidState := fun _ ↦ ⟨0, -1⟩

def callUlid (states : δ → UlidState) (call : UlidCall δ) : String × (δ → UlidState) :=
  let issued := newUlidAt call.clock.millis (states call.process)
  (issued.1, Function.update states call.process issued.2)

/-- The identifiers of the calls of a run, in order. -/
def issuedFrom (states : δ → UlidState) : List (UlidCall δ) → List String
  | [] => []
  | call :: rest => (callUlid states call).1 :: issuedFrom (callUlid states call).2 rest

/-- The identifiers of a run of calls of processes that have just started. -/
def issuedUlids (run : List (UlidCall δ)) : List String := issuedFrom ulidStart run

/-- How many times a process has called in a millisecond without reading another one since. -/
def burst (earlier : List (UlidCall δ)) (process : δ) (millis : ℤ) : ℕ :=
  ((earlier.filter fun call ↦ call.process = process).reverse.takeWhile fun call ↦
    call.clock.millis = millis).length

/-- A call has its millisecond to itself: the process was the last to call in it and has called less
than `32 ^ 16` times, or nobody has called in it. -/
def OwnMillisecond (earlier : List (UlidCall δ)) (call : UlidCall δ) : Prop :=
  (0 < burst earlier call.process call.clock.millis ∧
    burst earlier call.process call.clock.millis < 32 ^ 16) ∨
  ∀ other ∈ earlier, other.clock.millis.toNat ≠ call.clock.millis.toNat

instance (earlier : List (UlidCall δ)) (call : UlidCall δ) : Decidable (OwnMillisecond earlier call) :=
  inferInstanceAs (Decidable (_ ∨ _))

def Spaced (run : List (UlidCall δ)) : Prop :=
  ∀ earlier call, earlier ++ [call] <+: run → OwnMillisecond earlier call

end Calls

/-! ### Encoded numbers -/

/-- Times before the epoch are written as the epoch. -/
theorem encodeBase32_toNat (value : ℤ) (length : ℕ) :
    encodeBase32 value length = encodeBase32 value.toNat length := by
  unfold encodeBase32
  rw [Int.toNat_natCast]

theorem idxOf_ulidChar {remainder : ℕ} (h : remainder < 32) :
    ulidAlphabet.idxOf (ulidChar remainder) = remainder := by
  have hall : ∀ digit < 32, ulidAlphabet.idxOf (ulidChar digit) = digit := by decide
  exact hall remainder h

/-- The digits of a number with zeros up to a length. -/
def paddedDigits (value length : ℕ) : List ℕ :=
  Nat.digits 32 value ++ List.replicate (length - (Nat.digits 32 value).length) 0

theorem paddedDigits_lt {value length digit : ℕ} (h : digit ∈ paddedDigits value length) :
    digit < 32 := by
  rw [paddedDigits, List.mem_append, List.mem_replicate] at h
  rcases h with h | ⟨-, rfl⟩
  · exact Nat.digits_lt_base (by norm_num) h
  · norm_num

theorem ofDigits_paddedDigits (value length : ℕ) :
    Nat.ofDigits 32 (paddedDigits value length) = value := by
  rw [paddedDigits, Nat.ofDigits_append_replicate_zero, Nat.ofDigits_digits]

/-- A number that has room is written with all its digits. -/
theorem encodeBase32_of_lt {value length : ℕ} (h : value < 32 ^ length) (hlength : 0 < length) :
    encodeBase32 value length =
      String.ofList ((paddedDigits value length).reverse.map ulidChar) := by
  have hfits : (Nat.digits 32 value).length ≤ length :=
    (Nat.digits_length_le_iff (by norm_num) value).mpr h
  unfold encodeBase32 paddedDigits
  rw [Int.toNat_natCast]
  by_cases hzero : value = 0
  · obtain ⟨room, rfl⟩ : ∃ room, length = room + 1 := ⟨length - 1, by omega⟩
    have hchar : ulidChar 0 = '0' := rfl
    rw [hzero, Nat.digits_zero, List.map_nil, List.nil_append, List.reverse_replicate,
      List.map_replicate, hchar]
    simp [← List.replicate_succ']
  · have hdigits : (Nat.digits 32 value).map ulidChar ≠ [] :=
      fun hnil ↦ Nat.digits_ne_nil_iff_ne_zero.mpr hzero (List.map_eq_nil_iff.mp hnil)
    have hchar : ulidChar 0 = '0' := rfl
    dsimp only
    rw [if_neg hdigits, List.length_reverse, List.length_map, List.reverse_append, List.map_append,
      List.reverse_replicate, List.map_replicate, hchar, List.map_reverse, List.take_of_length_le]
    rw [List.length_append, List.length_replicate, List.length_reverse, List.length_map]
    omega

/-- Numbers that have room are written differently. -/
theorem encodeBase32_inj {first second length : ℕ} (hfirst : first < 32 ^ length)
    (hsecond : second < 32 ^ length) (hlength : 0 < length)
    (h : encodeBase32 first length = encodeBase32 second length) : first = second := by
  rw [encodeBase32_of_lt hfirst hlength, encodeBase32_of_lt hsecond hlength] at h
  have htexts := String.ofList_injective h
  have hread : ∀ value, ((paddedDigits value length).reverse.map ulidChar).map
      (ulidAlphabet.idxOf ·) = (paddedDigits value length).reverse := by
    intro value
    rw [List.map_map]
    conv_rhs => rw [← List.map_id (paddedDigits value length).reverse]
    exact List.map_congr_left fun digit hdigit ↦
      idxOf_ulidChar (paddedDigits_lt (List.mem_reverse.mp hdigit))
  have hdigits := List.reverse_injective
    ((hread first).symm.trans ((congrArg _ htexts).trans (hread second)))
  rw [← ofDigits_paddedDigits first length, ← ofDigits_paddedDigits second length, hdigits]

theorem length_encodeBase32 (value : ℤ) (length : ℕ) :
    (encodeBase32 value length).toList.length = length := by
  unfold encodeBase32
  dsimp only
  rw [String.toList_ofList, List.length_take, List.length_append, List.length_replicate]
  omega

/-- A counter one beyond the room is written as one that has room. -/
theorem encodeBase32_overflow :
    encodeBase32 ((32 ^ 16 : ℕ) : ℤ) 16 = encodeBase32 ((32 ^ 15 : ℕ) : ℤ) 16 := by
  decide +kernel

/-! ### The counters of a run -/

section Runs

variable {δ : Type} [DecidableEq δ]

/-- The time of a call as it is written, and its counter. -/
def stamp (earlier : List (UlidCall δ)) (call : UlidCall δ) : ℕ × ℕ :=
  (call.clock.millis.toNat, burst earlier call.process call.clock.millis)

/-- The stamps of the calls of a run, the calls before them being known. -/
def stampsFrom (earlier : List (UlidCall δ)) : List (UlidCall δ) → List (ℕ × ℕ)
  | [] => []
  | call :: rest => stamp earlier call :: stampsFrom (earlier ++ [call]) rest

def stamps (run : List (UlidCall δ)) : List (ℕ × ℕ) := stampsFrom [] run

def ulidOf (entry : ℕ × ℕ) : String := encodeBase32 entry.1 10 ++ encodeBase32 entry.2 16

theorem burst_snoc_self (earlier : List (UlidCall δ)) (call : UlidCall δ) :
    burst (earlier ++ [call]) call.process call.clock.millis =
      burst earlier call.process call.clock.millis + 1 := by
  simp [burst, List.filter_append]

theorem burst_snoc_of_millis_ne (earlier : List (UlidCall δ)) {call : UlidCall δ} {millis : ℤ}
    (h : call.clock.millis ≠ millis) : burst (earlier ++ [call]) call.process millis = 0 := by
  simp [burst, List.filter_append, h]

theorem burst_snoc_of_process_ne (earlier : List (UlidCall δ)) {call : UlidCall δ} {process : δ}
    (h : call.process ≠ process) (millis : ℤ) :
    burst (earlier ++ [call]) process millis = burst earlier process millis := by
  simp [burst, List.filter_append, h]

theorem mem_of_burst_pos {earlier : List (UlidCall δ)} {process : δ} {millis : ℤ}
    (h : 0 < burst earlier process millis) :
    ∃ call ∈ earlier, call.process = process ∧ call.clock.millis = millis := by
  obtain ⟨call, hcall⟩ := List.exists_mem_of_length_pos h
  have hmem := (List.takeWhile_sublist _).subset hcall
  rw [List.mem_reverse, List.mem_filter] at hmem
  exact ⟨call, hmem.1, of_decide_eq_true hmem.2, of_decide_eq_true (List.all_eq_true.mp List.all_takeWhile call hcall)⟩

theorem stampsFrom_snoc (call : UlidCall δ) : ∀ (rest earlier : List (UlidCall δ)),
    stampsFrom earlier (rest ++ [call]) = stampsFrom earlier rest ++ [stamp (earlier ++ rest) call]
  | [], earlier => by simp [stampsFrom]
  | first :: rest, earlier => by
    rw [List.cons_append, stampsFrom, stampsFrom, stampsFrom_snoc call rest, List.append_assoc,
      List.singleton_append, List.cons_append]

theorem stamps_snoc (earlier : List (UlidCall δ)) (call : UlidCall δ) :
    stamps (earlier ++ [call]) = stamps earlier ++ [stamp earlier call] := by
  rw [stamps, stampsFrom_snoc, List.nil_append, stamps]

/-- A stamp holds the time of a call. -/
theorem exists_of_mem_stamps {run : List (UlidCall δ)} {entry : ℕ × ℕ} (h : entry ∈ stamps run) :
    ∃ call ∈ run, entry.1 = call.clock.millis.toNat := by
  induction run using List.reverseRecOn with
  | nil => exact absurd h List.not_mem_nil
  | append_singleton earlier last ih =>
    rw [stamps_snoc, List.mem_append, List.mem_singleton] at h
    rcases h with h | rfl
    · obtain ⟨call, hcall, htime⟩ := ih h
      exact ⟨call, List.mem_append_left _ hcall, htime⟩
    · exact ⟨last, List.mem_append_right _ (List.mem_singleton_self _), rfl⟩

theorem not_mem_stamps_of_free {earlier : List (UlidCall δ)} {millis : ℤ}
    (h : ∀ other ∈ earlier, other.clock.millis.toNat ≠ millis.toNat) {entry : ℕ × ℕ}
    (htime : entry.1 = millis.toNat) : entry ∉ stamps earlier := by
  intro hentry
  obtain ⟨call, hcall, hsame⟩ := exists_of_mem_stamps hentry
  exact h call hcall (hsame.symm.trans htime)

omit [DecidableEq δ] in
/-- A time a `datetime` can have has room in ten digits. -/
theorem time_lt (call : UlidCall δ) : call.clock.millis.toNat < 32 ^ 10 := by
  have h := call.clock.represented.2
  omega

theorem OwnMillisecond.counter_lt {earlier : List (UlidCall δ)} {call : UlidCall δ}
    (h : OwnMillisecond earlier call) : burst earlier call.process call.clock.millis < 32 ^ 16 := by
  rcases h with ⟨-, hroom⟩ | hfree
  · exact hroom
  · by_cases hburst : burst earlier call.process call.clock.millis = 0
    · rw [hburst]
      norm_num
    · obtain ⟨other, hother, -, hread⟩ := mem_of_burst_pos (Nat.pos_of_ne_zero hburst)
      exact absurd (by rw [hread]) (hfree other hother)

/-- The state of a process after some calls gives the counter of its next one. -/
def Tracks (states : δ → UlidState) (earlier : List (UlidCall δ)) : Prop :=
  ∀ process millis, (states process).counterAt millis = burst earlier process millis

theorem tracks_ulidStart : Tracks (ulidStart (δ := δ)) [] := by
  intro process millis
  simp [ulidStart, UlidState.counterAt, burst]

theorem Tracks.call {states : δ → UlidState} {earlier : List (UlidCall δ)}
    (h : Tracks states earlier) (call : UlidCall δ) :
    Tracks (callUlid states call).2 (earlier ++ [call]) := by
  intro process millis
  by_cases hprocess : call.process = process
  · subst hprocess
    simp only [callUlid, newUlidAt, Function.update_self]
    by_cases hmillis : call.clock.millis = millis
    · subst hmillis
      rw [burst_snoc_self, UlidState.counterAt, if_pos rfl, h]
      push_cast
      rfl
    · rw [burst_snoc_of_millis_ne earlier hmillis, UlidState.counterAt, if_neg (Ne.symm hmillis)]
      rfl
  · rw [burst_snoc_of_process_ne earlier hprocess, ← h process millis]
    simp only [callUlid, Function.update_of_ne (Ne.symm hprocess)]

theorem issuedFrom_eq {states : δ → UlidState} {earlier run : List (UlidCall δ)}
    (h : Tracks states earlier) : issuedFrom states run = (stampsFrom earlier run).map ulidOf := by
  induction run generalizing states earlier with
  | nil => rfl
  | cons call rest ih =>
    have hcall : (callUlid states call).1 = ulidOf (stamp earlier call) := by
      rw [ulidOf, stamp, ← h call.process call.clock.millis, ← encodeBase32_toNat]
      rfl
    rw [issuedFrom, stampsFrom, List.map_cons, ih (h.call call), hcall]

theorem issuedUlids_eq (run : List (UlidCall δ)) : issuedUlids run = (stamps run).map ulidOf :=
  issuedFrom_eq tracks_ulidStart

/-! ### Distinct identifiers -/

theorem mem_stamps_of_lt_burst {process : δ} {millis : ℤ} {counter : ℕ}
    {earlier : List (UlidCall δ)} (h : counter < burst earlier process millis) :
    (millis.toNat, counter) ∈ stamps earlier := by
  induction earlier using List.reverseRecOn with
  | nil => exact absurd h (Nat.not_lt_zero _)
  | append_singleton earlier call ih =>
    rw [stamps_snoc, List.mem_append]
    by_cases hprocess : call.process = process
    · subst hprocess
      by_cases hmillis : call.clock.millis = millis
      · subst hmillis
        rw [burst_snoc_self, Nat.lt_succ_iff_lt_or_eq] at h
        rcases h with h | rfl
        · exact Or.inl (ih h)
        · exact Or.inr (List.mem_singleton_self _)
      · rw [burst_snoc_of_millis_ne earlier hmillis] at h
        exact absurd h (Nat.not_lt_zero _)
    · rw [burst_snoc_of_process_ne earlier hprocess] at h
      exact Or.inl (ih h)

/-- In a millisecond somebody has called in, the first counter is taken. -/
theorem zero_mem_stamps {call : UlidCall δ} {earlier : List (UlidCall δ)} (h : call ∈ earlier) :
    (call.clock.millis.toNat, 0) ∈ stamps earlier := by
  induction earlier using List.reverseRecOn with
  | nil => exact absurd h List.not_mem_nil
  | append_singleton earlier last ih =>
    rw [stamps_snoc, List.mem_append]
    rw [List.mem_append, List.mem_singleton] at h
    rcases h with h | rfl
    · exact Or.inl (ih h)
    · by_cases hburst : burst earlier call.process call.clock.millis = 0
      · exact Or.inr (by rw [stamp, hburst]; exact List.mem_singleton_self _)
      · exact Or.inl (mem_stamps_of_lt_burst (Nat.pos_of_ne_zero hburst))

theorem spaced_snoc {earlier : List (UlidCall δ)} {call : UlidCall δ} :
    Spaced (earlier ++ [call]) ↔ Spaced earlier ∧ OwnMillisecond earlier call := by
  constructor
  · intro h
    exact ⟨fun before other hpre ↦ h before other (hpre.trans (List.prefix_append _ _)),
      h earlier call (List.prefix_refl _)⟩
  · rintro ⟨hearlier, hcall⟩ before other hpre
    rcases List.prefix_concat_iff.mp hpre with heq | hpre
    · obtain ⟨rfl, hlast⟩ := List.append_inj' heq rfl
      rw [List.singleton_inj.mp hlast]
      exact hcall
    · exact hearlier before other hpre

/-- Where each call has its millisecond to itself, the millisecond of a burst belongs to its process. -/
theorem Spaced.owner {earlier : List (UlidCall δ)} (h : Spaced earlier) :
    ∀ {process : δ} {millis : ℤ}, 0 < burst earlier process millis → ∀ call ∈ earlier,
      call.clock.millis.toNat = millis.toNat →
        call.process = process ∧ call.clock.millis = millis := by
  induction earlier using List.reverseRecOn with
  | nil => exact fun _ call hcall ↦ absurd hcall List.not_mem_nil
  | append_singleton earlier last ih =>
    obtain ⟨hearlier, hlast⟩ := spaced_snoc.mp h
    intro process millis hburst call hcall htime
    rw [List.mem_append, List.mem_singleton] at hcall
    by_cases hprocess : last.process = process
    · subst hprocess
      by_cases hmillis : last.clock.millis = millis
      · subst hmillis
        rcases hcall with hcall | rfl
        · rcases hlast with ⟨hpos, -⟩ | hfree
          · exact ih hearlier hpos call hcall htime
          · exact absurd htime (hfree call hcall)
        · exact ⟨rfl, rfl⟩
      · rw [burst_snoc_of_millis_ne earlier hmillis] at hburst
        exact absurd hburst (Nat.lt_irrefl _)
    · rw [burst_snoc_of_process_ne earlier hprocess] at hburst
      rcases hcall with hcall | rfl
      · exact ih hearlier hburst call hcall htime
      · -- the last call would share the millisecond of another process
        obtain ⟨other, hother, howner, hread⟩ := mem_of_burst_pos hburst
        rcases hlast with ⟨hpos, -⟩ | hfree
        · have hsame := ih hearlier hpos other hother (by rw [hread, htime])
          exact absurd (hsame.1.symm.trans howner) hprocess
        · exact absurd (by rw [hread, htime]) (hfree other hother)

/-- The counters of the millisecond of a burst are below the next one. -/
theorem Spaced.counter_lt_burst {earlier : List (UlidCall δ)} (h : Spaced earlier) :
    ∀ {process : δ} {millis : ℤ}, 0 < burst earlier process millis → ∀ entry ∈ stamps earlier,
      entry.1 = millis.toNat → entry.2 < burst earlier process millis := by
  induction earlier using List.reverseRecOn with
  | nil => exact fun _ entry hentry ↦ absurd hentry List.not_mem_nil
  | append_singleton earlier last ih =>
    obtain ⟨hearlier, hlast⟩ := spaced_snoc.mp h
    intro process millis hburst entry hentry htime
    rw [stamps_snoc, List.mem_append, List.mem_singleton] at hentry
    by_cases hsame : last.process = process ∧ last.clock.millis = millis
    · obtain ⟨rfl, rfl⟩ := hsame
      rw [burst_snoc_self]
      rcases hentry with hentry | rfl
      · rcases hlast with ⟨hpos, -⟩ | hfree
        · exact Nat.lt_succ_of_lt (ih hearlier hpos entry hentry htime)
        · exact absurd hentry (not_mem_stamps_of_free hfree htime)
      · exact Nat.lt_succ_self _
    · have hprocess : last.process ≠ process := by
        intro hprocess
        subst hprocess
        rw [burst_snoc_of_millis_ne earlier fun hmillis ↦ hsame ⟨rfl, hmillis⟩] at hburst
        exact absurd hburst (Nat.lt_irrefl _)
      rcases hentry with hentry | rfl
      · rw [burst_snoc_of_process_ne earlier hprocess] at hburst ⊢
        exact ih hearlier hburst entry hentry htime
      · exact absurd (h.owner hburst last (List.mem_append_right _ (List.mem_singleton_self _)) htime)
          hsame

/-- The counters of a run whose calls have their milliseconds to themselves have room. -/
theorem Spaced.counter_lt {earlier : List (UlidCall δ)} (h : Spaced earlier) :
    ∀ entry ∈ stamps earlier, entry.2 < 32 ^ 16 := by
  induction earlier using List.reverseRecOn with
  | nil => exact fun entry hentry ↦ absurd hentry List.not_mem_nil
  | append_singleton earlier last ih =>
    obtain ⟨hearlier, hlast⟩ := spaced_snoc.mp h
    intro entry hentry
    rw [stamps_snoc, List.mem_append, List.mem_singleton] at hentry
    rcases hentry with hentry | rfl
    · exact ih hearlier entry hentry
    · exact hlast.counter_lt

theorem time_lt_of_mem_stamps {run : List (UlidCall δ)} {entry : ℕ × ℕ} (h : entry ∈ stamps run) :
    entry.1 < 32 ^ 10 := by
  obtain ⟨call, -, hcall⟩ := exists_of_mem_stamps h
  rw [hcall]
  exact time_lt call

/-- Stamps that have room are told apart by their identifiers. -/
theorem ulidOf_inj {first second : ℕ × ℕ} (hfirst : first.1 < 32 ^ 10 ∧ first.2 < 32 ^ 16)
    (hsecond : second.1 < 32 ^ 10 ∧ second.2 < 32 ^ 16) (h : ulidOf first = ulidOf second) :
    first = second := by
  have hlists := congrArg String.toList h
  rw [ulidOf, ulidOf, String.toList_append, String.toList_append] at hlists
  have hlengths : (encodeBase32 first.1 10).toList.length =
      (encodeBase32 second.1 10).toList.length := by
    rw [length_encodeBase32, length_encodeBase32]
  obtain ⟨htime, hcounter⟩ := List.append_inj hlists hlengths
  ext
  · exact encodeBase32_inj hfirst.1 hsecond.1 (by norm_num) (String.toList_injective htime)
  · exact encodeBase32_inj hfirst.2 hsecond.2 (by norm_num) (String.toList_injective hcounter)

/-- After calls that had their milliseconds to themselves, a call gets a new identifier exactly when it
has its millisecond to itself. -/
theorem Spaced.not_mem_iff {earlier : List (UlidCall δ)} (h : Spaced earlier) (call : UlidCall δ) :
    ulidOf (stamp earlier call) ∉ (stamps earlier).map ulidOf ↔ OwnMillisecond earlier call := by
  constructor
  · intro hnew
    by_contra hshared
    rw [OwnMillisecond, not_or, not_and, not_lt, not_forall] at hshared
    obtain ⟨hfull, other, hother⟩ := hshared
    rw [Classical.not_imp, not_not] at hother
    by_cases hburst : burst earlier call.process call.clock.millis = 0
    · refine hnew (List.mem_map.mpr ⟨_, zero_mem_stamps hother.1, ?_⟩)
      rw [stamp, hburst, hother.2]
    · have hroom := hfull (Nat.pos_of_ne_zero hburst)
      have hlast : ¬32 ^ 16 < burst earlier call.process call.clock.millis := fun hover ↦
        absurd (h.counter_lt _ (mem_stamps_of_lt_burst hover)) (Nat.lt_irrefl _)
      have heq : burst earlier call.process call.clock.millis = 32 ^ 16 := by omega
      have hbelow : 32 ^ 15 < burst earlier call.process call.clock.millis := by
        rw [heq]
        norm_num
      refine hnew (List.mem_map.mpr ⟨_, mem_stamps_of_lt_burst hbelow, ?_⟩)
      rw [stamp, heq, ulidOf, ulidOf, encodeBase32_overflow]
  · intro hown hold
    obtain ⟨entry, hentry, hsame⟩ := List.mem_map.mp hold
    have heq := ulidOf_inj ⟨time_lt_of_mem_stamps hentry, h.counter_lt entry hentry⟩
      ⟨time_lt call, hown.counter_lt⟩ hsame
    rcases hown with ⟨hpos, -⟩ | hfree
    · have hlt := h.counter_lt_burst hpos entry hentry (by rw [heq, stamp])
      rw [heq, stamp] at hlt
      exact absurd hlt (Nat.lt_irrefl _)
    · exact not_mem_stamps_of_free hfree (by rw [heq, stamp]) hentry

/-- The identifiers of a run of calls are distinct exactly when every call has its millisecond to
itself. -/
theorem nodup_issued_iff (run : List (UlidCall δ)) : (issuedUlids run).Nodup ↔ Spaced run := by
  rw [issuedUlids_eq]
  induction run using List.reverseRecOn with
  | nil =>
    refine iff_of_true List.nodup_nil fun earlier call h ↦ ?_
    exact absurd (List.prefix_nil.mp h) (List.append_ne_nil_of_right_ne_nil _ (List.cons_ne_nil _ _))
  | append_singleton earlier call ih =>
    rw [stamps_snoc, List.map_append, List.map_singleton, spaced_snoc, ← ih]
    constructor
    · intro h
      obtain ⟨hearlier, -, hnew⟩ := List.nodup_append.mp h
      refine ⟨hearlier, ((ih.mp hearlier).not_mem_iff call).mp fun hold ↦ ?_⟩
      exact hnew _ hold _ (List.mem_singleton_self _) rfl
    · rintro ⟨hearlier, hown⟩
      refine List.nodup_append.mpr ⟨hearlier, List.nodup_singleton _, fun id hid other hother ↦ ?_⟩
      rw [List.mem_singleton.mp hother]
      rintro rfl
      exact ((ih.mp hearlier).not_mem_iff call).mpr hown hid

end Runs

theorem gateway_and_worker_collide :
    ¬(issuedUlids [UlidCall.mk "gateway" ⟨1735689600000, by decide⟩,
      UlidCall.mk "worker" ⟨1735689600000, by decide⟩]).Nodup := by
  decide +kernel

end SchemaPilot.SharedDomain
