import SchemaPilot.Library.Except
import SchemaPilot.Library.FixedPoint
import SchemaPilot.Workers.Connectors

/-!
# The order of connector cursors

`next_cursor_from_discovery_rows` of `backend/shared_domain/connector_state.py` writes the time of a row with
twenty characters and compares texts. The cursor never goes back, and the keys of two rows are in the order of
their times and paths exactly when signs and widths allow it (`cursorOrdered_iff`): behind a minus sign texts
are in the reverse order, and a time with more than sixteen whole digits is compared by the first of them.
-/

namespace SchemaPilot.Workers

open Library Library.Text Library.Json Library.Double SharedDomain

/-- `float` of a number of a row. -/
def numberOf : Json → Except Exn Double
  | .bool value => .ok (.finite false (if value then 1 else 0))
  | .int value =>
    match Double.ofInt? value with
    | some mtime => .ok mtime
    | none => .error (.other "int too large to convert to float")
  | .float value => .ok ((floatLiteral? value.text).elim .zero Double.ofLiteral)
  | .special .nan => .ok .nan
  | .special .infinity => .ok (.infinity false)
  | .special .negativeInfinity => .ok (.infinity true)
  | _ => .ok .zero

def mtimeOf (row : Fields) : Except Exn Double := numberOf (getD row "mtime_epoch" .null)

def cursorKey (mtime : Double) (row : Fields) : String :=
  String.ofList (mtime.fixedText 20 3) ++ ":" ++ rowPath row

def candidateOf (row : Fields) : Except Exn String := do
  let mtime ← mtimeOf row
  return cursorKey mtime row

/-- `next_cursor_from_discovery_rows`, on rows. -/
def nextCursor (rows : List Fields) (previousCursor : Option String) : Except Exn String := do
  let candidates ← rows.mapM candidateOf
  let previous := previousCursor.getD ""
  return (candidates ++ if previous ≠ "" then [previous] else []).max?.getD previous

def rowOf (file : DiscoveredFile) : Fields :=
  [("path", .str file.path), ("mtime_epoch", file.mtimeEpoch)]

def fixedMtime (mtime : Json) : String :=
  match numberOf mtime with
  | .ok mtime => String.ofList (mtime.fixedText 20 3)
  | .error _ => ""

theorem nextCursor_rowOf {files : List DiscoveredFile} (previous : String)
    (h : ∀ file ∈ files, ∃ mtime, numberOf file.mtimeEpoch = .ok mtime) :
    nextCursor (files.map rowOf) (some previous) =
      .ok (nextCursorFromDiscoveryRows fixedMtime files previous) := by
  have hcandidates : (files.map rowOf).mapM candidateOf =
      .ok (files.map (orderKey fixedMtime)) := by
    rw [mapM_eq_ok_iff, List.forall₂_map_left_iff, List.forall₂_map_right_iff, List.forall₂_same]
    intro file hfile
    obtain ⟨mtime, hmtime⟩ := h file hfile
    have hrow : mtimeOf (rowOf file) = .ok mtime := hmtime
    rw [candidateOf, hrow, ok_bind, orderKey, fixedMtime, hmtime]
    rfl
  rw [nextCursor, hcandidates]
  rfl

/-- A finite time as a key shows it: its sign, and its milliseconds. -/
structure ShownTime where
  negative : Bool
  millis : ℕ

namespace ShownTime

def whole (time : ShownTime) : ℕ := time.millis / 1000

/-- The digits before the point: sixteen, one less behind a minus sign, or as many as there are. -/
def width (time : ShownTime) : ℕ := wholeWidth 20 3 time.negative time.millis

def value (time : ShownTime) : ℤ := if time.negative then -time.millis else time.millis

/-- As many leading digits of the whole seconds as another time has digits. -/
def leading (time other : ShownTime) : ℕ := time.whole / 10 ^ (time.width - other.width)

end ShownTime

def Shows (row : Fields) (time : ShownTime) : Prop :=
  ∃ magnitude, mtimeOf row = .ok (.finite time.negative magnitude) ∧
    time.millis = roundHalfEven (magnitude * 1000)

def Precedes (first second : ShownTime) (firstPath secondPath : String) : Prop :=
  first.value < second.value ∨ first.value = second.value ∧ firstPath < secondPath

/-- Two times with paths are written in their order. Of two times without a sign, the shorter one is no more
than the leading digits of the other; two times with a sign are the same, or the shorter one is more than
these; and of one with a sign and one without, both zero, the path of the first comes first. -/
def WrittenInOrder (first second : ShownTime) (firstPath secondPath : String) : Prop :=
  match first.negative, second.negative with
  | false, false => (first.width < second.width → first.whole ≤ second.leading first) ∧
      (second.width < first.width → second.whole ≤ first.leading second)
  | true, true => first.millis = second.millis ∨
      (first.width < second.width ∧ second.leading first < first.whole) ∨
      (second.width < first.width ∧ first.leading second < second.whole)
  | true, false => first.millis = 0 → second.millis = 0 → firstPath < secondPath
  | false, true => first.millis = 0 → second.millis = 0 → secondPath < firstPath

/-- The cursor does not go back, and keys are in the order of times and paths. -/
def CursorOrdered (rows : List Fields) (previousCursor : Option String) : Prop :=
  (∃ next, nextCursor rows previousCursor = .ok next ∧ previousCursor.getD "" ≤ next) ∧
    ∀ first ∈ rows, ∀ second ∈ rows, ∀ firstTime secondTime,
      Shows first firstTime → Shows second secondTime →
        ∀ firstKey secondKey, candidateOf first = .ok firstKey → candidateOf second = .ok secondKey →
          ((firstKey < secondKey ↔ Precedes firstTime secondTime (rowPath first) (rowPath second)) ∧
            (secondKey < firstKey ↔ Precedes secondTime firstTime (rowPath second) (rowPath first)))

def shownKey (time : ShownTime) (path : String) : List Char :=
  zeroFilled 20 time.negative (fixedBody 3 time.millis) ++ ':' :: path.toList

theorem candidateOf_eq {row : Fields} {mtime : Double} (h : mtimeOf row = .ok mtime) :
    candidateOf row = .ok (cursorKey mtime row) := by
  rw [candidateOf, h, ok_bind]
  rfl

theorem toList_candidate {row : Fields} {time : ShownTime} (h : Shows row time) {key : String}
    (hkey : candidateOf row = .ok key) : key.toList = shownKey time (rowPath row) := by
  obtain ⟨magnitude, hmtime, hmillis⟩ := h
  rw [candidateOf_eq hmtime] at hkey
  cases hkey
  rw [cursorKey, Double.fixedText, shownKey, hmillis, String.toList_append, String.toList_append,
    String.toList_ofList, List.append_assoc]
  norm_num
  rfl

section Keys

variable {first second : ShownTime} {firstPath secondPath : String}

theorem shownKey_eq (time : ShownTime) (path : String) :
    shownKey time path = (if time.negative then ['-'] else []) ++
      (DecimalText.unsignedText time.width 3 time.millis ++ ':' :: path.toList) := by
  rw [shownKey, zeroFilled_fixedBody, List.append_assoc]
  rfl

theorem path_lt_iff : (':' :: firstPath.toList < ':' :: secondPath.toList) ↔ firstPath < secondPath := by
  rw [List.cons_lt_cons_iff, String.lt_iff_toList_lt]
  simp

/-- Times of one sign and width are in the order of their milliseconds. -/
theorem shownKey_lt_iff (hsign : first.negative = second.negative) (hwidth : first.width = second.width) :
    shownKey first firstPath < shownKey second secondPath ↔
      first.millis < second.millis ∨ first.millis = second.millis ∧ firstPath < secondPath := by
  have hfirst : first.millis / 10 ^ 3 < 10 ^ first.width := whole_lt_pow_wholeWidth _ _ _ _
  have hsecond : second.millis / 10 ^ 3 < 10 ^ second.width := whole_lt_pow_wholeWidth _ _ _ _
  rw [shownKey_eq, shownKey_eq, hsign, append_lt_append_iff_of_length_eq rfl, ← hwidth]
  rw [← hwidth] at hsecond
  rw [DecimalText.unsigned_lt_iff hfirst hsecond, path_lt_iff]
  simp

/-- Of times of one sign, the first digits of the longer one are compared with the shorter one. -/
theorem shownKey_lt_of_width_lt (hsign : first.negative = second.negative)
    (hwidth : first.width < second.width) :
    (shownKey first firstPath < shownKey second secondPath ↔ first.whole ≤ second.leading first) ∧
      (shownKey second secondPath < shownKey first firstPath ↔ second.leading first < first.whole) ∧
      first.millis < second.millis := by
  have hfirst : first.millis / 10 ^ 3 < 10 ^ first.width := whole_lt_pow_wholeWidth _ _ _ _
  have hsecond : second.millis / 10 ^ 3 < 10 ^ second.width := whole_lt_pow_wholeWidth _ _ _ _
  obtain ⟨more, hmore⟩ := Nat.exists_eq_add_of_lt hwidth
  rw [Nat.add_assoc] at hmore
  rw [hmore] at hsecond
  have horder := fun tail tail' ↦ @DecimalText.unsigned_lt_of_width_lt _ _ _ _ tail tail' _
    (Nat.succ_pos more) hfirst hsecond
  have hleading : second.leading first = second.millis / 10 ^ 3 / 10 ^ (more + 1) := by
    rw [ShownTime.leading, hmore, Nat.add_sub_cancel_left]
    rfl
  have hmillis : first.millis < second.millis := by
    have hwhole := hwidth
    rw [ShownTime.width, ShownTime.width, ← hsign] at hwhole
    exact lt_of_wholeWidth_lt hwhole
  refine ⟨?_, ?_, hmillis⟩
  · rw [shownKey_eq, shownKey_eq, hsign, append_lt_append_iff_of_length_eq rfl, hmore, (horder _ _).1,
      hleading]
    simp [ShownTime.whole]
  · rw [shownKey_eq, shownKey_eq, hsign, append_lt_append_iff_of_length_eq rfl, hmore, (horder _ _).2,
      hleading]
    simp [ShownTime.whole]

/-- A minus sign stands before every digit. -/
theorem shownKey_lt_of_sign (hfirst : first.negative = true) (hsecond : second.negative = false) :
    shownKey first firstPath < shownKey second secondPath := by
  have hpos : 0 < second.width := (List.length_pos_iff.mpr Nat.toDigits_ne_nil).trans_le (le_max_right _ _)
  obtain ⟨digit, others, hdigits⟩ := List.exists_cons_of_length_pos
    ((DecimalText.length_paddedDigits second.width (second.millis / 10 ^ 3)).symm ▸ hpos)
  have hdigit : digit.isDigit = true :=
    DecimalText.isDigit_of_mem_paddedDigits (hdigits ▸ List.mem_cons_self)
  have hminus : '-' < digit := by
    rw [Char.isDigit, Bool.and_eq_true, decide_eq_true_iff, decide_eq_true_iff] at hdigit
    exact lt_of_lt_of_le (by decide) hdigit.1
  rw [shownKey_eq, shownKey_eq, hfirst, hsecond, DecimalText.unsignedText.eq_1 second.width, hdigits]
  exact List.cons_lt_cons_iff.mpr (Or.inl hminus)

theorem value_of_not_negative {time : ShownTime} (h : time.negative = false) :
    time.value = time.millis := by
  rw [ShownTime.value, h]
  rfl

theorem value_of_negative {time : ShownTime} (h : time.negative = true) :
    time.value = -time.millis := by
  rw [ShownTime.value, h]
  rfl

/-- The keys of two rows are in the order of their times and paths. -/
def KeysOrdered (first second : ShownTime) (firstPath secondPath : String) : Prop :=
  (shownKey first firstPath < shownKey second secondPath ↔
      Precedes first second firstPath secondPath) ∧
    (shownKey second secondPath < shownKey first firstPath ↔
      Precedes second first secondPath firstPath)

theorem writtenInOrder_comm :
    WrittenInOrder first second firstPath secondPath ↔
      WrittenInOrder second first secondPath firstPath := by
  rw [WrittenInOrder, WrittenInOrder]
  cases first.negative <;> cases second.negative
  · exact and_comm
  · exact forall_comm
  · exact forall_comm
  · exact or_congr eq_comm or_comm

theorem keysOrdered_of_width_eq (hsign : first.negative = second.negative)
    (hwidth : first.width = second.width) :
    KeysOrdered first second firstPath secondPath ↔
      WrittenInOrder first second firstPath secondPath := by
  rw [KeysOrdered, shownKey_lt_iff hsign hwidth, shownKey_lt_iff hsign.symm hwidth.symm, Precedes,
    Precedes, WrittenInOrder]
  cases hfirst : first.negative with
  | false =>
    rw [hfirst] at hsign
    rw [← hsign, value_of_not_negative hfirst, value_of_not_negative hsign.symm, hwidth]
    simp only [Nat.cast_lt, Nat.cast_inj, lt_irrefl, false_implies, and_self]
  | true =>
    rw [hfirst] at hsign
    rw [← hsign, value_of_negative hfirst, value_of_negative hsign.symm, hwidth]
    simp only [neg_lt_neg_iff, neg_inj, Nat.cast_lt, Nat.cast_inj, lt_irrefl, false_and, or_false]
    constructor
    · rintro ⟨h, -⟩
      by_contra hne
      rcases Nat.lt_or_gt_of_ne hne with hlt | hlt
      · rcases h.mp (Or.inl hlt) with hother | ⟨hother, -⟩ <;> omega
      · rcases h.mpr (Or.inl hlt) with hother | ⟨hother, -⟩ <;> omega
    · intro hsame
      simp only [hsame, lt_irrefl, false_or, true_and, and_self]

theorem keysOrdered_of_width_lt (hsign : first.negative = second.negative)
    (hwidth : first.width < second.width) :
    KeysOrdered first second firstPath secondPath ↔
      WrittenInOrder first second firstPath secondPath := by
  obtain ⟨hlt, hgt, hmillis⟩ :=
    @shownKey_lt_of_width_lt first second firstPath secondPath hsign hwidth
  have hback : ¬second.width < first.width := lt_asymm hwidth
  rw [KeysOrdered, hlt, hgt, Precedes, Precedes, WrittenInOrder]
  cases hfirst : first.negative with
  | false =>
    rw [hfirst] at hsign
    rw [← hsign, value_of_not_negative hfirst, value_of_not_negative hsign.symm]
    have hvalue : (first.millis : ℤ) < second.millis := Nat.cast_lt.mpr hmillis
    simp only [hvalue, hvalue.ne', lt_asymm hvalue, hwidth, hback, true_or, iff_true, false_and,
      or_false, iff_false, not_lt, and_self, true_implies, false_implies, and_true]
  | true =>
    rw [hfirst] at hsign
    rw [← hsign, value_of_negative hfirst, value_of_negative hsign.symm]
    have hvalue : -(second.millis : ℤ) < -first.millis := neg_lt_neg (Nat.cast_lt.mpr hmillis)
    simp only [hvalue, hvalue.ne', lt_asymm hvalue, hwidth, hback, hmillis.ne, true_or, iff_true,
      false_and, false_or, or_false, iff_false, not_le, and_self, true_and]

theorem keysOrdered_of_sign (hfirst : first.negative = true) (hsecond : second.negative = false) :
    KeysOrdered first second firstPath secondPath ↔
      WrittenInOrder first second firstPath secondPath := by
  have hlt : shownKey first firstPath < shownKey second secondPath :=
    shownKey_lt_of_sign hfirst hsecond
  rw [KeysOrdered, iff_true_left hlt, iff_false_left (lt_asymm hlt), Precedes, Precedes,
    value_of_negative hfirst, value_of_not_negative hsecond, WrittenInOrder, hfirst, hsecond]
  dsimp only
  constructor
  · rintro ⟨hprecedes, -⟩ hfirstZero hsecondZero
    rcases hprecedes with hvalue | ⟨-, hpath⟩
    · omega
    · exact hpath
  · intro hpath
    by_cases hzero : first.millis = 0 ∧ second.millis = 0
    · have hbefore := hpath hzero.1 hzero.2
      rw [hzero.1, hzero.2]
      exact ⟨Or.inr ⟨rfl, hbefore⟩, by simp [lt_asymm hbefore]⟩
    · exact ⟨Or.inl (by omega), by omega⟩

theorem keysOrdered_iff :
    KeysOrdered first second firstPath secondPath ↔
      WrittenInOrder first second firstPath secondPath := by
  have hcomm : KeysOrdered first second firstPath secondPath ↔
      KeysOrdered second first secondPath firstPath := and_comm
  by_cases hsign : first.negative = second.negative
  · rcases Nat.lt_trichotomy first.width second.width with hwidth | hwidth | hwidth
    · exact keysOrdered_of_width_lt hsign hwidth
    · exact keysOrdered_of_width_eq hsign hwidth
    · rw [hcomm, writtenInOrder_comm]
      exact keysOrdered_of_width_lt hsign.symm hwidth
  · cases hfirst : first.negative with
    | true => exact keysOrdered_of_sign hfirst (by rw [hfirst] at hsign; simpa using hsign)
    | false =>
      rw [hcomm, writtenInOrder_comm]
      exact keysOrdered_of_sign (by rw [hfirst] at hsign; simpa using hsign) hfirst

end Keys

/-- No whole number of a row is too large for a float, and the finite times of any two rows are written in
their order. -/
def WritesInOrder (rows : List Fields) : Prop :=
  (∀ row ∈ rows, ∀ value, getD row "mtime_epoch" .null = .int value → ¬Overflows value.natAbs 0) ∧
    ∀ first ∈ rows, ∀ second ∈ rows, ∀ firstTime secondTime,
      Shows first firstTime → Shows second secondTime →
        WrittenInOrder firstTime secondTime (rowPath first) (rowPath second)

/-- A row has a time unless its whole number is too large for a float. -/
theorem exists_mtimeOf_iff (row : Fields) : (∃ mtime, mtimeOf row = .ok mtime) ↔
    ∀ value, getD row "mtime_epoch" .null = .int value → ¬Overflows value.natAbs 0 := by
  rw [mtimeOf]
  cases hvalue : getD row "mtime_epoch" .null with
  | int value =>
    have hsome : (∃ mtime, numberOf (.int value) = .ok mtime) ↔
        (Double.ofInt? value).isSome = true := by
      rw [numberOf]
      cases Double.ofInt? value with
      | none => exact iff_of_false (by rintro ⟨_, ⟨⟩⟩) Bool.false_ne_true
      | some mtime => exact iff_of_true ⟨mtime, rfl⟩ rfl
    refine (hsome.trans (Double.isSome_ofInt? value)).trans ⟨fun h other hother ↦ ?_, fun h ↦ h value rfl⟩
    rwa [← Json.int.inj hother]
  | special value =>
    refine iff_of_true ?_ (by rintro _ ⟨⟩)
    cases value <;> exact ⟨_, rfl⟩
  | _ => exact iff_of_true ⟨_, rfl⟩ (by rintro _ ⟨⟩)

theorem le_nextCursor {rows : List Fields} {previousCursor : Option String} {next : String}
    (h : nextCursor rows previousCursor = .ok next) : previousCursor.getD "" ≤ next := by
  rw [nextCursor] at h
  obtain ⟨candidates, -, h⟩ := (bind_eq_ok_iff _ _ _).mp h
  cases h
  set previous := previousCursor.getD ""
  by_cases hempty : previous = ""
  · rw [hempty]
    exact not_lt.mp fun hlt ↦ List.not_lt_nil _ (String.lt_iff_toList_lt.mp hlt)
  · rw [if_pos hempty]
    cases hmax : (candidates ++ [previous]).max? with
    | none => exact le_rfl
    | some greatest =>
      exact (List.max?_eq_some_iff.mp hmax).2 previous
        (List.mem_append_right _ (List.mem_singleton_self previous))

/-- A cursor is computed exactly when every row has a time. -/
theorem exists_nextCursor_iff {rows : List Fields} (previousCursor : Option String) :
    (∃ next, nextCursor rows previousCursor = .ok next) ↔
      ∀ row ∈ rows, ∃ mtime, mtimeOf row = .ok mtime := by
  have hcandidate : ∀ row key, candidateOf row = .ok key → ∃ mtime, mtimeOf row = .ok mtime := by
    intro row key h
    obtain ⟨mtime, hmtime, -⟩ := (bind_eq_ok_iff _ _ _).mp h
    exact ⟨mtime, hmtime⟩
  constructor
  · rintro ⟨next, h⟩ row hrow
    obtain ⟨candidates, hcandidates, -⟩ := (bind_eq_ok_iff _ _ _).mp h
    obtain ⟨key, -, hkey⟩ := exists_mem_of_forall₂ (mapM_eq_ok_iff.mp hcandidates) hrow
    exact hcandidate row key hkey
  · intro h
    have hkeys : ∀ row ∈ rows, ∃ key, candidateOf row = .ok key := by
      intro row hrow
      obtain ⟨mtime, hmtime⟩ := h row hrow
      exact ⟨_, candidateOf_eq hmtime⟩
    obtain ⟨candidates, hcandidates⟩ := exists_forall₂ hkeys
    exact ⟨_, by rw [nextCursor, mapM_eq_ok_iff.mpr hcandidates, ok_bind]; rfl⟩

/-- The cursor does not go back and its keys are in the order of times and paths exactly when no number is too
large and the times are written in their order. -/
theorem cursorOrdered_iff (rows : List Fields) (previousCursor : Option String) :
    CursorOrdered rows previousCursor ↔ WritesInOrder rows := by
  have hmonotone : (∃ next, nextCursor rows previousCursor = .ok next ∧
      previousCursor.getD "" ≤ next) ↔ ∀ row ∈ rows, ∀ value,
        getD row "mtime_epoch" .null = .int value → ¬Overflows value.natAbs 0 := by
    rw [← forall₂_congr fun row _ ↦ exists_mtimeOf_iff row,
      ← exists_nextCursor_iff previousCursor]
    exact exists_congr fun next ↦ and_iff_left_of_imp le_nextCursor
  refine and_congr hmonotone (forall₂_congr fun first _ ↦ forall₂_congr fun second _ ↦
    forall₂_congr fun firstTime secondTime ↦ forall₂_congr fun hfirst hsecond ↦ ?_)
  obtain ⟨_, hfirstMtime, -⟩ := id hfirst
  obtain ⟨_, hsecondMtime, -⟩ := id hsecond
  rw [← keysOrdered_iff, KeysOrdered]
  constructor
  · intro h
    have hfirstKey := candidateOf_eq hfirstMtime
    have hsecondKey := candidateOf_eq hsecondMtime
    rw [← toList_candidate hfirst hfirstKey, ← toList_candidate hsecond hsecondKey,
      ← String.lt_iff_toList_lt, ← String.lt_iff_toList_lt]
    exact h _ _ hfirstKey hsecondKey
  · intro h firstKey secondKey hfirstKey hsecondKey
    rwa [String.lt_iff_toList_lt, String.lt_iff_toList_lt, toList_candidate hfirst hfirstKey,
      toList_candidate hsecond hsecondKey]

def secondsRow (path : String) (seconds : ℤ) : Fields :=
  [("path", .str path), ("mtime_epoch", .int seconds)]

theorem mtimeOf_secondsRow (path : String) {seconds : ℤ} (hoverflow : ¬Overflows seconds.natAbs 0)
    {magnitude : ℚ} (h : nearestDouble seconds.natAbs = magnitude) :
    mtimeOf (secondsRow path seconds) = .ok (.finite (decide (seconds < 0)) magnitude) := by
  have hmtime : mtimeOf (secondsRow path seconds) = numberOf (.int seconds) := rfl
  rw [hmtime, numberOf, Double.ofInt?_of_not_overflows hoverflow, h]

/-- Of two times before the epoch, the earlier one has the greater key. -/
theorem times_before_epoch_reversed :
    ¬CursorOrdered [secondsRow "a.csv" (-2), secondsRow "a.csv" (-1)] none := by
  rintro ⟨-, hkeys⟩
  have hfirst : mtimeOf (secondsRow "a.csv" (-2)) = .ok (.finite true 2) :=
    mtimeOf_secondsRow "a.csv" (by decide +kernel) (by decide +kernel)
  have hsecond : mtimeOf (secondsRow "a.csv" (-1)) = .ok (.finite true 1) :=
    mtimeOf_secondsRow "a.csv" (by decide +kernel) (by decide +kernel)
  have hordered := hkeys _ List.mem_cons_self _ (List.mem_cons_of_mem _ List.mem_cons_self)
    ⟨true, 2000⟩ ⟨true, 1000⟩ ⟨2, hfirst, by decide +kernel⟩ ⟨1, hsecond, by decide +kernel⟩
    _ _ (candidateOf_eq hfirst) (candidateOf_eq hsecond)
  have hreversed : ¬cursorKey (.finite true 2) (secondsRow "a.csv" (-2)) <
      cursorKey (.finite true 1) (secondsRow "a.csv" (-1)) := by decide +kernel
  exact hreversed (hordered.1.mpr (Or.inl (by decide)))

end SchemaPilot.Workers
