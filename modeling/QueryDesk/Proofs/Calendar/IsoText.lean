import QueryDesk.Proofs.Calendar.InOrder
import QueryDesk.Proofs.Json.Numerals
import QueryDesk.Proofs.Text.Paired
import QueryDesk.Proofs.Text.Trim
import QueryDesk.Value.Reading

/-!
# Timestamps are read back

A timestamp in its standard form is read as the timestamp itself (`read?_written`): its day by
dashes, its time by colons, and its distance from universal time down to the microsecond.

Of the many other texts that are read, each is read as something that a clock can show
(`isProper_of_read?`).
-/

set_option autoImplicit false

namespace QueryDesk
namespace Timestamp

open Number

/-! ## Numbers -/

theorem takeNumber?_append {ds : Text} (hds : ∀ g ∈ ds, g.isAsciiDigit = true) (rest : Text) :
    takeNumber? ds.length (ds ++ rest) =
      some (ofDigitValues (ds.map fun g => g.code - 48), rest) := by
  induction ds with
  | nil => rfl
  | cons g ds ih =>
    obtain ⟨hg, hds⟩ := List.forall_mem_cons.mp hds
    have htake : takeDigit? (g :: (ds ++ rest)) = some (g.code - 48, ds ++ rest) := by
      cases g with
      | char c => exact if_pos hg
      | lone half => cases hg
    rw [List.length_cons, List.cons_append, takeNumber?, htake, List.map_cons, ofDigitValues_cons,
      List.length_map]
    simp only [Option.bind_eq_bind, Option.bind_some, ih hds]
    rfl

/-- A padded number is read back, whatever stands behind it. -/
theorem takeNumber?_paddedDigits {w n : Nat} (hw : 0 < w) (hn : n < Nat.pow 10 w)
    (rest : Text) : takeNumber? w (paddedDigits w n ++ rest) = some (n, rest) := by
  have htake := takeNumber?_append (Json.isDigits_paddedDigits w n) rest
  rwa [length_paddedDigits hw hn, digitValues_paddedDigits] at htake

theorem takeNumber?_two {n : Nat} (hn : n < 100) (rest : Text) :
    takeNumber? 2 (paddedDigits 2 n ++ rest) = some (n, rest) :=
  takeNumber?_paddedDigits (by decide) hn rest

/-! ## The time -/

theorem standsAt_colon (rest : Text) : standsAt (.char ':' :: rest) 0 ':' = true := rfl

/-- The parts of a second in writing, where they count. -/
def fractionText (micro : Nat) : Text :=
  if micro = 0 then [] else .char '.' :: paddedDigits 6 micro

/-- Behind a colon the next pair of digits is read. -/
theorem afterPair_colon (n : Nat) (rest : Text) :
    afterPair true (.char ':' :: (paddedDigits 2 n ++ rest)) =
      .pair (paddedDigits 2 n ++ rest) := by
  have hne := List.append_ne_nil_of_left_ne_nil (paddedDigits_ne_nil 2 n) rest
  cases hmore : paddedDigits 2 n ++ rest with
  | nil => exact absurd hmore hne
  | cons g more => rfl

theorem afterPair_point {parts : Text} (hparts : parts ≠ []) :
    afterPair true (.char '.' :: parts) = .fraction parts := by
  cases parts with
  | nil => exact absurd rfl hparts
  | cons g parts => rfl

/-- Up to six digits are read as so many parts of a second. -/
theorem readFraction?_paddedDigits {w n : Nat} (hw : 0 < w) (hmost : w ≤ 6)
    (hn : n < Nat.pow 10 w) :
    readFraction? (paddedDigits w n) = some (n * Nat.pow 10 (6 - w), false) := by
  have htake := takeNumber?_paddedDigits hw hn []
  rw [List.append_nil] at htake
  rw [readFraction?, length_paddedDigits hw hn, Nat.min_eq_right hmost]
  show (takeNumber? w _ >>= _) = _
  rw [htake]
  simp [stopsAt]

/-- Hours and minutes are read back. -/
theorem readClock?_minutes {hour minute : Nat} (hhour : hour < 100) (hminute : minute < 100) :
    readClock? (paddedDigits 2 hour ++ .char ':' :: paddedDigits 2 minute) =
      some ⟨hour, minute, 0, 0, false⟩ := by
  have hcolon := afterPair_colon minute []
  have htake := takeNumber?_two hminute []
  rw [List.append_nil] at hcolon htake
  simp only [readClock?, takeNumber?_two hhour, standsAt_colon, hcolon, htake,
    Option.bind_eq_bind, Option.bind_some]
  rfl

/-- A time to the second is read back, with the parts of a second that stand behind it. -/
theorem readClock?_parts {hour minute second micro : Nat} {parts : Text} (hhour : hour < 100)
    (hminute : minute < 100) (hsecond : second < 100) (hparts : parts ≠ [])
    (hread : readFraction? parts = some (micro, false)) :
    readClock? (paddedDigits 2 hour ++ .char ':' :: (paddedDigits 2 minute ++
      .char ':' :: (paddedDigits 2 second ++ .char '.' :: parts))) =
        some ⟨hour, minute, second, micro, false⟩ := by
  simp only [readClock?, takeNumber?_two hhour, takeNumber?_two hminute, takeNumber?_two hsecond,
    standsAt_colon, afterPair_colon, afterPair_point hparts, hread, Option.bind_eq_bind,
    Option.bind_some]

/-- A time to the second, or to the part of a second where that counts, is read back. -/
theorem readClock?_seconds {hour minute second micro : Nat} (hhour : hour < 100)
    (hminute : minute < 100) (hsecond : second < 100) (hmicro : micro < 1000000) :
    readClock? (paddedDigits 2 hour ++ .char ':' :: (paddedDigits 2 minute ++
      .char ':' :: (paddedDigits 2 second ++ fractionText micro))) =
        some ⟨hour, minute, second, micro, false⟩ := by
  by_cases hzero : micro = 0
  · subst hzero
    simp only [readClock?, takeNumber?_two hhour, takeNumber?_two hminute, takeNumber?_two hsecond,
      standsAt_colon, afterPair_colon, Option.bind_eq_bind, Option.bind_some]
    rfl
  · have hread := readFraction?_paddedDigits (w := 6) (by decide) (by decide) hmicro
    rw [fractionText, if_neg hzero]
    refine readClock?_parts hhour hminute hsecond (paddedDigits_ne_nil 6 micro) (hread.trans ?_)
    exact congrArg (fun n => some (n, false)) (Nat.mul_one micro)

/-! ## The distance from universal time -/

/-- A distance in writing, behind its sign. -/
def distanceText (n : Nat) : Text :=
  paddedDigits 2 (n / 1000000 / 3600) ++ .char ':' :: paddedDigits 2 (n / 1000000 / 60 % 60) ++
    if n % 1000000 ≠ 0 then
      .char ':' :: paddedDigits 2 (n / 1000000 % 60) ++ .char '.' :: paddedDigits 6 (n % 1000000)
    else if n / 1000000 % 60 ≠ 0 then .char ':' :: paddedDigits 2 (n / 1000000 % 60)
    else []

theorem aheadText_eq (ahead : Int) : aheadText ahead =
    (if ahead < 0 then .char '-' else .char '+') :: distanceText ahead.natAbs := rfl

/-- Seconds and their parts may be left out of a distance: then there are none. -/
theorem exists_readClock?_distanceText {n : Nat} (h : n < microsPerDay) :
    ∃ c, readClock? (distanceText n) = some c ∧ c.leftOver = false ∧ c.micros = n := by
  have hday : n < 86400000000 := h
  have hhour : n / 1000000 / 3600 < 100 := by omega
  have hminute : n / 1000000 / 60 % 60 < 100 := by omega
  have hsecond : n / 1000000 % 60 < 100 := by omega
  have hmicro : n % 1000000 < 1000000 := by omega
  have hseconds := readClock?_seconds hhour hminute hsecond hmicro
  by_cases hparts : n % 1000000 = 0
  · by_cases hzero : n / 1000000 % 60 = 0
    · rw [distanceText, if_neg (not_not.mpr hparts), if_neg (not_not.mpr hzero), List.append_nil]
      refine ⟨_, readClock?_minutes hhour hminute, rfl, ?_⟩
      simp only [ClockReading.micros]
      omega
    · rw [distanceText, if_neg (not_not.mpr hparts), if_pos hzero]
      rw [fractionText, if_pos hparts, List.append_nil] at hseconds
      refine ⟨_, by simpa only [List.append_assoc, List.cons_append] using hseconds, rfl, ?_⟩
      simp only [ClockReading.micros]
      omega
  · rw [distanceText, if_pos hparts]
    rw [fractionText, if_neg hparts] at hseconds
    refine ⟨_, by simpa only [List.append_assoc, List.cons_append] using hseconds, rfl, ?_⟩
    simp only [ClockReading.micros]
    omega

/-- A distance from universal time is read back. -/
theorem exists_readAhead? {ahead : Int} (h : ahead.natAbs < microsPerDay) : ∃ sign rest,
    aheadText ahead = sign :: rest ∧ startsAhead sign = true ∧
      readAhead? sign rest = some ahead := by
  obtain ⟨c, hread, hleft, hmicros⟩ := exists_readClock?_distanceText h
  have hin : ¬(c.leftOver = true ∨ microsPerDay ≤ c.micros) := by
    rw [hleft, hmicros]
    exact fun hout => hout.elim Bool.false_ne_true (Nat.not_le.mpr h)
  have hreads : ∀ sign, sign ≠ Glyph.char 'Z' → readAhead? sign (distanceText ahead.natAbs) =
      some (withSign (sign = .char '-') ahead.natAbs) := by
    intro sign hsign
    rw [readAhead?, if_neg hsign, hread]
    exact (if_neg hin).trans (by rw [hmicros])
  rw [aheadText_eq]
  by_cases hneg : ahead < 0
  · rw [if_pos hneg]
    refine ⟨_, _, rfl, rfl, (hreads _ (by decide)).trans (congrArg some ?_)⟩
    show -(ahead.natAbs : Int) = ahead
    omega
  · rw [if_neg hneg]
    refine ⟨_, _, rfl, rfl, (hreads _ (by decide)).trans (congrArg some ?_)⟩
    show (ahead.natAbs : Int) = ahead
    omega

/-! ## The whole -/

/-- A timestamp that a clock can show: a day of the calendar, a time of day, and less than a day
from universal time. -/
structure IsProper (t : Timestamp) : Prop where
  day : Date.isDay t.date.year t.date.month t.date.day = true
  hour : t.hour < 24
  minute : t.minute < 60
  second : t.second < 60
  micro : t.micro < 1000000
  ahead : ∀ ahead ∈ t.ahead, ahead.natAbs < microsPerDay

variable {t : Timestamp}

theorem IsProper.timeOfDay_lt (h : t.IsProper) : t.timeOfDay < microsPerDay := by
  have hhour := h.hour
  have hminute := h.minute
  have hsecond := h.second
  have hmicro := h.micro
  unfold timeOfDay microsPerDay
  omega

theorem IsProper.lt_hundred (h : t.IsProper) : t.hour < 100 ∧ t.minute < 100 ∧ t.second < 100 :=
  ⟨h.hour.trans (by decide), h.minute.trans (by decide), h.second.trans (by decide)⟩

/-- The time of day in writing, down to the part of a second that counts. -/
def timeText (t : Timestamp) : Text := t.clockText ++ fractionText t.micro

theorem written_eq (t : Timestamp) :
    t.written = t.date.written ++ .char 'T' :: (t.timeText ++ (t.ahead.map aheadText).getD []) := by
  simp [written, writtenWith, timeText, fractionText]

theorem readClock?_timeText (h : t.IsProper) :
    readClock? t.timeText = some ⟨t.hour, t.minute, t.second, t.micro, false⟩ := by
  obtain ⟨hhour, hminute, hsecond⟩ := h.lt_hundred
  have hread := readClock?_seconds hhour hminute hsecond h.micro
  simpa only [timeText, clockText, List.append_assoc, List.cons_append] using hread

theorem startsAhead_of_mem_paddedDigits (w n : Nat) :
    ∀ g ∈ paddedDigits w n, startsAhead g = false := fun g hg =>
  Glyph.isOneOf_of_isAsciiDigit (Json.isDigits_paddedDigits w n g hg) (by decide)

/-- No sign of the time of day begins a distance. -/
theorem startsAhead_of_mem_clockText (t : Timestamp) :
    ∀ g ∈ t.clockText, startsAhead g = false := by
  have hcolon : startsAhead (.char ':') = false := rfl
  simp only [clockText, List.forall_mem_append, List.forall_mem_cons, hcolon, true_and]
  exact ⟨⟨startsAhead_of_mem_paddedDigits 2 _, startsAhead_of_mem_paddedDigits 2 _⟩,
    startsAhead_of_mem_paddedDigits 2 _⟩

theorem startsAhead_of_mem_timeText (t : Timestamp) : ∀ g ∈ t.timeText, startsAhead g = false := by
  refine List.forall_mem_append.mpr ⟨startsAhead_of_mem_clockText t, ?_⟩
  rw [fractionText]
  split
  · exact fun g hg => (List.not_mem_nil hg).elim
  · exact List.forall_mem_cons.mpr ⟨rfl, startsAhead_of_mem_paddedDigits 6 _⟩

theorem IsProper.inDay (h : t.IsProper) : ¬(24 ≤ t.hour ∨ 60 ≤ t.minute ∨ 60 ≤ t.second) := by
  have := h.hour
  have := h.minute
  have := h.second
  omega

/-- A time of day is read as it is, if no distance begins in it. -/
theorem readTime?_of_readClock? {text : Text} {micro : Nat} (h : t.IsProper)
    (htext : ∀ g ∈ text, startsAhead g = false)
    (hread : readClock? text = some ⟨t.hour, t.minute, t.second, micro, false⟩) :
    readTime? text = some (⟨t.hour, t.minute, t.second, micro, false⟩, none) := by
  have hsigns : ∀ g ∈ text, (!startsAhead g) = true := fun g hg => by rw [htext g hg]; rfl
  rw [readTime?, List.takeWhile_eq_self_iff.mpr hsigns, List.dropWhile_eq_nil_iff.mpr hsigns, hread]
  exact if_neg h.inDay

/-- The time of day and the distance are read back. -/
theorem readTime?_written (h : t.IsProper) :
    readTime? (t.timeText ++ (t.ahead.map aheadText).getD []) =
      some (⟨t.hour, t.minute, t.second, t.micro, false⟩, t.ahead) := by
  have htext := startsAhead_of_mem_timeText t
  cases hahead : t.ahead with
  | none =>
    rw [Option.map_none, Option.getD_none, List.append_nil]
    exact readTime?_of_readClock? h htext (readClock?_timeText h)
  | some ahead =>
    have hclock : ∀ g ∈ t.timeText, (!startsAhead g) = true := fun g hg => by rw [htext g hg]; rfl
    obtain ⟨sign, rest, htext, hsign, hread⟩ := exists_readAhead? (h.ahead ahead hahead)
    rw [Option.map_some, Option.getD_some, htext, readTime?, List.takeWhile_append_of_pos hclock,
      List.dropWhile_append_of_pos hclock]
    have htake : (sign :: rest).takeWhile (!startsAhead ·) = [] := by simp [hsign]
    have hdrop : (sign :: rest).dropWhile (!startsAhead ·) = sign :: rest := by simp [hsign]
    rw [htake, hdrop, List.append_nil, readClock?_timeText h]
    refine (if_neg h.inDay).trans ?_
    rw [hread]
    rfl

/-! ## The day -/

theorem lt_hundred_of_isDay {year month day : Nat} (h : Date.isDay year month day = true) :
    year < 10000 ∧ month < 100 ∧ day < 100 := by
  have hlength := Date.daysInMonth_le year month
  simp only [Date.isDay, Bool.and_eq_true, decide_eq_true_eq] at h
  omega

theorem exists_digits_two {n : Nat} (hn : n < 100) : ∃ a b, paddedDigits 2 n = [a, b] ∧
    a.isAsciiDigit = true ∧ b.isAsciiDigit = true := by
  have hdigits := Json.isDigits_paddedDigits 2 n
  obtain ⟨a, b, hpadded⟩ := List.length_eq_two.mp (length_paddedDigits (w := 2) (by decide) hn)
  rw [hpadded] at hdigits
  exact ⟨a, b, hpadded, hdigits a (by simp), hdigits b (by simp)⟩

/-- The signs of a day: digits, and dashes at two places. -/
inductive IsDayText : Text → Prop
  | intro {a b c e f g i j : Glyph} (h : ∀ x ∈ [a, b, c, e, f, g, i, j], x.isAsciiDigit = true) :
    IsDayText [a, b, c, e, .char '-', f, g, .char '-', i, j]

theorem IsDayText.length_eq {day : Text} (h : IsDayText day) : day.length = 10 := by
  cases h
  rfl

theorem isDayText_written {d : Date} (h : Date.isDay d.year d.month d.day = true) :
    IsDayText d.written := by
  obtain ⟨hyear, hmonth, hday⟩ := lt_hundred_of_isDay h
  have hdigits := Json.isDigits_paddedDigits 4 d.year
  have hlength := length_paddedDigits (w := 4) (by decide) hyear
  obtain ⟨a, rest, hpadded⟩ := List.exists_of_length_succ _ hlength
  obtain ⟨b, c, e, rfl⟩ : ∃ b c e, rest = [b, c, e] := by
    rw [hpadded] at hlength
    exact List.length_eq_three.mp (Nat.succ.inj hlength)
  obtain ⟨f, g, hf⟩ := exists_digits_two hmonth
  obtain ⟨i, j, hi⟩ := exists_digits_two hday
  rw [hpadded] at hdigits
  rw [Date.written, hpadded, hf.1, hi.1]
  refine .intro fun x hx => ?_
  simp only [Json.IsDigits, List.forall_mem_cons] at hdigits
  simp only [List.mem_cons, List.not_mem_nil, or_false] at hx
  grind

/-- A day is read back. -/
theorem readDay?_written {d : Date} (h : Date.isDay d.year d.month d.day = true) :
    readDay? d.written = some d := by
  obtain ⟨hyear, hmonth, hday⟩ := lt_hundred_of_isDay h
  have hwritten : d.written = paddedDigits 4 d.year ++ .char '-' :: (paddedDigits 2 d.month ++
      .char '-' :: paddedDigits 2 d.day) := by simp [Date.written]
  have htake := takeNumber?_paddedDigits (w := 2) (by decide) hday []
  rw [List.append_nil] at htake
  obtain ⟨a, b, hpadded, ha, -⟩ := exists_digits_two hmonth
  rw [readDay?, hwritten, takeNumber?_paddedDigits (w := 4) (by decide) hyear]
  simp only [Option.bind_eq_bind, Option.bind_some]
  split
  · next hweek =>
    rw [hpadded] at hweek
    exact absurd (List.cons.inj hweek).1 (Glyph.ne_of_isAsciiDigit ha rfl)
  · rw [takeNumber?_paddedDigits (w := 2) (by decide) hmonth]
    simp only [dash?, if_true, Option.bind_some, htake]
    exact if_pos h

/-! ## The whole -/

theorem dayLength_append {day : Text} (h : IsDayText day) (g : Glyph) (rest : Text) :
    dayLength (day ++ g :: rest) = 10 := by
  cases h with
  | intro h =>
    simp only [List.forall_mem_cons] at h
    have := Glyph.ne_of_isAsciiDigit h.2.2.2.2.1 (c := 'W') rfl
    simp [dayLength, standsAt, this]

theorem beginsWithDay_append {day : Text} (h : IsDayText day) (rest : Text) :
    Value.beginsWithDay (day ++ rest) = true := by
  cases h with
  | intro h =>
    simp only [List.forall_mem_cons] at h
    simp [Value.beginsWithDay, List.range, List.range.loop, standsAt, isDigitAt, h]

theorem mendSeparator_eq_self {text : Text} (h : text.IsPaired) : mendSeparator text = text := by
  have hnone : [7, 8, 10].find? (fun i => text[i]?.any Glyph.isLone) = none := by
    rw [List.find?_eq_none]
    intro i _
    cases hg : text[i]? with
    | none => exact Bool.false_ne_true
    | some g => exact Bool.not_eq_true _ ▸ h g (List.mem_of_getElem? hg)
  rw [mendSeparator, hnone]

/-- What holds of digits and of a few marks holds of all signs of a timestamp in writing. -/
theorem forall_mem_written {P : Glyph → Prop} (hdigit : ∀ g, g.isAsciiDigit = true → P g)
    (hmark : ∀ c ∈ ['-', '+', ':', '.', 'T'], P (.char c)) (t : Timestamp) :
    ∀ g ∈ t.written, P g := by
  simp only [List.forall_mem_cons] at hmark
  obtain ⟨hdash, hplus, hcolon, hpoint, hT, -⟩ := hmark
  have hdigits : ∀ w n, ∀ g ∈ paddedDigits w n, P g := fun w n g hg =>
    hdigit g (Json.isDigits_paddedDigits w n g hg)
  have hfraction : ∀ g ∈ fractionText t.micro, P g := by
    rw [fractionText]
    split
    · simp
    · exact List.forall_mem_cons.mpr ⟨hpoint, hdigits 6 _⟩
  have hdistance : ∀ n, ∀ g ∈ distanceText n, P g := by
    intro n
    rw [distanceText]
    split_ifs <;> simp only [List.forall_mem_append, List.forall_mem_cons, hcolon, hpoint, true_and]
    · exact ⟨⟨hdigits 2 _, hdigits 2 _⟩, hdigits 2 _, hdigits 6 _⟩
    · exact ⟨⟨hdigits 2 _, hdigits 2 _⟩, hdigits 2 _⟩
    · exact ⟨⟨hdigits 2 _, hdigits 2 _⟩, by simp⟩
  have hahead : ∀ g ∈ (t.ahead.map aheadText).getD [], P g := by
    cases t.ahead with
    | none => simp
    | some ahead =>
      refine List.forall_mem_cons.mpr ⟨?_, hdistance ahead.natAbs⟩
      split
      · exact hdash
      · exact hplus
  rw [written_eq, timeText, clockText, Date.written]
  simp only [List.forall_mem_append, List.forall_mem_cons, hdash, hcolon, hT, true_and]
  exact ⟨⟨⟨hdigits 4 _, hdigits 2 _⟩, hdigits 2 _⟩,
    ⟨⟨⟨hdigits 2 _, hdigits 2 _⟩, hdigits 2 _⟩, hfraction⟩, hahead⟩

theorem isPaired_written (t : Timestamp) : t.written.IsPaired :=
  forall_mem_written (fun _ h => Glyph.isLone_of_isSign (Glyph.isSign_of_isAsciiDigit h))
    (by decide) t

theorem trim_written (t : Timestamp) : t.written.trim = t.written := by
  have hblank : ∀ g ∈ t.written, g.isBlank = false :=
    forall_mem_written (fun _ => Glyph.isBlank_of_isAsciiDigit) (by decide) t
  exact Text.trim_eq_self ⟨fun g hg => hblank g (List.mem_of_mem_head? hg),
    fun g hg => hblank g (List.mem_of_getLast? hg)⟩

/-- A day and a time of day are read one behind the other. -/
theorem read?_append {d : Date} {time : Text} {c : ClockReading} {ahead : Option Int}
    (hday : Date.isDay d.year d.month d.day = true) (htime : time.IsPaired)
    (hread : readTime? time = some (c, ahead)) :
    read? (d.written ++ .char 'T' :: time) =
      some ⟨d, c.hour, c.minute, c.second, c.micro, ahead⟩ := by
  have htext := isDayText_written hday
  have hten := htext.length_eq
  have hpaired : (d.written ++ .char 'T' :: time).IsPaired := by
    simp [Date.written, Glyph.isLone, htime]
  have hlone : (d.written ++ .char 'T' :: time).any Glyph.isLone = false := by
    rw [List.any_eq_false]
    exact fun g hg => by rw [hpaired g hg]; exact Bool.false_ne_true
  have hlong : ¬(d.written ++ .char 'T' :: time).length < 7 := by
    rw [List.length_append, hten]
    omega
  rw [read?, mendSeparator_eq_self hpaired]
  refine (if_neg fun hbad => hbad.elim hlong (Bool.eq_false_iff.mp hlone)).trans ?_
  rw [dayLength_append htext]
  dsimp only
  rw [List.take_left' hten, List.drop_left' hten, readDay?_written hday]
  simp only [Option.bind_eq_bind, Option.bind_some, hread]

/-- **A timestamp in its standard form is read back.** -/
theorem read?_written (h : t.IsProper) : read? t.written = some t := by
  have hpaired : Text.IsPaired (t.timeText ++ (t.ahead.map aheadText).getD []) := by
    have hall := isPaired_written t
    rw [written_eq] at hall
    exact fun g hg => hall g (List.mem_append_right _ (List.mem_cons_of_mem _ hg))
  rw [written_eq, read?_append h.day hpaired (readTime?_written h)]

/-! ## What is read -/

theorem lt_of_takeDigit? {digit : Nat} {t rest : Text} (h : takeDigit? t = some (digit, rest)) :
    digit < 10 := by
  rcases t with _ | ⟨c | half, t⟩
  · cases h
  · rw [takeDigit?] at h
    split at h
    · next hdigit =>
      cases h
      have hcode : 48 ≤ c.toNat ∧ c.toNat ≤ 57 := Glyph.code_of_isAsciiDigit (g := .char c) hdigit
      omega
    · cases h
  · cases h

theorem lt_of_takeNumber? {count n : Nat} {t rest : Text}
    (h : takeNumber? count t = some (n, rest)) : n < Nat.pow 10 count := by
  induction count generalizing t n rest with
  | zero =>
    cases h
    exact Nat.one_pos
  | succ count ih =>
    obtain ⟨⟨digit, more⟩, hdigit, h⟩ := Option.bind_eq_some_iff.mp h
    obtain ⟨⟨number, more'⟩, hnumber, h⟩ := Option.bind_eq_some_iff.mp h
    cases h
    have hless := ih hnumber
    calc digit * Nat.pow 10 count + number < (digit + 1) * Nat.pow 10 count := by
          rw [Nat.succ_mul]
          omega
      _ ≤ 10 * Nat.pow 10 count := Nat.mul_le_mul_right _ (lt_of_takeDigit? hdigit)
      _ = Nat.pow 10 (count + 1) := Nat.mul_comm _ _

theorem lt_of_readFraction? {t : Text} {micro : Nat} {leftOver : Bool}
    (h : readFraction? t = some (micro, leftOver)) : micro < 1000000 := by
  obtain ⟨⟨number, rest⟩, hnumber, h⟩ := Option.bind_eq_some_iff.mp h
  cases h
  have hless := lt_of_takeNumber? hnumber
  have hmost : min 6 t.length ≤ 6 := Nat.min_le_left _ _
  generalize min 6 t.length = count at hless hmost
  have hpower : Nat.pow 10 count * Nat.pow 10 (6 - count) = 1000000 := by
    interval_cases count <;> rfl
  rw [← hpower]
  exact Nat.mul_lt_mul_of_pos_right hless (Nat.pow_pos (by decide))

theorem lt_of_readClock? {t : Text} {c : ClockReading} (h : readClock? t = some c) :
    c.micro < 1000000 := by
  have hfraction : ∀ {rest : Text} {read : Nat → Bool → ClockReading},
      (∀ micro leftOver, (read micro leftOver).micro = micro) →
      ((readFraction? rest).bind fun p => some (read p.1 p.2)) = some c → c.micro < 1000000 := by
    intro rest read hmicro h
    obtain ⟨⟨micro, leftOver⟩, hread, h⟩ := Option.bind_eq_some_iff.mp h
    cases h
    rw [hmicro]
    exact lt_of_readFraction? hread
  obtain ⟨⟨hour, rest⟩, -, h⟩ := Option.bind_eq_some_iff.mp h
  dsimp only at h
  -- How the time goes on behind the hours, the minutes and the seconds.
  split at h
  · cases h
  · cases h
    exact Nat.zero_lt_succ _
  · exact hfraction (fun _ _ => rfl) h
  · obtain ⟨⟨minute, rest⟩, -, h⟩ := Option.bind_eq_some_iff.mp h
    dsimp only at h
    split at h
    · cases h
    · cases h
      exact Nat.zero_lt_succ _
    · exact hfraction (fun _ _ => rfl) h
    · obtain ⟨⟨second, rest⟩, -, h⟩ := Option.bind_eq_some_iff.mp h
      dsimp only at h
      split at h
      · cases h
      · cases h
        exact Nat.zero_lt_succ _
      · exact hfraction (fun _ _ => rfl) h
      · exact hfraction (fun _ _ => rfl) h

theorem natAbs_lt_of_readAhead? {sign : Glyph} {t : Text} {ahead : Int}
    (h : readAhead? sign t = some ahead) : ahead.natAbs < microsPerDay := by
  rw [readAhead?] at h
  split at h
  · split at h
    · cases h
      decide
    · cases h
  · obtain ⟨c, -, h⟩ := Option.bind_eq_some_iff.mp h
    split at h
    · cases h
    · next hin =>
      cases h
      have habs : ∀ negative, (withSign negative c.micros).natAbs = c.micros := by
        intro negative
        rw [withSign]
        split <;> simp
      rw [habs]
      omega

theorem isDay_of_ofParts? {year month day : Nat} {d : Date}
    (h : Date.ofParts? year month day = some d) : Date.isDay d.year d.month d.day = true := by
  rw [Date.ofParts?] at h
  split at h
  · next hday =>
    cases h
    exact hday
  · cases h

theorem isDay_of_ofWeek? {year week day : Nat} {d : Date}
    (h : Date.ofWeek? year week day = some d) : Date.isDay d.year d.month d.day = true := by
  rw [Date.ofWeek?] at h
  split at h
  · exact isDay_of_ofParts? h
  · cases h

theorem isDay_of_readDay? {text : Text} {d : Date} (h : readDay? text = some d) :
    Date.isDay d.year d.month d.day = true := by
  obtain ⟨⟨year, rest⟩, -, h⟩ := Option.bind_eq_some_iff.mp h
  dsimp only at h
  split at h
  · obtain ⟨⟨week, rest⟩, -, h⟩ := Option.bind_eq_some_iff.mp h
    dsimp only at h
    split at h
    · exact isDay_of_ofWeek? h
    · obtain ⟨rest, -, h⟩ := Option.bind_eq_some_iff.mp h
      obtain ⟨⟨day, rest⟩, -, h⟩ := Option.bind_eq_some_iff.mp h
      exact isDay_of_ofWeek? h
  · obtain ⟨⟨month, rest⟩, -, h⟩ := Option.bind_eq_some_iff.mp h
    obtain ⟨rest, -, h⟩ := Option.bind_eq_some_iff.mp h
    obtain ⟨⟨day, rest⟩, -, h⟩ := Option.bind_eq_some_iff.mp h
    exact isDay_of_ofParts? h

theorem isProper_of_readTime? {text : Text} {c : ClockReading} {ahead : Option Int} {d : Date}
    (hday : Date.isDay d.year d.month d.day = true) (h : readTime? text = some (c, ahead)) :
    IsProper ⟨d, c.hour, c.minute, c.second, c.micro, ahead⟩ := by
  obtain ⟨found, hfound, h⟩ := Option.bind_eq_some_iff.mp h
  split at h
  · cases h
  · next hin =>
    -- With a distance behind it or not, the time of day is what was found in front.
    obtain ⟨rfl, hahead⟩ : found = c ∧ ∀ n ∈ ahead, n.natAbs < microsPerDay := by
      split at h
      · split at h
        · cases h
        · cases h
          exact ⟨rfl, nofun⟩
      · obtain ⟨n, hn, h⟩ := Option.map_eq_some_iff.mp h
        cases h
        refine ⟨rfl, fun m hm => ?_⟩
        cases hm
        exact natAbs_lt_of_readAhead? hn
    obtain ⟨hhour, hminute, hsecond⟩ : found.hour < 24 ∧ found.minute < 60 ∧ found.second < 60 := by
      omega
    exact ⟨hday, hhour, hminute, hsecond, lt_of_readClock? hfound, hahead⟩

/-- **What is read is what a clock can show.** -/
theorem isProper_of_read? {text : Text} (h : read? text = some t) : t.IsProper := by
  rw [read?] at h
  split at h
  · cases h
  · obtain ⟨date, hdate, h⟩ := Option.bind_eq_some_iff.mp h
    have hday := isDay_of_readDay? hdate
    split at h
    · cases h
      exact ⟨hday, Nat.zero_lt_succ _, Nat.zero_lt_succ _, Nat.zero_lt_succ _, Nat.zero_lt_succ _,
        nofun⟩
    · obtain ⟨⟨c, ahead⟩, htime, h⟩ := Option.bind_eq_some_iff.mp h
      cases h
      exact isProper_of_readTime? hday htime

end Timestamp

/-- **A timestamp in its standard form denotes the instant of the timestamp.** -/
theorem Value.instant?_written {t : Timestamp} (h : t.IsProper) :
    (text t.written).instant? = (timestamp t).instant? := by
  have hday : beginsWithDay t.written = true := by
    rw [Timestamp.written_eq]
    exact Timestamp.beginsWithDay_append (Timestamp.isDayText_written h.day) _
  have hread : (text t.written).instant? = if beginsWithDay t.written.trim then
      (Timestamp.read? t.written.trim).map Timestamp.asUniversal else none := rfl
  rw [hread, t.trim_written, if_pos hday, Timestamp.read?_written h]
  rfl

end QueryDesk
