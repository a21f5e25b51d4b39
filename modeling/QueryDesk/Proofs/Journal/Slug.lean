import QueryDesk.Proofs.Calendar.InOrder
import QueryDesk.Proofs.Calendar.IsoText
import QueryDesk.Proofs.Journal.Torn

/-!
# Slugs in order

A slug shows what the clock of its timestamp shows, down to the millisecond, in numbers that are each
padded to one width.  So slugs of years of four digits stand in the order of what the clocks show
(`Naming.compare_slug`).

How far a clock is from universal time does not show.  Among clocks that are equally far from it the
slugs therefore stand in the order of the instants (`Naming.TellClocks`): among timestamps without a
distance, with `Z`, or as the journal writes them itself (`Journal.slugs_in_order`).  Slugs of other
clocks do not (`Journal.not_slugs_in_order_of_instants`).
-/

set_option autoImplicit false

namespace QueryDesk

open Step

/-! ## Texts one behind the other -/

namespace Text

/-- Texts that begin with equally many glyphs are compared by these first. -/
theorem compare_append {s s' : Text} (h : s.length = s'.length) (t t' : Text) :
    compare (s ++ t) (s' ++ t') = (compare s s').then (compare t t') := by
  induction s generalizing s' with
  | nil =>
    obtain rfl := List.eq_nil_of_length_eq_zero h.symm
    rfl
  | cons g s ih =>
    obtain ⟨g', s', rfl⟩ := List.exists_cons_of_length_eq_add_one h.symm
    rw [List.cons_append, List.cons_append, List.compare_cons_cons, List.compare_cons_cons,
      ih (Nat.succ.inj h), Ordering.then_assoc]

theorem compare_paddedDigits_append {w m n : Nat} (hw : 0 < w) (hm : m < Nat.pow 10 w)
    (hn : n < Nat.pow 10 w) (t t' : Text) :
    compare (Number.paddedDigits w m ++ t) (Number.paddedDigits w n ++ t') =
      (compare m n).then (compare t t') := by
  rw [compare_append, Number.compare_paddedDigits hw hm hn]
  rw [Number.length_paddedDigits hw hm, Number.length_paddedDigits hw hn]

end Text

open Number

/-! ## Clocks in order -/

namespace Date

/-- Days are in the order of their years, months and days of the month. -/
theorem IsProper.compare_dayNumber {d e : Date} (hd : d.IsProper) (he : e.IsProper) :
    compare d.dayNumber e.dayNumber =
      (compare d.year e.year).then ((compare d.month e.month).then (compare d.day e.day)) := by
  have hle := hd.dayNumber_le_iff he
  have hge := he.dayNumber_le_iff hd
  have hmonth := hd.month
  have hmonth' := he.month
  have hday : d.day < 32 := Nat.lt_succ_of_le (hd.day.2.trans (daysInMonth_le _ _))
  have hday' : e.day < 32 := Nat.lt_succ_of_le (he.day.2.trans (daysInMonth_le _ _))
  have hbound : d.month * 32 + d.day < 416 := by omega
  have hbound' : e.month * 32 + e.day < 416 := by omega
  rw [compare_then_compare hday hday', compare_then_compare hbound hbound']
  unfold monthIndex at hle hge
  exact compare_congr (by omega) (by omega)

end Date

namespace Timestamp

variable {t t' : Timestamp}

/-- Times of day are in the order of their hours, minutes, seconds and milliseconds. -/
theorem IsProper.compare_timeOfDay (ht : t.IsProper) (ht' : t'.IsProper) :
    compare (t.timeOfDay / 1000) (t'.timeOfDay / 1000) =
      (compare t.hour t'.hour).then ((compare t.minute t'.minute).then
        ((compare t.second t'.second).then (compare (t.micro / 1000) (t'.micro / 1000)))) := by
  have hmillis : ∀ {t : Timestamp}, t.IsProper → t.micro / 1000 < 1000 ∧
      t.second * 1000 + t.micro / 1000 < 60000 ∧
      t.minute * 60000 + (t.second * 1000 + t.micro / 1000) < 3600000 := by
    intro t ht
    have hminute := ht.minute
    have hsecond := ht.second
    have hmicro := ht.micro
    omega
  obtain ⟨hmicro, hsecond, hminute⟩ := hmillis ht
  obtain ⟨hmicro', hsecond', hminute'⟩ := hmillis ht'
  rw [compare_then_compare hmicro hmicro', compare_then_compare hsecond hsecond',
    compare_then_compare hminute hminute']
  unfold timeOfDay
  exact compare_congr (by omega) (by omega)

theorem IsProper.millis_lt (ht : t.IsProper) : t.timeOfDay / 1000 < 86400000 := by
  have hless := ht.timeOfDay_lt
  unfold microsPerDay at hless
  omega

/-- What a clock shows, in whole milliseconds. -/
theorem shown_div (t : Timestamp) :
    t.shown / 1000 = (t.date.dayNumber * 86400000 + t.timeOfDay / 1000 : Nat) := by
  unfold shown microsPerDay
  omega

theorem IsProper.compare_shown (ht : t.IsProper) (ht' : t'.IsProper) :
    compare (t.shown / 1000) (t'.shown / 1000) =
      (compare t.date.dayNumber t'.date.dayNumber).then
        (compare (t.timeOfDay / 1000) (t'.timeOfDay / 1000)) := by
  rw [compare_then_compare ht.millis_lt ht'.millis_lt, shown_div, shown_div]
  exact compare_congr Int.ofNat_lt Int.ofNat_lt

/-- A clock that is set to universal time shows the instant, if that is in a year of the calendar
behind the first. -/
theorem isProper_toUniversal (hfirst : 1 < t.toUniversal.date.year)
    (hlast : t.toUniversal.date.year ≤ 9999) :
    t.toUniversal.IsProper ∧ t.toUniversal.shown = t.instant := by
  have hinstant : microsPerDay ≤ t.instant := by
    by_contra hless
    have hzero : (t.instant / microsPerDay).toNat = 0 := by
      unfold microsPerDay at hless ⊢
      omega
    have hyear : t.toUniversal.date.year = 1 := by
      show (Date.ofDayNumber (t.instant / microsPerDay).toNat).year = 1
      rw [hzero]
      rfl
    omega
  obtain ⟨hproper, hshown⟩ := shown_ofShown hinstant (some 0)
  have hmicros : (t.instant % microsPerDay).toNat < 86400000000 := by
    unfold microsPerDay
    omega
  refine ⟨⟨hproper.isDay hlast, ?_, ?_, ?_, ?_, ?_⟩, hshown⟩
  · show (t.instant % microsPerDay).toNat / 1000000 / 3600 < 24
    omega
  · exact Nat.mod_lt _ (by decide)
  · exact Nat.mod_lt _ (by decide)
  · exact Nat.mod_lt _ (by decide)
  · intro ahead hahead
    cases hahead
    decide

theorem IsProper.micro_div_lt (ht : t.IsProper) : t.micro / 1000 < Nat.pow 10 3 := by
  have hmicro := ht.micro
  show t.micro / 1000 < 1000
  omega

/-- A time in milliseconds is read back. -/
theorem IsProper.readTime?_millis (ht : t.IsProper) :
    readTime? (t.clockText ++ .char '.' :: paddedDigits 3 (t.micro / 1000)) =
      some (⟨t.hour, t.minute, t.second, t.micro / 1000 * 1000, false⟩, none) := by
  obtain ⟨hhour, hminute, hsecond⟩ := ht.lt_hundred
  have hparts := readFraction?_paddedDigits (w := 3) (by decide) (by decide) ht.micro_div_lt
  have hread := readClock?_parts hhour hminute hsecond (paddedDigits_ne_nil 3 _) hparts
  refine readTime?_of_readClock? ht ?_ ?_
  · exact List.forall_mem_append.mpr ⟨startsAhead_of_mem_clockText t,
      List.forall_mem_cons.mpr ⟨rfl, startsAhead_of_mem_paddedDigits 3 _⟩⟩
  · simpa only [clockText, List.append_assoc, List.cons_append] using hread

end Timestamp

namespace Naming

variable {t t' : Timestamp}

theorem digits_eq_paddedDigits {n : Nat} (h : 1000 ≤ n) : digits n = paddedDigits 4 n := by
  have hfour : (digits 1000).length = 4 := by decide +kernel
  have hlength : 4 ≤ (digits n).length := hfour ▸ length_digits_mono h
  rw [paddedDigits, Nat.sub_eq_zero_of_le hlength, List.replicate_zero, List.nil_append]

/-- A slug begins with the digits of the year, four if there are as many. -/
theorem slug_eq (h : 1000 ≤ t.date.year) : slug t = paddedDigits 4 t.date.year ++
    (paddedDigits 2 t.date.month ++ (paddedDigits 2 t.date.day ++ .char 'T' ::
      (paddedDigits 2 t.hour ++ (paddedDigits 2 t.minute ++ (paddedDigits 2 t.second ++
        paddedDigits 3 (t.micro / 1000)))))) := by
  rw [slug, digits_eq_paddedDigits h]
  simp only [List.append_assoc, List.cons_append]

/-- **Slugs are in the order of what the clocks show**, to the millisecond. -/
theorem compare_slug (ht : t.IsProper) (ht' : t'.IsProper) (hyear : 1000 ≤ t.date.year)
    (hyear' : 1000 ≤ t'.date.year) :
    compare (slug t) (slug t') = compare (t.shown / 1000) (t'.shown / 1000) := by
  obtain ⟨hmost, hmonth, hday⟩ := Timestamp.lt_hundred_of_isDay ht.day
  obtain ⟨hmost', hmonth', hday'⟩ := Timestamp.lt_hundred_of_isDay ht'.day
  have htwo : ∀ {m n : Nat}, m < 100 → n < 100 → ∀ s s' : Text,
      compare (paddedDigits 2 m ++ s) (paddedDigits 2 n ++ s') = (compare m n).then (compare s s') :=
    fun hm hn => Text.compare_paddedDigits_append (by decide) hm hn
  have hletter : ∀ s s' : Text, compare (Glyph.char 'T' :: s) (.char 'T' :: s') = compare s s' := by
    intro s s'
    rw [List.compare_cons_cons]
    rfl
  obtain ⟨hhour, hminute, hsecond⟩ := ht.lt_hundred
  obtain ⟨hhour', hminute', hsecond'⟩ := ht'.lt_hundred
  rw [slug_eq hyear, slug_eq hyear',
    Text.compare_paddedDigits_append (w := 4) (by decide) hmost hmost', htwo hmonth hmonth',
    htwo hday hday', hletter, htwo hhour hhour', htwo hminute hminute', htwo hsecond hsecond',
    compare_paddedDigits (by decide) ht.micro_div_lt ht'.micro_div_lt, ht.compare_shown ht',
    (Date.isProper_of_isDay ht.day).compare_dayNumber (Date.isProper_of_isDay ht'.day),
    ht.compare_timeOfDay ht', Ordering.then_assoc, Ordering.then_assoc]

theorem length_slug (ht : t.IsProper) (hyear : 1000 ≤ t.date.year) : (slug t).length = 18 := by
  obtain ⟨hmost, hmonth, hday⟩ := Timestamp.lt_hundred_of_isDay ht.day
  have htwo : ∀ {n : Nat}, n < 100 → (paddedDigits 2 n).length = 2 :=
    fun hn => length_paddedDigits (by decide) hn
  obtain ⟨hhour, hminute, hsecond⟩ := ht.lt_hundred
  simp only [slug_eq hyear, List.length_append, List.length_cons,
    length_paddedDigits (w := 4) (by decide) hmost, htwo hmonth, htwo hday, htwo hhour,
    htwo hminute, htwo hsecond, length_paddedDigits (w := 3) (by decide) ht.micro_div_lt]

theorem slug_eq_of_shown_eq (ht : t.IsProper) (ht' : t'.IsProper)
    (h : t.shown / 1000 = t'.shown / 1000) : slug t = slug t' := by
  have hmillis := ht.millis_lt
  have hmillis' := ht'.millis_lt
  rw [Timestamp.shown_div, Timestamp.shown_div, Int.ofNat_inj] at h
  have hdate : t.date = t'.date :=
    (Date.isProper_of_isDay ht.day).eq_of_dayNumber_eq (Date.isProper_of_isDay ht'.day) (by omega)
  have htime : t.timeOfDay / 1000 = t'.timeOfDay / 1000 := by omega
  obtain ⟨hhour, hminute, hsecond, hmicro⟩ : t.hour = t'.hour ∧ t.minute = t'.minute ∧
      t.second = t'.second ∧ t.micro / 1000 = t'.micro / 1000 := by
    have := ht.minute
    have := ht'.minute
    have := ht.second
    have := ht'.second
    have := ht.micro
    have := ht'.micro
    unfold Timestamp.timeOfDay at htime
    omega
  rw [slug, slug, hdate, hhour, hminute, hsecond, hmicro]

/-- What comes behind the milliseconds does not show in a slug, nor does the distance. -/
theorem slug_millis (t : Timestamp) (ahead : Option Int) :
    slug { t with micro := t.micro / 1000 * 1000, ahead } = slug t := by
  have hmillis : t.micro / 1000 * 1000 / 1000 = t.micro / 1000 := Nat.mul_div_cancel _ (by decide)
  simp only [slug, hmillis]

/-- What the journal writes of a time is read back, to the millisecond. -/
theorem time?_writtenToMillisecond (ht : t.IsProper) : time? t.writtenToMillisecond =
    some { t with micro := t.micro / 1000 * 1000, ahead := none } := by
  have htext : t.writtenToMillisecond = t.date.written ++ .char 'T' ::
      (t.clockText ++ .char '.' :: paddedDigits 3 (t.micro / 1000)) ++ [.char 'Z'] := by
    simp [Timestamp.writtenToMillisecond]
  have hdigits : ∀ w n, ∀ g ∈ paddedDigits w n, g.isBlank = false := fun w n g hg =>
    Glyph.isBlank_of_isAsciiDigit (isAsciiDigit_of_mem_paddedDigits w n g hg)
  have hmark : ∀ c ∈ ['-', ':', '.', 'T', 'Z'], (Glyph.char c).isBlank = false := by decide
  have hblank : ∀ g ∈ t.writtenToMillisecond, g.isBlank = false := by
    simp only [List.forall_mem_cons] at hmark
    simp only [htext, Timestamp.clockText, Date.written, List.forall_mem_append,
      List.forall_mem_cons, hmark, true_and]
    exact ⟨⟨⟨⟨hdigits 4 _, hdigits 2 _⟩, hdigits 2 _⟩,
      ⟨⟨hdigits 2 _, hdigits 2 _⟩, hdigits 2 _⟩, hdigits 3 _⟩, by simp⟩
  have htrim : t.writtenToMillisecond.trim = t.writtenToMillisecond :=
    Text.trim_eq_self ⟨fun g hg => hblank g (List.mem_of_mem_head? hg),
      fun g hg => hblank g (List.mem_of_getLast? hg)⟩
  have hpaired : Text.IsPaired (t.clockText ++ .char '.' :: paddedDigits 3 (t.micro / 1000)) := by
    simp [Timestamp.clockText, Glyph.isLone]
  rw [time?, htrim, htext, if_neg (by simp), withoutZone, if_pos List.getLast?_concat,
    List.dropLast_concat, Timestamp.read?_append ht.day hpaired ht.readTime?_millis]

/-- Slugs are the same exactly if the clocks show the same millisecond. -/
theorem slug_eq_iff (ht : t.IsProper) (ht' : t'.IsProper) (hyear : 1000 ≤ t.date.year)
    (hyear' : 1000 ≤ t'.date.year) : slug t = slug t' ↔ t.shown / 1000 = t'.shown / 1000 := by
  refine ⟨fun h => ?_, slug_eq_of_shown_eq ht ht'⟩
  have hself := compare_slug ht ht hyear hyear
  have hother := compare_slug ht ht' hyear hyear'
  rw [← h, hself, compare_eq_iff_eq.mpr rfl] at hother
  exact compare_eq_iff_eq.mp hother.symm

/-- What two slugs tell of the timestamps that they were made for: they have one length and show what
the clocks show, to the millisecond.  If the clocks are equally far from universal time they tell of
the instants. -/
structure TellClocks (s s' : Text) (t t' : Timestamp) : Prop where
  length : s.length = 18 ∧ s'.length = 18
  isLE_iff : (compare s s').isLE = true ↔ t.shown / 1000 ≤ t'.shown / 1000
  eq_iff : s = s' ↔ t.shown / 1000 = t'.shown / 1000
  instants : t.ahead.getD 0 = t'.ahead.getD 0 →
    (t.instant ≤ t'.instant → (compare s s').isLE = true) ∧ (t.instant = t'.instant → s = s')

theorem tellClocks (ht : t.IsProper) (ht' : t'.IsProper) (hyear : 1000 ≤ t.date.year)
    (hyear' : 1000 ≤ t'.date.year) : TellClocks (slug t) (slug t') t t' where
  length := ⟨length_slug ht hyear, length_slug ht' hyear'⟩
  isLE_iff := by rw [compare_slug ht ht' hyear hyear', Int.isLE_compare]
  eq_iff := slug_eq_iff ht ht' hyear hyear'
  instants hahead := by
    rw [compare_slug ht ht' hyear hyear', Int.isLE_compare, slug_eq_iff ht ht' hyear hyear']
    unfold Timestamp.instant
    constructor <;> intro h <;> omega

theorem isProper_of_time? {raw : Text} (h : time? raw = some t) : t.IsProper := by
  rw [time?] at h
  split at h
  · cases h
  · exact Timestamp.isProper_of_read? h

end Naming

namespace Journal

theorem perform_slug_of_time? {raw : Text} {t : Timestamp} (h : Naming.time? raw = some t)
    (j : Journal) : perform (slug raw) j = (.ok (Naming.slug t), j) := by
  rw [slug, h]
  rfl

/-- The slug of a time that the journal wrote is that of the time. -/
theorem perform_slug_timeNow {now : Journal} (hproper : now.wall.current.toUniversal.IsProper)
    (j : Journal) :
    perform (slug now.timeNow) j = (.ok (Naming.slug now.wall.current.toUniversal), j) := by
  have htime : Naming.time? now.timeNow = some _ := Naming.time?_writtenToMillisecond hproper
  rw [perform_slug_of_time? htime, Naming.slug_millis]

/-- **Slugs sort by what the clocks show.**  Texts that spell timestamps have slugs that tell their
clocks, as long as these show years of four digits.  The slug of a text is the one that its instant
has in universal time exactly if its clock shows the millisecond of universal time.  That holds of
the readings of a clock that the journal writes, which therefore sort by their instants. -/
theorem slugs_in_order {raw raw' : Text} {t t' : Timestamp} (h : Naming.time? raw = some t)
    (h' : Naming.time? raw' = some t') (hutc : t.toUniversal.date.year ∈ Set.Icc 1000 9999)
    (hyear : 1000 ≤ t.date.year) (hyear' : 1000 ≤ t'.date.year) :
    (∃ s s' : Text, (∀ j, perform (slug raw) j = (.ok s, j)) ∧
      (∀ j, perform (slug raw') j = (.ok s', j)) ∧ Naming.TellClocks s s' t t' ∧
      (s = Naming.slug t.toUniversal ↔ t.shown / 1000 = t.instant / 1000)) ∧
    ∀ now now' : Journal, now.wall.current.toUniversal.date.year ∈ Set.Icc 1000 9999 →
      now'.wall.current.toUniversal.date.year ∈ Set.Icc 1000 9999 → ∃ s s' : Text,
        (∀ j, perform (slug now.timeNow) j = (.ok s, j)) ∧
        (∀ j, perform (slug now'.timeNow) j = (.ok s', j)) ∧
        Naming.TellClocks s s' now.wall.current.toUniversal now'.wall.current.toUniversal ∧
        (now.wall.current.instant ≤ now'.wall.current.instant → (compare s s').isLE = true) := by
  have huniversal : ∀ {t : Timestamp}, t.toUniversal.date.year ∈ Set.Icc 1000 9999 →
      t.toUniversal.IsProper ∧ t.toUniversal.shown = t.instant := fun hyear =>
    Timestamp.isProper_toUniversal (Nat.lt_of_lt_of_le (by decide) hyear.1) hyear.2
  constructor
  · have ht := Naming.isProper_of_time? h
    obtain ⟨hproper, hshown⟩ := huniversal hutc
    refine ⟨_, _, perform_slug_of_time? h, perform_slug_of_time? h',
      Naming.tellClocks ht (Naming.isProper_of_time? h') hyear hyear', ?_⟩
    rw [Naming.slug_eq_iff ht hproper hyear hutc.1, hshown]
  · intro now now' hnow hnow'
    obtain ⟨hproper, hshown⟩ := huniversal hnow
    obtain ⟨hproper', hshown'⟩ := huniversal hnow'
    have htell := Naming.tellClocks hproper hproper' hnow.1 hnow'.1
    refine ⟨_, _, perform_slug_timeNow hproper, perform_slug_timeNow hproper', htell, fun hle => ?_⟩
    rw [htell.isLE_iff, hshown, hshown']
    omega

/-- A time in March, with `Z`, and one a little later without a distance; and the clock on a day in
June. -/
theorem slugs_in_order_march :
    Naming.time? (Text.of "2024-03-04T05:06:07.890Z") =
      some ⟨⟨2024, 3, 4⟩, 5, 6, 7, 890000, none⟩ ∧
    Naming.time? (Text.of "2024-03-04 05:06:08") = some ⟨⟨2024, 3, 4⟩, 5, 6, 8, 0, none⟩ ∧
    (⟨⟨2024, 3, 4⟩, 5, 6, 7, 890000, none⟩ : Timestamp).toUniversal.date.year ∈
      Set.Icc 1000 9999 ∧
    inJune.wall.current.toUniversal.date.year ∈ Set.Icc 1000 9999 ∧
    (∃ s s' : Text, (∀ j, perform (slug (Text.of "2024-03-04T05:06:07.890Z")) j = (.ok s, j)) ∧
      (∀ j, perform (slug (Text.of "2024-03-04 05:06:08")) j = (.ok s', j)) ∧
      (compare s s').isLE = true) ∧
    ∃ s : Text, (∀ j, perform (slug inJune.timeNow) j = (.ok s, j)) ∧ s.length = 18 := by
  have htime : Naming.time? (Text.of "2024-03-04T05:06:07.890Z") =
      some ⟨⟨2024, 3, 4⟩, 5, 6, 7, 890000, none⟩ := by decide +kernel
  have htime' : Naming.time? (Text.of "2024-03-04 05:06:08") =
      some ⟨⟨2024, 3, 4⟩, 5, 6, 8, 0, none⟩ := by decide +kernel
  have hyear : inJune.wall.current.toUniversal.date.year ∈ Set.Icc 1000 9999 :=
    ⟨by decide +kernel, by decide +kernel⟩
  have hutc : (⟨⟨2024, 3, 4⟩, 5, 6, 7, 890000, none⟩ : Timestamp).toUniversal.date.year ∈
      Set.Icc 1000 9999 := ⟨by decide +kernel, by decide +kernel⟩
  obtain ⟨⟨s, s', hs, hs', htell, -⟩, hclock⟩ :=
    slugs_in_order htime htime' hutc (by decide) (by decide)
  obtain ⟨u, _, hu, -, htellJune, -⟩ := hclock inJune inJune hyear hyear
  exact ⟨htime, htime', hutc, hyear, ⟨s, s', hs, hs', (htell.instants rfl).1 (by decide)⟩,
    u, hu, htellJune.length.1⟩

/-- **Slugs do not sort by instants.**  Half an hour before eleven, by universal time, a clock that is
two hours ahead shows the new year. -/
theorem not_slugs_in_order_of_instants : ¬∀ (raw raw' : Text) (t t' : Timestamp),
    Naming.time? raw = some t → Naming.time? raw' = some t' →
    t.toUniversal.date.year ∈ Set.Icc 1000 9999 → t'.toUniversal.date.year ∈ Set.Icc 1000 9999 →
    t.instant ≤ t'.instant → ∀ (j : Journal) (s s' : Text),
      perform (slug raw) j = (.ok s, j) → perform (slug raw') j = (.ok s', j) →
        (compare s s').isLE = true := by
  intro h
  have hfirst : Naming.time? (Text.of "2024-01-01T00:30:00+02:00") =
      some ⟨⟨2024, 1, 1⟩, 0, 30, 0, 0, some 7200000000⟩ := by decide +kernel
  have hlater : Naming.time? (Text.of "2023-12-31T23:00:00Z") =
      some ⟨⟨2023, 12, 31⟩, 23, 0, 0, 0, none⟩ := by decide +kernel
  have hsorted := h _ _ _ _ hfirst hlater ⟨by decide +kernel, by decide +kernel⟩
    ⟨by decide +kernel, by decide +kernel⟩ (by decide +kernel) inJune _ _
    (perform_slug_of_time? hfirst inJune) (perform_slug_of_time? hlater inJune)
  exact absurd hsorted (by decide +kernel)

end Journal
end QueryDesk
