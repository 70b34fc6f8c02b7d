import Courier.Descriptor
import Courier.Proofs.Calendar
import Courier.Proofs.Field
import Courier.Proofs.Text

/-!
# Dates in headers, read back

The header form of a date is made of visible characters, so that it always is a header value, and
never the one that stands in for a date without a form. In the years of four digits the form has a
fixed length and is read back: it says the date and the weekday that are found by counting days, and
the time of day to the second. A leap second comes after the last second of a minute and is written
as second sixty; elsewhere nanoseconds that run on past a second lie in the next. So two instants
have the same form just if they lie in the same second.
-/

namespace Courier

variable {t : Instant}

/-! ## Numbers of a fixed width -/

namespace Text

theorem digitsValue_replicate_append (base k : Nat) (t : Text) :
    digitsValue base (List.replicate k '0' ++ t) = digitsValue base t := by
  induction k with
  | zero => rfl
  | succ k ih =>
    have hzero : 0 * base + hexDigitValue '0' = 0 := by
      rw [Nat.zero_mul]
      rfl
    rw [List.replicate_succ, List.cons_append, digitsValue, List.foldl_cons, hzero]
    exact ih

theorem digitsValue_ofNatPadded (width n : Nat) : digitsValue 10 (ofNatPadded width n) = n := by
  unfold ofNatPadded
  rw [digitsValue_replicate_append]
  exact digitsValue_toDigits (by omega) (by omega) n

theorem isDigit_of_mem_ofNatPadded {width n : Nat} {c : Char} (h : c ∈ ofNatPadded width n) :
    c.isDigit = true := by
  rcases List.mem_append.1 h with hzero | hdigit
  · rw [(List.mem_replicate.1 hzero).2]
    rfl
  · exact isDigit_of_mem_ofNat hdigit

theorem length_ofNatPadded {width n : Nat} (hpos : 0 < width) (h : n < 10 ^ width) :
    (ofNatPadded width n).length = width := by
  have hle : (ofNat n).length ≤ width := (Nat.length_toDigits_le_iff (by omega) hpos).2 h
  unfold ofNatPadded
  rw [List.length_append, List.length_replicate]
  omega

end Text

/-! ## Reading dates -/

/-- What a date in a header says. The weekday is counted from Sunday. -/
structure Stamp where
  weekday : Nat
  date : CalendarDay
  hour : Nat
  minute : Nat
  second : Nat
deriving DecidableEq

namespace Stamp

/-- Reads a number of so many digits. -/
def readDigits (width : Nat) (t : Text) : Option (Nat × Text) :=
  if (t.take width).length = width ∧ (t.take width).all Char.isDigit then
    some (Text.digitsValue 10 (t.take width), t.drop width)
  else none

/-- Reads a name of three letters, and tells its place among the names. -/
def readName (names : List String) (t : Text) : Option (Nat × Text) :=
  (names.findIdx? (·.toList == t.take 3)).map (·, t.drop 3)

/-- Reads a date: two digits of the day, the name of the month, four digits of the year. -/
def readDate (t : Text) : Option (CalendarDay × Text) := do
  let (day, t) ← readDigits 2 t
  let t ← Text.after? [' '] t
  let (month, t) ← readName HttpDate.monthNames t
  let t ← Text.after? [' '] t
  let (year, t) ← readDigits 4 t
  some (⟨year, month + 1, day⟩, t)

/-- Reads hour, minute and second of two digits each. -/
def readTime (t : Text) : Option (Nat × Nat × Nat × Text) := do
  let (hour, t) ← readDigits 2 t
  let t ← Text.after? [':'] t
  let (minute, t) ← readDigits 2 t
  let t ← Text.after? [':'] t
  let (second, t) ← readDigits 2 t
  some (hour, minute, second, t)

/-- Reads a header form of fixed length: the name of the weekday, the date, and the time of day in
universal time. -/
def read? (t : Text) : Option Stamp := do
  let (weekday, t) ← readName HttpDate.dayNames t
  let t ← Text.after? ", ".toList t
  let (date, t) ← readDate t
  let t ← Text.after? [' '] t
  let (hour, minute, second, t) ← readTime t
  if t = " GMT".toList then some { weekday, date, hour, minute, second } else none

theorem readDigits_append {width n : Nat} (hpos : 0 < width) (h : n < 10 ^ width) (rest : Text) :
    readDigits width (Text.ofNatPadded width n ++ rest) = some (n, rest) := by
  have hlength := Text.length_ofNatPadded hpos h
  have htake : (Text.ofNatPadded width n ++ rest).take width = Text.ofNatPadded width n :=
    List.take_left' hlength
  have hdigits : (Text.ofNatPadded width n).all Char.isDigit = true :=
    List.all_eq_true.2 fun _ => Text.isDigit_of_mem_ofNatPadded
  rw [readDigits, htake, if_pos ⟨hlength, hdigits⟩, Text.digitsValue_ofNatPadded,
    List.drop_left' hlength]

theorem readName_append {names : List String} {i : Nat} (rest : Text)
    (hlength : (names.getD i "").toList.length = 3)
    (hfind : names.findIdx? (·.toList == (names.getD i "").toList) = some i) :
    readName names ((names.getD i "").toList ++ rest) = some (i, rest) := by
  rw [readName, List.take_left' hlength, hfind, List.drop_left' hlength]
  rfl

theorem readName_dayNames {i : Nat} (h : i < 7) (rest : Text) :
    readName HttpDate.dayNames ((HttpDate.dayNames.getD i "").toList ++ rest) = some (i, rest) := by
  have hall : ∀ i < 7, (HttpDate.dayNames.getD i "").toList.length = 3 ∧
      HttpDate.dayNames.findIdx? (·.toList == (HttpDate.dayNames.getD i "").toList) = some i := by
    decide
  exact readName_append rest (hall i h).1 (hall i h).2

theorem readName_monthNames {i : Nat} (h : i < 12) (rest : Text) :
    readName HttpDate.monthNames ((HttpDate.monthNames.getD i "").toList ++ rest) =
      some (i, rest) := by
  have hall : ∀ i < 12, (HttpDate.monthNames.getD i "").toList.length = 3 ∧
      HttpDate.monthNames.findIdx? (·.toList == (HttpDate.monthNames.getD i "").toList) =
        some i := by
    decide
  exact readName_append rest (hall i h).1 (hall i h).2

theorem readDate_append {date : CalendarDay} (hdate : date.IsDate) (hyear : 0 ≤ date.year)
    (hshort : date.year ≤ 9999) (rest : Text) :
    readDate (Text.ofNatPadded 2 date.day ++ ([' '] ++
      ((HttpDate.monthNames.getD (date.month - 1) "").toList ++ ([' '] ++
      (Text.ofNatPadded 4 date.year.toNat ++ rest))))) = some (date, rest) := by
  have hday := hdate.day_lt
  have hmonth : date.month - 1 < 12 := by
    have hle := hdate.month_le
    omega
  have hback : date.month - 1 + 1 = date.month := Nat.sub_add_cancel hdate.month_pos
  have hyearLt : date.year.toNat < 10 ^ 4 := by omega
  have hyearBack : (date.year.toNat : Int) = date.year := Int.toNat_of_nonneg hyear
  simp only [readDate, Option.bind_eq_bind, readDigits_append (by omega : 0 < 2) hday,
    Option.bind_some, Text.after?_append, readName_monthNames hmonth,
    readDigits_append (by omega : 0 < 4) hyearLt, hback, hyearBack]

theorem readTime_append {hour minute second : Nat} (hhour : hour < 10 ^ 2)
    (hminute : minute < 10 ^ 2) (hsecond : second < 10 ^ 2) (rest : Text) :
    readTime (Text.ofNatPadded 2 hour ++ ([':'] ++ (Text.ofNatPadded 2 minute ++ ([':'] ++
      (Text.ofNatPadded 2 second ++ rest))))) = some (hour, minute, second, rest) := by
  simp only [readTime, Option.bind_eq_bind, readDigits_append (by omega : 0 < 2) hhour,
    Option.bind_some, Text.after?_append, readDigits_append (by omega : 0 < 2) hminute,
    readDigits_append (by omega : 0 < 2) hsecond]

end Stamp

/-! ## Instants -/

namespace Instant

/-- The whole seconds from the first of January 1970 to an instant. A leap second is counted as the
second after it. -/
def wholeSecs (t : Instant) : Int :=
  t.secs + (t.nanos / 1000000000 : Nat)

/-- An instant within a leap second, which comes only after the last second of a minute. -/
def IsLeap (t : Instant) : Prop :=
  1000000000 ≤ t.nanos ∧ t.secs % 60 = 59

instance : Decidable t.IsLeap :=
  inferInstanceAs (Decidable (_ ∧ _))

/-- Two instants that lie in the same second. -/
def SameSecond (t u : Instant) : Prop :=
  t.wholeSecs = u.wholeSecs ∧ (t.IsLeap ↔ u.IsLeap)

/-- The year of an instant has four digits. -/
def HasShortYear (t : Instant) : Prop :=
  0 ≤ (CalendarDay.ofDays t.days).year ∧ (CalendarDay.ofDays t.days).year ≤ 9999

instance : Decidable t.HasShortYear :=
  inferInstanceAs (Decidable (_ ∧ _))

theorem days_eq (t : Instant) : t.days = t.secs / 86400 :=
  Int.fdiv_eq_ediv_of_nonneg t.secs (by decide)

theorem secondOfDay_eq (t : Instant) : (t.secondOfDay : Int) = t.secs % 86400 := by
  unfold secondOfDay
  rw [Int.fmod_eq_emod_of_nonneg t.secs (by decide)]
  omega

/-- The second within the minute is sixty in a leap second only. -/
theorem second_cases (t : Instant) :
    t.IsLeap ∧ t.second = 60 ∨ ¬ t.IsLeap ∧ t.second < 60 := by
  have hday := secondOfDay_eq t
  have hnanos := t.nanos_lt
  unfold IsLeap second
  omega

end Instant

/-- What a date in a header says is true of an instant: the date and the weekday are those that are
found by counting days, and with the time of day they make up its whole seconds. In a leap second,
and only there, the time of day has a second sixty. -/
structure Stamp.IsTrueOf (s : Stamp) (t : Instant) : Prop where
  calendar : ∃ days, CalendarDay.Counted days s.date s.weekday ∧
    days * 86400 + s.hour * 3600 + s.minute * 60 + s.second = t.wholeSecs
  hour : s.hour < 24
  minute : s.minute < 60
  second : s.second ≤ 60
  leap : s.second = 60 ↔ t.IsLeap

/-- At most one stamp is true of the instants of a second. -/
theorem Stamp.IsTrueOf.unique {u : Instant} {s s' : Stamp} (hs : s.IsTrueOf t) (hs' : s'.IsTrueOf u)
    (h : t.SameSecond u) : s = s' := by
  obtain ⟨days, hcounted, htime⟩ := hs.calendar
  obtain ⟨days', hcounted', htime'⟩ := hs'.calendar
  have hsixty : s.second = 60 ↔ s'.second = 60 :=
    hs.leap.trans (h.2.trans hs'.leap.symm)
  have hwhole := h.1
  have hhour := hs.hour
  have hminute := hs.minute
  have hsecond := hs.second
  have hhour' := hs'.hour
  have hminute' := hs'.minute
  have hsecond' := hs'.second
  have hdays : days = days' := by omega
  subst hdays
  obtain ⟨hdate, hweekday⟩ := CalendarDay.eq_of_counted hcounted
  obtain ⟨hdate', hweekday'⟩ := CalendarDay.eq_of_counted hcounted'
  obtain ⟨weekday, date, hour, minute, second⟩ := s
  obtain ⟨weekday', date', hour', minute', second'⟩ := s'
  dsimp only at *
  rw [Stamp.mk.injEq]
  exact ⟨hweekday.trans hweekday'.symm, hdate.trans hdate'.symm, by omega, by omega, by omega⟩

namespace Instant

/-- What the header form of an instant says. -/
def stamp (t : Instant) : Stamp where
  weekday := t.weekday
  date := CalendarDay.ofDays t.days
  hour := t.secondOfDay / 3600
  minute := t.secondOfDay / 60 % 60
  second := t.second

theorem isTrueOf_stamp (t : Instant) : t.stamp.IsTrueOf t := by
  have hday := secondOfDay_eq t
  have hdays := days_eq t
  refine ⟨⟨t.days, CalendarDay.counted_ofDays t.days, ?_⟩, ?_, ?_, ?_, ?_⟩
  · simp only [stamp, second, wholeSecs]
    omega
  · simp only [stamp]
    omega
  · simp only [stamp]
    omega
  · rcases second_cases t with ⟨-, hsixty⟩ | ⟨-, hless⟩
    · exact Nat.le_of_eq hsixty
    · exact Nat.le_of_lt hless
  · rcases second_cases t with ⟨hleap, hsixty⟩ | ⟨hplain, hless⟩
    · exact iff_of_true hsixty hleap
    · exact iff_of_false (Nat.ne_of_lt hless) hplain

/-- A stamp that is true of two instants leaves no room between them. -/
theorem sameSecond_of_isTrueOf {u : Instant} {s : Stamp} (ht : s.IsTrueOf t) (hu : s.IsTrueOf u) :
    t.SameSecond u := by
  obtain ⟨days, hcounted, htime⟩ := ht.calendar
  obtain ⟨days', hcounted', htime'⟩ := hu.calendar
  have hdays : days = days' := by
    rw [← CalendarDay.toDays_ofDays days, ← CalendarDay.toDays_ofDays days',
      ← (CalendarDay.eq_of_counted hcounted).1, ← (CalendarDay.eq_of_counted hcounted').1]
  refine ⟨?_, ht.leap.symm.trans hu.leap⟩
  rw [← htime, ← htime', hdays]

end Instant

/-! ## Header forms -/

namespace HttpDate

/-- Whether all characters are visible, as a check that runs. -/
def allVisible (t : Text) : Bool :=
  t.all fun c => decide (IsVisibleChar c)

theorem isVisibleChar_of_allVisible {t : Text} (h : allVisible t = true) :
    ∀ c ∈ t, IsVisibleChar c := by
  intro c hc
  exact of_decide_eq_true (List.all_eq_true.1 h c hc)

theorem isVisibleChar_of_mem_getD {names : List String} {i : Nat} {c : Char}
    (hnames : ∀ name ∈ names, allVisible name.toList = true)
    (h : c ∈ (names.getD i "").toList) : IsVisibleChar c := by
  rw [List.getD_eq_getElem?_getD] at h
  cases hname : names[i]? with
  | none =>
    rw [hname] at h
    exact absurd h (by simp)
  | some name =>
    rw [hname] at h
    exact isVisibleChar_of_allVisible (hnames name (List.mem_of_getElem? hname)) c h

theorem isVisibleChar_of_mem_ofNatPadded {width n : Nat} {c : Char}
    (h : c ∈ Text.ofNatPadded width n) : IsVisibleChar c :=
  isVisibleChar_of_isDigit (Text.isDigit_of_mem_ofNatPadded h)

theorem isVisibleChar_of_mem_yearText {year : Int} {c : Char} (h : c ∈ yearText year) :
    IsVisibleChar c := by
  unfold yearText at h
  split at h
  · rcases List.mem_cons.1 h with rfl | h
    · decide
    · exact isVisibleChar_of_mem_ofNatPadded h
  · split at h
    · rcases List.mem_cons.1 h with rfl | h
      · decide
      · exact isVisibleChar_of_mem_ofNatPadded h
    · exact isVisibleChar_of_mem_ofNatPadded h

/-- The header form of an instant is made of visible characters. -/
theorem isVisibleChar_of_mem_toText (t : Instant) : ∀ c ∈ toText t, IsVisibleChar c := by
  have hdays : ∀ name ∈ dayNames, allVisible name.toList = true := by decide
  have hmonths : ∀ name ∈ monthNames, allVisible name.toList = true := by decide
  have hcomma := isVisibleChar_of_allVisible (show allVisible ", ".toList = true from rfl)
  have hzone := isVisibleChar_of_allVisible (show allVisible " GMT".toList = true from rfl)
  have hblank := isVisibleChar_of_allVisible (show allVisible [' '] = true from rfl)
  have hcolon := isVisibleChar_of_allVisible (show allVisible [':'] = true from rfl)
  intro c hc
  unfold toText at hc
  simp only [List.mem_append] at hc
  rcases hc with ((((((((((((hc | hc) | hc) | hc) | hc) | hc) | hc) | hc) | hc) | hc) | hc) | hc) |
    hc) | hc
  · exact isVisibleChar_of_mem_getD hdays hc
  · exact hcomma c hc
  · exact isVisibleChar_of_mem_ofNatPadded hc
  · exact hblank c hc
  · exact isVisibleChar_of_mem_getD hmonths hc
  · exact hblank c hc
  · exact isVisibleChar_of_mem_yearText hc
  · exact hblank c hc
  · exact isVisibleChar_of_mem_ofNatPadded hc
  · exact hcolon c hc
  · exact isVisibleChar_of_mem_ofNatPadded hc
  · exact hcolon c hc
  · exact isVisibleChar_of_mem_ofNatPadded hc
  · exact hzone c hc

/-- The header form of an instant is a header value, and it is the one that is used. -/
theorem ofOctets?_toText (t : Instant) :
    FieldValue.ofOctets? (Octets.ofText (toText t)) = some (toValue t) ∧
      (toValue t).text? = some (toText t) := by
  obtain ⟨v, hv, htext⟩ := FieldValue.ofOctets?_ofText (isVisibleChar_of_mem_toText t)
  have hvalue : toValue t = v := by
    unfold toValue
    rw [hv, Option.getD_some]
  rw [hvalue]
  exact ⟨hv, htext⟩

/-- A date as a header value is what its header form is read as. -/
theorem read_checked (t : Instant) : RawValue.read (.checked (toValue t)) =
    RawValue.read (.octets (Octets.ofText (toText t))) := by
  simp only [RawValue.read, (ofOctets?_toText t).1]

theorem yearText_eq {year : Int} (hlow : 0 ≤ year) (hhigh : year ≤ 9999) :
    yearText year = Text.ofNatPadded 4 year.toNat := by
  have hneg : ¬ year < 0 := by omega
  have hlong : ¬ 9999 < year := by omega
  have habs : year.natAbs = year.toNat := by omega
  unfold yearText
  dsimp only
  rw [if_neg hneg, if_neg hlong, habs]

/-- The header form of an instant, part by part. -/
theorem toText_eq (hyear : t.HasShortYear) : toText t =
    (dayNames.getD t.stamp.weekday "").toList ++ (", ".toList ++
    (Text.ofNatPadded 2 t.stamp.date.day ++ ([' '] ++
    ((monthNames.getD (t.stamp.date.month - 1) "").toList ++ ([' '] ++
    (Text.ofNatPadded 4 t.stamp.date.year.toNat ++ ([' '] ++
    (Text.ofNatPadded 2 t.stamp.hour ++ ([':'] ++
    (Text.ofNatPadded 2 t.stamp.minute ++ ([':'] ++
    (Text.ofNatPadded 2 t.stamp.second ++ " GMT".toList)))))))))))) := by
  have htext := yearText_eq hyear.1 hyear.2
  unfold toText
  dsimp only
  rw [htext]
  simp only [List.append_assoc]
  rfl

/-- The time of day has two digits for each of its parts. -/
theorem time_lt (t : Instant) :
    t.stamp.hour < 10 ^ 2 ∧ t.stamp.minute < 10 ^ 2 ∧ t.stamp.second < 10 ^ 2 := by
  have htrue := Instant.isTrueOf_stamp t
  have hhour := htrue.hour
  have hminute := htrue.minute
  have hsecond := htrue.second
  omega

/-- The header form of an instant has a fixed length. -/
theorem length_toText (hyear : t.HasShortYear) : (toText t).length = 29 := by
  obtain ⟨hhour, hminute, hsecond⟩ := time_lt t
  have hdate : t.stamp.date.IsDate := CalendarDay.isDate_ofDays t.days
  have hdayName : ∀ i < 7, (dayNames.getD i "").toList.length = 3 := by decide
  have hmonthName : ∀ i < 12, (monthNames.getD i "").toList.length = 3 := by decide
  have hweekday : t.stamp.weekday < 7 := CalendarDay.weekdayOf_lt t.days
  have hmonth : t.stamp.date.month - 1 < 12 := by
    have hle := hdate.month_le
    omega
  have hyearLt : t.stamp.date.year.toNat < 10 ^ 4 := by
    have hle : t.stamp.date.year ≤ 9999 := hyear.2
    omega
  have hcomma : ", ".toList.length = 2 := by decide
  have hzone : " GMT".toList.length = 4 := by decide
  rw [toText_eq hyear]
  simp only [List.length_append, List.length_singleton, hdayName _ hweekday, hmonthName _ hmonth,
    hcomma, hzone, Text.length_ofNatPadded (by omega) hdate.day_lt,
    Text.length_ofNatPadded (by omega) hyearLt, Text.length_ofNatPadded (by omega) hhour,
    Text.length_ofNatPadded (by omega) hminute, Text.length_ofNatPadded (by omega) hsecond]

/-- The header form of an instant is read back. -/
theorem read?_toText (hyear : t.HasShortYear) : Stamp.read? (toText t) = some t.stamp := by
  obtain ⟨hhour, hminute, hsecond⟩ := time_lt t
  have hweekday : t.stamp.weekday < 7 := CalendarDay.weekdayOf_lt t.days
  have hdate : t.stamp.date.IsDate := CalendarDay.isDate_ofDays t.days
  rw [toText_eq hyear]
  simp only [Stamp.read?, Option.bind_eq_bind, Stamp.readName_dayNames hweekday, Option.bind_some,
    Text.after?_append, Stamp.readDate_append hdate hyear.1 hyear.2,
    Stamp.readTime_append hhour hminute hsecond, if_true]

example : Stamp.read? "Sun, 06 Nov 1994 08:49:37 GMT".toList =
    some ⟨0, ⟨1994, 11, 6⟩, 8, 49, 37⟩ := by
  decide

/-- Two instants have the same header form just if they lie in the same second. -/
theorem toText_eq_iff {u : Instant} (ht : t.HasShortYear) (hu : u.HasShortYear) :
    toText t = toText u ↔ t.SameSecond u := by
  constructor
  · intro heq
    have hstamp : some t.stamp = some u.stamp := by
      rw [← read?_toText ht, ← read?_toText hu, heq]
    rw [Option.some.injEq] at hstamp
    exact Instant.sameSecond_of_isTrueOf (Instant.isTrueOf_stamp t)
      (hstamp ▸ Instant.isTrueOf_stamp u)
  · intro hsame
    rw [toText_eq ht, toText_eq hu,
      (Instant.isTrueOf_stamp t).unique (Instant.isTrueOf_stamp u) hsame]

/-! ## Changes that take dates -/

theorem mapM_read_dates (dates : List Instant) :
    (dates.map fun t => RawValue.checked (toValue t)).mapM RawValue.read =
      (dates.map fun t => RawValue.octets (Octets.ofText (toText t))).mapM RawValue.read := by
  simp only [List.mapM_map, Function.comp_def, read_checked]

theorem dateHeader_eq (d : Descriptor) (name : Octets) (t : Instant) :
    d.addDateHeader name t = d.addHeader name (.octets (Octets.ofText (toText t))) ∧
    d.setDateHeader name t = d.setHeader name (.octets (Octets.ofText (toText t))) := by
  unfold Descriptor.addDateHeader Descriptor.addHeader Descriptor.setDateHeader
    Descriptor.setHeader
  rw [read_checked]
  exact ⟨rfl, rfl⟩

theorem dateHeaders_eq (d : Descriptor) (name : Octets) (dates : List Instant) :
    d.addDateHeaders name dates =
      d.addHeaderValues name (dates.map fun t => .octets (Octets.ofText (toText t))) ∧
    d.setDateHeaders name dates =
      d.setHeaderValues name (dates.map fun t => .octets (Octets.ofText (toText t))) := by
  unfold Descriptor.addDateHeaders Descriptor.addHeaderValues Descriptor.setDateHeaders
    Descriptor.setHeaderValues
  rw [mapM_read_dates]
  exact ⟨rfl, rfl⟩

end HttpDate

end Courier
