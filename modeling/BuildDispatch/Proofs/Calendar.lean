import BuildDispatch.Calendar.Text
import BuildDispatch.Proofs.Text.Numerals
import BuildDispatch.Proofs.Text.Split

/-!
# What a clock shows

The line that a clock is written as tells all that the clock shows. Up to the time of day every part
has a width of its own, whatever the numbers are; behind it the zone may be any text, blanks
included, but the year is the last part and has no blank in it.

## Main statements

* `ClockReading.Valid`: what a clock can show.
* `ClockReading.text_injective`: two clocks that are written alike show the same.
-/

namespace BuildDispatch

open Text

/-! ### Names and numbers -/

namespace Date

theorem weekday_lt (d : Date) : d.weekday < 7 := by
  unfold weekday
  omega

theorem length_weekdayName (d : Date) : d.weekdayName.toList.length = 3 := by
  have hnames : ∀ i < 7, (weekdayNames.getD i "").toList.length = 3 := by decide +kernel
  exact hnames d.weekday d.weekday_lt

theorem newline_notMem_weekdayName (d : Date) : '\n' ∉ d.weekdayName.toList := by
  have hnames : ∀ i < 7, '\n' ∉ (weekdayNames.getD i "").toList := by decide +kernel
  exact hnames d.weekday d.weekday_lt

theorem length_monthName {d : Date} (h : d.month ≤ 12) : d.monthName.toList.length = 3 := by
  have hnames : ∀ i < 12, (monthNames.getD i "").toList.length = 3 := by decide +kernel
  exact hnames (d.month - 1) (by omega)

theorem newline_notMem_monthName {d : Date} (h : d.month ≤ 12) : '\n' ∉ d.monthName.toList := by
  have hnames : ∀ i < 12, '\n' ∉ (monthNames.getD i "").toList := by decide +kernel
  exact hnames (d.month - 1) (by omega)

/-- No two months have one name. -/
theorem month_eq_of_monthName {d d' : Date} (h : 1 ≤ d.month ∧ d.month ≤ 12)
    (h' : 1 ≤ d'.month ∧ d'.month ≤ 12) (hname : d.monthName = d'.monthName) :
    d.month = d'.month := by
  have hnames : ∀ i < 12, ∀ j < 12,
      monthNames.getD i "" = monthNames.getD j "" → i = j := by decide +kernel
  have hindex := hnames (d.month - 1) (by omega) (d'.month - 1) (by omega) hname
  omega

end Date

theorem TimeOfDay.toList_text (t : TimeOfDay) :
    t.text.toList = (zeroPadded 2 t.hour).toList ++ ':' :: ((zeroPadded 2 t.minute).toList ++
      ':' :: (zeroPadded 2 t.second).toList) := by
  simp [text]

/-! ### Clocks -/

namespace ClockReading

/-- What a clock can show: a date of the years 1 to 9999 and a time of day. -/
structure Valid (c : ClockReading) : Prop where
  year : 1 ≤ c.date.year ∧ c.date.year ≤ 9999
  month : 1 ≤ c.date.month ∧ c.date.month ≤ 12
  day : 1 ≤ c.date.day ∧ c.date.day ≤ Calendar.daysInMonth c.date.year c.date.month
  hour : c.time.hour < 24
  minute : c.time.minute < 60
  second : c.time.second < 60

/-- Both clocks show the same, but for the fractions of a second. -/
structure Same (c d : ClockReading) : Prop where
  year : c.date.year = d.date.year
  month : c.date.month = d.date.month
  day : c.date.day = d.date.day
  hour : c.time.hour = d.time.hour
  minute : c.time.minute = d.time.minute
  second : c.time.second = d.time.second
  zone : c.zone = d.zone

theorem Valid.day_lt {c : ClockReading} (h : c.Valid) : c.date.day < 10 ^ 2 := by
  have hday := h.day.2
  unfold Calendar.daysInMonth at hday
  split at hday
  · split at hday <;> omega
  all_goals omega

section Text

variable {c d : ClockReading}

theorem Valid.length_time (h : c.Valid) : c.time.text.toList.length = 8 := by
  have hour : (zeroPadded 2 c.time.hour).toList.length = 2 :=
    length_padLeftWith (by decide) (Nat.lt_trans h.hour (by decide))
  have minute : (zeroPadded 2 c.time.minute).toList.length = 2 :=
    length_padLeftWith (by decide) (Nat.lt_trans h.minute (by decide))
  have second : (zeroPadded 2 c.time.second).toList.length = 2 :=
    length_padLeftWith (by decide) (Nat.lt_trans h.second (by decide))
  simp only [TimeOfDay.toList_text, List.length_append, List.length_cons, hour, minute, second]

theorem time_eq_of_text (hc : c.Valid) (hd : d.Valid) (h : c.time.text = d.time.text) :
    c.time.hour = d.time.hour ∧ c.time.minute = d.time.minute ∧ c.time.second = d.time.second := by
  have hlength {n m : Nat} (hn : n < 60) (hm : m < 60) :
      (zeroPadded 2 n).toList.length = (zeroPadded 2 m).toList.length :=
    (length_padLeftWith (by decide) (Nat.lt_trans hn (by decide))).trans
      (length_padLeftWith (by decide) (Nat.lt_trans hm (by decide))).symm
  have hzero : '0'.toNat ≤ '0'.toNat := Nat.le_refl _
  rw [← String.toList_inj, TimeOfDay.toList_text, TimeOfDay.toList_text] at h
  have hhour := hc.hour
  have hhour' := hd.hour
  obtain ⟨hour, h⟩ := List.append_inj h (hlength (by omega) (by omega))
  obtain ⟨minute, h⟩ :=
    List.append_inj (List.cons_eq_cons.mp h).2 (hlength hc.minute hd.minute)
  have second := (List.cons_eq_cons.mp h).2
  exact ⟨padLeftWith_injective hzero (String.toList_inj.mp hour),
    padLeftWith_injective hzero (String.toList_inj.mp minute),
    padLeftWith_injective hzero (String.toList_inj.mp second)⟩

theorem year_eq_of_text (hc : c.Valid) (hd : d.Valid)
    (h : toString c.date.year = toString d.date.year) : c.date.year = d.date.year := by
  obtain ⟨n, hn⟩ := Int.eq_ofNat_of_zero_le (Int.le_of_lt hc.year.1)
  obtain ⟨m, hm⟩ := Int.eq_ofNat_of_zero_le (Int.le_of_lt hd.year.1)
  rw [hn, hm] at h ⊢
  have hdigits : padLeftWith '0' 0 (toString n) = padLeftWith '0' 0 (toString m) :=
    congrArg (padLeftWith '0' 0) h
  rw [padLeftWith_injective (Nat.le_refl _) hdigits]

/-- What stands in front of the zone. -/
def front (c : ClockReading) : Text :=
  c.date.weekdayName ++ " " ++ c.date.monthName ++ " " ++ spacePadded 2 c.date.day ++ " " ++
    c.time.text ++ " "

theorem Valid.length_front (h : c.Valid) : c.front.length = 20 := by
  have hday : (spacePadded 2 c.date.day).toList.length = 2 :=
    length_padLeftWith (by decide) h.day_lt
  have hblank : (ofString " ").length = 1 := rfl
  simp only [front, List.length_append, length_ofString, Date.length_weekdayName,
    Date.length_monthName h.month.2, hday, h.length_time, hblank]

/-- What a clock is written as is one line if the name of its zone is. -/
theorem Valid.newline_notMem_text (h : c.Valid) (hzone : .char '\n' ∉ c.zone) :
    .char '\n' ∉ c.text := by
  have hnumber (width n : Nat) : '\n' ∉ (zeroPadded width n).toList :=
    notMem_padLeftWith rfl (by decide) width n
  have hday : '\n' ∉ (spacePadded 2 c.date.day).toList := notMem_padLeftWith rfl (by decide) _ _
  have htime : '\n' ∉ c.time.text.toList := by simp [TimeOfDay.toList_text, hnumber]
  have hyear : CodePoint.char '\n' ∉ (toString c.date.year : Text) :=
    notMem_int rfl (by decide) c.date.year
  have hblank : '\n' ∉ " ".toList := by decide
  simp only [text, List.mem_append, mem_ofString, c.date.newline_notMem_weekdayName,
    Date.newline_notMem_monthName h.month.2, hday, htime, hzone, hyear, hblank, or_self,
    not_false_eq_true]

/-- Two clocks that are written alike show the same. -/
theorem text_injective (hc : c.Valid) (hd : d.Valid) (h : c.text = d.text) : c.Same d := by
  have hsplit (c : ClockReading) :
      c.text = (c.front ++ c.zone) ++ CodePoint.char ' ' :: (toString c.date.year : Text) := by
    have hblank : ofString " " = [CodePoint.char ' '] := rfl
    simp [text, front, hblank]
  rw [hsplit, hsplit] at h
  obtain ⟨h, hyear⟩ := append_lastStop_inj (notMem_int rfl (by decide) _)
    (notMem_int rfl (by decide) _) h
  obtain ⟨h, hzone⟩ := List.append_inj h (hc.length_front.trans hd.length_front.symm)
  have htimes : (ofString c.time.text).length = (ofString d.time.text).length := by
    rw [length_ofString, length_ofString, hc.length_time, hd.length_time]
  have hdays : (ofString (spacePadded 2 c.date.day)).length =
      (ofString (spacePadded 2 d.date.day)).length := by
    rw [length_ofString, length_ofString]
    exact (length_padLeftWith (by decide) hc.day_lt).trans
      (length_padLeftWith (by decide) hd.day_lt).symm
  have hmonths : (ofString c.date.monthName).length = (ofString d.date.monthName).length := by
    rw [length_ofString, length_ofString, Date.length_monthName hc.month.2,
      Date.length_monthName hd.month.2]
  unfold front at h
  obtain ⟨h, -⟩ := List.append_inj' h rfl
  obtain ⟨h, htime⟩ := List.append_inj' h htimes
  obtain ⟨h, -⟩ := List.append_inj' h rfl
  obtain ⟨h, hday⟩ := List.append_inj' h hdays
  obtain ⟨h, -⟩ := List.append_inj' h rfl
  obtain ⟨-, hmonth⟩ := List.append_inj' h hmonths
  obtain ⟨hour, minute, second⟩ := time_eq_of_text hc hd (ofString_injective htime)
  exact {
    year := year_eq_of_text hc hd (ofString_injective hyear)
    month := Date.month_eq_of_monthName hc.month hd.month (ofString_injective hmonth)
    day := padLeftWith_injective (by decide) (ofString_injective hday)
    hour, minute, second
    zone := hzone }

end Text

end ClockReading
end BuildDispatch
