import RowCast.Calendar.Interchange
import RowCast.Proofs.Blanks
import RowCast.Value.Basic

/-!
# Days, times and instants behind their text

Every day is read back from the text that it is written as, and of every time of day what its text
shows: years with a sign, fractions of any length and leap seconds at the end of a minute included.
Only a leap second within a minute is read as the second behind it, whose text it shares. The
readers of patterns are followed item by item; each takes from the front of a text what was written
for it and leaves the rest.
-/

namespace RowCast

open Text (paddedText startsWithDigit)

/-- A reader that has read something goes on with it. -/
theorem Except.bind_of_ok {ε α β : Type} {x : Except ε α} {a : α} (h : x = .ok a)
    (f : α → Except ε β) : (x >>= f) = f a := by
  rw [h]
  rfl

namespace Text

/-- There is nothing to trim before a number. -/
theorem trimStart_paddedText (width n : Nat) (rest : List Char) :
    trimStart (paddedText width n ++ rest) = paddedText width n ++ rest := by
  obtain ⟨c, digits, hdigits⟩ := List.exists_cons_of_ne_nil (paddedText_ne_nil width n)
  have hc : c ∈ paddedText width n := by simp [hdigits]
  rw [hdigits, List.cons_append,
    trimStart_cons (isBlank_of_isDigit (isDigit_of_mem_paddedText hc))]

end Text

namespace PatternItem

/-- Digits within the limit are taken where the limit is reached or something else follows. -/
theorem takeDigits_append {limit : Option Nat} {digits rest : List Char}
    (hdigits : ∀ c ∈ digits, Text.isDigit c = true) (hroom : ∀ n ∈ limit, digits.length ≤ n)
    (hstop : limit = some digits.length ∨ startsWithDigit rest = false) :
    takeDigits limit (digits ++ rest) = (digits, rest) := by
  cases limit with
  | none => exact Text.spanDigits_append hdigits (by simpa using hstop)
  | some n =>
    have hn : digits.length ≤ n := hroom n rfl
    have hrest : startsWithDigit (rest.take (n - digits.length)) = false := by
      rcases hstop with heq | hstop
      · cases heq
        simp [startsWithDigit]
      · cases rest with
        | nil => simp [startsWithDigit]
        | cons c rest =>
          cases n - digits.length with
          | zero => rfl
          | succ k => exact hstop
    have htaken := Text.spanDigits_append hdigits hrest
    rw [Text.spanDigits, Prod.mk.injEq] at htaken
    rw [takeDigits, List.take_append, List.drop_append, List.take_of_length_le hn,
      List.drop_of_length_le hn, htaken.1, htaken.2, List.nil_append, List.take_append_drop]

/-- A number is read from its digits. -/
theorem readDigits_paddedText {limit : Option Nat} {width n : Nat} {rest : List Char}
    (hn : n < 2 ^ 63) (hroom : ∀ k ∈ limit, (paddedText width n).length ≤ k)
    (hstop : limit = some (paddedText width n).length ∨ startsWithDigit rest = false) :
    readDigits limit (paddedText width n ++ rest) = .ok (n, (paddedText width n).length, rest) := by
  have htaken := takeDigits_append (fun _ => Text.isDigit_of_mem_paddedText) hroom hstop
  simp only [readDigits, htaken, Text.digitsValue_paddedText]
  rw [if_pos hn]
  simp [Text.paddedText_ne_nil]

/-- A number of two digits is read from them, whatever follows. -/
theorem readBounded_paddedText {low high n : Nat} (hlow : low ≤ n) (hhigh : n ≤ high)
    (hn : n < 100) (rest : List Char) :
    readBounded low high (paddedText 2 n ++ rest) = .ok (n, rest) := by
  have hlength : (paddedText 2 n).length = 2 := Text.paddedText_length_of_lt hn
  have hread : readDigits (some 2) (paddedText 2 n ++ rest) =
      .ok (n, (paddedText 2 n).length, rest) :=
    readDigits_paddedText (by omega) (by simp [hlength]) (.inl (by rw [hlength]))
  rw [readBounded, Text.trimStart_paddedText, hread]
  change (if low ≤ n ∧ n ≤ high then _ else _) = _
  rw [if_pos ⟨hlow, hhigh⟩]

/-- The digits behind a minus sign are those of a year before the year zero. -/
theorem readYear_minus {n k : Nat} {digits rest : List Char}
    (hread : readDigits none digits = .ok (n, k, rest)) (hn : n ≤ 2 ^ 31) :
    readYear ('-' :: digits) = .ok (-(n : Int), rest) := by
  have hrange : -2 ^ 31 ≤ -(n : Int) ∧ -(n : Int) < 2 ^ 31 := by omega
  rw [readYear, Text.trimStart_cons (by decide)]
  refine (Except.bind_of_ok hread _).trans ?_
  refine (Except.bind_of_ok (a := (-(n : Int), rest)) rfl _).trans ?_
  exact if_pos hrange

/-- The digits behind a plus sign are those of a year from the year zero on. -/
theorem readYear_plus {n k : Nat} {digits rest : List Char}
    (hread : readDigits none digits = .ok (n, k, rest)) (hn : n < 2 ^ 31) :
    readYear ('+' :: digits) = .ok ((n : Int), rest) := by
  have hrange : -2 ^ 31 ≤ (n : Int) ∧ (n : Int) < 2 ^ 31 := by omega
  rw [readYear, Text.trimStart_cons (by decide)]
  refine (Except.bind_of_ok hread _).trans ?_
  refine (Except.bind_of_ok (a := ((n : Int), rest)) rfl _).trans ?_
  exact if_pos hrange

/-- Without a sign a year is read from four digits. -/
theorem readYear_plain {n : Nat} (hn : n < 10000) (rest : List Char) :
    readYear (paddedText 4 n ++ rest) = .ok ((n : Int), rest) := by
  have hlength : (paddedText 4 n).length = 4 := Text.paddedText_length_of_lt hn
  have hread : readDigits (some 4) (paddedText 4 n ++ rest) =
      .ok (n, (paddedText 4 n).length, rest) :=
    readDigits_paddedText (by omega) (by simp [hlength]) (.inl (by rw [hlength]))
  have hunsigned (c : Char) (s : List Char) (heq : paddedText 4 n ++ rest = c :: s) :
      Text.isDigit c = true := by
    obtain ⟨d, digits, hdigits⟩ := List.exists_cons_of_ne_nil (Text.paddedText_ne_nil 4 n)
    have hd : d ∈ paddedText 4 n := by simp [hdigits]
    rw [hdigits, List.cons_append] at heq
    cases heq
    exact Text.isDigit_of_mem_paddedText hd
  rw [readYear, Text.trimStart_paddedText]
  split
  · next heq => exact absurd (hunsigned _ _ heq) (by decide)
  · next heq => exact absurd (hunsigned _ _ heq) (by decide)
  · refine (Except.bind_of_ok hread _).trans ?_
    refine (Except.bind_of_ok (a := ((n : Int), rest)) rfl _).trans ?_
    exact if_pos (by omega)

/-- A year is read from its text, with and without a sign. -/
theorem readYear_yearText {year : Int} (hyear : year.natAbs < 2 ^ 31) {rest : List Char}
    (hrest : startsWithDigit rest = false) :
    readYear (Date.yearText year ++ rest) = .ok (year, rest) := by
  have hread : readDigits none (paddedText 4 year.natAbs ++ rest) =
      .ok (year.natAbs, (paddedText 4 year.natAbs).length, rest) :=
    readDigits_paddedText (by omega) (by simp) (.inr hrest)
  unfold Date.yearText
  split
  · rw [readYear_plain (by omega)]
    congr
    omega
  · split
    · rw [List.cons_append, readYear_minus hread (by omega)]
      congr
      omega
    · rw [List.cons_append, readYear_plus hread hyear]
      congr
      omega

/-- The digits behind a point are a fraction of a second in nanoseconds. -/
theorem readFraction_digits {k n : Nat} (hk : k < 9) (hn : n < 10 ^ (k + 1)) {rest : List Char}
    (hrest : startsWithDigit rest = false) :
    readFraction ('.' :: (paddedText (k + 1) n ++ rest)) =
      .ok (some (n * 10 ^ (8 - k)), rest) := by
  have hlength : (paddedText (k + 1) n).length = k + 1 := Text.paddedText_length_of_lt hn
  have hsmall : n < 2 ^ 63 :=
    calc n < 10 ^ (k + 1) := hn
      _ ≤ 10 ^ 9 := Nat.pow_le_pow_right (by decide) hk
      _ < 2 ^ 63 := by decide
  have hread : readDigits (some 9) (paddedText (k + 1) n ++ rest) =
      .ok (n, (paddedText (k + 1) n).length, rest) :=
    readDigits_paddedText hsmall (fun m hm => by cases hm; rw [hlength]; exact hk) (.inr hrest)
  have hstop : rest.dropWhile Text.isDigit = rest := by
    cases rest with
    | nil => rfl
    | cons c rest =>
      have hc : Text.isDigit c = false := hrest
      simp [hc]
  have hplaces : 9 - (k + 1) = 8 - k := by omega
  simp only [readFraction, hread, bind, Except.bind, hlength, hstop, hplaces]

/-- A fraction of a second is read from its text, if there is one. -/
theorem readFraction_fractionText {nano : Nat} (hnano : nano < 1000000000) {rest : List Char}
    (hdigit : startsWithDigit rest = false) (hpoint : rest.head? ≠ some '.') :
    readFraction (TimeOfDay.fractionText nano ++ rest) =
      .ok (if nano = 0 then none else some nano, rest) := by
  by_cases hzero : nano = 0
  · subst hzero
    cases rest with
    | nil => rfl
    | cons c rest =>
      have hc : c ≠ '.' := by simpa using hpoint
      simp [TimeOfDay.fractionText, readFraction, hc]
  · rw [TimeOfDay.fractionText, if_neg hzero, if_neg hzero]
    split
    · rw [List.cons_append, readFraction_digits (by decide) (by omega) hdigit]
      congr
      omega
    · split
      · rw [List.cons_append, readFraction_digits (by decide) (by omega) hdigit]
        congr
        omega
      · rw [List.cons_append, readFraction_digits (by decide) (by omega) hdigit]
        congr
        omega

end PatternItem

/-- A pattern in two parts reads with the second what the first has left. -/
theorem readPattern_append_of_ok {front : List PatternItem} {f f' : TemporalFields}
    {s s' : List Char} (h : readPattern front f s = .ok (f', s')) (back : List PatternItem) :
    readPattern (front ++ back) f s = readPattern back f' s' := by
  induction front generalizing f s with
  | nil =>
    cases h
    rfl
  | cons item front ih =>
    rw [List.cons_append, readPattern]
    rw [readPattern] at h
    cases hitem : item.read f s with
    | error e =>
      rw [hitem] at h
      cases h
    | ok read =>
      rw [hitem] at h
      exact ih h

namespace Date

/-- The numbers of a day are within the bounds of a year, a month and a day. -/
theorem bounds (d : Date) : -262143 ≤ d.year ∧ d.year ≤ 262142 ∧ 1 ≤ d.month ∧ d.month ≤ 12 ∧
    1 ≤ d.day ∧ d.day ≤ 31 := by
  obtain ⟨hlow, hhigh, hfirst, hlast⟩ := d.valid
  have hmonth : daysInMonth d.year d.month ≤ 31 ∧
      (1 ≤ daysInMonth d.year d.month → 1 ≤ d.month ∧ d.month ≤ 12) := by
    unfold daysInMonth
    cases isLeapYear d.year <;> split <;> simp <;> omega
  omega

/-- Fields with the numbers of a day name that day. -/
theorem toDate_fields (d : Date) {f : TemporalFields} (hyear : f.year = d.year)
    (hmonth : f.month = d.month) (hday : f.day = d.day) : f.toDate = .ok d := by
  rw [TemporalFields.toDate, hyear, hmonth, hday, Date.of?, dif_pos d.valid]

/-- The year of a day is read from its text. -/
theorem readYear_text (d : Date) (s : List Char) :
    PatternItem.readYear (yearText d.year ++ '-' :: s) = .ok (d.year, '-' :: s) := by
  have hbounds := d.bounds
  exact PatternItem.readYear_yearText (by omega) rfl

/-- The month of a day is read from its text. -/
theorem readMonth_text (d : Date) (s : List Char) :
    PatternItem.readBounded 1 12 (paddedText 2 d.month ++ s) = .ok (d.month, s) := by
  have hbounds := d.bounds
  exact PatternItem.readBounded_paddedText (by omega) (by omega) (by omega) s

/-- The day of the month is read from its text. -/
theorem readDay_text (d : Date) (s : List Char) :
    PatternItem.readBounded 1 31 (paddedText 2 d.day ++ s) = .ok (d.day, s) := by
  have hbounds := d.bounds
  exact PatternItem.readBounded_paddedText (by omega) (by omega) (by omega) s

/-- The pattern of a day with room for blanks reads the day from its text, whatever follows. -/
theorem readPattern_looseDate (d : Date) (f : TemporalFields) (rest : List Char) :
    readPattern looseDatePattern f (d.text ++ rest) =
      .ok ({ f with year := d.year, month := d.month, day := d.day }, rest) := by
  have hdash (s : List Char) : Text.trimStart ('-' :: s) = '-' :: s :=
    Text.trimStart_cons (by decide) s
  simp only [text, looseDatePattern, List.append_assoc, List.cons_append, readPattern,
    PatternItem.read, readYear_text, readMonth_text, readDay_text, hdash, Except.map, if_true]

/-- The pattern of a day without room for blanks reads the day from its text. -/
theorem readPattern_date (d : Date) (f : TemporalFields) (rest : List Char) :
    readPattern datePattern f (d.text ++ rest) =
      .ok ({ f with year := d.year, month := d.month, day := d.day }, rest) := by
  simp only [text, datePattern, List.append_assoc, List.cons_append, readPattern,
    PatternItem.read, readYear_text, readMonth_text, readDay_text, Except.map, if_true]

/-- A day is read back from its text. -/
theorem readLoose_text (d : Date) : readLoose d.text = some d := by
  have hread := readPattern_append_of_ok (readPattern_looseDate d .start []) [.blanks]
  rw [List.append_nil] at hread
  rw [readLoose, readExactly, hread]
  change ((Except.ok _).bind TemporalFields.toDate).toOption = _
  rw [Except.bind, toDate_fields d rfl rfl rfl, Except.toOption]

/-- Different days have different texts. -/
theorem text_inj {a b : Date} (h : a.text = b.text) : a = b := by
  have hread := congrArg readLoose h
  rw [readLoose_text, readLoose_text] at hread
  exact Option.some.inj hread

end Date

namespace TimeOfDay

/-- Numbers name only times that are in no leap second within a minute. -/
theorem leapEndsMinute_of_of? {hour minute second nano : Nat} {t : TimeOfDay}
    (h : of? hour minute second nano = some t) : t.LeapEndsMinute := by
  unfold of? at h
  split at h
  · dsimp only at h
    split at h
    · next hleap =>
      cases h
      exact hleap
    · cases h
  · cases h

/--
The time that the text of a time shows. In a leap second within a minute this is the time in the
second behind it.
-/
def shown (t : TimeOfDay) : TimeOfDay :=
  if h : t.LeapEndsMinute then t
  else
    { t with
      second := t.second + 1
      nano := t.nano - 1000000000
      valid := by
        have hvalid := t.valid
        unfold LeapEndsMinute at h
        unfold IsTimeOfDay at hvalid ⊢
        omega }

/-- A text shows the time that it was written for, but for a leap second within a minute. -/
theorem shown_eq_self_iff {t : TimeOfDay} : t.shown = t ↔ t.LeapEndsMinute := by
  unfold shown
  split
  · next h => exact iff_of_true rfl h
  · next h =>
    refine iff_of_false (fun heq => ?_) h
    have hsecond : t.second + 1 = t.second := congrArg second heq
    omega

/-- No text shows a leap second within a minute. -/
theorem leapEndsMinute_shown (t : TimeOfDay) : t.shown.LeapEndsMinute := by
  unfold shown
  split
  · next h => exact h
  · have hvalid := t.valid
    unfold IsTimeOfDay at hvalid
    have hnano : t.nano - 1000000000 < 1000000000 := by omega
    exact .inl hnano

/-- The numbers of the time that a text shows are those that are written into it. -/
theorem shown_numbers (t : TimeOfDay) : t.shown.hour = t.hour ∧ t.shown.minute = t.minute ∧
    t.shown.second + t.shown.nano / 1000000000 = t.second + t.nano / 1000000000 ∧
    t.shown.nano % 1000000000 = t.nano % 1000000000 := by
  have hvalid := t.valid
  unfold IsTimeOfDay at hvalid
  unfold shown
  split
  · exact ⟨rfl, rfl, rfl, rfl⟩
  · next h =>
    unfold LeapEndsMinute at h
    dsimp only
    omega

/-- The time that a text shows has this text. -/
theorem text_shown (t : TimeOfDay) : t.shown.text = t.text := by
  obtain ⟨hhour, hminute, hsecond, hnano⟩ := t.shown_numbers
  rw [text, text, hhour, hminute, hsecond, hnano]

/-- Fields with the numbers of a time name it, unless it is in a leap second within a minute. -/
theorem toTime_of_leapEndsMinute {t : TimeOfDay} (hleap : t.LeapEndsMinute) {f : TemporalFields}
    (hhour : f.hour = t.hour) (hminute : f.minute = t.minute)
    (hsecond : f.second = t.second + t.nano / 1000000000)
    (hnano : f.nano = t.nano % 1000000000) : f.toTime = .ok t := by
  have hvalid : IsTimeOfDay t.hour t.minute t.second t.nano := t.valid
  have hfound : of? t.hour t.minute t.second t.nano = some t := by
    rw [of?, dif_pos hvalid]
    exact if_pos hleap
  unfold IsTimeOfDay at hvalid
  unfold LeapEndsMinute at hleap
  rw [TemporalFields.toTime, hhour, hminute, hsecond, hnano]
  by_cases hlast : t.second + t.nano / 1000000000 = 60
  · have hsame : t.second = 59 ∧ 1000000000 + t.nano % 1000000000 = t.nano := by omega
    rw [if_pos hlast, hsame.2, ← hsame.1, hfound]
  · have hsame : t.second + t.nano / 1000000000 = t.second ∧
        t.nano % 1000000000 = t.nano := by omega
    rw [if_neg hlast, hsame.1, hsame.2, hfound]

/-- Fields with the numbers that are written into the text of a time name the time it shows. -/
theorem toTime_fields (t : TimeOfDay) {f : TemporalFields} (hhour : f.hour = t.hour)
    (hminute : f.minute = t.minute) (hsecond : f.second = t.second + t.nano / 1000000000)
    (hnano : f.nano = t.nano % 1000000000) : f.toTime = .ok t.shown := by
  obtain ⟨hhour', hminute', hsecond', hnano'⟩ := t.shown_numbers
  exact toTime_of_leapEndsMinute t.leapEndsMinute_shown (hhour.trans hhour'.symm)
    (hminute.trans hminute'.symm) (hsecond.trans hsecond'.symm) (hnano.trans hnano'.symm)

/-- The hour of a time is read from its text. -/
theorem readHour_text (t : TimeOfDay) (s : List Char) :
    PatternItem.readBounded 0 23 (paddedText 2 t.hour ++ s) = .ok (t.hour, s) := by
  have hvalid := t.valid
  unfold IsTimeOfDay at hvalid
  exact PatternItem.readBounded_paddedText (by omega) (by omega) (by omega) s

/-- The minute of a time is read from its text. -/
theorem readMinute_text (t : TimeOfDay) (s : List Char) :
    PatternItem.readBounded 0 59 (paddedText 2 t.minute ++ s) = .ok (t.minute, s) := by
  have hvalid := t.valid
  unfold IsTimeOfDay at hvalid
  exact PatternItem.readBounded_paddedText (by omega) (by omega) (by omega) s

/-- The second of a time is read from its text, a leap second as second 60. -/
theorem readSecond_text (t : TimeOfDay) (s : List Char) :
    PatternItem.readBounded 0 60 (paddedText 2 (t.second + t.nano / 1000000000) ++ s) =
      .ok (t.second + t.nano / 1000000000, s) := by
  have hvalid := t.valid
  unfold IsTimeOfDay at hvalid
  exact PatternItem.readBounded_paddedText (by omega) (by omega) (by omega) s

/-- The fraction of a second is read from its text; that of a whole second is left as it was. -/
theorem readFraction_text (t : TimeOfDay) {rest : List Char} (hdigit : startsWithDigit rest = false)
    (hpoint : rest.head? ≠ some '.') :
    ∃ nano?, PatternItem.readFraction (fractionText (t.nano % 1000000000) ++ rest) =
      .ok (nano?, rest) ∧ nano?.getD 0 = t.nano % 1000000000 := by
  refine ⟨_, PatternItem.readFraction_fractionText
    (Nat.mod_lt t.nano (by decide : 0 < 1000000000)) hdigit hpoint, ?_⟩
  split
  · next hzero => rw [hzero, Option.getD_none]
  · rfl

/-- The text of a time from its seconds on. -/
def secondText (t : TimeOfDay) : List Char :=
  ':' :: (paddedText 2 (t.second + t.nano / 1000000000) ++ fractionText (t.nano % 1000000000))

/-- The pattern of hours and minutes reads them from the text of a time. -/
theorem readPattern_looseMinute (t : TimeOfDay) (f : TemporalFields) (rest : List Char) :
    readPattern looseMinutePattern f (t.text ++ rest) =
      .ok ({ f with hour := t.hour, minute := t.minute }, t.secondText ++ rest) := by
  have hcolon (s : List Char) : Text.trimStart (':' :: s) = ':' :: s :=
    Text.trimStart_cons (by decide) s
  simp only [text, secondText, looseMinutePattern, List.append_assoc, List.cons_append,
    readPattern, PatternItem.read, readHour_text, readMinute_text, hcolon, Except.map, if_true]

/-- The pattern of seconds reads them from the text of a time, whatever zone follows. -/
theorem readPattern_looseSecond (t : TimeOfDay) (f : TemporalFields) (rest : List Char)
    (hnano : f.nano = 0) (hdigit : startsWithDigit rest = false)
    (hpoint : rest.head? ≠ some '.') (hblank : Text.trimStart rest = rest) :
    readPattern looseSecondPattern f (t.secondText ++ rest) =
      .ok ({ f with
        second := t.second + t.nano / 1000000000, nano := t.nano % 1000000000 }, rest) := by
  have hcolon (s : List Char) : Text.trimStart (':' :: s) = ':' :: s :=
    Text.trimStart_cons (by decide) s
  obtain ⟨nano?, hfraction, hread⟩ := t.readFraction_text hdigit hpoint
  simp only [secondText, looseSecondPattern, List.append_assoc, List.cons_append, readPattern,
    PatternItem.read, readSecond_text, hfraction, hnano, hread, hcolon, hblank, Except.map,
    if_true]

/-- The pattern of a time without room for blanks reads all of it from its text. -/
theorem readPattern_time (t : TimeOfDay) (f : TemporalFields) (hnano : f.nano = 0) :
    readPattern timePattern f t.text =
      .ok ({ f with
        hour := t.hour, minute := t.minute, second := t.second + t.nano / 1000000000,
        nano := t.nano % 1000000000 }, []) := by
  obtain ⟨nano?, hfraction, hread⟩ := @t.readFraction_text [] rfl (by simp)
  rw [List.append_nil] at hfraction
  simp only [text, timePattern, List.append_assoc, List.cons_append, readPattern,
    PatternItem.read, readHour_text, readMinute_text, readSecond_text, hfraction, hnano, hread,
    Except.map, if_true]

/-- From the text of a time the time that it shows is read. -/
theorem readLoose_text (t : TimeOfDay) : readLoose t.text = some t.shown := by
  have hminutes := readPattern_looseMinute t .start []
  have hseconds := readPattern_looseSecond t
    { TemporalFields.start with hour := t.hour, minute := t.minute } [] rfl rfl (by simp) rfl
  rw [List.append_nil] at hminutes
  rw [readLoose, hminutes]
  simp only [Except.toOption, Option.bind_eq_bind, Option.bind_some, hseconds]
  rw [toTime_fields t rfl rfl rfl rfl]
  rfl

/-- Two times have one text exactly if their texts show one time. -/
theorem text_eq_iff {a b : TimeOfDay} : a.text = b.text ↔ a.shown = b.shown := by
  constructor
  · intro h
    have hread := congrArg readLoose h
    rw [readLoose_text, readLoose_text] at hread
    exact Option.some.inj hread
  · intro h
    rw [← a.text_shown, ← b.text_shown, h]

end TimeOfDay

namespace TemporalFields

/-- The time that fields name is in no leap second within a minute. -/
theorem leapEndsMinute_of_toTime {f : TemporalFields} {t : TimeOfDay} (h : f.toTime = .ok t) :
    t.LeapEndsMinute := by
  unfold toTime at h
  dsimp only at h
  split at h
  · next hfound =>
    cases h
    split at hfound
    · exact TimeOfDay.leapEndsMinute_of_of? hfound
    · exact TimeOfDay.leapEndsMinute_of_of? hfound
  · cases h

end TemporalFields

namespace Timestamp

/-- The instant that the text of an instant shows. -/
def shown (t : Timestamp) : Timestamp :=
  { t with time := t.time.shown }

/-- A text shows the instant that it was written for, but for a leap second within a minute. -/
theorem shown_eq_self_iff {t : Timestamp} : t.shown = t ↔ t.time.LeapEndsMinute := by
  rw [← TimeOfDay.shown_eq_self_iff]
  obtain ⟨date, time⟩ := t
  simp [shown]

/-- The instant that a text shows has this text, in every zone. -/
theorem textIn_shown (t : Timestamp) (zone : List Char) : t.shown.textIn zone = t.textIn zone := by
  simp only [textIn, shown, TimeOfDay.text_shown]

/-- Without an offset a local time is the instant. -/
theorem ofLocal?_zero (t : Timestamp) : ofLocal? t.date t.time 0 = some t := by
  have hvalid := t.time.valid
  unfold IsTimeOfDay at hvalid
  have hhour : (((t.time.hour * 60 + t.time.minute : Nat) + -(0 : Int)) % 1440 / 60).toNat =
      t.time.hour := by omega
  have hminute : (((t.time.hour * 60 + t.time.minute : Nat) + -(0 : Int)) % 1440 % 60).toNat =
      t.time.minute := by omega
  have hclock : turnClock t.time (-0) = t.time := by
    simp only [turnClock, hhour, hminute]
  rw [ofLocal?, hclock]
  rw [if_neg (by omega), if_neg (by omega)]
  rfl

/-- From the text of an instant in a zone without offset the instant that it shows is read. -/
theorem readLoose_textIn (t : Timestamp) {zone : List Char} (hzone : readZone zone = some (0, []))
    (hdigit : startsWithDigit zone = false) (hpoint : zone.head? ≠ some '.')
    (hblank : Text.trimStart zone = zone) : readLoose (t.textIn zone) = some t.shown := by
  have htext : t.textIn zone = t.date.text ++ 'T' :: (t.time.text ++ zone) := by
    simp [textIn]
  have hdate := Date.readPattern_looseDate t.date .start ('T' :: (t.time.text ++ zone))
  have hminutes := TimeOfDay.readPattern_looseMinute t.time
    { TemporalFields.start with
      year := t.date.year, month := t.date.month, day := t.date.day } zone
  have hread := (readPattern_append_of_ok hminutes looseSecondPattern).trans
    (TimeOfDay.readPattern_looseSecond t.time _ zone rfl hdigit hpoint hblank)
  rw [htext, readLoose, hdate]
  simp only [Except.toOption, Option.bind_eq_bind, Option.bind_some, hread, hblank, hzone]
  rw [Date.toDate_fields t.date rfl rfl rfl, TimeOfDay.toTime_fields t.time rfl rfl rfl rfl]
  exact ofLocal?_zero t.shown

/-- From the text of an instant in UTC the instant that it shows is read. -/
theorem readLoose_zuluText (t : Timestamp) : readLoose t.zuluText = some t.shown :=
  readLoose_textIn t rfl rfl (by decide) rfl

/-- From the text of an instant with a numeric zone the instant that it shows is read. -/
theorem readLoose_offsetText (t : Timestamp) : readLoose t.offsetText = some t.shown :=
  readLoose_textIn t rfl rfl (by decide) rfl

/-- The instant that a text shows has this text with a numeric zone. -/
theorem offsetText_shown (t : Timestamp) : t.shown.offsetText = t.offsetText :=
  t.textIn_shown _

/-- Two instants have one text with a numeric zone exactly if their texts show one instant. -/
theorem offsetText_eq_iff {a b : Timestamp} : a.offsetText = b.offsetText ↔ a.shown = b.shown := by
  constructor
  · intro h
    have hread := congrArg readLoose h
    rw [readLoose_offsetText, readLoose_offsetText] at hread
    exact Option.some.inj hread
  · intro h
    rw [← a.offsetText_shown, ← b.offsetText_shown, h]

end Timestamp

namespace Value

/-- Whether a value is in no leap second within a minute. -/
def LeapEndsMinute : Value → Prop
  | time t => t.LeapEndsMinute
  | timestamp t => t.time.LeapEndsMinute
  | _ => True

/-- The value that the text of a value shows; where there is no text of a time, the value. -/
def shown : Value → Value
  | time t => time t.shown
  | timestamp t => timestamp t.shown
  | v => v

/-- A text shows the value that it was written for, but for a leap second within a minute. -/
theorem shown_eq_self_iff {v : Value} : v.shown = v ↔ v.LeapEndsMinute := by
  cases v with
  | time t => simp [shown, LeapEndsMinute, TimeOfDay.shown_eq_self_iff]
  | timestamp t => simp [shown, LeapEndsMinute, Timestamp.shown_eq_self_iff]
  | _ => exact iff_of_true rfl trivial

end Value

end RowCast
