import RowCast.Proofs.CalendarText
import RowCast.Schema.Literal
import RowCast.Value.Transport

/-!
# Temporal literals

A default literal for a day, a time or an instant may be the text that transports the day or the
time, with or without single quotes: it is read as the day, time or instant that the text shows,
which is the one it was written for unless this is in a leap second within a minute. The text has no
quotes of its own and no blanks at its ends, so taking quotes and blanks away leaves it alone.
-/

namespace RowCast

open Text (paddedText isBlank isDigit)

/-- The characters that days and times are written with: digits, signs, colons and points. -/
def Text.IsTemporal (c : Char) : Prop :=
  isDigit c = true ∨ c ∈ ['+', '-', ':', '.']

namespace Text.IsTemporal

variable {c : Char}

/-- The digits of a filled number are characters of days and times. -/
theorem of_mem_paddedText {width n : Nat} (h : c ∈ paddedText width n) : IsTemporal c :=
  .inl (isDigit_of_mem_paddedText h)

/-- A filled number behind a mark of days and times has only characters of these. -/
theorem of_mem_cons_paddedText {mark : Char} {width n : Nat} (hmark : IsTemporal mark)
    (h : c ∈ mark :: paddedText width n) : IsTemporal c := by
  rcases List.mem_cons.mp h with rfl | hdigit
  · exact hmark
  · exact of_mem_paddedText hdigit

/-- No character of days and times is blank. -/
theorem not_blank (h : IsTemporal c) : isBlank c = false := by
  rcases h with hdigit | hmark
  · exact isBlank_of_isDigit hdigit
  · simp only [List.mem_cons, List.not_mem_nil, or_false] at hmark
    rcases hmark with rfl | rfl | rfl | rfl <;> rfl

/-- No character of days and times is a quote. -/
theorem ne_quote (h : IsTemporal c) : c ≠ '\x27' := by
  rintro rfl
  rcases h with hdigit | hmark
  · cases hdigit
  · revert hmark
    decide

end Text.IsTemporal

namespace Date

/-- Days are written with digits and signs. -/
theorem isTemporal_of_mem_text (d : Date) {c : Char} (hc : c ∈ d.text) : Text.IsTemporal c := by
  have hminus : Text.IsTemporal '-' := .inr (by decide)
  have hplus : Text.IsTemporal '+' := .inr (by decide)
  rw [text, List.mem_append, List.mem_append] at hc
  rcases hc with (hyear | hmonth) | hday
  · unfold yearText at hyear
    split at hyear
    · exact .of_mem_paddedText hyear
    · split at hyear
      · exact .of_mem_cons_paddedText hminus hyear
      · exact .of_mem_cons_paddedText hplus hyear
  · exact .of_mem_cons_paddedText hminus hmonth
  · exact .of_mem_cons_paddedText hminus hday

/-- A day is read back from its text by the pattern of literals. -/
theorem read_text (d : Date) : read d.text = .ok d := by
  have hread := readPattern_date d .start []
  rw [List.append_nil] at hread
  rw [read, readExactly, hread]
  exact toDate_fields d rfl rfl rfl

end Date

namespace TimeOfDay

/-- Times are written with digits, colons and a point. -/
theorem isTemporal_of_mem_text (t : TimeOfDay) {c : Char} (hc : c ∈ t.text) :
    Text.IsTemporal c := by
  have hcolon : Text.IsTemporal ':' := .inr (by decide)
  have hpoint : Text.IsTemporal '.' := .inr (by decide)
  rw [text, List.mem_append, List.mem_append, List.mem_append] at hc
  rcases hc with ((hhour | hminute) | hsecond) | hfraction
  · exact .of_mem_paddedText hhour
  · exact .of_mem_cons_paddedText hcolon hminute
  · exact .of_mem_cons_paddedText hcolon hsecond
  · unfold fractionText at hfraction
    split at hfraction
    · cases hfraction
    · split at hfraction
      · exact .of_mem_cons_paddedText hpoint hfraction
      · split at hfraction
        · exact .of_mem_cons_paddedText hpoint hfraction
        · exact .of_mem_cons_paddedText hpoint hfraction

/-- From the text of a time the pattern of literals reads the time that it shows. -/
theorem read_text (t : TimeOfDay) : read t.text = .ok t.shown := by
  rw [read, readExactly, readPattern_time t .start rfl]
  exact toTime_fields t rfl rfl rfl rfl

end TimeOfDay

namespace Timestamp

/-- From the texts of a day and a time with a space between them the instant they show is read. -/
theorem read_texts (d : Date) (t : TimeOfDay) :
    read (d.text ++ ' ' :: t.text) = .ok ⟨d, t.shown⟩ := by
  have hread : readExactly (datePattern ++ .blanks :: timePattern) (d.text ++ ' ' :: t.text) =
      .ok {
        year := d.year, month := d.month, day := d.day, hour := t.hour, minute := t.minute,
        second := t.second + t.nano / 1000000000, nano := t.nano % 1000000000 } := by
    have hblank : Text.trimStart (' ' :: t.text) = t.text := Text.trimStart_eq_self fun c hc =>
      (t.isTemporal_of_mem_text (List.mem_of_mem_head? hc)).not_blank
    rw [readExactly, readPattern_append_of_ok (Date.readPattern_date d .start (' ' :: t.text)),
      readPattern]
    simp only [PatternItem.read, hblank]
    rw [TimeOfDay.readPattern_time t _ rfl]
  rw [read, Except.bind_of_ok hread, Except.bind_of_ok (Date.toDate_fields d rfl rfl rfl),
    Except.bind_of_ok (TimeOfDay.toTime_fields t rfl rfl rfl rfl)]
  rfl

/-- There is nothing to trim from the texts of a day and a time with a space between them. -/
theorem trim_texts (d : Date) (t : TimeOfDay) :
    Text.trim (d.text ++ ' ' :: t.text) = d.text ++ ' ' :: t.text := by
  have hday : d.text ≠ [] := by simp [Date.text]
  have htime : t.text ≠ [] := by simp [TimeOfDay.text]
  refine Text.trim_eq_self (fun c hc => ?_) fun c hc => ?_
  · rw [List.head?_append, List.head?_eq_some_head hday] at hc
    cases hc
    exact (d.isTemporal_of_mem_text (List.head_mem hday)).not_blank
  · rw [List.getLast?_append, List.getLast?_cons_of_ne_nil htime,
      List.getLast?_eq_some_getLast htime] at hc
    cases hc
    exact (t.isTemporal_of_mem_text (List.getLast_mem htime)).not_blank

end Timestamp

namespace Literal

/-- The two ways to write a text as a literal: as it is, and in single quotes. -/
def spellings (text : String) : List String :=
  [text, "\x27" ++ text ++ "\x27"]

variable {s : List Char} {text literal : String}

/-- A trimmed text without quotes is what either way to write it stands for. -/
theorem unquote_of_mem_spellings (h : literal ∈ spellings text) (hs : text.toList = s)
    (hquote : ∀ c ∈ s, c ≠ '\x27') (htrim : Text.trim s = s) : unquote literal.toList = s := by
  have hself : s.filter (· ≠ '\x27') = s :=
    List.filter_eq_self.mpr fun c hc => decide_eq_true (hquote c hc)
  have hkept : literal.toList.filter (· ≠ '\x27') = s := by
    simp only [spellings, List.mem_cons, List.not_mem_nil, or_false] at h
    rcases h with rfl | rfl
    · rw [hs, hself]
    · rw [String.toList_append, String.toList_append, hs, List.filter_append, List.filter_append,
        hself]
      exact List.append_nil s
  rw [unquote, hkept, htrim]

/-- A text of digits, signs, colons and points is what either way to write it stands for. -/
theorem unquote_of_isTemporal (h : literal ∈ spellings text) (hs : text.toList = s)
    (htemporal : ∀ c ∈ s, Text.IsTemporal c) : unquote literal.toList = s :=
  unquote_of_mem_spellings h hs (fun c hc => (htemporal c hc).ne_quote)
    (Text.trim_eq_self_of_forall fun c hc => (htemporal c hc).not_blank)

end Literal

/--
The transported text of a day is a literal of just this day, that of a time is a literal of the time
that it shows, and the two with a space between them are a literal of the instant; quotes around the
texts change nothing. A text shows the time itself unless this is in a leap second within a minute.
-/
theorem FieldType.readLiteral_transport (d : Date) (t : TimeOfDay) :
    ∃ day time : String,
      (Value.date d).toJson = .string day ∧ (Value.time t).toJson = .string time ∧
      (∀ literal ∈ Literal.spellings day, FieldType.date.readLiteral literal = .ok (.date d)) ∧
      (∀ literal ∈ Literal.spellings time,
        FieldType.time.readLiteral literal = .ok (.time t.shown)) ∧
      (∀ literal ∈ Literal.spellings (day ++ " " ++ time),
        FieldType.timestamp.readLiteral literal = .ok (.timestamp ⟨d, t.shown⟩)) ∧
      (t.shown = t ↔ t.LeapEndsMinute) := by
  have hday : ∀ c ∈ d.text, Text.IsTemporal c := fun _ => d.isTemporal_of_mem_text
  have htime : ∀ c ∈ t.text, Text.IsTemporal c := fun _ => t.isTemporal_of_mem_text
  refine ⟨_, _, rfl, rfl, ?day, ?time, ?instant, TimeOfDay.shown_eq_self_iff⟩
  case day =>
    intro literal hliteral
    have hunquote := Literal.unquote_of_isTemporal hliteral String.toList_ofList hday
    rw [readLiteral, hunquote, d.read_text]
    rfl
  case time =>
    intro literal hliteral
    have hunquote := Literal.unquote_of_isTemporal hliteral String.toList_ofList htime
    rw [readLiteral, hunquote, t.read_text]
    rfl
  case instant =>
    intro literal hliteral
    have htexts : (String.ofList d.text ++ " " ++ String.ofList t.text).toList =
        d.text ++ ' ' :: t.text := by simp
    have hquote (c : Char) (hc : c ∈ d.text ++ ' ' :: t.text) : c ≠ '\x27' := by
      rcases List.mem_append.mp hc with hmem | hmem
      · exact (hday c hmem).ne_quote
      · rcases List.mem_cons.mp hmem with rfl | hmem
        · decide
        · exact (htime c hmem).ne_quote
    have hunquote := Literal.unquote_of_mem_spellings hliteral htexts hquote
      (Timestamp.trim_texts d t)
    rw [readLiteral, hunquote, Timestamp.read_texts]
    rfl

/-- The last leap second of the first day there is, in quotes. -/
theorem FieldType.readLiteral_transport_of_leap_second :
    FieldType.timestamp.readLiteral "\x27-262143-01-01 23:59:60.999999999\x27" =
      .ok (.timestamp ⟨⟨-262143, 1, 1, by decide⟩, ⟨23, 59, 59, 1999999999, by decide⟩⟩) := by
  obtain ⟨day, time, hday, htime, -, -, hinstant, hshown⟩ :=
    readLiteral_transport ⟨-262143, 1, 1, by decide⟩ ⟨23, 59, 59, 1999999999, by decide⟩
  cases hday
  cases htime
  rw [hshown.mpr (by decide)] at hinstant
  exact hinstant _ (.tail _ (.head _))

/-- The text of a leap second within a minute is a literal of the time in the second behind it. -/
theorem FieldType.readLiteral_of_leap_second_within_minute :
    let leap : TimeOfDay := ⟨23, 56, 4, 1333333333, by decide⟩
    let next : TimeOfDay := ⟨23, 56, 5, 333333333, by decide⟩
    ∃ text : String, (Value.time leap).toJson = .string text ∧
      FieldType.time.readLiteral text = .ok (.time next) ∧ leap ≠ next := by
  intro leap next
  have hshown : leap.shown = next := by decide
  have hunquote : Literal.unquote (String.ofList leap.text).toList = leap.text :=
    Literal.unquote_of_isTemporal (.head _) String.toList_ofList
      fun _ => leap.isTemporal_of_mem_text
  refine ⟨_, rfl, ?_, by decide⟩
  rw [readLiteral, hunquote, leap.read_text, hshown]
  rfl

end RowCast
