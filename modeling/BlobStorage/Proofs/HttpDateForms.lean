import BlobStorage.Proofs.DateReading

/-!
# The forms of a date in a header field

The date of a header field has three forms, all of which start with a weekday:
`Sun, 06 Nov 1994 08:49:37 GMT`, `Sunday, 06-Nov-94 08:49:37 GMT` and `Sun Nov  6 08:49:37 1994`.
Each of them is read as the instant that it names.  Other texts are read as well, as for instance a
day in digits alone; a text without any digit is not.
-/

namespace BlobStorage.Calendar

/-! ## Texts in pieces -/

/-- A piece of the text of a date: a number in so many places, a word, or a mark between them. -/
inductive Piece where
  | number (width n : Nat)
  | word (letters : Text)
  | mark (u : UInt16)

namespace Piece

def text : Piece → Text
  | number width n => Text.ofNatPadded width n
  | word letters => letters
  | mark u => [u]

/-- The token that a piece is cut off as. -/
def token : Piece → Token
  | number width n => .number n width
  | word letters => .word (classify letters) letters.length
  | mark u => if isSign u then .sign u else if isBlank u then .blank else .remark

def isMark : Piece → Bool
  | mark _ => true
  | _ => false

/-- A number fits in its places, a word is one, and marks are those of dates. -/
def Sound : Piece → Prop
  | number width n => 0 < width ∧ width ≤ significantDigits ∧ n < Nat.pow 10 width
  | word letters => letters ≠ [] ∧ letters.all isWordUnit = true
  | mark u => u ∈ Text.ofString ", :-"

instance : DecidablePred Sound
  | number width n =>
      inferInstanceAs (Decidable (0 < width ∧ width ≤ significantDigits ∧ n < Nat.pow 10 width))
  | word letters => inferInstanceAs (Decidable (letters ≠ [] ∧ letters.all isWordUnit = true))
  | mark u => inferInstanceAs (Decidable (u ∈ Text.ofString ", :-"))

def blank : Piece := .mark (Text.unit ' ')

def comma : Piece := .mark (Text.unit ',')

def hyphen : Piece := .mark (Text.unit '-')

def colon : Piece := .mark (Text.unit ':')

theorem sound_marks : blank.Sound ∧ comma.Sound ∧ hyphen.Sound ∧ colon.Sound := by decide

theorem token_marks : blank.token = .blank ∧ comma.token = .remark ∧
    hyphen.token = .sign (Text.unit '-') ∧ colon.token = .sign (Text.unit ':') := by
  decide

theorem token_number (width n : Nat) : (number width n).token = .number n width := rfl

end Piece

def writePieces (pieces : List Piece) : Text := pieces.flatMap Piece.text

/-- Of two pieces next to each other one is a mark. -/
def Separated : List Piece → Prop
  | first :: second :: rest =>
      (first.isMark = true ∨ second.isMark = true) ∧ Separated (second :: rest)
  | [_] | [] => True

theorem Separated.tail {first : Piece} {rest : List Piece} (separated : Separated (first :: rest)) :
    Separated rest := by
  cases rest with
  | nil => exact trivial
  | cons second rest => exact separated.2

theorem mark_facts {u : UInt16} (sound : (Piece.mark u).Sound) :
    Run.start u = ([(Piece.mark u).token], .nothing) ∧ Text.isDigit u = false ∧
      isWordUnit u = false ∧ u ≠ 0 := by
  have marks : (Text.ofString ", :-").all (fun u =>
      decide (Text.isDigit u = false ∧ isWordUnit u = false ∧ u ≠ 0 ∧
        (isSign u = false → isBlank u = false → u ≠ Text.unit '('))) = true := by
    decide
  obtain ⟨notDigit, notWord, nonzero, notOpen⟩ :=
    of_decide_eq_true (List.all_eq_true.mp marks u sound)
  refine ⟨?_, notDigit, notWord, nonzero⟩
  rw [Run.start, Piece.token, notDigit, notWord]
  cases sign : isSign u with
  | true => rfl
  | false =>
      cases blank : isBlank u with
      | true => rfl
      | false => simp [notOpen sign blank]

/-- Behind a number or a word that is followed by a mark, nothing goes on with it. -/
theorem head?_writePieces {piece : Piece} {rest : List Piece} (unmarked : piece.isMark = false)
    (separated : Separated (piece :: rest)) (sound : ∀ piece ∈ rest, piece.Sound) :
    (writePieces rest).head?.any Text.isDigit = false ∧
      (writePieces rest).head?.any isWordUnit = false := by
  cases rest with
  | nil => exact ⟨rfl, rfl⟩
  | cons second rest =>
      have isMark : second.isMark = true := by
        apply separated.1.resolve_left
        rw [unmarked]
        exact Bool.false_ne_true
      cases second with
      | number width n => cases isMark
      | word letters => cases isMark
      | mark u =>
          obtain ⟨-, notDigit, notWord, -⟩ := mark_facts (sound _ List.mem_cons_self)
          exact ⟨notDigit, notWord⟩

/-- A text is cut into the tokens of the pieces that it was put together from. -/
theorem scan_writePieces {pieces : List Piece} (separated : Separated pieces)
    (sound : ∀ piece ∈ pieces, piece.Sound) :
    scan .nothing (writePieces pieces) = pieces.map Piece.token := by
  induction pieces with
  | nil => rfl
  | cons piece rest induction =>
      have own := sound piece List.mem_cons_self
      have others : ∀ piece ∈ rest, piece.Sound :=
        fun other member => sound other (List.mem_cons_of_mem piece member)
      have cut := induction separated.tail others
      rw [writePieces, List.flatMap_cons, ← writePieces, List.map_cons, ← cut]
      cases piece with
      | number width n =>
          obtain ⟨positive, counts, fits⟩ := own
          have stops := (head?_writePieces rfl separated others).1
          exact scan_ofNatPadded positive counts fits stops
      | word letters =>
          obtain ⟨some, units⟩ := own
          have stops := (head?_writePieces rfl separated others).2
          exact scan_word some (List.all_eq_true.mp units) stops
      | mark u =>
          obtain ⟨start, -⟩ := mark_facts own
          rw [Piece.text, List.singleton_append, scan, start]
          rfl

theorem ne_zero_of_mem_writePieces {pieces : List Piece} (sound : ∀ piece ∈ pieces, piece.Sound)
    {u : UInt16} (member : u ∈ writePieces pieces) : (u != 0) = true := by
  obtain ⟨piece, among, own⟩ := List.mem_flatMap.mp member
  have sound := sound piece among
  cases piece with
  | number width n => exact List.all_eq_true.mp (Text.all_ne_zero_ofNatPadded width n) u own
  | word letters =>
      have ofWord := List.all_eq_true.mp sound.2 u own
      rw [bne_iff_ne]
      rintro rfl
      exact absurd ofWord (by decide)
  | mark v =>
      rw [Piece.text, List.mem_singleton] at own
      rw [own, bne_iff_ne]
      exact (mark_facts sound).2.2.2

theorem tokens_writePieces {pieces : List Piece} (separated : Separated pieces)
    (sound : ∀ piece ∈ pieces, piece.Sound) :
    tokens (writePieces pieces) = pieces.map Piece.token := by
  have whole : (writePieces pieces).takeWhile (· != 0) = writePieces pieces := by
    rw [← List.append_nil (writePieces pieces),
      List.takeWhile_append_of_pos (fun u => ne_zero_of_mem_writePieces sound),
      List.takeWhile_nil]
  rw [tokens, whole, scan_writePieces separated sound]

theorem dayNumber_bounds {year : Int} {month day : Nat} (isYear : 0 ≤ year ∧ year ≤ 9999)
    (isMonth : 1 ≤ month ∧ month ≤ 12) (isDay : 1 ≤ day ∧ day ≤ 31) :
    -4000000 ≤ dayNumber year month day ∧ dayNumber year month day ≤ 4000000 := by
  unfold dayNumber
  dsimp only
  split <;> omega

/-! ## The three forms -/

def longWeekdayNames : List Text :=
  ["Sunday", "Monday", "Tuesday", "Wednesday", "Thursday", "Friday", "Saturday"]

/-- What a date says: a weekday, a day, and a time of day.  They need not go together. -/
structure Stamp where
  weekday : Nat
  date : Date
  hour : Nat
  minute : Nat
  second : Nat

/-- The forms of a date in a header field: the fixed one, one with hyphens and a year of two digits,
and a plain one.  There a day of one digit has a blank or a zero in front. -/
inductive HttpDateForm where
  | fixed
  | dashed
  | plain (zeroFilled : Bool)

namespace Stamp

/-- The parts of a stamp have their names and no more digits than there are places. -/
structure Spelled (stamp : Stamp) : Prop where
  weekday : stamp.weekday < 7
  month : 1 ≤ stamp.date.month ∧ stamp.date.month ≤ 12
  day : stamp.date.day < 100
  year : 0 ≤ stamp.date.year ∧ stamp.date.year ≤ 9999
  hour : stamp.hour < 100
  minute : stamp.minute < 100
  second : stamp.second < 100

/-- The parts of a stamp are those of some day and of some time of day. -/
structure Legal (stamp : Stamp) : Prop where
  spelled : stamp.Spelled
  day : 1 ≤ stamp.date.day ∧ stamp.date.day ≤ 31
  hour : stamp.hour < 24
  minute : stamp.minute < 60
  second : stamp.second < 60

def weekdayPiece (names : List Text) (stamp : Stamp) : Piece := .word (names.getD stamp.weekday [])

def monthPiece (stamp : Stamp) : Piece := .word (monthNames.getD (stamp.date.month - 1) [])

/-- The time of day, with what comes last behind it. -/
def timePieces (stamp : Stamp) (last : Piece) : List Piece :=
  [.number 2 stamp.hour, .colon, .number 2 stamp.minute, .colon, .number 2 stamp.second, .blank,
    last]

end Stamp

namespace HttpDateForm

/-- The year that a form says; two digits of it may be missing. -/
def yearOf (form : HttpDateForm) (stamp : Stamp) : Nat :=
  match form with
  | fixed | plain _ => stamp.date.year.natAbs
  | dashed => stamp.date.year.natAbs % 100

/-- A day of one digit in the plain form, behind a blank or filled up with a zero. -/
def dayPieces (zeroFilled : Bool) (day : Nat) : List Piece :=
  if zeroFilled = true ∨ 10 ≤ day then [.number 2 day] else [.blank, .number 1 day]

def pieces (form : HttpDateForm) (stamp : Stamp) : List Piece :=
  match form with
  | fixed =>
      stamp.weekdayPiece weekdayNames :: .comma :: .blank :: .number 2 stamp.date.day :: .blank ::
        stamp.monthPiece :: .blank :: .number 4 (form.yearOf stamp) :: .blank ::
        stamp.timePieces (.word "GMT")
  | dashed =>
      stamp.weekdayPiece longWeekdayNames :: .comma :: .blank :: .number 2 stamp.date.day ::
        .hyphen :: stamp.monthPiece :: .hyphen :: .number 2 (form.yearOf stamp) :: .blank ::
        stamp.timePieces (.word "GMT")
  | plain zeroFilled =>
      stamp.weekdayPiece weekdayNames :: .blank :: stamp.monthPiece :: .blank ::
        (dayPieces zeroFilled stamp.date.day ++
          .blank :: stamp.timePieces (.number 4 (form.yearOf stamp)))

def write (form : HttpDateForm) (stamp : Stamp) : Text := writePieces (form.pieces stamp)

/-- The instant that a form names. -/
def instant (form : HttpDateForm) (stamp : Stamp) : Int :=
  dayNumber (fullYear (form.yearOf stamp)) stamp.date.month stamp.date.day * dayLength +
    timeOfDay stamp.hour stamp.minute stamp.second 0

end HttpDateForm

/-- A text is a date in one of the three forms. -/
def IsHttpDate (text : Text) : Prop :=
  ∃ (form : HttpDateForm) (stamp : Stamp), stamp.Spelled ∧ text = form.write stamp

example : HttpDateForm.fixed.write ⟨0, ⟨1994, 11, 6⟩, 8, 49, 37⟩ =
    "Sun, 06 Nov 1994 08:49:37 GMT" := by decide

example : HttpDateForm.dashed.write ⟨0, ⟨1994, 11, 6⟩, 8, 49, 37⟩ =
    "Sunday, 06-Nov-94 08:49:37 GMT" := by decide

example : (HttpDateForm.plain false).write ⟨0, ⟨1994, 11, 6⟩, 8, 49, 37⟩ =
    "Sun Nov  6 08:49:37 1994" := by decide

/-! ## Reading the forms -/

theorem weekdayPiece_facts {stamp : Stamp} (spelled : stamp.Spelled) {names : List Text}
    (known : names = weekdayNames ∨ names = longWeekdayNames) :
    (stamp.weekdayPiece names).Sound ∧
      ∃ length, (stamp.weekdayPiece names).token = .word .other length := by
  have short : ∀ day < 7, weekdayNames.getD day [] ≠ [] ∧
      (weekdayNames.getD day []).all isWordUnit = true ∧
        classify (weekdayNames.getD day []) = .other := by
    decide +kernel
  have long : ∀ day < 7, longWeekdayNames.getD day [] ≠ [] ∧
      (longWeekdayNames.getD day []).all isWordUnit = true ∧
        classify (longWeekdayNames.getD day []) = .other := by
    decide +kernel
  obtain ⟨some, units, other⟩ : names.getD stamp.weekday [] ≠ [] ∧
      (names.getD stamp.weekday []).all isWordUnit = true ∧
        classify (names.getD stamp.weekday []) = .other := by
    rcases known with rfl | rfl
    · exact short stamp.weekday spelled.weekday
    · exact long stamp.weekday spelled.weekday
  refine ⟨⟨some, units⟩, (names.getD stamp.weekday []).length, ?_⟩
  rw [Stamp.weekdayPiece, Piece.token, other]

theorem monthPiece_facts {stamp : Stamp} (spelled : stamp.Spelled) :
    stamp.monthPiece.Sound ∧ stamp.monthPiece.token = .word (.month stamp.date.month) 3 := by
  obtain ⟨isMonth, length, units⟩ := classify_monthName spelled.month.1 spelled.month.2
  refine ⟨⟨List.ne_nil_of_length_eq_add_one length, List.all_eq_true.mpr units⟩, ?_⟩
  rw [Stamp.monthPiece, Piece.token, isMonth, length]

theorem sound_timePieces {stamp : Stamp} (spelled : stamp.Spelled) {last : Piece}
    (sound : last.Sound) : ∀ piece ∈ stamp.timePieces last, piece.Sound := by
  have places {n : Nat} (short : n < 100) : (Piece.number 2 n).Sound := ⟨by decide, by decide, short⟩
  simp [Stamp.timePieces, Piece.sound_marks, sound, places spelled.hour, places spelled.minute,
    places spelled.second]

namespace HttpDateForm

variable {form : HttpDateForm} {stamp : Stamp}

theorem sound_dayPieces (spelled : stamp.Spelled) (zeroFilled : Bool) :
    ∀ piece ∈ dayPieces zeroFilled stamp.date.day, piece.Sound := by
  have two : (Piece.number 2 stamp.date.day).Sound := ⟨by decide, by decide, spelled.day⟩
  rw [dayPieces]
  split
  · simpa using two
  · rename_i short
    have one : (Piece.number 1 stamp.date.day).Sound :=
      ⟨by decide, by decide, show stamp.date.day < 10 by omega⟩
    simpa using ⟨Piece.sound_marks.1, one⟩

theorem sound_pieces (spelled : stamp.Spelled) : ∀ piece ∈ form.pieces stamp, piece.Sound := by
  obtain ⟨blank, comma, hyphen, -⟩ := Piece.sound_marks
  have zone : (Piece.word "GMT").Sound := by decide
  have month := (monthPiece_facts spelled).1
  have day : (Piece.number 2 stamp.date.day).Sound := ⟨by decide, by decide, spelled.day⟩
  have year : stamp.date.year.natAbs < 10000 := by
    have bounds := spelled.year
    omega
  cases form with
  | fixed =>
      have weekday := (weekdayPiece_facts spelled (.inl rfl)).1
      have year : (Piece.number 4 (fixed.yearOf stamp)).Sound := ⟨by decide, by decide, year⟩
      simp only [pieces, List.forall_mem_cons]
      exact ⟨weekday, comma, blank, day, blank, month, blank, year, blank,
        sound_timePieces spelled zone⟩
  | dashed =>
      have weekday := (weekdayPiece_facts spelled (.inr rfl)).1
      have year : (Piece.number 2 (dashed.yearOf stamp)).Sound :=
        ⟨by decide, by decide, Nat.mod_lt _ (by decide)⟩
      simp only [pieces, List.forall_mem_cons]
      exact ⟨weekday, comma, blank, day, hyphen, month, hyphen, year, blank,
        sound_timePieces spelled zone⟩
  | plain zeroFilled =>
      have weekday := (weekdayPiece_facts spelled (.inl rfl)).1
      have year : (Piece.number 4 ((plain zeroFilled).yearOf stamp)).Sound :=
        ⟨by decide, by decide, year⟩
      simp only [pieces, List.forall_mem_cons, List.forall_mem_append]
      exact ⟨weekday, blank, month, blank, sound_dayPieces spelled zeroFilled, blank,
        sound_timePieces spelled year⟩

theorem separated_pieces (form : HttpDateForm) (stamp : Stamp) :
    Separated (form.pieces stamp) := by
  cases form with
  | fixed =>
      simp [pieces, Separated, Piece.isMark, Stamp.timePieces, Piece.blank, Piece.comma,
        Piece.colon]
  | dashed =>
      simp [pieces, Separated, Piece.isMark, Stamp.timePieces, Piece.blank, Piece.comma,
        Piece.hyphen, Piece.colon]
  | plain zeroFilled =>
      rw [pieces, dayPieces]
      split <;> simp [Separated, Piece.isMark, Stamp.timePieces, Piece.blank, Piece.colon]

/-- What is found in a form: day and year, the month, the time of day, and a zone if there is one. -/
def findings (form : HttpDateForm) (stamp : Stamp) : Findings where
  days := [stamp.date.day, form.yearOf stamp]
  month := some stamp.date.month
  times := [stamp.hour, stamp.minute, stamp.second, 0]
  zoneSign := if form matches .plain _ then none else some 1
  zoneHour := if form matches .plain _ then none else some 0
  zoneMinute := if form matches .plain _ then none else some 0
  numberSeen := true

/-- The strict form does not begin with a weekday, so that all is read leniently. -/
theorem readStrict_pieces (form : HttpDateForm) (stamp : Stamp) :
    readStrict ((form.pieces stamp).map Piece.token) =
      .left {} ((form.pieces stamp).map Piece.token) := by
  cases form <;> rfl

/-- The time of day is found as it is said, and what comes last is left to be read. -/
theorem readLenient_timePieces (legal : stamp.Legal) {found : Findings} (last : Piece)
    (noTime : found.times = []) (noZone : found.zoneHour = none) :
    readLenient 0 found ((stamp.timePieces last).map Piece.token) =
      readLenient 0 { found with
        times := [stamp.hour, stamp.minute, stamp.second, 0], numberSeen := true } [last.token] := by
  obtain ⟨blank, -, -, colon⟩ := Piece.token_marks
  have second := legal.second
  simp [Stamp.timePieces, Piece.token_number, blank, colon, readLenient, readToken, readNumber,
    placeNumber, Findings.expectsZoneMinute, Findings.expectsTime, Findings.addTime,
    Findings.endTime, noTime, noZone, second]

theorem readLenient_pieces (legal : stamp.Legal) :
    readLenient 0 {} ((form.pieces stamp).map Piece.token) = some (form.findings stamp) := by
  obtain ⟨blank, comma, hyphen, -⟩ := Piece.token_marks
  have month := (monthPiece_facts legal.spelled).2
  have zone : (Piece.word "GMT").token = .word (.zone 0) 3 := by decide
  cases form with
  | fixed =>
      obtain ⟨length, weekday⟩ := (weekdayPiece_facts legal.spelled (.inl rfl)).2
      simp [pieces, weekday, comma, blank, Piece.token_number, month, zone,
        readLenient_timePieces legal, readLenient,
        readToken, readWord, readNumber, placeNumber, Findings.expectsZoneMinute,
        Findings.expectsTime, Findings.addDay, Findings.setZone, isHyphen, findings]
  | dashed =>
      obtain ⟨length, weekday⟩ := (weekdayPiece_facts legal.spelled (.inr rfl)).2
      have apart : Text.unit '-' ≠ Text.unit ':' ∧ Text.unit '-' ≠ Text.unit '.' := by decide
      simp [pieces, weekday, comma, blank, hyphen, apart, Piece.token_number, month, zone,
        readLenient_timePieces legal,
        readLenient, readToken, readWord, readNumber, placeNumber, Findings.expectsZoneMinute,
        Findings.expectsTime, Findings.addDay, Findings.setZone, isHyphen, findings]
  | plain zeroFilled =>
      obtain ⟨length, weekday⟩ := (weekdayPiece_facts legal.spelled (.inl rfl)).2
      rw [pieces, dayPieces]
      split
      all_goals
        simp [weekday, blank, Piece.token_number, month,
          readLenient_timePieces legal, readLenient, readToken,
          readWord, readNumber, placeNumber, Findings.expectsZoneMinute, Findings.expectsTime,
          Findings.addDay, isHyphen, findings]

theorem instant?_findings (legal : stamp.Legal) :
    (form.findings stamp).instant? = inRange? (form.instant stamp) := by
  have isDay : isDayOfMonth stamp.date.day = true := by
    have bounds := legal.day
    simp only [isDayOfMonth, Bool.and_eq_true, decide_eq_true_eq]
    omega
  have month : (1 : Int) ≤ stamp.date.month ∧ (stamp.date.month : Int) ≤ 12 := by
    have bounds := legal.spelled.month
    omega
  have date : (form.findings stamp).date? =
      some (fullYear (form.yearOf stamp), (stamp.date.month : Int), (stamp.date.day : Int)) := by
    simp [findings, Findings.date?, isDay, month]
  have time : (form.findings stamp).time? =
      some (timeOfDay stamp.hour stamp.minute stamp.second 0) := by
    simp [findings, Findings.time?, legal.hour, legal.minute, legal.second]
  have zone : (form.findings stamp).zone? = some 0 := by
    have universal : zoneSeconds? 0 0 = some 0 := by decide
    cases form <;> simp [findings, Findings.zone?, universal]
  rw [Findings.instant?, date, time, zone]
  simp only [Option.bind_eq_bind, Option.bind_some, Int.toNat_natCast, Int.sub_zero, instant]

theorem inRange?_instant (legal : stamp.Legal) :
    inRange? (form.instant stamp) = some (form.instant stamp) := by
  have year : 0 ≤ fullYear (form.yearOf stamp) ∧ fullYear (form.yearOf stamp) ≤ 9999 := by
    have short : form.yearOf stamp ≤ 9999 := by
      have bounds := legal.spelled.year
      cases form <;> simp only [yearOf] <;> omega
    unfold fullYear
    split
    · omega
    · split <;> omega
  obtain ⟨lower, upper⟩ := dayNumber_bounds year legal.spelled.month legal.day
  have hour := legal.hour
  have minute := legal.minute
  have second := legal.second
  rw [inRange?, if_pos]
  unfold instant dayLength timeOfDay range
  omega

/-- A date in one of the three forms is read as the instant that it names. -/
theorem readDate?_write (legal : stamp.Legal) :
    readDate? (form.write stamp) = some (form.instant stamp) := by
  rw [readDate?, write, tokens_writePieces (separated_pieces form stamp)
    (sound_pieces legal.spelled), readStrict_pieces]
  simp only [List.isEmpty_nil, Bool.not_true]
  rw [readLenient_pieces legal, Option.bind_some, instant?_findings legal, inRange?_instant legal]

theorem head?_write (spelled : stamp.Spelled) :
    (form.write stamp).head?.any Text.isDigit = false := by
  have word {names : List Text} (known : names = weekdayNames ∨ names = longWeekdayNames)
      (rest : List Piece) :
      (writePieces (stamp.weekdayPiece names :: rest)).head?.any Text.isDigit = false := by
    obtain ⟨some, units⟩ := (weekdayPiece_facts spelled known).1
    rw [writePieces, List.flatMap_cons, Stamp.weekdayPiece, Piece.text]
    cases named : names.getD stamp.weekday [] with
    | nil => exact absurd named some
    | cons u letters =>
        rw [named, List.all_cons, Bool.and_eq_true] at units
        exact (not_isDigit_of_isWordUnit units.1).1
  cases form with
  | fixed => exact word (.inl rfl) _
  | dashed => exact word (.inr rfl) _
  | plain zeroFilled => exact word (.inl rfl) _

end HttpDateForm

theorem not_isHttpDate_of_digit {text : Text} (digit : text.head?.any Text.isDigit = true) :
    ¬IsHttpDate text := by
  rintro ⟨form, stamp, spelled, rfl⟩
  rw [HttpDateForm.head?_write spelled] at digit
  cases digit

/-! ## Other texts -/

/-- A day in digits alone, the year first. -/
def digitDayPieces (date : Date) : List Piece :=
  [.number 4 date.year.natAbs, .hyphen, .number 2 date.month, .hyphen, .number 2 date.day]

def writeDigitDay (date : Date) : Text := writePieces (digitDayPieces date)

/-- What the strict form finds in a day in digits. -/
def digitDayFindings (date : Date) : Findings :=
  { days := [date.year, date.month, date.day], strict := true : Findings }.setZone 0

section DigitDay

variable {date : Date} (year : 0 ≤ date.year ∧ date.year ≤ 9999)
  (month : 1 ≤ date.month ∧ date.month ≤ 12) (day : 1 ≤ date.day ∧ date.day ≤ 31)

include year month day

theorem tokens_writeDigitDay :
    tokens (writeDigitDay date) =
      [.number date.year.natAbs 4, .sign (Text.unit '-'), .number date.month 2,
        .sign (Text.unit '-'), .number date.day 2] := by
  have isYear : (Piece.number 4 date.year.natAbs).Sound :=
    ⟨by decide, by decide, show date.year.natAbs < 10000 by omega⟩
  have isMonth : (Piece.number 2 date.month).Sound :=
    ⟨by decide, by decide, show date.month < 100 by omega⟩
  have isDay : (Piece.number 2 date.day).Sound :=
    ⟨by decide, by decide, show date.day < 100 by omega⟩
  have sound : ∀ piece ∈ digitDayPieces date, piece.Sound := by
    simp [digitDayPieces, isYear, isMonth, isDay, Piece.sound_marks]
  have separated : Separated (digitDayPieces date) := by
    simp [digitDayPieces, Separated, Piece.isMark, Piece.hyphen]
  rw [writeDigitDay, tokens_writePieces separated sound]
  simp only [digitDayPieces, List.map_cons, List.map_nil, Piece.token_number, Piece.token_marks]

theorem readStrict_writeDigitDay :
    readStrict (tokens (writeDigitDay date)) = .left (digitDayFindings date) [] := by
  have hyphen : isHyphen (.sign (Text.unit '-')) = true := by decide
  have isYear : ((date.year.natAbs : Nat) : Int) = date.year := by omega
  have noMonth : ¬(date.month < 1 ∨ 12 < date.month) := by omega
  have noDay : ¬(date.day < 1 ∨ 31 < date.day) := by omega
  rw [tokens_writeDigitDay year month day, readStrict, strictMonth, if_pos hyphen]
  simp only [hyphen, isYear, noMonth, noDay, strictDay, digitDayFindings, if_true, if_false]

omit year in
theorem instant?_digitDayFindings :
    { digitDayFindings date with numberSeen := true }.instant? =
      inRange? (dayNumber date.year date.month date.day * dayLength) := by
  have isDay : isDayOfMonth date.day = true := by
    simp only [isDayOfMonth, Bool.and_eq_true, decide_eq_true_eq]
    omega
  have isMonth : (1 : Int) ≤ date.month ∧ (date.month : Int) ≤ 12 := by omega
  have universal : zoneSeconds? 0 0 = some 0 := by decide
  simp [digitDayFindings, Findings.instant?, Findings.date?, Findings.time?, Findings.zone?,
    Findings.setZone, isDay, isMonth, universal, timeOfDay]

/-- A day in digits is no date of a header field, and is read all the same, as its midnight. -/
theorem readDate?_writeDigitDay :
    ¬IsHttpDate (writeDigitDay date) ∧
      readDate? (writeDigitDay date) =
        some (dayNumber date.year date.month date.day * dayLength) := by
  constructor
  · apply not_isHttpDate_of_digit
    have digits : ∀ u ∈ Text.ofNatPadded 4 date.year.natAbs, Text.isDigit u = true :=
      Text.isDigit_of_mem_ofNatPadded
    rw [writeDigitDay, digitDayPieces, writePieces, List.flatMap_cons, Piece.text]
    cases number : Text.ofNatPadded 4 date.year.natAbs with
    | nil => exact absurd number (Text.ofNatPadded_ne_nil 4 _)
    | cons u rest =>
        rw [number] at digits
        exact digits u List.mem_cons_self
  · have within : inRange? (dayNumber date.year date.month date.day * dayLength) =
        some (dayNumber date.year date.month date.day * dayLength) := by
      have bounds := dayNumber_bounds year month day
      rw [inRange?, if_pos]
      unfold dayLength range
      omega
    rw [readDate?, readStrict_writeDigitDay year month day, ← within,
      ← instant?_digitDayFindings month day]
    rfl

end DigitDay

/-! ## Texts without digits -/

def Token.isNumber : Token → Bool
  | .number _ _ => true
  | _ => false

theorem start_of_digitless {u : UInt16} (digitless : Text.isDigit u = false) :
    (∀ token ∈ (Run.start u).1, token.isNumber = false) ∧
      ∀ reversed, (Run.start u).2 ≠ .digits reversed := by
  rw [Run.start, digitless]
  split_ifs
  all_goals simp_all [Token.isNumber]

theorem isNumber_of_mem_scan {run : Run} {text : Text}
    (noDigits : ∀ reversed, run ≠ .digits reversed)
    (digitless : ∀ u ∈ text, Text.isDigit u = false) :
    ∀ token ∈ scan run text, token.isNumber = false := by
  -- A run that reads digits never begins, so no number is cut off.
  induction text generalizing run with
  | nil =>
      cases run with
      | nothing => simp [scan, Run.close]
      | digits reversed => exact absurd rfl (noDigits reversed)
      | word reversed => simp [scan, Run.close, Token.isNumber]
      | remark depth => simp [scan, Run.close, Token.isNumber]
  | cons u rest induction =>
      have others : ∀ v ∈ rest, Text.isDigit v = false :=
        fun v member => digitless v (List.mem_cons_of_mem u member)
      obtain ⟨begun, started⟩ := start_of_digitless (digitless u List.mem_cons_self)
      have behind := induction started others
      have word (reversed : Text) : ∀ token ∈ scan (.word reversed) rest, token.isNumber = false :=
        induction (by simp) others
      have remark (depth : Nat) : ∀ token ∈ scan (.remark depth) rest, token.isNumber = false :=
        induction (by simp) others
      have nothing : ∀ token ∈ scan .nothing rest, token.isNumber = false :=
        induction (by simp) others
      cases run with
      | nothing =>
          rw [scan]
          exact List.forall_mem_append.mpr ⟨begun, behind⟩
      | digits reversed => exact absurd rfl (noDigits reversed)
      | word reversed =>
          rw [scan]
          split
          · exact word _
          · exact List.forall_mem_cons.mpr ⟨rfl, List.forall_mem_append.mpr ⟨begun, behind⟩⟩
      | remark depth =>
          rw [scan]
          split_ifs
          · exact remark _
          · exact List.forall_mem_cons.mpr ⟨rfl, nothing⟩
          · exact remark _
          · exact remark _

theorem readStrict_of_numberless {tokens : List Token}
    (numberless : ∀ token ∈ tokens, token.isNumber = false) :
    readStrict tokens = .left {} tokens := by
  unfold readStrict
  split
  · cases numberless _ (List.mem_cons_of_mem _ List.mem_cons_self)
  · cases numberless _ List.mem_cons_self
  · rfl

theorem days_of_readToken {found next : Findings} {token : Token} {rest : List Token} {used : Nat}
    (notNumber : token.isNumber = false) (read : readToken found token rest = some (next, used)) :
    next.days = found.days := by
  cases token with
  | number n length => cases notNumber
  | sign u =>
      unfold readToken readZone at read
      grind
  | word word length =>
      unfold readToken readWord at read
      grind [Findings.setZone]
  | blank =>
      cases read
      rfl
  | remark =>
      cases read
      rfl

theorem days_of_readLenient {tokens : List Token}
    (numberless : ∀ token ∈ tokens, token.isNumber = false) {used : Nat} {found next : Findings}
    (read : readLenient used found tokens = some next) : next.days = found.days := by
  induction tokens generalizing used found with
  | nil =>
      cases read
      rfl
  | cons token rest induction =>
      have others : ∀ token ∈ rest, token.isNumber = false :=
        fun other member => numberless other (List.mem_cons_of_mem token member)
      cases used with
      | succ used => exact induction others read
      | zero =>
          rw [readLenient] at read
          split at read
          · rename_i between dropped step
            exact (induction others read).trans
              (days_of_readToken (numberless token List.mem_cons_self) step)
          · cases read

/-- A text without a digit is no date. -/
theorem readDate?_of_digitless {text : Text} (digitless : ∀ u ∈ text, Text.isDigit u = false) :
    readDate? text = none := by
  have numberless : ∀ token ∈ tokens text, token.isNumber = false := by
    apply isNumber_of_mem_scan
    · simp
    · intro u member
      exact digitless u (List.takeWhile_subset _ member)
  rw [readDate?, readStrict_of_numberless numberless, Option.bind_eq_none_iff]
  intro found read
  have noDay : found.days = [] := days_of_readLenient numberless read
  have noDate : found.date? = none := by
    rw [Findings.date?, noDay]
    rfl
  rw [Findings.instant?, noDate]
  rfl

example : readDate? "yesterday-ish" = none := by decide +kernel

end BlobStorage.Calendar
