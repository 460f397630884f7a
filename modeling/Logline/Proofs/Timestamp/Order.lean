import Logline.Proofs.Calendar.Order
import Logline.Proofs.Charset.ByteOrder
import Logline.Proofs.Timestamp.Cell

/-! # The order of timestamps

Under a fixed offset, dates and times of day in the standard form are in the order of the times that
they stand for, byte by byte, whatever a cell remembers: their numbers stand in columns of fixed
widths, the greatest unit first.

* `Text.columns` — numbers in columns
* `Civil.text_eq_columns` — the standard form of civil times with years of four digits
* `CellState.Gives` — the texts that a cell gives for a time
* `Timestamps.gives_lt_iff` — the order of texts is the order of times -/

namespace Logline

namespace Text

/-! ## Columns -/

/-- The code of a digit is that of zero and its number. -/
theorem toNat_digit (n : Nat) : (digit n).toNat = 0x30 + n % 10 :=
  Charset.toNat_ofNat (Or.inl (by omega))

/-- Digits are in the order of their numbers. -/
theorem digit_lt_digit {m n : Nat} (lt : m % 10 < n % 10) : digit m < digit n := by
  have codes : (digit m).toNat < (digit n).toNat := by
    rw [toNat_digit, toNat_digit]
    omega
  exact codes

/-- With digits enough, a smaller number comes first, whatever stands behind the numbers. -/
theorem fixed_append_lt {width m n : Nat} (lt : m < n) (bound : n < 10 ^ width)
    (s t : List Char) : fixed width m ++ s < fixed width n ++ t := by
  induction width generalizing m n s t with
  | zero => omega
  | succ width ih =>
    have bound' : n / 10 < 10 ^ width := by
      rw [Nat.pow_succ] at bound
      omega
    simp only [fixed, List.append_assoc, List.singleton_append]
    rcases Nat.lt_or_eq_of_le (Nat.div_le_div_right lt.le) with less | same
    · exact ih less bound' _ _
    · rw [same]
      refine List.append_left_lt (List.cons_lt_cons_iff.2 (Or.inl (digit_lt_digit ?_)))
      omega

/-- Numbers in columns, each with a width and with characters that set it off from the next one. -/
def columns : List (Nat × List Char) → List Nat → List Char
  | (width, mark) :: cs, n :: ns => fixed width n ++ mark ++ columns cs ns
  | _, _ => []

/-- Whether numbers have room in columns. -/
def Fit (cs : List (Nat × List Char)) (ns : List Nat) : Prop :=
  List.Forall₂ (fun c n => n < 10 ^ c.1) cs ns

/-- Numbers in columns are in the order of the numbers. -/
theorem columns_lt {cs : List (Nat × List Char)} {ms ns : List Nat} (fit : Fit cs ns)
    (fit' : Fit cs ms) (lt : ms < ns) : columns cs ms < columns cs ns := by
  induction fit generalizing ms with
  | nil =>
    cases fit'
    exact absurd lt (List.not_lt_nil _)
  | @cons c n cs ns bound _ ih =>
    cases fit' with
    | @cons _ m _ ms _ fit' =>
      obtain ⟨width, mark⟩ := c
      simp only [columns, List.append_assoc]
      rcases List.cons_lt_cons_iff.1 lt with less | ⟨rfl, behind⟩
      · exact fixed_append_lt less bound _ _
      · exact List.append_left_lt (List.append_left_lt (ih fit' behind))

/-- The length of columns. -/
theorem length_columns {cs : List (Nat × List Char)} {ns : List Nat} (fit : Fit cs ns) :
    (columns cs ns).length = (cs.map fun c => c.1 + c.2.length).sum := by
  induction fit with
  | nil => rfl
  | cons _ _ ih => simp [columns, ih, Nat.add_assoc]

/-- The characters of columns are digits, or set columns off. -/
theorem ascii_columns {cs : List (Nat × List Char)} (ascii : ∀ c ∈ cs, ∀ ch ∈ c.2, ch.toNat < 0x80)
    (ns : List Nat) : ∀ ch ∈ columns cs ns, ch.toNat < 0x80 := by
  have digits : ∀ width n, ∀ ch ∈ fixed width n, ch.toNat < 0x80 := by
    intro width
    induction width with
    | zero => exact fun _ _ mem => absurd mem List.not_mem_nil
    | succ width ih =>
      intro n ch mem
      rcases List.mem_append.1 mem with front | last
      · exact ih _ ch front
      · rw [List.mem_singleton.1 last, toNat_digit]
        omega
  induction cs generalizing ns with
  | nil => exact fun _ mem => absurd mem List.not_mem_nil
  | cons c cs ih =>
    obtain ⟨first, others⟩ := List.forall_mem_cons.1 ascii
    cases ns with
    | nil => exact fun _ mem => absurd mem List.not_mem_nil
    | cons n ns =>
      intro ch mem
      rcases List.mem_append.1 mem with front | behind
      · exact (List.mem_append.1 front).elim (digits c.1 n ch) (first ch)
      · exact ih others ns ch behind

/-- A number that fits a width is padded to that width. -/
theorem padded_eq_fixed {width n : Nat} (bound : n < 10 ^ width) :
    padded width n = String.ofList (fixed width n) := if_pos bound

end Text

/-- ASCII text has as many bytes as characters. -/
theorem Charset.length_encode_utf8 {s : String} (ascii : ∀ c ∈ s.toList, c.toNat < 0x80) :
    (Charset.utf8.encode s).length = s.toList.length := by
  have codes : s.toList.flatMap Charset.utf8.encodeChar
      = s.toList.flatMap fun c => [singleByte 0x80 c] :=
    List.flatMap_congr fun c mem => utf8EncodeChar_eq_singleByte (Nat.le_refl _) (ascii c mem)
  rw [encode_eq_flatMap, codes, List.length_flatMap]
  simp

namespace Calendar.Civil

/-! ## Civil times in columns -/

/-- The columns of the standard form `YYYY-MM-DDTHH:MM:SS.mmm`. -/
def standardColumns : List (Nat × List Char) :=
  [(4, ['-']), (2, ['-']), (2, ['T']), (2, [':']), (2, [':']), (2, ['.']), (3, [])]

/-- The year has four digits. -/
def FourDigits (c : Civil) : Prop := 0 ≤ c.date.year ∧ c.date.year ≤ 9999

instance (c : Civil) : Decidable c.FourDigits := inferInstanceAs (Decidable (_ ∧ _))

variable {time : Int}

/-- The numbers of a civil time have room in their columns. -/
theorem numbers_bounds (year : (ofMillis time).FourDigits) :
    (ofMillis time).date.year.toNat < 10 ^ 4 ∧ (ofMillis time).date.month < 10 ^ 2 ∧
    (ofMillis time).date.day < 10 ^ 2 ∧ (ofMillis time).hour < 10 ^ 2 ∧
    (ofMillis time).minute < 10 ^ 2 ∧ (ofMillis time).second < 10 ^ 2 ∧
    (ofMillis time).milli < 10 ^ 3 := by
  obtain ⟨positive, le⟩ := year
  obtain ⟨hour, minute, second, milli⟩ := ofMillis_bounds time
  obtain ⟨month, day⟩ : (ofMillis time).date.month ≤ 12 ∧ (ofMillis time).date.day ≤ 31 :=
    Date.ofDays_bounds _
  omega

/-- The numbers of a civil time fit their columns if the year does. -/
theorem fit_numbers (year : (ofMillis time).FourDigits) :
    Text.Fit standardColumns (ofMillis time).numbers := by
  obtain ⟨first, month, day, hour, minute, second, milli⟩ := numbers_bounds year
  exact .cons first (.cons month (.cons day (.cons hour (.cons minute (.cons second
    (.cons milli .nil))))))

/-- With a year of four digits, the standard form is the numbers of the civil time in columns. -/
theorem text_eq_columns (year : (ofMillis time).FourDigits) :
    (ofMillis time).text
      = String.ofList (Text.columns standardColumns (ofMillis time).numbers) := by
  obtain ⟨first, month, day, hour, minute, second, milli⟩ := numbers_bounds year
  have positive : Text.paddedInt 4 (ofMillis time).date.year
      = Text.padded 4 (ofMillis time).date.year.toNat := by
    obtain ⟨n, eq⟩ := Int.eq_ofNat_of_zero_le year.1
    rw [eq]
    rfl
  rw [text, timeText, positive, Text.padded_eq_fixed first, Text.padded_eq_fixed month,
    Text.padded_eq_fixed day, Text.padded_eq_fixed hour, Text.padded_eq_fixed minute,
    Text.padded_eq_fixed second, Text.padded_eq_fixed milli, ← String.toList_inj]
  simp [Text.columns, standardColumns, numbers, Date.numbers]

/-- Later civil times have greater texts. -/
theorem text_lt {s t : Int} (lt : s < t) (year : (ofMillis s).FourDigits)
    (year' : (ofMillis t).FourDigits) : (ofMillis s).text < (ofMillis t).text := by
  rw [text_eq_columns year, text_eq_columns year', String.lt_iff_toList_lt, String.toList_ofList,
    String.toList_ofList]
  exact Text.columns_lt (fit_numbers year') (fit_numbers year) (numbers_ofMillis_lt lt year.1)

/-- The standard form has 23 bytes. -/
theorem length_encode_text (year : (ofMillis time).FourDigits) :
    (Charset.utf8.encode (ofMillis time).text).length = 23 := by
  rw [text_eq_columns year, Charset.length_encode_utf8, String.toList_ofList,
    Text.length_columns (fit_numbers year)]
  · rfl
  · rw [String.toList_ofList]
    exact Text.ascii_columns (by simp [standardColumns]) _

end Calendar.Civil

/-! ## Timestamps in order -/

/-- What a cell **gives** for a time: what a call returned, or what the next call returns if no
other thread comes between. -/
def CellState.Gives (t : Timestamps) (s : CellState) (millis : Int) (text : String) : Prop :=
  (∃ n, (n, millis, text) ∈ s.returned) ∨ (t.format s.cell millis).1 = text

namespace Timestamps

/-- A time has a date, and its local year has four digits. -/
structure FourDigits (t : Timestamps) (millis : Int) : Prop where
  date : hasDate millis = true
  year : (t.moment millis).civil.FourDigits

variable {t : Timestamps} {millis : Int}

/-- What a cell gives is the text of the calendar. -/
theorem uncached_of_gives {s : CellState} (run : Relation.ReflTransGen (CellStep.Any t) .fresh s)
    {text : String} (gives : s.Gives t millis text) : text = t.uncached millis := by
  have sound := CellState.sound_of_run run
  rcases gives with ⟨n, returned⟩ | rfl
  · exact sound.returned _ returned
  · exact (respond_sound sound.cell).1

/-- In the standard form a time with a date is shown by its civil time. -/
theorem uncached_eq_text (output : t.output = .dateTime) (standard : t.pattern = none)
    (date : hasDate millis = true) :
    t.uncached millis = (Calendar.Civil.ofMillis (t.localMillis millis)).text := by
  simp only [uncached, output, date, civilText, standard, standardText]
  rfl

/-- Under a fixed offset, later times have greater texts. -/
theorem uncached_lt (output : t.output = .dateTime) (standard : t.pattern = none) {offset : Int}
    (zone : t.zone = .fixed offset) {m n : Int} (year : t.FourDigits m) (year' : t.FourDigits n)
    (lt : m < n) : t.uncached m < t.uncached n := by
  have later : t.localMillis m < t.localMillis n := by
    simp only [localMillis, zone, Calendar.Zone.offsetAt_fixed]
    omega
  rw [uncached_eq_text output standard year.date, uncached_eq_text output standard year'.date]
  exact Calendar.Civil.text_lt later year.year year'.year

/-- In the standard form a time with a date takes 23 bytes. -/
theorem length_encode_uncached (output : t.output = .dateTime) (standard : t.pattern = none)
    (year : t.FourDigits millis) : (Charset.utf8.encode (t.uncached millis)).length = 23 := by
  rw [uncached_eq_text output standard year.date]
  exact Calendar.Civil.length_encode_text year.year

/-- **The order of timestamps.** Under a fixed offset, and as long as local years have four digits,
dates and times of day in the standard form are in the order of their times, byte by byte: whichever
threads have used the cell before, and also while they use it. So different times have different
texts, and all of these have one length. -/
theorem gives_lt_iff (output : t.output = .dateTime) (standard : t.pattern = none) {offset : Int}
    (zone : t.zone = .fixed offset) {s₁ s₂ : CellState}
    (run₁ : Relation.ReflTransGen (CellStep.Any t) .fresh s₁)
    (run₂ : Relation.ReflTransGen (CellStep.Any t) .fresh s₂) {m₁ m₂ : Int}
    (year₁ : t.FourDigits m₁) (year₂ : t.FourDigits m₂) {text₁ text₂ : String}
    (gives₁ : s₁.Gives t m₁ text₁) (gives₂ : s₂.Gives t m₂ text₂) :
    (Charset.utf8.encode text₁ < Charset.utf8.encode text₂ ↔ m₁ < m₂) ∧
    (text₁ = text₂ ↔ m₁ = m₂) ∧
    (Charset.utf8.encode text₁).length = 23 ∧ (Charset.utf8.encode text₂).length = 23 := by
  obtain rfl := uncached_of_gives run₁ gives₁
  obtain rfl := uncached_of_gives run₂ gives₂
  have mono : StrictMonoOn t.uncached {millis | t.FourDigits millis} :=
    fun _ year _ year' lt => uncached_lt output standard zone year year' lt
  refine ⟨?_, mono.injOn.eq_iff year₁ year₂, length_encode_uncached output standard year₁,
    length_encode_uncached output standard year₂⟩
  rw [Charset.encode_utf8_lt_iff]
  exact mono.lt_iff_lt year₁ year₂

/-- The end of a leap day and the next millisecond, in a zone three seconds behind: the one was
shown, and the other is shown from what the cell remembers of a time of the same ten seconds. -/
theorem gives_lt_leap_day :
    let t : Timestamps := ⟨.dateTime, none, .fixed (-3), 0⟩
    ∃ s, Relation.ReflTransGen (CellStep.Any t) .fresh s ∧
      s.returned.map (fun c => c.2.2) = ["2000-02-29T23:59:59.999", "2000-03-01T00:00:07.500"] ∧
      (t.format s.cell 951868803000).1 = "2000-03-01T00:00:00.000" ∧
      Charset.utf8.encode "2000-02-29T23:59:59.999"
        < Charset.utf8.encode "2000-03-01T00:00:00.000" := by
  intro t
  have run₁ : Relation.ReflTransGen (CellStep.Any t) CellState.fresh _ :=
    .single ⟨0, .load 951868802999 rfl⟩
  have run₂ := run₁.tail ⟨0, .compute rfl⟩
  have run₃ := run₂.tail ⟨0, .finish rfl⟩
  have run₄ := run₃.tail ⟨1, .load 951868810500 rfl⟩
  have run₅ := run₄.tail ⟨1, .compute rfl⟩
  have run₆ := run₅.tail ⟨1, .finish rfl⟩
  have year₁ : t.FourDigits 951868802999 := ⟨by decide +kernel, by decide +kernel⟩
  have year₂ : t.FourDigits 951868803000 := ⟨by decide +kernel, by decide +kernel⟩
  refine ⟨_, run₆, by decide +kernel, by decide +kernel, ?_⟩
  refine ((gives_lt_iff rfl rfl rfl run₆ run₆ year₁ year₂ (Or.inl ⟨0, ?_⟩) (Or.inr ?_)).1).2
    (by decide)
  · decide +kernel
  · decide +kernel

end Timestamps

end Logline
