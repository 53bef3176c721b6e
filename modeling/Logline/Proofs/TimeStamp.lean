import Logline.Proofs.Decimal
import Logline.Time.Rfc3339
import Mathlib.Data.Nat.Digits.Defs
import Mathlib.Tactic.IntervalCases
/-!
Time stamps. A grammar tells what a time stamp of RFC 3339 is and which time it denotes: a date that
is in the calendar, a time of day, a fraction with any number of digits, and an offset. The reader
takes the time stamps and nothing else, and gives the times that they denote.
-/
namespace Logline

namespace Time

section Calendar

/-- Days of the first months of a year. -/
def daysOfMonths (year months : Nat) : Nat :=
  ((List.range months).map fun i => monthLength year (i + 1)).sum

/-- Days of the years from the year zero up to another one. -/
def daysOfYears (years : Nat) : Nat :=
  ((List.range years).map fun year => daysOfMonths year 12).sum

/-- Days from the beginning of 1970 to a date. -/
def dayNumber (year month day : Nat) : Int :=
  (daysOfYears year + daysOfMonths year (month - 1) + day : Int) - (daysOfYears 1970 + 1)

theorem isLeap_natCast (year : Nat) :
    isLeap year = decide (year % 4 = 0 ∧ (year % 100 ≠ 0 ∨ year % 400 = 0)) := by
  rw [Bool.eq_iff_iff, decide_eq_true_iff]
  simp only [isLeap, Bool.and_eq_true, Bool.or_eq_true, beq_iff_eq, bne_iff_ne]
  omega

theorem daysOfMonths_twelve (year : Nat) :
    daysOfMonths year 12 = if isLeap year then 366 else 365 := by
  simp only [daysOfMonths, List.range_succ, List.range_zero, List.nil_append, List.cons_append,
    List.map_cons, List.map_nil, List.sum_cons, List.sum_nil, monthLength]
  cases isLeap year <;> rfl

/-- Days of as many years, leap days counted by quotients. -/
def quotientDays (years : Int) : Int :=
  365 * years + years / 4 - years / 100 + years / 400

theorem quotientDays_natCast (year : Nat) :
    quotientDays year = quotientDays (year - 1) + if isLeap year then 366 else 365 := by
  have h4 : (year : Int) / 4 = (year - 1) / 4 + if year % 4 = 0 then 1 else 0 := by
    split <;> omega
  have h100 : (year : Int) / 100 = (year - 1) / 100 + if year % 100 = 0 then 1 else 0 := by
    split <;> omega
  have h400 : (year : Int) / 400 = (year - 1) / 400 + if year % 400 = 0 then 1 else 0 := by
    split <;> omega
  have hcentury : year % 400 = 0 → year % 100 = 0 := by omega
  have hfour : year % 100 = 0 → year % 4 = 0 := by omega
  rw [quotientDays, quotientDays, isLeap_natCast, h4, h100, h400]
  grind

theorem daysOfYears_eq (years : Nat) :
    (daysOfYears years : Int) = quotientDays (years - 1) + 366 := by
  induction years with
  | zero => rfl
  | succ years ih =>
    have hstep : daysOfYears (years + 1) = daysOfYears years + daysOfMonths years 12 := by
      simp [daysOfYears, List.range_succ]
    rw [hstep, daysOfMonths_twelve, Int.natCast_add, ih, Int.natCast_add, Int.natCast_one,
      Int.add_sub_cancel, quotientDays_natCast]
    split <;> omega

/-- Days of the first months, the leap day among them from March on. -/
theorem daysOfMonths_eq {months : Nat} (year : Nat) (h : months < 12) :
    daysOfMonths year months = [0, 31, 59, 90, 120, 151, 181, 212, 243, 273, 304, 334][months] +
      if isLeap year ∧ 2 ≤ months then 1 else 0 := by
  have hleap : monthLength year 2 = 28 + if isLeap year then 1 else 0 := by
    cases h : isLeap year <;> simp [monthLength, h]
  interval_cases months <;>
    simp only [daysOfMonths, List.range_succ, List.range_zero, List.nil_append, List.cons_append,
      List.map_cons, List.map_nil, List.sum_cons, List.sum_nil, Nat.reduceAdd, hleap] <;>
    simp [monthLength] <;> omega

/-- Day number by the year that begins in March. -/
theorem toDays_eq_quotientDays (d : Date) :
    d.toDays =
      let year := if d.month ≤ 2 then d.year - 1 else d.year
      let month : Int := if d.month ≤ 2 then d.month + 9 else d.month - 3
      quotientDays year + (153 * month + 2) / 5 + d.day - 719469 := by
  rw [Date.toDays]
  extract_lets year month
  have hyear : year = 400 * (year / 400) + year % 400 := by omega
  have h4 : year / 4 = 100 * (year / 400) + year % 400 / 4 := by omega
  have h100 : year / 100 = 4 * (year / 400) + year % 400 / 100 := by omega
  simp only [Date.cycle, Date.epochOffset, quotientDays]
  omega

/-- The number of a date counts the days since the beginning of 1970. -/
theorem toDays_eq_dayNumber (year : Nat) {month : Nat} (hmin : 1 ≤ month) (hmax : month ≤ 12)
    (day : Nat) : Date.toDays ⟨year, month, day⟩ = dayNumber year month day := by
  have hepoch : quotientDays (1970 - 1) = 719162 := rfl
  have hlast := quotientDays_natCast year
  rw [toDays_eq_quotientDays, dayNumber, daysOfYears_eq, daysOfYears_eq, Nat.cast_ofNat, hepoch,
    daysOfMonths_eq year (by omega)]
  dsimp only
  by_cases hmonth : month ≤ 2
  · rw [if_pos hmonth, if_pos hmonth]
    interval_cases month <;> simp <;> omega
  · rw [if_neg hmonth, if_neg hmonth, hlast]
    cases isLeap year <;> interval_cases month <;> simp <;> omega

end Calendar

open Decimal (places)

theorem readFixed_eq_some_iff {k n : Nat} {cs rest : List Char} :
    readFixed k cs = some (n, rest) ↔ n < 10 ^ k ∧ cs = places k n ++ rest := by
  constructor
  · intro h
    rw [readFixed] at h
    split at h
    · rename_i hdigits
      cases h
      have hall := List.all_eq_true.mp hdigits.2
      have hlt := Decimal.value_lt hall
      have hplaces := Decimal.places_value hall
      rw [hdigits.1] at hlt hplaces
      exact ⟨hlt, by rw [hplaces, List.take_append_drop]⟩
    · cases h
  · rintro ⟨hn, rfl⟩
    have htake : (places k n ++ rest).take k = places k n :=
      List.take_left' (Decimal.length_places k n)
    have hdrop : (places k n ++ rest).drop k = rest :=
      List.drop_left' (Decimal.length_places k n)
    have hall : (places k n).all Char.isDigit = true :=
      List.all_eq_true.mpr fun _ => Decimal.isDigit_of_mem_places
    rw [readFixed, htake, hdrop, if_pos ⟨Decimal.length_places k n, hall⟩, Decimal.value_places hn]

theorem readOneOf_eq_some_iff {accepted cs rest : List Char} :
    readOneOf accepted cs = some rest ↔ ∃ c ∈ accepted, cs = c :: rest := by
  cases cs with
  | nil => simp [readOneOf]
  | cons c cs =>
    simp only [readOneOf, Option.ite_none_right_eq_some, Option.some.injEq, List.cons.injEq]
    constructor
    · rintro ⟨hc, rfl⟩
      exact ⟨c, hc, rfl, rfl⟩
    · rintro ⟨c, hc, rfl, rfl⟩
      exact ⟨hc, rfl⟩

theorem readDate_eq_some_iff {cs rest : List Char} {d : Date} :
    readDate cs = some (d, rest) ↔
      ∃ year month day : Nat,
        (year < 10 ^ 4 ∧ month < 10 ^ 2 ∧ day < 10 ^ 2) ∧ d = ⟨year, month, day⟩ ∧
        cs = places 4 year ++ '-' :: (places 2 month ++ '-' :: (places 2 day ++ rest)) := by
  simp only [readDate, Option.bind_eq_bind, Option.bind_eq_some_iff, Prod.exists,
    readFixed_eq_some_iff, readOneOf_eq_some_iff, List.mem_singleton, exists_eq_left,
    Option.some.injEq, Prod.mk.injEq]
  constructor
  · rintro ⟨year, _, ⟨hyear, rfl⟩, _, rfl, month, _, ⟨hmonth, rfl⟩, _, rfl, day, _, ⟨hday, rfl⟩, rfl,
      rfl⟩
    exact ⟨year, month, day, ⟨hyear, hmonth, hday⟩, rfl, rfl⟩
  · rintro ⟨year, month, day, ⟨hyear, hmonth, hday⟩, rfl, rfl⟩
    exact ⟨year, _, ⟨hyear, rfl⟩, _, rfl, month, _, ⟨hmonth, rfl⟩, _, rfl, day, _, ⟨hday, rfl⟩, rfl,
      rfl⟩

/-- Fraction of a second as its decimal digits. -/
abbrev Fraction := List (Fin 10)

namespace Fraction

def digits (f : Fraction) : List Char :=
  f.map fun d : Fin 10 => Nat.digitChar d

/-- A point and the digits; nothing without digits. -/
def text (f : Fraction) : List Char :=
  if f = [] then [] else '.' :: f.digits

/-- Nanoseconds, rounded down. -/
def nanos (f : Fraction) : Nat :=
  Nat.ofDigits 10 (f.map Fin.val).reverse * 10 ^ 9 / 10 ^ f.length

theorem isDigit_of_mem_digits {f : Fraction} {c : Char} (h : c ∈ f.digits) : c.isDigit = true := by
  obtain ⟨d, -, rfl⟩ := List.mem_map.mp h
  exact Decimal.isDigit_digitChar d d.isLt

theorem exists_digits_eq {ds : List Char} (h : ∀ c ∈ ds, c.isDigit = true) :
    ∃ f : Fraction, f.digits = ds := by
  induction ds with
  | nil => exact ⟨[], rfl⟩
  | cons c ds ih =>
    rw [List.forall_mem_cons] at h
    obtain ⟨f, rfl⟩ := ih h.2
    exact ⟨⟨Decimal.digitValue c, Decimal.digitValue_lt h.1⟩ :: f,
      congrArg (· :: f.digits) (Decimal.digitChar_digitValue h.1)⟩

theorem value_digits (f : Fraction) :
    Decimal.value f.digits = Nat.ofDigits 10 (f.map Fin.val).reverse := by
  induction f using List.reverseRecOn with
  | nil => rfl
  | append_singleton f d ih =>
    rw [digits, List.map_append, List.map_singleton, Decimal.value_concat, ← digits, ih,
      Decimal.digitValue_digitChar d d.isLt, List.map_append, List.reverse_append]
    exact Nat.add_comm _ _

/-- Digits behind the ninth do not count. -/
theorem nanosOf_digits (f : Fraction) : nanosOf f.digits = f.nanos := by
  have hlength : f.length = f.digits.length := (List.length_map _).symm
  rw [nanosOf, nanos, ← value_digits, hlength]
  rcases Nat.lt_or_ge 9 f.digits.length with hlt | hle
  · have hback : (f.digits.drop 9).length + 9 = f.digits.length := by
      rw [List.length_drop]
      omega
    have hfront : (f.digits.take 9).length = 9 := List.length_take_of_le (Nat.le_of_lt hlt)
    have hsplit := Decimal.value_append (f.digits.take 9) (f.digits.drop 9)
    have hlow : Decimal.value (f.digits.drop 9) < 10 ^ (f.digits.drop 9).length :=
      Decimal.value_lt fun c hc => isDigit_of_mem_digits (List.mem_of_mem_drop hc)
    rw [List.take_append_drop] at hsplit
    rw [hsplit, ← hback, Nat.pow_add, Nat.mul_div_mul_right _ _ (by decide), Nat.add_comm,
      Nat.add_mul_div_right _ _ (Nat.pow_pos (by decide)), Nat.div_eq_of_lt hlow, hfront,
      Nat.zero_add]
    exact Nat.mul_one _
  · have hpow : 10 ^ 9 = 10 ^ (9 - f.digits.length) * 10 ^ f.digits.length := by
      rw [← Nat.pow_add, Nat.sub_add_cancel hle]
    rw [List.take_of_length_le hle, hpow, ← Nat.mul_assoc,
      Nat.mul_div_cancel _ (Nat.pow_pos (by decide))]
    rfl

end Fraction

/-- How a time stamp tells the offset from UTC: not at all, or as hours and minutes behind a plus
sign or one of two minus signs. -/
inductive StampOffset where
  | zulu (capital : Bool)
  | east (hours : Fin 24) (minutes : Fin 60)
  | west (trueMinus : Bool) (hours : Fin 24) (minutes : Fin 60)

namespace StampOffset

def text : StampOffset → List Char
  | zulu capital => [if capital then 'Z' else 'z']
  | east hours minutes => '+' :: (places 2 hours ++ ':' :: places 2 minutes)
  | west trueMinus hours minutes =>
    (if trueMinus then '\u2212' else '-') :: (places 2 hours ++ ':' :: places 2 minutes)

/-- Seconds to the east. -/
def seconds : StampOffset → Int
  | zulu _ => 0
  | east hours minutes => hours * 3600 + minutes * 60
  | west _ hours minutes => -(hours * 3600 + minutes * 60)

end StampOffset

/-- Parts of a time stamp. -/
structure Stamp where
  year : Fin 10000
  month : Nat
  day : Nat
  month_le : 1 ≤ month ∧ month ≤ 12
  day_le : 1 ≤ day ∧ day ≤ monthLength year month
  separator : Char
  separator_mem : separator ∈ ['T', 't', ' ']
  hour : Fin 24
  minute : Fin 60
  second : Fin 61
  fraction : Fraction
  offset : StampOffset

namespace Stamp

/-- Notation of a time stamp. -/
def text (s : Stamp) : List Char :=
  places 4 s.year ++ '-' :: (places 2 s.month ++ '-' :: (places 2 s.day ++ s.separator ::
    (places 2 s.hour ++ ':' :: (places 2 s.minute ++ ':' :: (places 2 s.second ++
      (s.fraction.text ++ s.offset.text))))))

/-- Time that a stamp denotes. The sixtieth second goes on behind the fifty-ninth. -/
def instant (s : Stamp) : Instant where
  seconds := 86400 * dayNumber s.year s.month s.day + 3600 * s.hour + 60 * s.minute +
    min (s.second : Int) 59 - s.offset.seconds
  nanos := s.fraction.nanos + if s.second = 60 then 10 ^ 9 else 0

end Stamp

/-- An offset begins with no digit and no point. -/
theorem StampOffset.head_text (u : StampOffset) :
    ∀ c ∈ u.text.head?, c.isDigit = false ∧ c ≠ '.' := by
  cases u with
  | zulu capital => cases capital <;> simp [text]
  | east => simp [text]
  | west trueMinus => cases trueMinus <;> simp [text]

theorem readFraction_eq_some_iff {cs rest : List Char} {n : Nat}
    (hrest : ∀ c ∈ rest.head?, c.isDigit = false ∧ c ≠ '.') :
    readFraction cs = some (n, rest) ↔ ∃ f : Fraction, n = f.nanos ∧ cs = f.text ++ rest := by
  constructor
  · intro h
    unfold readFraction at h
    split at h
    · rename_i tail
      dsimp only at h
      split at h
      · cases h
      · rename_i hne
        obtain ⟨rfl, hbehind⟩ := Prod.mk.inj (Option.some.inj h)
        obtain ⟨f, hf⟩ : ∃ f : Fraction, f.digits = (Decimal.splitDigits tail).1 :=
          Fraction.exists_digits_eq fun _ => Decimal.isDigit_of_mem_splitDigits
        have hfne : f ≠ [] := by
          rintro rfl
          exact hne hf.symm
        refine ⟨f, by rw [← hf, Fraction.nanosOf_digits], ?_⟩
        rw [Fraction.text, if_neg hfne, hf, ← hbehind, List.cons_append,
          Decimal.splitDigits_append]
    · cases h
      exact ⟨[], rfl, rfl⟩
  · rintro ⟨f, rfl, rfl⟩
    by_cases hf : f = []
    · subst hf
      have hpoint : ∀ tail, rest ≠ '.' :: tail := by
        rintro tail rfl
        exact (hrest '.' rfl).2 rfl
      exact readFraction.eq_2 rest hpoint
    · have hdigits : f.digits ≠ [] := mt List.map_eq_nil_iff.mp hf
      rw [Fraction.text, if_neg hf, List.cons_append, readFraction,
        Decimal.splitDigits_run (fun _ => Fraction.isDigit_of_mem_digits) fun c hc => (hrest c hc).1]
      dsimp only
      rw [if_neg hdigits, Fraction.nanosOf_digits]

theorem readClock_eq_some_iff {cs rest : List Char} {c : Clock}
    (hrest : ∀ c ∈ rest.head?, c.isDigit = false ∧ c ≠ '.') :
    readClock cs = some (c, rest) ↔
      ∃ (hour minute second : Nat) (f : Fraction),
        (hour < 10 ^ 2 ∧ minute < 10 ^ 2 ∧ second < 10 ^ 2) ∧ c = ⟨hour, minute, second, f.nanos⟩ ∧
        cs = places 2 hour ++ ':' :: (places 2 minute ++ ':' :: (places 2 second ++
          (f.text ++ rest))) := by
  simp only [readClock, Option.bind_eq_bind, Option.bind_eq_some_iff, Prod.exists,
    readFixed_eq_some_iff, readOneOf_eq_some_iff, List.mem_singleton, exists_eq_left,
    Option.some.injEq, Prod.mk.injEq]
  constructor
  · rintro ⟨hour, _, ⟨hhour, rfl⟩, _, rfl, minute, _, ⟨hminute, rfl⟩, _, rfl, second, _,
      ⟨hsecond, rfl⟩, _, _, hfraction, rfl, rfl⟩
    obtain ⟨f, rfl, rfl⟩ := (readFraction_eq_some_iff hrest).mp hfraction
    exact ⟨hour, minute, second, f, ⟨hhour, hminute, hsecond⟩, rfl, rfl⟩
  · rintro ⟨hour, minute, second, f, ⟨hhour, hminute, hsecond⟩, rfl, rfl⟩
    exact ⟨hour, _, ⟨hhour, rfl⟩, _, rfl, minute, _, ⟨hminute, rfl⟩, _, rfl, second, _,
      ⟨hsecond, rfl⟩, _, _, (readFraction_eq_some_iff hrest).mpr ⟨f, rfl, rfl⟩, rfl, rfl⟩

theorem readSeconds_eq_some_iff {cs : List Char} {n : Int} :
    readSeconds cs = some n ↔ ∃ (hours : Fin 24) (minutes : Fin 60),
      n = hours * 3600 + minutes * 60 ∧ cs = places 2 hours ++ ':' :: places 2 minutes := by
  simp only [readSeconds, Option.bind_eq_bind, Option.bind_eq_some_iff, Prod.exists,
    readFixed_eq_some_iff, readOneOf_eq_some_iff, List.mem_singleton, exists_eq_left,
    Option.ite_none_right_eq_some, Option.some.injEq]
  constructor
  · rintro ⟨hours, _, ⟨-, rfl⟩, _, rfl, minutes, _, ⟨-, rfl⟩, ⟨rfl, hhours, hminutes⟩, rfl⟩
    exact ⟨⟨hours, Nat.lt_succ_of_le hhours⟩, ⟨minutes, Nat.lt_succ_of_le hminutes⟩, rfl,
      by rw [List.append_nil]⟩
  · rintro ⟨hours, minutes, rfl, rfl⟩
    refine ⟨hours, _, ⟨by omega, rfl⟩, _, rfl, minutes, [], ⟨by omega, ?_⟩, ⟨rfl, ?_, ?_⟩, rfl⟩
    · rw [List.append_nil]
    · exact Nat.le_of_lt_succ hours.isLt
    · exact Nat.le_of_lt_succ minutes.isLt

theorem readOffset_eq_some_iff {cs : List Char} {n : Int} :
    readOffset cs = some n ↔ ∃ u : StampOffset, n = u.seconds ∧ cs = u.text := by
  constructor
  · intro h
    unfold readOffset at h
    split at h
    · cases h
      exact ⟨.zulu true, rfl, rfl⟩
    · cases h
      exact ⟨.zulu false, rfl, rfl⟩
    · obtain ⟨hours, minutes, rfl, rfl⟩ := readSeconds_eq_some_iff.mp h
      exact ⟨.east hours minutes, rfl, rfl⟩
    · obtain ⟨_, hseconds, rfl⟩ := Option.map_eq_some_iff.mp h
      obtain ⟨hours, minutes, rfl, rfl⟩ := readSeconds_eq_some_iff.mp hseconds
      exact ⟨.west false hours minutes, rfl, rfl⟩
    · obtain ⟨_, hseconds, rfl⟩ := Option.map_eq_some_iff.mp h
      obtain ⟨hours, minutes, rfl, rfl⟩ := readSeconds_eq_some_iff.mp hseconds
      exact ⟨.west true hours minutes, rfl, rfl⟩
    · cases h
  · rintro ⟨u, rfl, rfl⟩
    cases u with
    | zulu capital => cases capital <;> rfl
    | east hours minutes => exact readSeconds_eq_some_iff.mpr ⟨hours, minutes, rfl, rfl⟩
    | west trueMinus hours minutes =>
      have hseconds := readSeconds_eq_some_iff.mpr ⟨hours, minutes, rfl, rfl⟩
      cases trueMinus <;> exact congrArg (Option.map (-·)) hseconds

theorem Date.isValid_iff {d : Date} :
    d.isValid = true ↔
      (1 ≤ d.month ∧ d.month ≤ 12) ∧ (1 ≤ d.day ∧ d.day ≤ monthLength d.year d.month) := by
  simp only [Date.isValid, Bool.and_eq_true, decide_eq_true_eq, and_assoc]

theorem Clock.isValid_iff {c : Clock} :
    c.isValid = true ↔ c.hour < 24 ∧ c.minute < 60 ∧ c.second < 61 := by
  simp only [isValid, Bool.and_eq_true, decide_eq_true_eq, and_assoc, Nat.lt_succ_iff]

theorem monthLength_le (year : Int) (month : Nat) : monthLength year month ≤ 31 := by
  rw [monthLength]
  split_ifs <;> decide

/-- The reader dates the parts of a stamp as the stamp does. -/
theorem Stamp.ofClock_eq_instant (s : Stamp) :
    Instant.ofClock ⟨s.year, s.month, s.day⟩ ⟨s.hour, s.minute, s.second, s.fraction.nanos⟩
      s.offset.seconds = s.instant := by
  rw [Instant.ofClock, instant, toDays_eq_dayNumber s.year s.month_le.1 s.month_le.2]
  by_cases h : (s.second : Nat) = 60
  · have hsixty : s.second = 60 := Fin.ext h
    simp only [h, beq_self_eq_true, if_true, if_pos hsixty, Instant.mk.injEq]
    omega
  · have hsixty : s.second ≠ 60 := fun heq => h (congrArg Fin.val heq)
    have hlt := s.second.isLt
    simp only [beq_eq_false_iff_ne.mpr h, Bool.false_eq_true, if_false, if_neg hsixty,
      Nat.add_zero, Instant.mk.injEq, and_true]
    omega

/-- A text is read as a time if and only if it is a time stamp, and the time is the one that the
stamp denotes. -/
theorem Instant.ofRfc3339?_eq_some_iff {cs : List Char} {t : Instant} :
    ofRfc3339? cs = some t ↔ ∃ s : Stamp, t = s.instant ∧ cs = s.text := by
  simp only [ofRfc3339?, Option.bind_eq_bind, Option.bind_eq_some_iff, Prod.exists,
    readDate_eq_some_iff, readOneOf_eq_some_iff, readOffset_eq_some_iff,
    Option.ite_none_right_eq_some, Option.some.injEq, Bool.and_eq_true, Date.isValid_iff,
    Clock.isValid_iff]
  constructor
  · rintro ⟨_, _, ⟨year, month, day, ⟨hyear, -, -⟩, rfl, rfl⟩, _, ⟨separator, hseparator, rfl⟩,
      c, _, hclock, _, ⟨offset, rfl, rfl⟩, ⟨⟨hmonth, hday⟩, hvalid⟩, rfl⟩
    obtain ⟨hour, minute, second, fraction, -, rfl, rfl⟩ :=
      (readClock_eq_some_iff offset.head_text).mp hclock
    obtain ⟨hhour, hminute, hsecond⟩ := hvalid
    let s : Stamp := ⟨⟨year, hyear⟩, month, day, hmonth, hday, separator, hseparator,
      ⟨hour, hhour⟩, ⟨minute, hminute⟩, ⟨second, hsecond⟩, fraction, offset⟩
    exact ⟨s, s.ofClock_eq_instant, rfl⟩
  · rintro ⟨s, rfl, rfl⟩
    have hmonth := s.month_le
    have hday := s.day_le
    have hlength := monthLength_le s.year s.month
    have hclock := (readClock_eq_some_iff s.offset.head_text).mpr
      ⟨s.hour, s.minute, s.second, s.fraction, ⟨by omega, by omega, by omega⟩, rfl, rfl⟩
    exact ⟨_, _, ⟨s.year, s.month, s.day, ⟨s.year.isLt, by omega, by omega⟩, rfl, rfl⟩, _,
      ⟨s.separator, s.separator_mem, rfl⟩, _, _, hclock, _, ⟨s.offset, rfl, rfl⟩,
      ⟨⟨hmonth, hday⟩, s.hour.isLt, s.minute.isLt, s.second.isLt⟩, s.ofClock_eq_instant⟩

example : (Instant.ofRfc3339? "2016-12-31t23:59:60.7500000009-01:30".toList) =
    some ⟨1483234199, 1750000000⟩ := by
  decide +kernel

end Time

end Logline
