import Mathlib.Tactic.IntervalCases
import TaskBoard.Proofs.Time.MomentText

/-!
# The moments of a clock

A clock that counts from the start of 1970 names the instant that it has come to, as a day of the
calendar and a time of day. The days are found in years from March to February, 400 of which are a
cycle of the calendar.
-/

namespace TaskBoard.Time

/-! ## Days of a cycle -/

/-- A day of a cycle by what comes before it: centuries, spans of four years, years and days. Only
the last year of a span has 366 days, and that of a century only if it ends the cycle. -/
structure InCycle (day c q k d : Nat) : Prop where
  day_eq : day = 36524 * c + 1461 * q + 365 * k + d
  century : c ≤ 3
  span : q ≤ 24
  year : k ≤ 3
  day : d ≤ 364 ∨ d = 365 ∧ k = 3 ∧ (q < 24 ∨ c = 3)

variable {day c q k d : Nat}

theorem exists_inCycle (h : day < 146097) : ∃ c q k d, InCycle day c q k d := by
  obtain ⟨c, r, hday, hc, hr⟩ : ∃ c r, day = 36524 * c + r ∧ c ≤ 3 ∧
      (r < 36524 ∨ r = 36524 ∧ c = 3) :=
    ⟨min (day / 36524) 3, day - 36524 * min (day / 36524) 3, by omega⟩
  obtain ⟨q, u, hspan, hq, hu⟩ : ∃ q u, r = 1461 * q + u ∧ q ≤ 24 ∧
      (u < 1460 ∨ u = 1460 ∧ (q < 24 ∨ r = 36524)) :=
    ⟨r / 1461, r % 1461, by omega⟩
  obtain ⟨k, d, hyear, hk, hd⟩ : ∃ k d, u = 365 * k + d ∧ k ≤ 3 ∧
      (d < 365 ∨ d = 365 ∧ u = 1460) :=
    ⟨min (u / 365) 3, u - 365 * min (u / 365) 3, by omega⟩
  exact ⟨c, q, k, d, by omega, hc, hq, hk, by omega⟩

theorem InCycle.day_div_century (h : InCycle day c q k d) :
    day / 36524 = c + day / 146096 := by
  obtain ⟨hday, hc, hq, hk, hd⟩ := h
  have hlast : 1461 * q + 365 * k + d < 36524 ∨ day = 146096 ∧ c = 3 := by
    omega
  rcases hlast with hlt | ⟨rfl, rfl⟩
  · have hcentury : day / 36524 = c := by
      refine Nat.div_eq_of_lt_le ?_ ?_ <;> omega
    have hcycle : day / 146096 = 0 := Nat.div_eq_of_lt (by omega)
    rw [hcentury, hcycle, Nat.add_zero]
  · rfl

theorem InCycle.day_div_span (h : InCycle day c q k d) :
    ∃ leap, day / 1460 = 25 * c + q + leap ∧ leap ≤ d ∧ d ≤ leap + 364 := by
  obtain ⟨hday, hc, hq, hk, hd⟩ := h
  have hspan : day / 1460 = 25 * c + q + (24 * c + q + 365 * k + d) / 1460 := by
    omega
  refine ⟨_, hspan, ?_, ?_⟩ <;> clear hspan hday <;> omega

theorem InCycle.year_eq (h : InCycle day c q k d) :
    (day - day / 1460 + day / 36524 - day / 146096) / 365 = 100 * c + 4 * q + k := by
  obtain ⟨leap, hspan, hle, hle'⟩ := h.day_div_span
  have hday := h.day_eq
  have heq : day - day / 1460 + day / 36524 - day / 146096 =
      365 * (100 * c + 4 * q + k) + (d - leap) := by
    rw [hspan, h.day_div_century]
    omega
  rw [heq]
  omega

theorem InCycle.dayOfYear_eq (h : InCycle day c q k d) :
    let year := 100 * c + 4 * q + k
    day - (365 * year + year / 4 - year / 100) = d := by
  obtain ⟨hday, hc, hq, hk, -⟩ := h
  intro year
  have hfour : year / 4 = 25 * c + q := by omega
  have hhundred : year / 100 = c := by omega
  omega

/-! ## Months from March on -/

/-- The days of a year from March to February. -/
theorem dayOfMonth_le {year : Int} (hd : d ≤ 364 ∨ d = 365 ∧ isLeapYear year = true) :
    let month := (5 * d + 2) / 153
    d - (153 * month + 2) / 5 + 1 ≤
      daysInMonth year (if 10 ≤ month then month - 9 else month + 3) := by
  intro month
  have hmonth : month ≤ 11 := by omega
  have hbounds : 153 * month ≤ 5 * d + 2 ∧ 5 * d + 2 < 153 * month + 153 := by omega
  clear_value month
  by_cases hlast : month = 11
  · rw [hlast] at hbounds ⊢
    rcases hd with hd | ⟨rfl, hleap⟩
    · have hfebruary : 28 ≤ daysInMonth year 2 := by
        rw [daysInMonth, if_pos rfl]
        split <;> decide
      exact Nat.le_trans (by omega) hfebruary
    · simp [daysInMonth, hleap]
  · have hother : month < 11 := by omega
    clear hmonth hlast
    interval_cases month <;> simp [daysInMonth] <;> omega

theorem daysBeforeMonth_eq {year : Int} {month : Nat} (hmonth : month < 12) :
    (daysBeforeMonth year (if 10 ≤ month then month - 9 else month + 3) : Int) =
      if 10 ≤ month then ((153 * month + 2) / 5 : Nat) - 306
      else ((153 * month + 2) / 5 : Nat) + (if isLeapYear year then 60 else 59) := by
  interval_cases month <;> simp [daysBeforeMonth, daysInMonth, List.range_succ] <;> split <;> rfl

theorem daysBeforeYear_eq (e c q k : Nat) (hc : c ≤ 3) (hq : q ≤ 24) (hk : k ≤ 3) :
    daysBeforeYear (e * 400 + (100 * c + 4 * q + k) + 1 : Nat) =
      146097 * e + 36524 * c + 1461 * q + 365 * k + 366 := by
  unfold daysBeforeYear
  omega

theorem daysBeforeYear_succ (year : Int) :
    daysBeforeYear (year + 1) = daysBeforeYear year + (if isLeapYear year then 366 else 365) := by
  unfold daysBeforeYear isLeapYear
  simp only [Bool.and_eq_true, Bool.or_eq_true, decide_eq_true_eq]
  split <;> omega

/-- The days of the calendar before a day, from the start of the year 0 on: 60 of them are before
its March. -/
theorem InCycle.calendar (h : InCycle day c q k d) (cycle : Nat) :
    let month := (5 * d + 2) / 153
    let year : Int :=
      (cycle * 400 + (100 * c + 4 * q + k) + (if 10 ≤ month then 1 else 0) : Nat)
    daysBeforeYear year + daysBeforeMonth year (if 10 ≤ month then month - 9 else month + 3) +
      ((d - (153 * month + 2) / 5 + 1 : Nat) - 1 : Int) = 146097 * cycle + day + 60 := by
  obtain ⟨hday, hc, hq, hk, hd⟩ := h
  intro month year
  have hnext := daysBeforeYear_eq cycle c q k hc hq hk
  have hmonth : month < 12 := by omega
  have hlow : (153 * month + 2) / 5 ≤ d := by omega
  rw [daysBeforeMonth_eq hmonth]
  by_cases hlate : 10 ≤ month
  · simp only [year, if_pos hlate]
    omega
  · -- The days before March are those before the next year, less the 306 from March on.
    have hmarch : daysBeforeYear year + (if isLeapYear year then 60 else 59) =
        daysBeforeYear (year + 1) - 306 := by
      rw [daysBeforeYear_succ]
      split <;> omega
    simp only [year, if_neg hlate, Nat.add_zero] at hmarch ⊢
    push_cast at hmarch hnext ⊢
    omega

/-! ## Moments -/

namespace Moment

variable {seconds nanos : Nat}

theorem ofUnix_eq (seconds nanos : Nat) : ∃ c q k d,
    let days := seconds / 86400 + 719468
    let month := (5 * d + 2) / 153
    InCycle (days % 146097) c q k d ∧ ofUnix seconds nanos =
      { year := days / 146097 * 400 + (100 * c + 4 * q + k) + (if 10 ≤ month then 1 else 0)
        month := if 10 ≤ month then month - 9 else month + 3
        day := d - (153 * month + 2) / 5 + 1
        hour := seconds % 86400 / 3600
        minute := seconds % 86400 / 60 % 60
        second := seconds % 86400 % 60
        nano := nanos
        offset := 0 } := by
  obtain ⟨c, q, k, d, h⟩ :=
    exists_inCycle (Nat.mod_lt (seconds / 86400 + 719468) (by decide : 146097 > 0))
  have hday := h.dayOfYear_eq
  simp only at hday
  refine ⟨c, q, k, d, h, ?_⟩
  unfold ofUnix
  simp only [h.year_eq, hday]

/-- A clock that has not come to the year 10000 gives legible moments. -/
theorem legible_ofUnix (hseconds : seconds < 253402300800) (hnanos : nanos < 1000000000) :
    (ofUnix seconds nanos).Legible := by
  obtain ⟨c, q, k, d, h, heq⟩ := ofUnix_eq seconds nanos
  obtain ⟨hday, hc, hq, hk, hd⟩ := h
  rw [heq]
  constructor
  · -- The last of these days ends a December, so no January of the year 10000 is among them.
    have hdays : (seconds / 86400 + 719468) / 146097 < 24 ∨
        (seconds / 86400 + 719468) / 146097 = 24 ∧
          (seconds / 86400 + 719468) % 146097 ≤ 146036 := by
      omega
    simp only
    split <;> omega
  · have hleap : d ≤ 364 ∨ d = 365 ∧ isLeapYear ((seconds / 86400 + 719468) / 146097 * 400 +
        (100 * c + 4 * q + k) + (if 10 ≤ (5 * d + 2) / 153 then 1 else 0) : Nat) = true := by
      refine hd.imp_right fun ⟨hlast, hk, hq⟩ => ⟨hlast, ?_⟩
      have hlate : 10 ≤ (5 * d + 2) / 153 := by omega
      simp only [if_pos hlate, isLeapYear, Bool.and_eq_true, Bool.or_eq_true, decide_eq_true_eq]
      omega
    have hmonth : (5 * d + 2) / 153 ≤ 11 := by omega
    have hdayOfMonth := dayOfMonth_le hleap
    simp only [isValid, Bool.and_eq_true, decide_eq_true_eq]
    refine ⟨⟨⟨⟨⟨⟨?_, ?_⟩, ?_⟩, hdayOfMonth⟩, ?_⟩, ?_⟩, ?_⟩
    · split <;> omega
    · split <;> omega
    all_goals omega
  · exact hnanos
  · exact (by decide : (0 : Int).natAbs < 1440)

/-- The clock counts from the start of 1970, 719528 days after that of the year 0. -/
theorem instant_ofUnix (seconds nanos : Nat) :
    (ofUnix seconds nanos).instant = (719528 * 86400 + seconds) * 1000000000 + nanos := by
  obtain ⟨c, q, k, d, h, heq⟩ := ofUnix_eq seconds nanos
  have hdays := h.calendar ((seconds / 86400 + 719468) / 146097)
  simp only at hdays
  rw [heq, instant, utcMinutes]
  simp only [hdays]
  omega

end Moment

end TaskBoard.Time
