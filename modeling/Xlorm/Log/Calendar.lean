import Xlorm.Log.Retention
import Xlorm.Sql.Chain
import Xlorm.Sql.Placeholder

/-!
# The dates of the log files (`formatDate` against `parseDate`)

`openNewFileIfNeeded` names a file by `time.Now().Format("2006-01-02")`, and `cleanupOldLogs`
reads that part of a name back with `time.Parse("2006-01-02", ·)`. `formatDate` reaches the date
through `civilFromDays`, which counts in eras of 400 years (146097 days) from 1 March of year 0:
the year of the era and the day of that year from 1 March, then the month by the 153-day pattern
of five months, the year moved on for January and February.

The arithmetic is checked in layers: the year of the era and the day of the year, whose day 365
is the 29th of a leap February (`yearOfEra_spec`); the month and the day from the day of the year
(`monthDay_spec`); both together (`civilFromDays_valid`); and the zero-padded decimals
(`padNat_digits`).

**The law** (`parseDate_formatDate`): before the year 10000, every date `formatDate` writes parses
back to the date it was written from. So (`cleanupOldLogs_ownFiles`), for a base name without
`_`, the sweep removes exactly those of the handler's own files whose modification time is before
the cutoff; `cleanupOldLogs_missesGrammar` shows what a `_` in the base name breaks.
-/

namespace Xlorm

/-! ## The era arithmetic -/

/-- `isLeap` repeats every 400 years. -/
theorem isLeap_add_mul_400 (year k : Nat) : isLeap (year + k * 400) = isLeap year := by
  have h4 : (year + k * 400) % 4 = year % 4 := by omega
  have h100 : (year + k * 400) % 100 = year % 100 := by omega
  have h400 : (year + k * 400) % 400 = year % 400 := by omega
  simp only [isLeap, h4, h100, h400]

/-- A day of the first four centuries of an era, `s` days into a block of four years that starts
`q` blocks into century `c`: its year of the era is `100 c + 4 q` and the years into the block. -/
theorem yearOfEra_eq {c q s : Nat} (hc : c < 4) (hs : s < 1461) (hr : 1461 * q + s < 36524) :
    let doe := 36524 * c + (1461 * q + s)
    (doe - doe / 1460 + doe / 36524 - doe / 146096) / 365 =
      100 * c + 4 * q + (s - (24 * c + q + s) / 1460) / 365 := by
  intro doe
  have hcentury : doe / 36524 = c := by omega
  have hera : doe / 146096 = 0 := by omega
  have hblock : doe / 1460 = 25 * c + q + (24 * c + q + s) / 1460 := by omega
  rw [hcentury, hera, hblock]
  omega

/-- Of that day, the day of the year from 1 March is the days into the block less its whole
years. -/
theorem dayOfYear_eq {c q s y : Nat} (hs : s < 1461) (hy : y ≤ 3) (hq : q < 25) :
    36524 * c + (1461 * q + s) -
        (365 * (100 * c + 4 * q + y) + (100 * c + 4 * q + y) / 4 - (100 * c + 4 * q + y) / 100) =
      s - 365 * y := by
  have h4 : (100 * c + 4 * q + y) / 4 = 25 * c + q := by omega
  have h100 : (100 * c + 4 * q + y) / 100 = c := by omega
  rw [h4, h100]
  omega

/-- Within an era, the year of the era is below 400 and the day of the year from 1 March below
366, and day 365 falls in a year whose next February is leap. The era is cut into four centuries
of 36524 days, each into blocks of four years of 1461 days; its last day, the 29th of February of
its year 400, is the one day past the fourth century. -/
theorem yearOfEra_spec {doe yoe doy : Nat} (h : doe < 146097)
    (hy : yoe = (doe - doe / 1460 + doe / 36524 - doe / 146096) / 365)
    (hd : doy = doe - (365 * yoe + yoe / 4 - yoe / 100)) :
    yoe < 400 ∧ doy ≤ 365 ∧ (doy = 365 → isLeap (yoe + 1) = true) := by
  by_cases hlast : doe = 146096
  · subst hlast hy hd
    decide
  · obtain ⟨c, r, hr, rfl⟩ : ∃ c r, r < 36524 ∧ doe = 36524 * c + r :=
      ⟨doe / 36524, doe % 36524, Nat.mod_lt _ (by decide), (Nat.div_add_mod _ _).symm⟩
    obtain ⟨q, s, hs, rfl⟩ : ∃ q s, s < 1461 ∧ r = 1461 * q + s :=
      ⟨r / 1461, r % 1461, Nat.mod_lt _ (by decide), (Nat.div_add_mod _ _).symm⟩
    have hc : c < 4 := by clear hy hd; omega
    rw [yearOfEra_eq hc hs hr] at hy
    obtain ⟨y, hyd⟩ : ∃ y, y = (s - (24 * c + q + s) / 1460) / 365 := ⟨_, rfl⟩
    have hblock : y ≤ 3 ∧ (s - 365 * y = 365 → s = 1460) := by clear hy hd; omega
    rw [← hyd] at hy
    subst hy
    rw [dayOfYear_eq hs hblock.1 (by omega)] at hd
    subst hd
    refine ⟨by omega, by omega, fun h365 => ?_⟩
    have hs' := hblock.2 h365
    simp only [isLeap, Bool.and_eq_true, Bool.or_eq_true, decide_eq_true_eq, ne_eq]
    omega

/-- Every month has at most 31 days. -/
theorem daysIn_le (month year : Nat) (hm : month ≤ 12) : daysIn month year ≤ 31 := by
  unfold daysIn
  split_ifs
  · omega
  · interval_cases month <;> decide

/-- The 153-day pattern gives a day of the year from 1 March a month and a day of that month,
in a year whose February has a 29th when the day is 365. -/
theorem monthDay_spec {doy mp : Nat} (h : doy ≤ 365) (hmp : mp = (5 * doy + 2) / 153) (year : Nat)
    (hleap : doy = 365 → isLeap year = true) :
    1 ≤ (if mp < 10 then mp + 3 else mp - 9) ∧ (if mp < 10 then mp + 3 else mp - 9) ≤ 12 ∧
      1 ≤ doy - (153 * mp + 2) / 5 + 1 ∧
      doy - (153 * mp + 2) / 5 + 1 ≤ daysIn (if mp < 10 then mp + 3 else mp - 9) year := by
  have hmp11 : mp ≤ 11 := by omega
  by_cases hfeb : mp = 11
  · -- February: its 29th is day 365
    subst hfeb
    refine ⟨by decide, by decide, by omega, ?_⟩
    show doy - 337 + 1 ≤ daysIn 2 year
    unfold daysIn
    split_ifs with hl
    · omega
    · have h364 : doy ≠ 365 := fun h365 => hl ⟨rfl, hleap h365⟩
      show doy - 337 + 1 ≤ 28
      omega
  · interval_cases mp <;> simp [daysIn] <;> omega

/-- Every date `civilFromDays` gives is a day of a month of the year. -/
theorem civilFromDays_valid (days : Nat) :
    1 ≤ (civilFromDays days).2.1 ∧ (civilFromDays days).2.1 ≤ 12 ∧ 1 ≤ (civilFromDays days).2.2 ∧
      (civilFromDays days).2.2 ≤ daysIn (civilFromDays days).2.1 (civilFromDays days).1 := by
  obtain ⟨era, doe, h, hz⟩ : ∃ era doe, doe < 146097 ∧ days + 719468 = 146097 * era + doe :=
    ⟨_, _, Nat.mod_lt _ (by decide), (Nat.div_add_mod _ _).symm⟩
  have hera : (days + 719468) / 146097 = era := by omega
  have hdoe : days + 719468 - era * 146097 = doe := by omega
  unfold civilFromDays
  simp only [hera, hdoe]
  obtain ⟨yoe, hy⟩ : ∃ yoe, yoe = (doe - doe / 1460 + doe / 36524 - doe / 146096) / 365 :=
    ⟨_, rfl⟩
  obtain ⟨doy, hd⟩ : ∃ doy, doy = doe - (365 * yoe + yoe / 4 - yoe / 100) := ⟨_, rfl⟩
  obtain ⟨mp, hmp⟩ : ∃ mp, mp = (5 * doy + 2) / 153 := ⟨_, rfl⟩
  rw [← hy, ← hd, ← hmp]
  obtain ⟨-, hdoy, hleap⟩ := yearOfEra_spec h hy hd
  refine monthDay_spec hdoy hmp _ fun h365 => ?_
  have hfeb : mp = 11 := by omega
  subst hfeb
  rw [if_pos (by decide), Nat.add_right_comm, isLeap_add_mul_400]
  exact hleap h365

/-! ## The decimals -/

/-- Zeros in front leave a decimal's value alone. -/
theorem decimalValue_replicate_zero_append (k : Nat) (ds : List Char) :
    decimalValue (List.replicate k '0' ++ ds) = decimalValue ds := by
  have hzeros : ∀ k, (List.replicate k '0').foldl (fun n c => 10 * n + (c.toNat - 48)) 0 = 0 := by
    intro k
    induction k with
    | zero => rfl
    | succ k ih => rw [List.replicate_succ', List.foldl_append, ih]; rfl
  rw [decimalValue, List.foldl_append, hzeros]
  rfl

/-- `padNat` writes digits only. -/
theorem isDigit_padNat (w n : Nat) : ∀ c ∈ (padNat w n).data, c.isDigit = true := by
  intro c hc
  rcases List.mem_append.mp hc with hz | hs
  · rw [List.eq_of_mem_replicate hz]
    rfl
  · exact isDigit_toDigitsCore (n + 1) n [] (by simp) c hs

/-- `padNat w n` for `n` below `10 ^ w`: `w` digits whose value is `n`. -/
theorem padNat_digits {w n : Nat} (hw : 0 < w) (hn : n < 10 ^ w) :
    (padNat w n).data.length = w ∧ decimalValue (padNat w n).data = n := by
  have hlen : (toString n).length ≤ w := Nat.repr_length n w hw hn
  refine ⟨?_, ?_⟩
  · show (List.replicate (w - (toString n).length) '0' ++ (toString n).data).length = w
    rw [List.length_append, List.length_replicate]
    exact Nat.sub_add_cancel hlen
  · show decimalValue (List.replicate (w - (toString n).length) '0' ++ (toString n).data) = n
    rw [decimalValue_replicate_zero_append]
    exact decimalValue_toString n

/-- A list of four. -/
theorem exists_eq_of_length_eq_four {α : Type} {l : List α} (h : l.length = 4) :
    ∃ a b c d, l = [a, b, c, d] :=
  match l, h with
  | [a, b, c, d], _ => ⟨a, b, c, d, rfl⟩

/-! ## The round trip -/

/-- The characters of `formatDate t`: the padded year, month and day, with a dash between. -/
theorem formatDate_data {t : WallClock} {y m d : Nat} (hc : civilFromDays (t / 86400) = (y, m, d)) :
    (formatDate t).data =
      (padNat 4 y).data ++ '-' :: ((padNat 2 m).data ++ '-' :: (padNat 2 d).data) := by
  simp only [formatDate, hc, String.data_append, List.append_assoc]
  rfl

/-- Before the year 10000, every date `formatDate` writes parses back by
`time.Parse("2006-01-02", ·)` to the date it was written from. -/
theorem parseDate_formatDate (t : WallClock) (hyear : (civilFromDays (t / 86400)).1 < 10000) :
    parseDate (formatDate t).data = some (civilFromDays (t / 86400)) := by
  obtain ⟨hm1, hm12, hd1, hdm⟩ := civilFromDays_valid (t / 86400)
  obtain ⟨⟨y, m, d⟩, hc⟩ : ∃ c, civilFromDays (t / 86400) = c := ⟨_, rfl⟩
  rw [hc] at hyear hm1 hm12 hd1 hdm ⊢
  dsimp only at hyear hm1 hm12 hd1 hdm
  have hd31 := daysIn_le m y hm12
  obtain ⟨hyl, hyv⟩ := @padNat_digits 4 y (by decide) hyear
  obtain ⟨hml, hmv⟩ := @padNat_digits 2 m (by decide) (by omega)
  obtain ⟨hdl, hdv⟩ := @padNat_digits 2 d (by decide) (by omega)
  have hY := isDigit_padNat 4 y
  have hM := isDigit_padNat 2 m
  have hD := isDigit_padNat 2 d
  obtain ⟨y₁, y₂, y₃, y₄, hys⟩ := exists_eq_of_length_eq_four hyl
  obtain ⟨m₁, m₂, hms⟩ := List.length_eq_two.mp hml
  obtain ⟨d₁, d₂, hds⟩ := List.length_eq_two.mp hdl
  rw [formatDate_data hc, hys, hms, hds]
  rw [hys] at hyv hY
  rw [hms] at hmv hM
  rw [hds] at hdv hD
  simp only [decimalValue, List.foldl] at hyv hmv hdv
  simp only [List.mem_cons, List.mem_singleton, forall_eq_or_imp, forall_eq] at hY hM hD
  simp only [List.cons_append, List.nil_append, parseDate, List.all_cons, List.all_nil, hY, hM, hD,
    Bool.and_true, if_true, digitVal]
  have hy' : 1000 * (y₁.toNat - 48) + 100 * (y₂.toNat - 48) + 10 * (y₃.toNat - 48) +
      (y₄.toNat - 48) = y := by omega
  have hm' : 10 * (m₁.toNat - 48) + (m₂.toNat - 48) = m := by omega
  have hd' : 10 * (d₁.toNat - 48) + (d₂.toNat - 48) = d := by omega
  rw [hy', hm', hd', if_pos ⟨hm1, hm12, hd1, hdm⟩]

/-- `parseDate_formatDate` on the first second of 2024-01-01. -/
theorem parseDate_formatDate_newYear :
    (civilFromDays (19723 * 86400 / 86400)).1 < 10000 ∧
      parseDate (formatDate (19723 * 86400)).data = some (civilFromDays (19723 * 86400 / 86400)) :=
  ⟨by decide, parseDate_formatDate (19723 * 86400) (by decide)⟩

/-! ## The sweep over the handler's own files -/

/-- A date `formatDate` writes holds digits and dashes, and no `_`. -/
theorem underscore_not_mem_formatDate (t : WallClock) : '_' ∉ (formatDate t).data := by
  obtain ⟨⟨y, m, d⟩, hc⟩ : ∃ c, civilFromDays (t / 86400) = c := ⟨_, rfl⟩
  have hpad : ∀ w n, '_' ∉ (padNat w n).data := fun w n h =>
    absurd (isDigit_padNat w n '_' h) (by decide)
  rw [formatDate_data hc]
  simp only [List.mem_append, List.mem_cons, not_or]
  exact ⟨hpad _ _, by decide, hpad _ _, by decide, hpad _ _⟩

/-- With rotation on and a base name without `_`, over a directory of the handler's own files,
each the file `openNewFileIfNeeded` opens at its first time (before the year 10000) and last
modified at its second: the sweep removes exactly the files last modified before the cutoff. -/
theorem cleanupOldLogs_ownFiles (r : RotatingFileHandler) (hon : r.logRotationEnabled = true)
    (hb : '_' ∉ r.baseFileName.data) (maxAge : Int) (now : WallClock)
    (files : List (WallClock × WallClock))
    (hyears : ∀ f ∈ files, (civilFromDays (f.1 / 86400)).1 < 10000) :
    r.cleanupOldLogs maxAge now (some (files.map fun f =>
        ⟨r.baseFileName ++ "_" ++ formatDate f.1 ++ ".log", false, some f.2⟩)) =
      (files.filter fun f => decide ((f.2 : Int) < now - maxAge)).map fun f =>
        datedFile r.dir r.baseFileName (formatDate f.1) := by
  have hexpired : ∀ f ∈ files, DirEntry.isExpired r.baseFileName (now - maxAge)
      ⟨r.baseFileName ++ "_" ++ formatDate f.1 ++ ".log", false, some f.2⟩ =
        decide ((f.2 : Int) < now - maxAge) := fun f hf => by
    rw [isExpired_datedName hb (underscore_not_mem_formatDate f.1),
      parseDate_formatDate f.1 (hyears f hf)]
    rfl
  simp only [RotatingFileHandler.cleanupOldLogs, hon, Bool.not_true, Bool.false_eq_true, if_false,
    List.filter_map, List.map_map, Function.comp_def]
  rw [List.filter_congr hexpired]
  rfl

/-- `cleanupOldLogs_ownFiles` for the handler with base `db` and a day of retention, two days
after 2024-01-01, over that day's file and the current one. -/
theorem cleanupOldLogs_ownFiles_twoDays :
    let day : WallClock := 19723 * 86400
    let r : RotatingFileHandler := ⟨"logs", "db", "", none, true, none⟩
    let files : List (WallClock × WallClock) := [(day, day), (day + 2 * 86400, day + 2 * 86400)]
    (r.logRotationEnabled = true ∧ '_' ∉ r.baseFileName.data ∧
      ∀ f ∈ files, (civilFromDays (f.1 / 86400)).1 < 10000) ∧
    r.cleanupOldLogs 86400 (day + 2 * 86400) (some (files.map fun f =>
        ⟨r.baseFileName ++ "_" ++ formatDate f.1 ++ ".log", false, some f.2⟩)) =
      (files.filter fun f => decide ((f.2 : Int) < (day + 2 * 86400 : WallClock) - 86400)).map
        fun f => datedFile r.dir r.baseFileName (formatDate f.1) :=
  ⟨⟨rfl, by decide, by decide⟩,
    cleanupOldLogs_ownFiles _ rfl (by decide) 86400 (19723 * 86400 + 2 * 86400) _ (by decide)⟩

end Xlorm
