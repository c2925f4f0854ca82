/-
AgentState.Proofs.Text.Timestamp — written points of time are read back.

Each part of the text is read back with whatever follows it, provided
that no digit does (`DigitFree`).  The parts are then put together in the
order of the text.

* `readYear_year`, `field_two`, `readFraction_fraction` — the numbers.
* `readDate_chars`, `readTime_chars` — the date and the time of day.
* `assemble_fields` — the fields make the point of time they came from.
* `WallTime.carried` — a point of time without a leap second inside a minute;
  `chars_carried` — it is written in the same way.
* `read?_write` — what is read back of a point of time, years of more or
  fewer than four digits included: itself if a leap second ends a minute.
* `isRegular_iff_read?` — no other points of time are read at all.
* `length_chars_le` — the text of a point of time is short.
-/
import AgentState.Text.Timestamp
import AgentState.Proofs.Text.Calendar
import AgentState.Proofs.Text.Decimal

namespace AgentState

namespace Timestamp

/-- What may follow a number: nothing that begins with a digit. -/
def DigitFree (cs : List Char) : Prop := ∀ c ∈ cs.head?, c.isDigit = false

theorem digitFree_cons {c : Char} {cs : List Char} (h : c.isDigit = false) :
    DigitFree (c :: cs) := by
  intro d hd
  rw [← Option.some.inj hd]
  exact h

theorem isBlank_of_isDigit {c : Char} (h : c.isDigit = true) : isBlank c = false := by
  simp only [Char.isDigit, Bool.and_eq_true, decide_eq_true_eq, ge_iff_le] at h
  have hlow : 48 ≤ c.toNat := h.1
  have hhigh : c.toNat ≤ 57 := h.2
  simp [isBlank, blankRanges]
  omega

/-- Written digits begin with a digit. -/
theorem chars_cons {ds : List Nat} (hds : ∀ d ∈ ds, d < 10) (hne : ds ≠ []) :
    ∃ c cs, ds.map Nat.digitChar = c :: cs ∧ c.isDigit = true := by
  cases ds with
  | nil => exact absurd rfl hne
  | cons d ds => exact ⟨_, _, rfl, Decimal.isDigit_digitChar (hds d (by simp))⟩

theorem number_digits {ds : List Nat} {limit : Nat} {rest : List Char}
    (hds : ∀ d ∈ ds, d < 10) (hne : ds ≠ []) (hlimit : ds.length ≤ limit)
    (hrest : DigitFree rest) :
    number limit (ds.map Nat.digitChar ++ rest) = some (Decimal.value ds, rest) := by
  have hscan : ((ds.map Nat.digitChar ++ rest).take limit).takeWhile Char.isDigit =
      ds.map Nat.digitChar :=
    Decimal.takeWhile_take_front (Decimal.all_chars hds) hrest (by simpa using hlimit)
  have hsome : ds.map Nat.digitChar ≠ [] := by simpa using hne
  unfold number
  simp only [hscan, if_neg hsome, Decimal.digits_of_chars hds, List.drop_left]

theorem dropBlank_cons {c : Char} (h : isBlank c = false) (cs : List Char) :
    dropBlank (c :: cs) = c :: cs := by
  simp [dropBlank, h]

theorem dropBlank_digits {ds : List Nat} (hds : ∀ d ∈ ds, d < 10) (hne : ds ≠ [])
    (rest : List Char) :
    dropBlank (ds.map Nat.digitChar ++ rest) = ds.map Nat.digitChar ++ rest := by
  obtain ⟨c, cs, hcs, hc⟩ := chars_cons hds hne
  rw [hcs]
  exact dropBlank_cons (isBlank_of_isDigit hc) _

/-! ## Fields -/

theorem field_two {n : Nat} (hn : n < 100) {rest : List Char} (hrest : DigitFree rest) :
    field 2 (two n ++ rest) = some (n, rest) := by
  have hds := Decimal.padded_lt 2 n
  have hne := Decimal.padded_ne_nil 2 n
  have hlen : (Decimal.padded 2 n).length = 2 := Decimal.length_padded hn
  rw [field, two, dropBlank_digits hds hne, number_digits hds hne (by omega) hrest,
    Decimal.value_padded]

theorem sign_cons {c : Char} (h : isBlank c = false) (rest : List Char) :
    sign c (c :: rest) = some rest := by
  simp [sign, dropBlank_cons h]

/-- A year is read back up to the dash behind it. -/
theorem readYear_year (y : Int) {rest : List Char} (hrest : DigitFree rest) :
    readYear (year y ++ rest) = some (y, rest) := by
  have hds := Decimal.padded_lt 4 y.natAbs
  have hne := Decimal.padded_ne_nil 4 y.natAbs
  have hvalue := Decimal.value_padded 4 y.natAbs
  unfold year
  by_cases hplain : 0 ≤ y ∧ y ≤ 9999
  · -- four digits, which no sign begins
    have hlen : (Decimal.padded 4 y.natAbs).length = 4 := Decimal.length_padded (by omega)
    obtain ⟨c, cs, hcs, hc⟩ := chars_cons hds hne
    have hminus : c ≠ '-' := by
      intro h
      simp [h] at hc
    have hplus : c ≠ '+' := by
      intro h
      simp [h] at hc
    have hnumber := number_digits hds hne (Nat.le_of_eq hlen) hrest
    simp only [if_pos hplain]
    rw [hcs, List.cons_append] at hnumber ⊢
    unfold readYear
    rw [dropBlank_cons (isBlank_of_isDigit hc)]
    split
    · simp_all
    · simp_all
    · rw [hnumber, hvalue]
      simp
      omega
  · have hnumber : number ((Decimal.padded 4 y.natAbs).map Nat.digitChar ++ rest).length
        ((Decimal.padded 4 y.natAbs).map Nat.digitChar ++ rest) = some (y.natAbs, rest) := by
      rw [number_digits hds hne (by simp) hrest, hvalue]
    simp only [if_neg hplain]
    by_cases hneg : y < 0
    · have hback : -(y.natAbs : Int) = y := by omega
      rw [if_pos hneg, List.cons_append]
      unfold readYear
      rw [dropBlank_cons rfl]
      simp only [hnumber, Option.map_some, hback]
    · have hback : (y.natAbs : Int) = y := by omega
      rw [if_neg hneg, List.cons_append]
      unfold readYear
      rw [dropBlank_cons rfl]
      simp only [hnumber, Option.map_some, hback]

theorem readFraction_point {ds : List Nat} {rest : List Char} (hds : ∀ d ∈ ds, d < 10)
    (hne : ds ≠ []) (hlen : ds.length ≤ 9) (hrest : DigitFree rest) :
    readFraction ('.' :: (ds.map Nat.digitChar ++ rest)) =
      some (Decimal.value ds * 10 ^ (9 - ds.length), rest) := by
  have hscan : ((ds.map Nat.digitChar ++ rest).take 9).takeWhile Char.isDigit =
      ds.map Nat.digitChar :=
    Decimal.takeWhile_take_front (Decimal.all_chars hds) hrest (by simpa using hlen)
  have hstop : rest.dropWhile Char.isDigit = rest :=
    Decimal.dropWhile_front (fun _ h => absurd h List.not_mem_nil) hrest
  have hdrop : (ds.map Nat.digitChar ++ rest).drop ds.length = rest :=
    List.drop_left' (by simp)
  have hsome : ds.map Nat.digitChar ≠ [] := by simpa using hne
  unfold readFraction
  simp only [hscan, if_neg hsome, Decimal.digits_of_chars hds, List.length_map, hdrop, hstop]
  rfl

/-- The fraction keeps every nanosecond, in each of its widths. -/
theorem readFraction_fraction {nanos : Nat} (hn : nanos < 1000000000) :
    readFraction (fraction nanos ++ ['Z']) = some (nanos, ['Z']) := by
  have hz : DigitFree ['Z'] := digitFree_cons rfl
  -- a width that the trailing zeros allow
  have width : ∀ w unit : Nat, w + 1 ≤ 9 → 10 ^ (w + 1) * unit = 1000000000 →
      unit = 10 ^ (9 - (w + 1)) → nanos % unit = 0 →
      readFraction (('.' :: (Decimal.padded (w + 1) (nanos / unit)).map Nat.digitChar) ++ ['Z'])
        = some (nanos, ['Z']) := by
    intro w unit hw htotal hunit hzeros
    have hpos : 0 < unit := by
      rw [hunit]
      exact Nat.pow_pos (by decide)
    have hsmall : nanos / unit < 10 ^ (w + 1) := by
      rw [Nat.div_lt_iff_lt_mul hpos, htotal]
      exact hn
    have hlen := Decimal.length_padded hsmall
    rw [List.cons_append, readFraction_point (Decimal.padded_lt _ _) (Decimal.padded_ne_nil _ _)
      (by omega) hz, hlen, Decimal.value_padded, ← hunit]
    rw [Nat.div_mul_cancel (Nat.dvd_of_mod_eq_zero hzeros)]
  unfold fraction
  split
  · next hzero => rw [hzero]; rfl
  · split
    · next h => exact width 2 1000000 (by decide) (by decide) (by decide) h
    · split
      · next h => exact width 5 1000 (by decide) (by decide) (by decide) h
      · have h := width 8 1 (by decide) (by decide) (by decide) (Nat.mod_one _)
        rw [Nat.div_one] at h
        exact h

theorem digitFree_fraction (nanos : Nat) : DigitFree (fraction nanos ++ ['Z']) := by
  unfold fraction
  split
  · exact digitFree_cons rfl
  · split
    · exact digitFree_cons rfl
    · split <;> exact digitFree_cons rfl

/-! ## A point of time -/

theorem readDate_chars {date : Date} (hm : date.month < 100) (hd : date.day < 100)
    (rest : List Char) :
    readDate (year date.year ++ '-' :: two date.month ++ '-' :: two date.day ++ 'T' :: rest) =
      some (date, 'T' :: rest) := by
  have hdash : DigitFree ('-' :: (two date.month ++ '-' :: (two date.day ++ 'T' :: rest))) :=
    digitFree_cons rfl
  have hdash' : DigitFree ('-' :: (two date.day ++ 'T' :: rest)) := digitFree_cons rfl
  have hsep : DigitFree ('T' :: rest) := digitFree_cons rfl
  simp only [List.append_assoc, List.cons_append]
  simp [readDate, readYear_year _ hdash, sign_cons (show isBlank '-' = false from rfl),
    field_two hm hdash', field_two hd hsep]

theorem readTime_chars {hour minute second nanos : Nat} (hh : hour < 100) (hm : minute < 100)
    (hs : second < 100) (hn : nanos < 1000000000) :
    readTime (two hour ++ ':' :: two minute ++ ':' :: two second ++ fraction nanos ++ ['Z']) =
      some ((hour, minute, second, nanos), ['Z']) := by
  have hcolon : DigitFree (':' :: (two minute ++ ':' :: (two second ++ (fraction nanos ++ ['Z'])))) :=
    digitFree_cons rfl
  have hcolon' : DigitFree (':' :: (two second ++ (fraction nanos ++ ['Z']))) := digitFree_cons rfl
  simp only [List.append_assoc, List.cons_append]
  simp [readTime, field_two hh hcolon, sign_cons (show isBlank ':' = false from rfl),
    field_two hm hcolon', field_two hs (digitFree_fraction nanos), readFraction_fraction hn]

theorem ofParts?_self {t : WallTime} (regular : t.IsRegular) :
    WallTime.ofParts? t.seconds t.nanos = some t := by
  rw [WallTime.ofParts?, dif_pos ⟨t.within, t.nanos_lt, regular⟩]

theorem earlier?_zero (t : WallTime) : t.earlier? 0 = some t := by
  have within := t.within
  simp [WallTime.earlier?, within]

/-- What a date, a time of day and UTC make, when all fields are in
range. -/
theorem assemble_utc {date : Date} {hour minute second nanos : Nat} (hdate : date.isValid = true)
    (hyear : -262143 ≤ date.year ∧ date.year ≤ 262142) (hh : hour < 24) (hm : minute < 60)
    (hs : second ≤ 60) :
    assemble date hour minute second nanos 0 =
      WallTime.ofParts?
        (date.toDay * 86400 + (hour * 3600 + minute * 60 + if second = 60 then 59 else second : Nat))
        (nanos + if second = 60 then 1000000000 else 0) := by
  have hrange : yearInRange date.year = true := by
    simp [yearInRange, hyear]
  have hsame : (fun t : WallTime => t.earlier? 0) = some := funext earlier?_zero
  simp [assemble, hdate, hrange, hh, hm, hs, hsame]

/-- The fields of a point of time make it again, if a leap second ends a
minute. -/
theorem assemble_fields {t : WallTime} (regular : t.IsRegular) {second nanos : Nat}
    (hsecond : second = t.secondOfDay.toNat % 60 + if 1000000000 ≤ t.nanos then 1 else 0)
    (hnanos : t.nanos = nanos + if 1000000000 ≤ t.nanos then 1000000000 else 0) :
    assemble (Date.ofDay t.day) (t.secondOfDay.toNat / 3600) (t.secondOfDay.toNat / 60 % 60)
      second nanos 0 = some t := by
  obtain ⟨hlow, hhigh⟩ := t.within
  have hleap : 1000000000 ≤ t.nanos → t.seconds % 60 = 59 := regular
  have hday : -96465292 ≤ t.day ∧ t.day ≤ 95026236 := by
    unfold WallTime.day
    omega
  have hparts : t.secondOfDay.toNat < 86400 ∧
      t.day * 86400 + (t.secondOfDay.toNat : Int) = t.seconds ∧
      (t.secondOfDay.toNat : Int) % 60 = t.seconds % 60 := by
    unfold WallTime.secondOfDay WallTime.day
    omega
  obtain ⟨hbound, hsum, hmod⟩ := hparts
  generalize t.secondOfDay.toNat = secs at hsecond hbound hsum hmod ⊢
  -- second 60 is written for a leap second and for nothing else
  have hsixty : second = 60 ↔ 1000000000 ≤ t.nanos := by
    split at hsecond <;> omega
  have hplain : (secs / 3600 * 3600 + secs / 60 % 60 * 60 +
      if second = 60 then 59 else second) = secs := by
    simp only [hsixty]
    by_cases hl : 1000000000 ≤ t.nanos
    · have hlast := hleap hl
      rw [if_pos hl]
      omega
    · rw [if_neg hl] at hsecond ⊢
      omega
  rw [assemble_utc (Date.isValid_ofDay _) (Date.year_ofDay hday.1 hday.2) (by omega) (by omega)
    (by split at hsecond <;> omega), hplain, Date.toDay_ofDay, hsum]
  simp only [hsixty]
  rw [← hnanos]
  exact ofParts?_self regular

/-- Such a point of time is read back from its characters. -/
theorem readChars?_chars {t : WallTime} (regular : t.IsRegular) :
    readChars? (chars t) = some t := by
  have hlt := t.nanos_lt
  obtain ⟨hmonth, hday⟩ := Date.le_of_isValid (Date.isValid_ofDay t.day)
  have hsecs : t.secondOfDay.toNat < 86400 := by
    unfold WallTime.secondOfDay
    omega
  unfold chars
  simp only
  generalize hsecond : (if 1000000000 ≤ t.nanos then t.secondOfDay.toNat % 60 + 1
    else t.secondOfDay.toNat % 60) = second
  generalize hnanos : (if 1000000000 ≤ t.nanos then t.nanos - 1000000000 else t.nanos) = nanos
  have hmake : assemble (Date.ofDay t.day) (t.secondOfDay.toNat / 3600)
      (t.secondOfDay.toNat / 60 % 60) second nanos 0 = some t := by
    apply assemble_fields regular
    · split at hsecond <;> simp [*]
    · split at hnanos <;> simp [*] <;> omega
  have hn : nanos < 1000000000 := by
    split at hnanos <;> omega
  have hs : second < 100 := by
    split at hsecond <;> omega
  have hdate := readDate_chars (show (Date.ofDay t.day).month < 100 by omega)
    (show (Date.ofDay t.day).day < 100 by omega)
    (two (t.secondOfDay.toNat / 3600) ++ ':' :: two (t.secondOfDay.toNat / 60 % 60) ++
      ':' :: two second ++ fraction nanos ++ ['Z'])
  have htime := readTime_chars (show t.secondOfDay.toNat / 3600 < 100 by omega)
    (show t.secondOfDay.toNat / 60 % 60 < 100 by omega) hs hn
  have hz : dropBlank ['Z'] = ['Z'] := rfl
  have hoffset : readOffset ['Z'] = some (0, []) := rfl
  have hend : dropBlank [] = [] := rfl
  simp only [List.append_assoc, List.cons_append] at hdate htime ⊢
  simp [readChars?, separated, hdate, htime, hz, hoffset, hend, hmake]

/-! ## Leap seconds inside a minute -/

end Timestamp

namespace WallTime

/-- The point of time that a text of `t` names.  A leap second inside a minute
is carried over: it becomes the ordinary second behind it. -/
def carried (t : WallTime) : WallTime :=
  if h : t.IsRegular then t
  else
    ⟨t.seconds + 1, t.nanos - 1000000000,
      by
        have within := t.within
        unfold IsRegular at h
        omega,
      by
        have below := t.nanos_lt
        omega⟩

theorem isRegular_carried (t : WallTime) : t.carried.IsRegular := by
  have below := t.nanos_lt
  unfold carried
  split
  · next regular => exact regular
  · intro leap
    simp only at leap
    omega

theorem carried_eq_self_iff {t : WallTime} : t.carried = t ↔ t.IsRegular := by
  constructor
  · intro same
    exact same ▸ t.isRegular_carried
  · intro regular
    exact dif_pos regular

end WallTime

namespace Timestamp

/-- A leap second inside a minute is written like the second behind it. -/
theorem chars_carried (t : WallTime) : chars t.carried = chars t := by
  unfold WallTime.carried
  split
  · rfl
  · next stray =>
    have below := t.nanos_lt
    obtain ⟨leap, inside⟩ : 1000000000 ≤ t.nanos ∧ t.seconds % 60 ≠ 59 := by
      unfold WallTime.IsRegular at stray
      omega
    -- the second behind it is one of the same minute
    have day : (t.seconds + 1) / 86400 = t.seconds / 86400 := by omega
    have second : ((t.seconds + 1) % 86400).toNat = (t.seconds % 86400).toNat + 1 := by omega
    have hour : ((t.seconds % 86400).toNat + 1) / 3600 = (t.seconds % 86400).toNat / 3600 := by
      omega
    have minute : ((t.seconds % 86400).toNat + 1) / 60 = (t.seconds % 86400).toNat / 60 := by
      omega
    have last : ((t.seconds % 86400).toNat + 1) % 60 = (t.seconds % 86400).toNat % 60 + 1 := by
      omega
    have ordinary : ¬ 1000000000 ≤ t.nanos - 1000000000 := by omega
    simp only [chars, WallTime.day, WallTime.secondOfDay, day, second, hour, minute, last,
      ordinary, leap, if_true, if_false]

theorem write_carried (t : WallTime) : write t.carried = write t := by
  rw [write, write, chars_carried]

/-- What is read back of a point of time. -/
theorem read?_write (t : WallTime) : read? (write t) = some t.carried := by
  rw [← write_carried, read?, write, String.toList_ofList]
  exact readChars?_chars t.isRegular_carried

/-! ## What texts name -/

theorem hoursMinutes_minutes {cs rest : List Char} {offset : Nat}
    (h : hoursMinutes cs = some (offset, rest)) : offset % 60 = 0 := by
  unfold hoursMinutes at h
  repeat' split at h
  all_goals cases h
  omega

/-- Offsets are whole minutes. -/
theorem readOffset_minutes {cs rest : List Char} {offset : Int}
    (h : readOffset cs = some (offset, rest)) : offset % 60 = 0 := by
  -- an offset that is written with a sign
  have signed {f : Nat → Int} {cs : List Char} (whole : ∀ n, n % 60 = 0 → f n % 60 = 0)
      (h : (hoursMinutes cs).map (fun r => (f r.1, r.2)) = some (offset, rest)) :
      offset % 60 = 0 := by
    obtain ⟨⟨n, rest'⟩, found, same⟩ := Option.map_eq_some_iff.1 h
    cases same
    exact whole n (hoursMinutes_minutes found)
  unfold readOffset at h
  split at h
  · cases h; rfl
  · cases h; rfl
  · exact signed (f := fun n => (n : Int)) (by omega) h
  · exact signed (f := fun n => -(n : Int)) (by omega) h
  · exact signed (f := fun n => -(n : Int)) (by omega) h
  · split at h
    · cases h; rfl
    · cases h
  · cases h

theorem isRegular_of_ofParts? {seconds : Int} {nanos : Nat} {t : WallTime}
    (h : WallTime.ofParts? seconds nanos = some t) : t.IsRegular := by
  unfold WallTime.ofParts? at h
  split at h
  · next parts =>
    cases h
    exact parts.2.2
  · cases h

/-- Some minutes earlier, a leap second still ends a minute. -/
theorem isRegular_of_earlier? {t u : WallTime} {seconds : Int} (regular : t.IsRegular)
    (whole : seconds % 60 = 0) (h : t.earlier? seconds = some u) : u.IsRegular := by
  unfold WallTime.earlier? at h
  split at h
  · cases h
    intro leap
    have last := regular leap
    simp only
    omega
  · cases h

/-- What a clock shows is regular, and so it is after an offset of whole
minutes. -/
theorem isRegular_of_assemble {date : Date} {hour minute second nanos : Nat} {offset : Int}
    {t : WallTime} (whole : offset % 60 = 0)
    (h : assemble date hour minute second nanos offset = some t) : t.IsRegular := by
  unfold assemble at h
  split at h
  · obtain ⟨clock, shown, moved⟩ := Option.bind_eq_some_iff.1 h
    exact isRegular_of_earlier? (isRegular_of_ofParts? shown) whole moved
  · cases h

/-- Whatever text a point of time is read from, a leap second ends a minute. -/
theorem isRegular_of_read? {s : String} {t : WallTime} (h : read? s = some t) :
    t.IsRegular := by
  unfold read? readChars? at h
  obtain ⟨⟨date, _⟩, -, h⟩ := Option.bind_eq_some_iff.1 h
  obtain ⟨_, -, h⟩ := Option.bind_eq_some_iff.1 h
  obtain ⟨⟨⟨hour, minute, second, nanos⟩, _⟩, -, h⟩ := Option.bind_eq_some_iff.1 h
  obtain ⟨⟨offset, _⟩, found, h⟩ := Option.bind_eq_some_iff.1 h
  dsimp only at h
  split at h
  · exact isRegular_of_assemble (readOffset_minutes found) h
  · cases h

/-- The points of time that texts name. -/
theorem isRegular_iff_read? (t : WallTime) : t.IsRegular ↔ ∃ s, read? s = some t := by
  constructor
  · intro regular
    refine ⟨write t, ?_⟩
    rw [read?_write, WallTime.carried_eq_self_iff.2 regular]
  · rintro ⟨s, h⟩
    exact isRegular_of_read? h

/-! ## How long the text is -/

theorem length_two {n : Nat} (hn : n < 100) : (two n).length = 2 := by
  have hlen : (Decimal.padded 2 n).length = 2 := Decimal.length_padded hn
  simpa [two] using hlen

theorem length_year_le {y : Int} (hy : y.natAbs < 1000000) : (year y).length ≤ 11 := by
  have hlen : (Decimal.padded 4 y.natAbs).length ≤ 10 := Decimal.length_padded_le (k := 5) hy
  unfold year
  split
  · simp only [List.length_map]
    omega
  · simp only [List.length_cons, List.length_map]
    omega

theorem length_fraction_le {n : Nat} (hn : n < 1000000000) :
    (fraction n).length ≤ 10 := by
  have hthree : (Decimal.padded 3 (n / 1000000)).length = 3 := Decimal.length_padded (by omega)
  have hsix : (Decimal.padded 6 (n / 1000)).length = 6 := Decimal.length_padded (by omega)
  have hnine : (Decimal.padded 9 n).length = 9 := Decimal.length_padded hn
  unfold fraction
  split
  · simp
  · split
    · simp [hthree]
    · split
      · simp [hsix]
      · simp [hnine]

/-- The text of a point of time is short. -/
theorem length_chars_le (t : WallTime) : (chars t).length ≤ 40 := by
  obtain ⟨hlow, hhigh⟩ := t.within
  have hnanos := t.nanos_lt
  have hday : -96465292 ≤ t.day ∧ t.day ≤ 95026236 := by
    unfold WallTime.day
    omega
  have hsecs : t.secondOfDay.toNat < 86400 := by
    unfold WallTime.secondOfDay
    omega
  obtain ⟨hyear, hyear'⟩ := Date.year_ofDay hday.1 hday.2
  obtain ⟨hmonth, hdom⟩ := Date.le_of_isValid (Date.isValid_ofDay t.day)
  have hy := length_year_le (y := (Date.ofDay t.day).year) (by omega)
  have hm := length_two (n := (Date.ofDay t.day).month) (by omega)
  have hd := length_two (n := (Date.ofDay t.day).day) (by omega)
  have hh := length_two (n := t.secondOfDay.toNat / 3600) (by omega)
  have hmin := length_two (n := t.secondOfDay.toNat / 60 % 60) (by omega)
  unfold chars
  by_cases leap : 1000000000 ≤ t.nanos
  · have hs := length_two (n := t.secondOfDay.toNat % 60 + 1) (by omega)
    have hf := length_fraction_le (n := t.nanos - 1000000000) (by omega)
    simp only [leap, if_true, List.length_append, List.length_cons, List.length_nil]
    omega
  · have hs := length_two (n := t.secondOfDay.toNat % 60) (by omega)
    have hf := length_fraction_le (n := t.nanos) (by omega)
    simp only [leap, if_false, List.length_append, List.length_cons, List.length_nil]
    omega

end Timestamp

end AgentState
