/-
AgentState.Proofs.Toml.Scalar — numbers and strings in their spellings.

A number may have a sign, single underscores between its digits, a base, a
fraction and an exponent; a string stands in quotes, with escapes, or in
apostrophes, without.  Each spelling is read as what it spells, whatever ends
the line behind it.

* `Digits`, `Whole`, `Exponent`, `Quoted` — the parts of spellings, each with
  what a reader makes of it and where it stops.
* `Reads` — a text that is read as a value wherever a line may end.
* `Spells` — the spellings of values; `Spells.reads` — they are read as these
  values.
* `Spells.ofNat` — the digits of a number spell it.
-/
import AgentState.Toml.Reader
import AgentState.Proofs.Text.Decimal

namespace AgentState.Toml

/-! ## Digits -/

/-- Digits in a base, with single underscores between them. -/
inductive Digits (base : Nat) : List Nat → List Char → Prop where
  | one {d : Nat} {c : Char} (digit : digitIn? base c = some d) : Digits base [d] [c]
  | next {d : Nat} {c : Char} {ds : List Nat} {cs : List Char} (digit : digitIn? base c = some d)
      (more : Digits base ds cs) : Digits base (d :: ds) (c :: cs)
  | spaced {d : Nat} {c : Char} {ds : List Nat} {cs : List Char}
      (digit : digitIn? base c = some d) (more : Digits base ds cs) :
      Digits base (d :: ds) (c :: '_' :: cs)

/-- What digits stop at. -/
def StopsDigits (base : Nat) (rest : List Char) : Prop :=
  ∀ c ∈ rest.head?, digitIn? base c = none ∧ c ≠ '_'

theorem moreDigits?_digit {base d : Nat} {c : Char} (digit : digitIn? base c = some d)
    (rest : List Char) :
    moreDigits? base (c :: rest) = (moreDigits? base rest).map (fun r => (d :: r.1, r.2)) := by
  have other : c ≠ '_' := by
    rintro rfl
    cases digit
  rw [moreDigits?.eq_def]
  split
  · next h => cases h
  · next h =>
    cases h
    exact absurd rfl other
  · next h =>
    cases h
    rw [digit]

theorem moreDigits?_spaced {base d : Nat} {c : Char} (digit : digitIn? base c = some d)
    (rest : List Char) :
    moreDigits? base ('_' :: c :: rest) =
      (moreDigits? base rest).map (fun r => (d :: r.1, r.2)) := by
  rw [moreDigits?, digit]
  rfl

theorem moreDigits?_stop {base : Nat} {rest : List Char} (stop : StopsDigits base rest) :
    moreDigits? base rest = some ([], rest) := by
  rw [moreDigits?.eq_def]
  split
  · rfl
  · exact absurd rfl (stop '_' rfl).2
  · next c rest _ =>
    obtain ⟨none, other⟩ := stop c rfl
    rw [none]
    exact if_neg other

/-- The first digit of digits, and what follows it. -/
theorem Digits.cases_head {base : Nat} {ds : List Nat} {cs : List Char} (h : Digits base ds cs) :
    ∃ d c ds' cs', ds = d :: ds' ∧ cs = c :: cs' ∧ digitIn? base c = some d := by
  cases h with
  | one digit => exact ⟨_, _, _, _, rfl, rfl, digit⟩
  | next digit => exact ⟨_, _, _, _, rfl, rfl, digit⟩
  | spaced digit => exact ⟨_, _, _, _, rfl, rfl, digit⟩

/-- Digits are read to their end. -/
theorem moreDigits?_of_digits {base : Nat} {ds : List Nat} {cs rest : List Char}
    (h : Digits base ds cs) (stop : StopsDigits base rest) :
    moreDigits? base (cs ++ rest) = some (ds, rest) := by
  induction h with
  | one digit =>
    rw [List.singleton_append, moreDigits?_digit digit, moreDigits?_stop stop]
    rfl
  | next digit _ ih =>
    rw [List.cons_append, moreDigits?_digit digit, ih]
    rfl
  | spaced digit more ih =>
    -- the reader takes the underscore with the digit behind it, so that digit is put back for `ih`
    obtain ⟨d, c, ds', cs', rfl, rfl, head⟩ := more.cases_head
    rw [List.cons_append, moreDigits?_digit digit, List.cons_append, List.cons_append,
      moreDigits?_spaced head, ← moreDigits?_digit head, ← List.cons_append, ih]
    rfl

theorem digits?_of_digits {base : Nat} {ds : List Nat} {cs rest : List Char}
    (h : Digits base ds cs) (stop : StopsDigits base rest) :
    digits? base (cs ++ rest) = some (ds, rest) := by
  obtain ⟨d, c, ds', cs', rfl, rfl, head⟩ := h.cases_head
  have all := moreDigits?_of_digits h stop
  rw [List.cons_append, moreDigits?_digit head] at all
  rw [List.cons_append, digits?, head]
  exact all

/-- Digits of base ten are what dates and times begin with. -/
theorem isDigit_of_digitIn? {c : Char} {d : Nat} (digit : digitIn? 10 c = some d) :
    c.isDigit = true := by
  unfold digitIn? hexDigit? at digit
  simp only [Char.isDigit]
  split at digit
  · next range =>
    simp only [Bool.and_eq_true, decide_eq_true_eq] at range ⊢
    exact range
  · split at digit
    · next range =>
      simp only [Bool.and_eq_true, decide_eq_true_eq] at range
      have low : 65 ≤ c.toNat := range.1
      simp only [Option.bind_some] at digit
      split at digit
      · next small =>
        exfalso
        omega
      · cases digit
    · split at digit
      · next range =>
        simp only [Bool.and_eq_true, decide_eq_true_eq] at range
        have low : 97 ≤ c.toNat := range.1
        simp only [Option.bind_some] at digit
        split at digit
        · exfalso
          omega
        · cases digit
      · cases digit

/-! ## What ends a number -/

/-- Characters that are checked one by one. -/
theorem forall_mem_of_all {cs : List Char} {p : Char → Prop} [DecidablePred p]
    (h : cs.all (fun c => decide (p c)) = true) : ∀ c ∈ cs, p c := by
  simpa using h

/-- Characters that may stand behind a value. -/
def enders : List Char := [' ', '\t', '#', '\n', '\r']

/-- Characters that may stand behind a whole number: one may become a real one,
too. -/
def wholeEnders : List Char := ['.', 'e', 'E'] ++ enders

/-- A line may end here: with white space, a comment or a line break. -/
def AtEnd (rest : List Char) : Prop := ∀ c ∈ rest.head?, c ∈ enders

/-- A whole number may end here: with its line, or with what makes it a real
one. -/
def AfterWhole (rest : List Char) : Prop := ∀ c ∈ rest.head?, c ∈ wholeEnders

theorem AtEnd.afterWhole {rest : List Char} (h : AtEnd rest) : AfterWhole rest :=
  fun c mem => List.mem_append_right _ (h c mem)

theorem AtEnd.stopsDigits {rest : List Char} (h : AtEnd rest) (base : Nat) :
    StopsDigits base rest := by
  intro c mem
  have none : ∀ c ∈ enders, hexDigit? c = none ∧ c ≠ '_' := forall_mem_of_all (by decide)
  obtain ⟨digit, other⟩ := none c (h c mem)
  exact ⟨by rw [digitIn?, digit]; rfl, other⟩

theorem AfterWhole.stopsDigits {rest : List Char} (h : AfterWhole rest) : StopsDigits 10 rest := by
  have none : ∀ c ∈ wholeEnders, digitIn? 10 c = none ∧ c ≠ '_' :=
    forall_mem_of_all (by decide)
  exact fun c mem => none c (h c mem)

/-! ## Dates and times -/

/-- What begins a date or a time has digits in front, and behind all of them
the mark. -/
theorem head_of_begins {width : Nat} {mark : Char} {cs : List Char} (wide : 0 < width)
    (other : mark.isDigit = false)
    (begins : ((fixedDigits? width cs).bind (fun r => after? mark r.2)).isSome = true) :
    (cs.head?.any Char.isDigit) = true ∧ (cs.dropWhile Char.isDigit).head? = some mark := by
  unfold fixedDigits? at begins
  dsimp only at begins
  split at begins
  · next front =>
    obtain ⟨length, digits⟩ := front
    cases behind : cs.drop width with
    | nil => simp [behind, after?] at begins
    | cons m rest =>
      have same : m = mark := by
        by_cases same : m = mark
        · exact same
        · simp [behind, after?, same] at begins
      subst same
      have split : cs = cs.take width ++ m :: rest := by rw [← behind, List.take_append_drop]
      have front : ∀ c ∈ cs.take width, c.isDigit = true := List.all_eq_true.1 digits
      constructor
      · cases cs with
        | nil =>
          simp at length
          omega
        | cons c cs =>
          obtain ⟨w, rfl⟩ : ∃ w, width = w + 1 := ⟨width - 1, by omega⟩
          exact front c (by simp)
      · rw [split, Decimal.dropWhile_front front (by simpa using other)]
        rfl
  · cases begins

/-- No date and no time begins with a text whose digits in front are followed
by something else. -/
theorem not_begins (cs : List Char)
    (still : cs.head?.any Char.isDigit = true →
      ∀ m ∈ (cs.dropWhile Char.isDigit).head?, m ≠ '-' ∧ m ≠ ':') :
    beginsDate cs = false ∧ beginsTime cs = false := by
  constructor <;> refine Bool.eq_false_iff.2 fun begins => ?_
  · obtain ⟨digit, mark⟩ := head_of_begins (by decide) (by decide) begins
    exact (still digit _ mark).1 rfl
  · obtain ⟨digit, mark⟩ := head_of_begins (by decide) (by decide) begins
    exact (still digit _ mark).2 rfl

/-- Behind the digits in front of digits there is an underscore, or what is
behind all of them. -/
theorem Digits.dropWhile {ds : List Nat} {cs rest : List Char} (h : Digits 10 ds cs)
    (stop : ∀ c ∈ rest.head?, c.isDigit = false) :
    ((cs ++ rest).dropWhile Char.isDigit).head? = some '_' ∨
      (cs ++ rest).dropWhile Char.isDigit = rest := by
  induction h with
  | one digit =>
    right
    rw [List.singleton_append, List.dropWhile_cons_of_pos (isDigit_of_digitIn? digit)]
    exact Decimal.dropWhile_front (show ∀ c ∈ [], Char.isDigit c = true from nofun) stop
  | next digit _ ih =>
    rw [List.cons_append, List.dropWhile_cons_of_pos (isDigit_of_digitIn? digit)]
    exact ih
  | spaced digit =>
    left
    rw [List.cons_append, List.dropWhile_cons_of_pos (isDigit_of_digitIn? digit)]
    rfl

/-! ## Numbers -/

/-- The digits of a whole number: a zero in front stands alone. -/
inductive Whole : List Nat → List Char → Prop where
  | zero : Whole [0] ['0']
  | digits {ds : List Nat} {cs : List Char} (digits : Digits 10 ds cs)
      (nonzero : cs.head? ≠ some '0') : Whole ds cs

/-- A sign, if there is one, and whether it is a minus. -/
inductive Signed : Bool → List Char → Prop where
  | none : Signed false []
  | plus : Signed false ['+']
  | minus : Signed true ['-']

/-- A number with its sign. -/
def signed (negative : Bool) (n : Nat) : Int := if negative then -n else n

/-- An exponent, if there is one. -/
inductive Exponent : Option Int → List Char → Prop where
  | none : Exponent none []
  | some {e : Char} {down : Bool} {signs : List Char} {ds : List Nat} {cs : List Char}
      (mark : e = 'e' ∨ e = 'E') (sign : Signed down signs) (digits : Digits 10 ds cs) :
      Exponent (some (signed down (valueIn 10 ds))) (e :: (signs ++ cs))

theorem Whole.cases_head {ds : List Nat} {cs : List Char} (h : Whole ds cs) :
    ∃ c cs' d, cs = c :: cs' ∧ digitIn? 10 c = some d := by
  cases h with
  | zero => exact ⟨_, _, 0, rfl, rfl⟩
  | digits digits =>
    obtain ⟨d, c, -, cs', -, rfl, digit⟩ := digits.cases_head
    exact ⟨c, cs', d, rfl, digit⟩

theorem wholeDigits?_of_whole {ds : List Nat} {cs rest : List Char} (h : Whole ds cs)
    (stop : AfterWhole rest) : wholeDigits? (cs ++ rest) = some (ds, rest) := by
  cases h with
  | zero => rfl
  | digits digits nonzero =>
    obtain ⟨d, c, ds', cs', rfl, rfl, digit⟩ := digits.cases_head
    rw [wholeDigits?.eq_def]
    split
    · next zero =>
      cases zero
      exact absurd rfl nonzero
    · exact digits?_of_digits digits stop.stopsDigits

/-- A digit is no sign. -/
theorem sign_of_digit {c : Char} {d : Nat} (digit : digitIn? 10 c = some d) (cs : List Char) :
    sign (c :: cs) = (false, c :: cs) := by
  unfold sign
  split
  · next h => cases h; cases digit
  · next h => cases h; cases digit
  · rfl

theorem sign_of_signed {negative : Bool} {signs : List Char} (h : Signed negative signs)
    {c : Char} {d : Nat} (digit : digitIn? 10 c = some d) (cs : List Char) :
    sign (signs ++ c :: cs) = (negative, c :: cs) := by
  cases h with
  | none => exact sign_of_digit digit cs
  | plus | minus => rfl

theorem exponent?_of_exponent {e : Option Int} {cs rest : List Char} (h : Exponent e cs)
    (stop : AtEnd rest) : exponent? (cs ++ rest) = some (e, rest) := by
  cases h with
  | none =>
    cases rest with
    | nil => rfl
    | cons c rest =>
      have other : ∀ c ∈ enders, ¬ (c = 'e' ∨ c = 'E') := forall_mem_of_all (by decide)
      exact if_neg (other c (stop c rfl))
  | some mark sign digits =>
    obtain ⟨d, c, ds', cs', rfl, rfl, digit⟩ := digits.cases_head
    have read := digits?_of_digits digits (stop.stopsDigits 10)
    rw [List.cons_append] at read
    rw [List.cons_append, exponent?, if_pos mark, List.append_assoc, List.cons_append,
      sign_of_signed sign digit]
    simp only [read, Option.bind_eq_bind, Option.bind_some]
    rfl

theorem Exponent.afterWhole {e : Option Int} {cs rest : List Char} (h : Exponent e cs)
    (stop : AtEnd rest) : AfterWhole (cs ++ rest) := by
  cases h with
  | none => exact stop.afterWhole
  | some mark =>
    intro c mem
    obtain rfl : _ = c := Option.some.inj mem
    rcases mark with rfl | rfl <;> decide

/-- What comes of whole digits that no point follows. -/
theorem unsigned?_of_noPoint {negative : Bool} {ds : List Nat} {cs rest : List Char}
    (read : wholeDigits? cs = some (ds, rest)) (noPoint : ∀ more, rest ≠ '.' :: more) :
    unsigned? negative cs = (exponent? rest).bind fun r =>
      match r.1 with
      | some e => (real? negative ds [] e).map fun v => (v, r.2)
      | none => (integer? (signed negative (valueIn 10 ds))).map fun v => (v, r.2) := by
  -- the match on a point is gone: nothing of that form is left
  simp only [unsigned?, read, Option.bind_eq_bind, Option.bind_some]
  congr 1
  funext r
  cases r.1 with
  | none =>
    show (integer? (signed negative (valueIn 10 ds))).bind _ = Option.map _ _
    cases integer? (signed negative (valueIn 10 ds)) <;> rfl
  | some e =>
    show (real? negative ds [] e).bind _ = Option.map _ _
    cases real? negative ds [] e <;> rfl

theorem unsigned?_of_whole {negative : Bool} {ds : List Nat} {cs rest : List Char}
    (whole : Whole ds cs) (stop : AtEnd rest) :
    unsigned? negative (cs ++ rest) =
      (integer? (signed negative (valueIn 10 ds))).map fun v => (v, rest) := by
  have noPoint : ∀ more, rest ≠ '.' :: more := by
    rintro more rfl
    have ends := stop '.' rfl
    revert ends
    decide
  rw [unsigned?_of_noPoint (wholeDigits?_of_whole whole stop.afterWhole) noPoint,
    show exponent? rest = _ from exponent?_of_exponent .none stop]
  rfl

theorem unsigned?_of_fraction {negative : Bool} {ds fs : List Nat} {cs fcs ecs rest : List Char}
    {e : Option Int} (whole : Whole ds cs) (fraction : Digits 10 fs fcs)
    (exponent : Exponent e ecs) (stop : AtEnd rest) :
    unsigned? negative (cs ++ '.' :: (fcs ++ (ecs ++ rest))) =
      (real? negative ds fs (e.getD 0)).map fun v => (v, rest) := by
  have point : AfterWhole ('.' :: (fcs ++ (ecs ++ rest))) := by
    intro c mem
    obtain rfl : _ = c := Option.some.inj mem
    decide
  simp only [unsigned?, wholeDigits?_of_whole whole point,
    digits?_of_digits fraction (exponent.afterWhole stop).stopsDigits,
    exponent?_of_exponent exponent stop, Option.bind_eq_bind, Option.bind_some]
  cases real? negative ds fs (e.getD 0) <;> rfl

theorem unsigned?_of_exponent {negative : Bool} {ds : List Nat} {cs ecs rest : List Char} {e : Int}
    (whole : Whole ds cs) (exponent : Exponent (some e) ecs) (stop : AtEnd rest) :
    unsigned? negative (cs ++ (ecs ++ rest)) = (real? negative ds [] e).map fun v => (v, rest) := by
  have noPoint : ∀ more, ecs ++ rest ≠ '.' :: more := by
    intro more point
    cases exponent with
    | some mark =>
      rw [List.cons_append, List.cons.injEq] at point
      rcases mark with rfl | rfl <;> cases point.1
  rw [unsigned?_of_noPoint (wholeDigits?_of_whole whole (exponent.afterWhole stop)) noPoint,
    exponent?_of_exponent exponent stop]
  rfl

/-- The marks of the bases other than ten. -/
def radices : List (Char × Nat) := [('x', 16), ('o', 8), ('b', 2)]

/-- A number in base ten is read behind its sign. -/
theorem number?_of_decimal {negative : Bool} {signs : List Char} (sign : Signed negative signs)
    {c : Char} {d : Nat} (digit : digitIn? 10 c = some d) {cs : List Char}
    (decimal : c = '0' → ∀ m ∈ cs.head?, m ∉ radices.map Prod.fst) :
    number? (signs ++ c :: cs) = unsigned? negative (c :: cs) := by
  -- a digit begins neither the name of a number nor, but for zero, a base
  have noSpecial : special? negative (c :: cs) = none := by
    unfold special?
    split
    · next h => cases h; cases digit
    · next h => cases h; cases digit
    · rfl
  have noBase (mark : Char) (mem : mark ∈ radices.map Prod.fst) (rest : List Char) :
      signs ++ c :: cs ≠ '0' :: mark :: rest := by
    intro h
    cases sign with
    | none =>
      cases h
      exact decimal rfl mark rfl mem
    | plus | minus => cases h
  unfold number?
  split
  · next h => exact absurd h (noBase 'x' (by decide) _)
  · next h => exact absurd h (noBase 'o' (by decide) _)
  · next h => exact absurd h (noBase 'b' (by decide) _)
  · rw [sign_of_signed sign digit]
    simp only [noSpecial]

/-- Characters that begin a value of another kind. -/
def openers : List Char := ['t', 'f', '"', '\'', '[', '\x7b']

/-- What begins with none of the letters, quotes and brackets is a date, a time
or a number. -/
theorem value?_of_plain {c : Char} (plain : c ∉ openers)
    (depth : Nat) (cs : List Char) :
    value? depth (c :: cs) =
      if beginsDate (c :: cs) || beginsTime (c :: cs) then moment? (c :: cs)
      else number? (c :: cs) := by
  have other (d : Char) (mem : d ∈ openers) (rest : List Char) : c :: cs ≠ d :: rest :=
    fun same => plain ((List.cons.inj same).1 ▸ mem)
  have scalar : scalar? (c :: cs) =
      if beginsDate (c :: cs) || beginsTime (c :: cs) then moment? (c :: cs)
      else number? (c :: cs) := by
    unfold scalar?
    split
    · next h => exact absurd h (other 't' (by decide) _)
    · next h => exact absurd h (other 'f' (by decide) _)
    · next h => exact absurd h (other '"' (by decide) _)
    · next h => exact absurd h (other '\'' (by decide) _)
    · rfl
  rw [← scalar]
  cases depth with
  | zero | succ depth =>
    unfold value?
    split
    · next h => exact absurd h (other '[' (by decide) _)
    · next h => exact absurd h (other '\x7b' (by decide) _)
    · rfl

theorem plain_of_digit {c : Char} {d : Nat} (digit : digitIn? 10 c = some d) :
    c ∉ openers := by
  intro mem
  have none : ∀ c ∈ openers, digitIn? 10 c = none :=
    forall_mem_of_all (by decide)
  rw [none c mem] at digit
  cases digit

/-- What begins like a whole number in base ten is read as a number. -/
theorem value?_of_decimal {negative : Bool} {signs cs rest : List Char} {ds : List Nat}
    (sign : Signed negative signs) (whole : Whole ds cs) (after : AfterWhole rest) (depth : Nat) :
    value? depth (signs ++ (cs ++ rest)) = unsigned? negative (cs ++ rest) := by
  obtain ⟨c, cs', d, rfl, digit⟩ := whole.cases_head
  have notDigit : ∀ c ∈ rest.head?, c.isDigit = false := by
    have none : ∀ c ∈ wholeEnders, c.isDigit = false :=
      forall_mem_of_all (by decide)
    exact fun c mem => none c (after c mem)
  have number :
      number? (signs ++ c :: (cs' ++ rest)) = unsigned? negative (c :: (cs' ++ rest)) := by
    refine number?_of_decimal sign digit ?_
    rintro rfl m mem
    cases whole with
    | zero =>
      have other : ∀ c ∈ wholeEnders, c ∉ radices.map Prod.fst :=
        forall_mem_of_all (by decide)
      exact other m (after m mem)
    | digits _ nonzero => exact absurd rfl nonzero
  rw [List.cons_append, ← number]
  cases sign with
  | none =>
    -- without a sign it could be a date or a time: what follows its first digits decides
    have still : ∀ m ∈ ((c :: cs' ++ rest).dropWhile Char.isDigit).head?, m ≠ '-' ∧ m ≠ ':' := by
      have other : ∀ c ∈ wholeEnders, c ≠ '-' ∧ c ≠ ':' :=
        forall_mem_of_all (by decide)
      intro m mem
      have behind : ((c :: cs' ++ rest).dropWhile Char.isDigit).head? = some '_' ∨
          (c :: cs' ++ rest).dropWhile Char.isDigit = rest := by
        cases whole with
        | zero =>
          right
          exact Decimal.dropWhile_front (List.forall_mem_singleton.2 rfl) notDigit
        | digits digits => exact digits.dropWhile notDigit
      rcases behind with behind | behind
      · rw [behind] at mem
        cases mem
        decide
      · rw [behind] at mem
        exact other m (after m mem)
    obtain ⟨noDate, noTime⟩ := not_begins _ fun _ => still
    rw [List.cons_append] at noDate noTime
    rw [List.nil_append, value?_of_plain (plain_of_digit digit), noDate, noTime]
    rfl
  | plus =>
    obtain ⟨noDate, noTime⟩ := not_begins ('+' :: c :: (cs' ++ rest)) nofun
    rw [List.singleton_append, value?_of_plain (by decide), noDate, noTime]
    rfl
  | minus =>
    obtain ⟨noDate, noTime⟩ := not_begins ('-' :: c :: (cs' ++ rest)) nofun
    rw [List.singleton_append, value?_of_plain (by decide), noDate, noTime]
    rfl

/-- A number in another base is read behind its mark. -/
theorem value?_of_radix {mark : Char} {base : Nat} (mem : (mark, base) ∈ radices) (depth : Nat)
    (cs : List Char) : value? depth ('0' :: mark :: cs) = radixInteger? base cs := by
  have still : ∀ m ∈ (('0' :: mark :: cs).dropWhile Char.isDigit).head?, m ≠ '-' ∧ m ≠ ':' := by
    have other : ∀ r ∈ radices, r.1.isDigit = false ∧ r.1 ≠ '-' ∧ r.1 ≠ ':' := by decide
    obtain ⟨notDigit, other⟩ := other _ mem
    rw [List.dropWhile_cons_of_pos (by decide), List.dropWhile_cons_of_neg (by simp [notDigit])]
    rintro m here
    obtain rfl : mark = m := Option.some.inj here
    exact other
  obtain ⟨noDate, noTime⟩ := not_begins _ fun _ => still
  rw [value?_of_plain (by decide), noDate, noTime]
  simp only [radices, List.mem_cons, Prod.mk.injEq, List.not_mem_nil, or_false] at mem
  rcases mem with ⟨rfl, rfl⟩ | ⟨rfl, rfl⟩ | ⟨rfl, rfl⟩ <;> rfl

/-! ## Strings -/

/-- Text between quotes: characters that stand for themselves, letters with
their meaning behind a backslash, and code points in four or eight
hexadecimal digits. -/
inductive Quoted : List Char → List Char → Prop where
  | nil : Quoted [] []
  | basic {c : Char} {s cs : List Char} (basic : isBasic c = true) (more : Quoted s cs) :
      Quoted (c :: s) (c :: cs)
  | escape {letter c : Char} {s cs : List Char} (meaning : escapeMeaning? letter = some c)
      (more : Quoted s cs) : Quoted (c :: s) ('\\' :: letter :: cs)
  | short {c : Char} {s ds cs : List Char} (width : ds.length = 4) (point : scalarOf? ds = some c)
      (more : Quoted s cs) : Quoted (c :: s) ('\\' :: 'u' :: (ds ++ cs))
  | long {c : Char} {s ds cs : List Char} (width : ds.length = 8) (point : scalarOf? ds = some c)
      (more : Quoted s cs) : Quoted (c :: s) ('\\' :: 'U' :: (ds ++ cs))

/-- Text without quotes, backslashes and control characters stands as it is. -/
theorem Quoted.of_basic {s : List Char} (basic : ∀ c ∈ s, isBasic c = true) : Quoted s s := by
  induction s with
  | nil => exact .nil
  | cons c s ih =>
    obtain ⟨head, tail⟩ := List.forall_mem_cons.1 basic
    exact .basic head (ih tail)

theorem basic?_of_quoted {s cs : List Char} (h : Quoted s cs) (rest : List Char) :
    basic? (cs ++ '"' :: rest) = some (s, rest) := by
  induction h with
  | nil => rfl
  | @basic c s cs basic _ ih =>
    have other : c ≠ '"' ∧ c ≠ '\\' := by
      constructor <;> rintro rfl <;> exact absurd basic (by decide)
    rw [List.cons_append, basic?.eq_def]
    split
    · next h => cases h
    · next h => exact absurd (List.cons.inj h).1 other.1
    · next h => exact absurd (List.cons.inj h).1 other.2
    · next h => exact absurd (List.cons.inj h).1 other.2
    · next h => exact absurd (List.cons.inj h).1 other.2
    · next h =>
      cases h
      rw [if_pos basic, ih]
      rfl
  | escape meaning _ ih =>
    rw [List.cons_append, List.cons_append, basic?, meaning, ih]
    · rfl
    · rintro a b c d rest rfl
      cases meaning
    · rintro a b c d e f g h rest rfl
      cases meaning
  | @short c s ds cs width point _ ih =>
    obtain ⟨a, b, c, d, rfl⟩ : ∃ a b c d, ds = [a, b, c, d] := by
      match ds, width with
      | [a, b, c, d], _ => exact ⟨a, b, c, d, rfl⟩
    simp only [List.cons_append, List.nil_append]
    rw [basic?, point, ih]
    rfl
  | @long c s ds cs width point _ ih =>
    obtain ⟨a, b, c, d, e, f, g, h, rfl⟩ :
        ∃ a b c d e f g h, ds = [a, b, c, d, e, f, g, h] := by
      match ds, width with
      | [a, b, c, d, e, f, g, h], _ => exact ⟨a, b, c, d, e, f, g, h, rfl⟩
    simp only [List.cons_append, List.nil_append]
    rw [basic?, point, ih]
    rfl

theorem literal?_of_literal {s : List Char} (h : ∀ c ∈ s, isLiteral c = true) (rest : List Char) :
    literal? (s ++ '\'' :: rest) = some (s, rest) := by
  induction s with
  | nil => rfl
  | cons c s ih =>
    have literal := h c List.mem_cons_self
    have other : c ≠ '\'' := by
      rintro rfl
      exact absurd literal (by decide)
    rw [List.cons_append, literal?.eq_def]
    split
    · next h => cases h
    · next h => cases h; exact absurd rfl other
    · next h =>
      cases h
      rw [if_pos literal, ih fun c mem => h c (List.mem_cons_of_mem _ mem)]
      rfl

/-- No string of one line begins like one of several lines. -/
theorem string?_of_quoted {s cs : List Char} (h : Quoted s cs) {rest : List Char}
    (stop : AtEnd rest) :
    string? ('"' :: (cs ++ '"' :: rest)) = some (String.ofList s, rest) := by
  have single : ∀ more, cs ++ '"' :: rest ≠ '"' :: '"' :: more := by
    intro more mark
    cases h with
    | nil =>
      obtain ⟨c, rfl⟩ : ∃ c, rest = '"' :: c := ⟨_, (List.cons.inj mark).2⟩
      exact absurd (stop '"' rfl) (by decide)
    | basic basic =>
      rw [(List.cons.inj mark).1] at basic
      cases basic
    | escape | short | long => cases (List.cons.inj mark).1
  unfold string?
  split
  · next h => exact absurd (List.cons.inj h).2 (single _)
  · next h =>
    rw [← (List.cons.inj h).2, basic?_of_quoted ‹_›]
    rfl
  · next h => cases (List.cons.inj h).1
  · next h => cases (List.cons.inj h).1
  · next h _ _ => exact absurd rfl (h _)

theorem string?_of_literal {s : List Char} (h : ∀ c ∈ s, isLiteral c = true) {rest : List Char}
    (stop : AtEnd rest) :
    string? ('\'' :: (s ++ '\'' :: rest)) = some (String.ofList s, rest) := by
  have single : ∀ more, s ++ '\'' :: rest ≠ '\'' :: '\'' :: more := by
    intro more mark
    cases s with
    | nil =>
      obtain ⟨c, rfl⟩ : ∃ c, rest = '\'' :: c := ⟨_, (List.cons.inj mark).2⟩
      exact absurd (stop '\'' rfl) (by decide)
    | cons c s =>
      have literal := h c List.mem_cons_self
      rw [(List.cons.inj mark).1] at literal
      cases literal
  unfold string?
  split
  · next h => cases (List.cons.inj h).1
  · next h => cases (List.cons.inj h).1
  · next h => exact absurd (List.cons.inj h).2 (single _)
  · next h =>
    rw [← (List.cons.inj h).2, literal?_of_literal ‹_›]
    rfl
  · next h => exact absurd rfl (h _)

theorem value?_of_mark {mark : Char} (h : mark ∈ ['"', '\'']) (depth : Nat) (cs : List Char) :
    value? depth (mark :: cs) = (string? (mark :: cs)).map (fun r => (.text r.1, r.2)) := by
  simp only [List.mem_cons, List.not_mem_nil, or_false] at h
  rcases h with rfl | rfl <;> cases depth <;> rfl

/-! ## Values -/

/-- A text is read as a value, whatever ends the line behind it. -/
def Reads (v : Value) (cs : List Char) : Prop :=
  ∀ rest, AtEnd rest → value? depthLimit (cs ++ rest) = some (v, rest)

/-- The spellings of values: of integers in base ten and in other bases, of
real numbers with a fraction or an exponent, of texts, and of whatever else is
read as a value. -/
inductive Spells : Value → List Char → Prop where
  | integer {negative : Bool} {signs cs : List Char} {ds : List Nat}
      (sign : Signed negative signs) (whole : Whole ds cs)
      (low : -9223372036854775808 ≤ signed negative (valueIn 10 ds))
      (high : signed negative (valueIn 10 ds) < 9223372036854775808) :
      Spells (.integer (signed negative (valueIn 10 ds))) (signs ++ cs)
  | radix {mark : Char} {base : Nat} {ds : List Nat} {cs : List Char}
      (radix : (mark, base) ∈ radices) (digits : Digits base ds cs)
      (high : valueIn base ds < 9223372036854775808) :
      Spells (.integer (valueIn base ds)) ('0' :: mark :: cs)
  | fraction {negative : Bool} {signs cs fcs ecs : List Char} {ds fs : List Nat} {e : Option Int}
      {v : Value} (sign : Signed negative signs) (whole : Whole ds cs)
      (fraction : Digits 10 fs fcs) (exponent : Exponent e ecs)
      (value : real? negative ds fs (e.getD 0) = some v) :
      Spells v (signs ++ (cs ++ '.' :: (fcs ++ ecs)))
  | exponent {negative : Bool} {signs cs ecs : List Char} {ds : List Nat} {e : Int} {v : Value}
      (sign : Signed negative signs) (whole : Whole ds cs) (exponent : Exponent (some e) ecs)
      (value : real? negative ds [] e = some v) : Spells v (signs ++ (cs ++ ecs))
  | quoted {s cs : List Char} (quoted : Quoted s cs) :
      Spells (.text (String.ofList s)) ('"' :: (cs ++ ['"']))
  | literal {s : List Char} (literal : ∀ c ∈ s, isLiteral c = true) :
      Spells (.text (String.ofList s)) ('\'' :: (s ++ ['\'']))
  | other {v : Value} {cs : List Char} (reads : Reads v cs) : Spells v cs

/-- A spelling is read as the value that it spells. -/
theorem Spells.reads {v : Value} {cs : List Char} (h : Spells v cs) : Reads v cs := by
  intro rest stop
  cases h with
  | integer sign whole low high =>
    rw [List.append_assoc, value?_of_decimal sign whole stop.afterWhole,
      unsigned?_of_whole whole stop, integer?, if_pos ⟨low, by omega⟩]
    rfl
  | radix radix digits high =>
    rw [List.cons_append, List.cons_append, value?_of_radix radix, radixInteger?,
      digits?_of_digits digits (stop.stopsDigits _)]
    simp only [Option.bind_eq_bind, Option.bind_some, integer?]
    rw [if_pos ⟨by omega, by omega⟩]
    rfl
  | @fraction _ _ _ fcs ecs _ _ _ _ sign whole fraction exponent value =>
    have point : AfterWhole ('.' :: (fcs ++ (ecs ++ rest))) := by
      intro c mem
      obtain rfl : '.' = c := Option.some.inj mem
      decide
    simp only [List.append_assoc, List.cons_append]
    rw [value?_of_decimal sign whole point, unsigned?_of_fraction whole fraction exponent stop,
      value]
    rfl
  | exponent sign whole exponent value =>
    rw [List.append_assoc, List.append_assoc,
      value?_of_decimal sign whole (exponent.afterWhole stop),
      unsigned?_of_exponent whole exponent stop, value]
    rfl
  | quoted quoted =>
    have read := string?_of_quoted quoted stop
    simp only [List.cons_append, List.append_assoc, List.nil_append]
    rw [value?_of_mark (by decide), read]
    rfl
  | literal literal =>
    have read := string?_of_literal literal stop
    simp only [List.cons_append, List.append_assoc, List.nil_append]
    rw [value?_of_mark (by decide), read]
    rfl
  | other reads => exact reads rest stop

theorem digits_of_lt {ds : List Nat} (nonempty : ds ≠ []) (small : ∀ d ∈ ds, d < 10) :
    Digits 10 ds (ds.map Nat.digitChar) := by
  have digit : ∀ d < 10, digitIn? 10 (Nat.digitChar d) = some d := by decide
  induction ds with
  | nil => exact absurd rfl nonempty
  | cons d ds ih =>
    obtain ⟨head, tail⟩ := List.forall_mem_cons.1 small
    cases ds with
    | nil => exact .one (digit d head)
    | cons => exact .next (digit d head) (ih (List.cons_ne_nil _ _) tail)

/-- The digits of a number write it as a whole number. -/
theorem whole_digits (n : Nat) :
    Whole (Decimal.digits n) ((Decimal.digits n).map Nat.digitChar) := by
  by_cases zero : n = 0
  · rw [zero, Decimal.digits]
    exact .zero
  · refine .digits (digits_of_lt (Decimal.digits_ne_nil n) (Decimal.digits_lt n)) fun head => ?_
    rw [List.head?_map] at head
    obtain ⟨d, first, isZero⟩ := Option.map_eq_some_iff.1 head
    have only : ∀ d < 10, Nat.digitChar d = '0' → d = 0 := by decide
    obtain rfl := only d (Decimal.digits_lt n d (List.mem_of_head? first)) isZero
    exact zero (Decimal.head_digits first)

/-- Every number that is no longer than 63 bits can be written. -/
theorem Spells.ofNat {n : Nat} (small : n < 9223372036854775808) :
    Spells (.integer n) ((Decimal.digits n).map Nat.digitChar) := by
  have value : valueIn 10 (Decimal.digits n) = n := Decimal.value_digits n
  have same : signed false (valueIn 10 (Decimal.digits n)) = n := by simp [signed, value]
  have spells := Spells.integer .none (whole_digits n) (by omega) (by omega)
  rwa [same] at spells

end AgentState.Toml
