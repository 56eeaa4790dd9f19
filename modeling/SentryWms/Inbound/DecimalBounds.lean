import SentryWms.Coding.Numeric
import SentryWms.Inbound.RequiredFields

/-!
# The bounds of a decimal field

`_coerce_decimal` checks the decimal places and the digits of a value as it is written.  A
column `NUMERIC(max_digits, decimal_places)` holds numbers: one that is written with few
digits and a large exponent does not fit it, and one written with more zeros than it needs
does.
-/

namespace SentryWms.Mapping

open Coding

/-! ## Two steps -/

section Steps

variable {runtime : Runtime} {field : FieldMapping} {value : PyValue} {parsed : PyDecimal}

theorem coerceDecimal_of_read (hread : readDecimal runtime value = some parsed) :
    coerceDecimal runtime field value = checkDecimal runtime field value parsed := by
  rw [coerceDecimal, hread]

theorem coerceDecimal_of_unread (hread : readDecimal runtime value = none) :
    ∃ message, coerceDecimal runtime field value = .error (.valueError message) := by
  rw [coerceDecimal, hread]
  exact ⟨_, rfl⟩

end Steps

/-! ## What the checks decide -/

/-- A decimal that is a number. -/
def PyDecimal.number? : PyDecimal → Option ℚ
  | .finite negative coefficient exponent =>
      some (PyDecimal.toRat negative coefficient exponent)
  | .infinity _ | .nan _ => none

/-- The number lies within `ge` and `le`. -/
structure InBounds (field : FieldMapping) (number : ℚ) : Prop where
  ge : ∀ bound ∈ field.ge, ∀ low ∈ bound.number?, low ≤ number
  le : ∀ bound ∈ field.le, ∀ high ∈ bound.number?, number ≤ high

/-- The bounds are numbers. -/
structure FieldMapping.Bounded (field : FieldMapping) : Prop where
  ge : ∀ bound ∈ field.ge, bound.number?.isSome = true
  le : ∀ bound ∈ field.le, bound.number?.isSome = true

/-- The outcome is the result where the condition holds, and a `ValueError` elsewhere. -/
structure Judges (condition : Prop) (result : PyDecimal)
    (outcome : Except MappingError PyDecimal) : Prop where
  accepts : condition → outcome = .ok result
  refuses : ¬ condition → ∃ message, outcome = .error (.valueError message)

variable {outcome : Except MappingError PyDecimal} {digits places : ℤ}

section Judgement

variable {condition later : Prop} {result : PyDecimal} {rest : Except MappingError PyDecimal}

theorem Judges.done : Judges True result (pure result) where
  accepts := fun _ => rfl
  refuses := fun hnot => (hnot trivial).elim

theorem Judges.congr (hjudges : Judges condition result outcome) (hsame : condition ↔ later) :
    Judges later result outcome where
  accepts := fun hholds => hjudges.accepts (hsame.mpr hholds)
  refuses := fun hnot => hjudges.refuses fun hholds => hnot (hsame.mp hholds)

theorem Judges.of_eq_ok {value : PyDecimal} (hjudges : Judges condition result outcome)
    (hok : outcome = .ok value) : condition ∧ value = result := by
  by_cases hholds : condition
  · rw [hjudges.accepts hholds] at hok
    exact ⟨hholds, (Except.ok.inj hok).symm⟩
  · obtain ⟨message, hrefused⟩ := hjudges.refuses hholds
    rw [hrefused] at hok
    cases hok

theorem Judges.eq_ok_iff (hjudges : Judges condition result outcome) :
    outcome = .ok result ↔ condition :=
  ⟨fun hok => (hjudges.of_eq_ok hok).1, hjudges.accepts⟩

theorem Judges.valueError {error : MappingError}
    (hjudges : Judges condition result outcome) (herror : outcome = .error error) :
    ∃ message, error = .valueError message := by
  by_cases hholds : condition
  · rw [hjudges.accepts hholds] at herror
    cases herror
  · obtain ⟨message, hrefused⟩ := hjudges.refuses hholds
    rw [hrefused] at herror
    exact ⟨message, (Except.error.inj herror).symm⟩

/-- A check before others. -/
theorem Judges.check [Decidable condition] (hrest : Judges later result rest) (message : String) :
    Judges (condition ∧ later) result (Mapping.check condition message >>= fun _ => rest) where
  accepts := by
    intro hboth
    rw [Mapping.check, if_pos hboth.1]
    exact hrest.accepts hboth.2
  refuses := by
    intro hnot
    by_cases hhere : condition
    · rw [Mapping.check, if_pos hhere]
      exact hrest.refuses fun hlater => hnot ⟨hhere, hlater⟩
    · rw [Mapping.check, if_neg hhere]
      exact ⟨message, rfl⟩

/-- Finite decimals compare as numbers. -/
theorem lt_of_numbers {left right : PyDecimal} {low high : ℚ} (hleft : left.number? = some low)
    (hright : right.number? = some high) : left.lt right = .ok (decide (low < high)) := by
  cases left with
  | infinity | nan => cases hleft
  | finite negative coefficient exponent =>
      cases right with
      | infinity | nan => cases hright
      | finite negative' coefficient' exponent' =>
          cases hleft
          cases hright
          rfl

/-- A comparison before other checks. -/
theorem Judges.notLt {left right : PyDecimal} {low high : ℚ}
    (hrest : Judges later result rest) (hleft : left.number? = some low)
    (hright : right.number? = some high) (message : String) :
    Judges (high ≤ low ∧ later) result (do
      let less ← left.lt right
      Mapping.check (less = false) message
      rest) := by
  have hjudges : Judges (decide (low < high) = false ∧ later) result
      (Mapping.check (decide (low < high) = false) message >>= fun _ => rest) :=
    hrest.check message
  rw [lt_of_numbers hleft hright]
  exact hjudges.congr (by rw [decide_eq_false_iff_not, not_lt])

end Judgement

theorem inBounds_iff {field : FieldMapping} {number : ℚ} :
    InBounds field number ↔ (∀ bound ∈ field.ge, ∀ low ∈ bound.number?, low ≤ number) ∧
      ∀ bound ∈ field.le, ∀ high ∈ bound.number?, number ≤ high :=
  ⟨fun hin => ⟨hin.ge, hin.le⟩, fun hboth => ⟨hboth.1, hboth.2⟩⟩

/-- The checks of a number: as it is written, and between the bounds. -/
theorem judges_checkDecimal {runtime : Runtime} {field : FieldMapping} {value : PyValue}
    {digits places : ℤ} (hdigits : field.maxDigits = some digits)
    (hplaces : field.decimalPlaces = some places) (hbounded : field.Bounded)
    (negative : Bool) (coefficient : ℕ) (exponent : ℤ) :
    Judges (-places ≤ exponent ∧ (digitCount coefficient : ℤ) ≤ digits ∧
        InBounds field (PyDecimal.toRat negative coefficient exponent))
      (.finite negative coefficient exponent)
      (checkDecimal runtime field value (.finite negative coefficient exponent)) := by
  have hge := hbounded.ge
  have hle := hbounded.le
  simp only [checkDecimal, hdigits, hplaces, PyDecimal.exponent?]
  cases hlow : field.ge with
  | none =>
      cases hhigh : field.le with
      | none =>
          refine ((Judges.done.check _).check _).congr ?_
          simp [inBounds_iff, hlow, hhigh, PyDecimal.digitCount, digitCount]
      | some high =>
          obtain ⟨highest, hhighest⟩ := Option.isSome_iff_exists.mp (hle high hhigh)
          refine (((Judges.done.notLt hhighest rfl _).check _).check _).congr ?_
          simp [inBounds_iff, hlow, hhigh, hhighest, PyDecimal.digitCount, digitCount]
  | some low =>
      obtain ⟨lowest, hlowest⟩ := Option.isSome_iff_exists.mp (hge low hlow)
      cases hhigh : field.le with
      | none =>
          refine (((Judges.done.notLt rfl hlowest _).check _).check _).congr ?_
          simp [inBounds_iff, hlow, hhigh, hlowest, PyDecimal.digitCount, digitCount]
      | some high =>
          obtain ⟨highest, hhighest⟩ := Option.isSome_iff_exists.mp (hle high hhigh)
          refine ((((Judges.done.notLt hhighest rfl _).notLt rfl hlowest _).check _).check
            _).congr ?_
          simp [inBounds_iff, hlow, hhigh, hlowest, hhighest, PyDecimal.digitCount, digitCount]

/-- A value that is no number is refused where places are declared. -/
theorem checkDecimal_of_special {runtime : Runtime} {field : FieldMapping} {value : PyValue}
    {parsed : PyDecimal} {places : ℤ} (hplaces : field.decimalPlaces = some places)
    (hspecial : parsed.number? = none) :
    ∃ message, checkDecimal runtime field value parsed = .error (.valueError message) := by
  cases parsed with
  | finite negative coefficient exponent => cases hspecial
  | infinity negative | nan digits =>
      simp only [checkDecimal, hplaces, PyDecimal.exponent?]
      exact ⟨_, rfl⟩

/-! ## When the bounds are exact -/

/-- The field holds the numbers of its column that lie between its bounds: a value that
denotes one is returned as it is read, and any other is refused with a `ValueError`. -/
structure ExactBounds (runtime : Runtime) (field : FieldMapping) (value : PyValue)
    (digits places : ℤ) : Prop where
  returns : ∀ result, coerceDecimal runtime field value = .ok result ↔
    readDecimal runtime value = some result ∧ ∃ number ∈ result.number?,
      FitsNumeric digits places number ∧ InBounds field number
  raises : ∀ error, coerceDecimal runtime field value = .error error →
    ∃ message, error = .valueError message

/-- Written with few enough digits, but followed by so many zeros that the number has too
many. -/
def Overflows (digits places : ℤ) (coefficient : ℕ) (exponent : ℤ) : Prop :=
  coefficient ≠ 0 ∧ -places ≤ exponent ∧ (digitCount coefficient : ℤ) ≤ digits ∧
    digits < digitCount coefficient + exponent + places

/-- Written with more places than the column has, all of them zeros, in a number that
fits. -/
def Padded (digits places : ℤ) (coefficient : ℕ) (exponent : ℤ) : Prop :=
  exponent < -places ∧ 10 ^ (-(exponent + places)).toNat ∣ coefficient ∧
    (coefficient = 0 ∨ digitCount coefficient + exponent + places ≤ digits)

theorem fitsNumeric_toRat (negative : Bool) (coefficient : ℕ) (exponent : ℤ) :
    FitsNumeric digits places (PyDecimal.toRat negative coefficient exponent) ↔
      (0 ≤ exponent + places ∨ 10 ^ (-(exponent + places)).toNat ∣ coefficient) ∧
        (coefficient = 0 ∨ digitCount coefficient + exponent + places ≤ digits) := by
  rw [← fitsNumeric_iff]
  cases negative with
  | false => rw [PyDecimal.toRat, if_neg Bool.false_ne_true, one_mul]
  | true =>
      rw [PyDecimal.toRat, if_pos rfl, neg_one_mul, neg_mul]
      exact fitsNumeric_neg

/-- The checks of the writing and the column differ on these two kinds. -/
theorem written_iff_fits (hdigits : 0 < digits) (coefficient : ℕ) (exponent : ℤ) :
    ((-places ≤ exponent ∧ (digitCount coefficient : ℤ) ≤ digits) ↔
      (0 ≤ exponent + places ∨ 10 ^ (-(exponent + places)).toNat ∣ coefficient) ∧
        (coefficient = 0 ∨ digitCount coefficient + exponent + places ≤ digits)) ↔
    ¬ Overflows digits places coefficient exponent ∧
      ¬ Padded digits places coefficient exponent := by
  have hpos := digitCount_pos coefficient
  have hzero : coefficient = 0 → digitCount coefficient = 1 := by
    rintro rfl
    rfl
  rw [Overflows, Padded]
  by_cases hdivides : 10 ^ (-(exponent + places)).toNat ∣ coefficient
  · simp only [hdivides, true_and, or_true]
    omega
  · simp only [hdivides, false_and, and_false, not_false_eq_true, and_true, or_false]
    omega

theorem exactBounds_iff_judged {runtime : Runtime} {field : FieldMapping}
    {value : PyValue} (hdigits : field.maxDigits = some digits)
    (hplaces : field.decimalPlaces = some places) (hbounded : field.Bounded)
    {negative : Bool} {coefficient : ℕ} {exponent : ℤ}
    (hread : readDecimal runtime value = some (.finite negative coefficient exponent)) :
    ExactBounds runtime field value digits places ↔
      (InBounds field (PyDecimal.toRat negative coefficient exponent) →
        ((-places ≤ exponent ∧ (digitCount coefficient : ℤ) ≤ digits) ↔
          FitsNumeric digits places (PyDecimal.toRat negative coefficient exponent))) := by
  have hcoerce : coerceDecimal runtime field value = _ := coerceDecimal_of_read hread
  have hjudges := @judges_checkDecimal runtime field value digits places hdigits hplaces
    hbounded negative coefficient exponent
  rw [← hcoerce] at hjudges
  constructor
  · intro hexact hin
    have hreturns := hexact.returns (.finite negative coefficient exponent)
    rw [hjudges.eq_ok_iff, hread] at hreturns
    constructor
    · intro hwritten
      obtain ⟨-, number, hnumber, hfits, -⟩ := hreturns.mp ⟨hwritten.1, hwritten.2, hin⟩
      cases hnumber
      exact hfits
    · intro hfits
      obtain ⟨hplace, hcount, -⟩ := hreturns.mpr ⟨rfl, _, rfl, hfits, hin⟩
      exact ⟨hplace, hcount⟩
  · intro hagree
    constructor
    · intro result
      rw [hread]
      constructor
      · intro hresult
        obtain ⟨⟨hplace, hcount, hin⟩, rfl⟩ := hjudges.of_eq_ok hresult
        exact ⟨rfl, _, rfl, (hagree hin).mp ⟨hplace, hcount⟩, hin⟩
      · rintro ⟨hsame, number, hnumber, hfits, hin⟩
        cases hsame
        cases hnumber
        obtain ⟨hplace, hcount⟩ := (hagree hin).mpr hfits
        exact hjudges.accepts ⟨hplace, hcount, hin⟩
    · exact fun error herror => hjudges.valueError herror

/-- A value that is no number is refused, as it should be. -/
theorem exactBounds_of_refused {runtime : Runtime} {field : FieldMapping} {value : PyValue}
    (hnumber : ∀ parsed, readDecimal runtime value = some parsed → parsed.number? = none)
    (hrefused : ∃ message, coerceDecimal runtime field value = .error (.valueError message)) :
    ExactBounds runtime field value digits places := by
  obtain ⟨message, hmessage⟩ := hrefused
  constructor
  · intro result
    rw [hmessage]
    constructor
    · intro hno
      cases hno
    · rintro ⟨hread, number, hsome, -⟩
      rw [hnumber result hread] at hsome
      cases hsome
  · intro error herror
    rw [hmessage] at herror
    cases herror
    exact ⟨message, rfl⟩

theorem checkFieldShape_digits {runtime : Runtime} {field : FieldMapping}
    (hshape : field.checkFieldShape runtime = .ok ())
    (hdigits : field.maxDigits = some digits) : 0 < digits := by
  rw [FieldMapping.checkFieldShape] at hshape
  obtain ⟨_, -, hshape⟩ := bind_eq_ok hshape
  obtain ⟨_, -, hshape⟩ := bind_eq_ok hshape
  obtain ⟨_, -, hshape⟩ := bind_eq_ok hshape
  obtain ⟨_, -, hshape⟩ := bind_eq_ok hshape
  obtain ⟨_, hpositive, -⟩ := bind_eq_ok hshape
  exact check_eq_ok hpositive digits hdigits

/-- A field with declared digits and places has exact bounds for a value exactly if the
value is no number between the bounds that overflows the column or is padded beyond it. -/
theorem exactBounds_iff (runtime : Runtime) (field : FieldMapping) (value : PyValue)
    {digits places : ℤ} (hdigits : field.maxDigits = some digits)
    (hplaces : field.decimalPlaces = some places)
    (hshape : field.checkFieldShape runtime = .ok ()) (hbounded : field.Bounded) :
    ExactBounds runtime field value digits places ↔
      ∀ negative coefficient exponent,
        readDecimal runtime value = some (.finite negative coefficient exponent) →
          InBounds field (PyDecimal.toRat negative coefficient exponent) →
            ¬ Overflows digits places coefficient exponent ∧
              ¬ Padded digits places coefficient exponent := by
  have hpositive := checkFieldShape_digits hshape hdigits
  cases hread : readDecimal runtime value with
  | none =>
      refine iff_of_true (exactBounds_of_refused ?_ (coerceDecimal_of_unread hread)) nofun
      intro parsed hparsed
      rw [hread] at hparsed
      cases hparsed
  | some parsed =>
      cases hnumber : parsed.number? with
      | none =>
          have hrefused := @checkDecimal_of_special runtime field value parsed places hplaces
            hnumber
          rw [← coerceDecimal_of_read hread] at hrefused
          refine iff_of_true (exactBounds_of_refused ?_ hrefused) ?_
          · intro other hother
            cases hread.symm.trans hother
            exact hnumber
          · intro negative coefficient exponent hfinite
            cases hfinite
            cases hnumber
      | some number =>
          cases parsed with
          | infinity | nan => cases hnumber
          | finite negative coefficient exponent =>
              rw [exactBounds_iff_judged hdigits hplaces hbounded hread, fitsNumeric_toRat,
                written_iff_fits hpositive]
              constructor
              · intro hagree negative' coefficient' exponent' hsame
                cases hsame
                exact hagree
              · intro hagree
                exact hagree negative coefficient exponent rfl

namespace OrderTotal

/-- `Decimal` of two texts of digits. -/
def decimal : String → Option PyDecimal
  | "12345" => some (.finite false 12345 0)
  | "12.34" => some (.finite false 1234 (-2))
  | _ => none

def runtime : Runtime where
  jsonpath := fun _ _ => .ok []
  walk := fun _ => .ok []
  evaluate := fun _ payload => .ok payload
  decimal := decimal
  str := fun value =>
    match value with
    | .str text => text
    | _ => ""
  repr := fun _ => ""

/-- A field of the column `NUMERIC(5, 2)`. -/
def field : FieldMapping where
  canonical := "order_total"
  type := "decimal"
  sourcePath := some "$.total"
  required := false
  crossSystemLookup := none
  derived := none
  default := .none
  enumValues := none
  maxDigits := some 5
  decimalPlaces := some 2
  ge := none
  le := none

end OrderTotal

open OrderTotal in
theorem exactBounds_iff_cents : ExactBounds runtime field (.str "12.34") 5 2 := by
  have hbounded : field.Bounded := ⟨nofun, nofun⟩
  refine (exactBounds_iff runtime field (.str "12.34") rfl rfl rfl hbounded).mpr ?_
  intro negative coefficient exponent hread _
  obtain ⟨rfl, rfl, rfl⟩ : false = negative ∧ 1234 = coefficient ∧ -2 = exponent := by
    simpa [readDecimal, runtime, decimal] using hread
  rw [Overflows, Padded]
  decide

open OrderTotal in
/-- Five digits pass the check of five digits, and the column has room for three before the
point. -/
theorem tooLarge_returned : ¬ ExactBounds runtime field (.str "12345") 5 2 := by
  intro hexact
  have hreturned : coerceDecimal runtime field (.str "12345") =
      .ok (.finite false 12345 0) := rfl
  obtain ⟨-, number, hnumber, hfits, -⟩ := (hexact.returns _).mp hreturned
  cases hnumber
  have hroom := (fitsNumeric_toRat false 12345 0).mp hfits
  exact absurd hroom.2 (by decide)

end SentryWms.Mapping
