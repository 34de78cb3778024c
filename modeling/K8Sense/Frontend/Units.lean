import K8Sense.Library.Decimal
import Mathlib.Algebra.Order.Field.Power
import Mathlib.Algebra.Order.Field.Rat
import Mathlib.Tactic.FieldSimp
import Mathlib.Tactic.NormNum
import Mathlib.Tactic.Positivity
import Mathlib.Tactic.Ring

/-! The quantities of resources, as the API server reads them and as the frontend does. -/

namespace K8Sense.Frontend.Units
open Decimal

/-! The reading by the frontend, where `none` is not a number. -/

/-- The groups of `/(\d+(?:\.\d+)?)([BKMGTPEe])?(i)?(\d+)?/`, the first one as the digits
before and after its point. -/
structure Groups where
  whole : List Char
  fraction : Option (List Char)
  unit : Option Char
  binary : Bool
  exponent : Option (List Char)

def matchFraction : List Char → Option (List Char)
  | '.' :: rest => some (rest.takeWhile Char.isDigit) |>.filter (· ≠ [])
  | _ => none

def matchUnit : List Char → Option Char × List Char
  | [] => (none, [])
  | symbol :: rest => if symbol ∈ "BKMGTPEe".toList then (some symbol, rest) else (none, symbol :: rest)

def matchBinary : List Char → Bool × List Char
  | 'i' :: rest => (true, rest)
  | rest => (false, rest)

def matchDigits (text : List Char) : Option (List Char) := some (text.takeWhile Char.isDigit) |>.filter (· ≠ [])

def matchSuffix (whole : List Char) (fraction : Option (List Char)) (text : List Char) : Groups :=
  let (unit, text) := matchUnit text
  let (binary, text) := matchBinary text
  { whole := whole, fraction := fraction, unit := unit, binary := binary, exponent := matchDigits text }

/-- The first match begins with the first digit. -/
def matchGroups (text : List Char) : Option Groups :=
  let text := text.dropWhile fun symbol => !symbol.isDigit
  if text = [] then none
  else
    let whole := text.takeWhile Char.isDigit
    let text := text.dropWhile Char.isDigit
    match matchFraction text with
    | some fraction => some (matchSuffix whole (some fraction) (text.drop (fraction.length + 1)))
    | none => some (matchSuffix whole none text)

/-- `parseFloat` of digits with or without a fraction. -/
def decimal (whole fraction : List Char) : ℚ := read whole + read fraction / 10 ^ fraction.length

def UNITS : List Char := ['B', 'K', 'M', 'G', 'T', 'P', 'E']

/-- The position in the list, or -1. -/
def indexOf (unit : Char) : Int := if unit ∈ UNITS then UNITS.idxOf unit else -1

def unitsOf (groups : Groups) : ℚ :=
  let number := decimal groups.whole (groups.fraction.getD [])
  match groups.unit with
  | none => number
  | some unit =>
    match groups.exponent with
    | some exponent => number * 10 ^ read exponent
    | none => if groups.binary then number * 1024 ^ indexOf unit else number * 1000 ^ indexOf unit

def parseUnitsOfBytes (value : List Char) : Option ℚ := if value = [] then some 0 else (matchGroups value).map unitsOf

def readSign : List Char → Bool × List Char
  | '-' :: rest => (true, rest)
  | '+' :: rest => (false, rest)
  | rest => (false, rest)

/-- The exponent after the number, which needs a digit. -/
def readExponent : List Char → Int
  | [] => 0
  | symbol :: rest =>
    if symbol = 'e' ∨ symbol = 'E' then
      let (negative, rest) := readSign rest
      let exponent : Int := read (rest.takeWhile Char.isDigit)
      if negative then -exponent else exponent
    else 0

def readFraction : List Char → List Char × List Char
  | '.' :: rest => (rest.takeWhile Char.isDigit, rest.dropWhile Char.isDigit)
  | rest => ([], rest)

/-- `parseFloat`, of the longest start of the text that is a number. -/
def parseFloat (text : List Char) : Option ℚ :=
  let (negative, text) := readSign text
  let whole := text.takeWhile Char.isDigit
  let text := text.dropWhile Char.isDigit
  let (fraction, text) := readFraction text
  if whole = [] ∧ fraction = [] then none
  else some ((if negative then -decimal whole fraction else decimal whole fraction) * 10 ^ readExponent text)

def cpuOf (value : List Char) (number : ℚ) : ℚ :=
  if value.getLast? = some 'n' then number
  else if value.getLast? = some 'u' then number * 1000
  else if value.getLast? = some 'm' then number * 1000 * 1000
  else number * 1000 * 1000 * 1000

def parseCpu (value : List Char) : Option ℚ := if value = [] then some 0 else (parseFloat value).map (cpuOf value)

/-! The grammar of quantities. -/

inductive Number where
  | integer (whole : Digits)
  | decimal (whole fraction : Digits)
  | trailing (whole : Digits)
  | leading (fraction : Digits)

inductive Sign where
  | plus
  | minus
deriving DecidableEq

inductive BinaryUnit where
  | Ki | Mi | Gi | Ti | Pi | Ei

inductive DecimalUnit where
  | n | u | m | k | M | G | T | P | E

inductive Suffix where
  | none
  | binary (unit : BinaryUnit)
  | decimal (unit : DecimalUnit)
  | exponent (upper : Bool) (sign : Option Sign) (digits : Digits)

structure Quantity where
  sign : Option Sign
  number : Number
  suffix : Suffix

def Sign.text : Option Sign → List Char
  | none => []
  | some .plus => ['+']
  | some .minus => ['-']

def Number.text : Number → List Char
  | integer whole => chars whole.1
  | decimal whole fraction => chars whole.1 ++ '.' :: chars fraction.1
  | trailing whole => chars whole.1 ++ ['.']
  | leading fraction => '.' :: chars fraction.1

def BinaryUnit.text : BinaryUnit → List Char
  | Ki => ['K', 'i']
  | Mi => ['M', 'i']
  | Gi => ['G', 'i']
  | Ti => ['T', 'i']
  | Pi => ['P', 'i']
  | Ei => ['E', 'i']

def DecimalUnit.text : DecimalUnit → List Char
  | n => ['n']
  | u => ['u']
  | m => ['m']
  | k => ['k']
  | M => ['M']
  | G => ['G']
  | T => ['T']
  | P => ['P']
  | E => ['E']

def Suffix.text : Suffix → List Char
  | none => []
  | binary unit => unit.text
  | decimal unit => unit.text
  | exponent upper sign digits => (if upper then 'E' else 'e') :: (Sign.text sign ++ chars digits.1)

def Quantity.text (quantity : Quantity) : List Char := Sign.text quantity.sign ++ (quantity.number.text ++ quantity.suffix.text)

def Number.value : Number → ℚ
  | integer whole => Decimal.value whole.1
  | decimal whole fraction => Decimal.value whole.1 + Decimal.value fraction.1 / 10 ^ fraction.1.length
  | trailing whole => Decimal.value whole.1
  | leading fraction => Decimal.value fraction.1 / 10 ^ fraction.1.length

def BinaryUnit.power : BinaryUnit → Nat
  | Ki => 1
  | Mi => 2
  | Gi => 3
  | Ti => 4
  | Pi => 5
  | Ei => 6

def DecimalUnit.power : DecimalUnit → Int
  | n => -9
  | u => -6
  | m => -3
  | k => 3
  | M => 6
  | G => 9
  | T => 12
  | P => 15
  | E => 18

def signed (sign : Option Sign) (number : Int) : Int := if sign = some .minus then -number else number

def Suffix.factor : Suffix → ℚ
  | none => 1
  | binary unit => 1024 ^ unit.power
  | decimal unit => 10 ^ unit.power
  | exponent _ sign digits => 10 ^ signed sign (Decimal.value digits.1)

def Quantity.value (quantity : Quantity) : ℚ :=
  (if quantity.sign = some .minus then -quantity.number.value else quantity.number.value) * quantity.suffix.factor

/-! What the groups of a quantity are. -/

/-- The factor that is read off a suffix. -/
def readFactor : Suffix → ℚ
  | .none => 1
  | .binary unit => 1024 ^ unit.power
  | .decimal .n => 1
  | .decimal .u => 1
  | .decimal .m => 1
  | .decimal .k => 1
  | .decimal unit => 10 ^ unit.power
  | .exponent _ none digits => 10 ^ Decimal.value digits.1
  | .exponent false (some _) _ => 10 ^ (-3 : Int)
  | .exponent true (some _) _ => 10 ^ 18

theorem suffix_head (suffix : Suffix) : ∀ symbol ∈ suffix.text.head?, symbol.isDigit = false ∧ symbol ≠ '.' := by
  match suffix with
  | .none => exact nofun
  | .binary unit => cases unit <;> simp [Suffix.text, BinaryUnit.text, Char.isDigit]
  | .decimal unit => cases unit <;> simp [Suffix.text, DecimalUnit.text, Char.isDigit]
  | .exponent upper sign digits => cases upper <;> simp [Suffix.text, Char.isDigit]

theorem suffix_stops (suffix : Suffix) : Stops suffix.text := fun symbol head => (suffix_head suffix symbol head).1

theorem matchFraction_suffix (suffix : Suffix) : matchFraction suffix.text = none := by
  have head := suffix_head suffix
  generalize suffix.text = text at head
  unfold matchFraction
  split
  · exact absurd rfl (head '.' rfl).2
  · rfl

theorem readFraction_suffix (suffix : Suffix) : readFraction suffix.text = ([], suffix.text) := by
  have head := suffix_head suffix
  generalize suffix.text = text at head
  unfold readFraction
  split
  · exact absurd rfl (head '.' rfl).2
  · rfl

theorem matchDigits_chars (digits : Digits) : matchDigits (chars digits.1) = some (chars digits.1) := by
  have all := @takeWhile_chars digits.1 [] nofun
  rw [List.append_nil] at all
  simp [matchDigits, all, digits.2]

theorem matchBinary_chars (digits : Digits) : matchBinary (chars digits.1) = (false, chars digits.1) := by
  have head : ∀ symbol ∈ (chars digits.1).head?, symbol.isDigit = true :=
    fun symbol first => isDigit_chars (List.mem_of_mem_head? first)
  generalize chars digits.1 = text at head
  unfold matchBinary
  split
  · exact absurd (head 'i' rfl) (by decide)
  · rfl

/-- The letter of a unit that the expression knows. -/
def largeUnit : DecimalUnit → Option Char
  | .n | .u | .m | .k => none
  | unit => unit.text.head?

section
variable (whole : List Char) (fraction : Option (List Char))

theorem matchSuffix_binary (unit : BinaryUnit) :
    matchSuffix whole fraction (Suffix.binary unit).text = ⟨whole, fraction, unit.text.head?, true, none⟩ := by
  cases unit <;> rfl

theorem matchSuffix_decimal (unit : DecimalUnit) : matchSuffix whole fraction (Suffix.decimal unit).text =
    ⟨whole, fraction, largeUnit unit, false, none⟩ := by
  cases unit <;> rfl

theorem matchSuffix_unsigned (upper : Bool) (digits : Digits) : matchSuffix whole fraction (Suffix.exponent upper none digits).text =
    ⟨whole, fraction, some (if upper then 'E' else 'e'), false, some (chars digits.1)⟩ := by
  have unit : matchUnit (Suffix.exponent upper none digits).text = (some (if upper then 'E' else 'e'), chars digits.1) := by
    cases upper <;> rfl
  simp only [matchSuffix, unit, matchBinary_chars, matchDigits_chars]

theorem matchSuffix_signed (upper : Bool) (sign : Sign) (digits : Digits) : matchSuffix whole fraction (Suffix.exponent upper (some sign) digits).text =
    ⟨whole, fraction, some (if upper then 'E' else 'e'), false, none⟩ := by
  cases upper <;> cases sign <;> rfl

theorem unitsOf_suffix (suffix : Suffix) :
    unitsOf (matchSuffix whole fraction suffix.text) = decimal whole (fraction.getD []) * readFactor suffix := by
  match suffix with
  | .none => exact (mul_one _).symm
  | .binary unit =>
    rw [matchSuffix_binary]
    cases unit <;> simp [unitsOf, indexOf, UNITS, BinaryUnit.text, BinaryUnit.power, readFactor]
  | .decimal unit =>
    rw [matchSuffix_decimal]
    cases unit <;> simp [unitsOf, indexOf, UNITS, largeUnit, DecimalUnit.text, DecimalUnit.power, readFactor] <;> norm_num
  | .exponent upper none digits =>
    rw [matchSuffix_unsigned]
    simp [unitsOf, readFactor]
  | .exponent upper (some sign) digits =>
    rw [matchSuffix_signed]
    cases upper <;> simp [unitsOf, indexOf, UNITS, readFactor] <;> norm_num

end

theorem unitsOf_point (whole : List Char) (rest : List Char) : unitsOf (matchSuffix whole none ('.' :: rest)) = decimal whole [] := rfl

/-! What the two functions make of a quantity. -/

/-- The number that the units apply to. -/
def readNumber : Number → ℚ
  | .leading fraction => Decimal.value fraction.1
  | number => number.value

theorem decimal_whole (whole : List (Fin 10)) : decimal (chars whole) [] = Decimal.value whole := by simp [decimal]

theorem decimal_both (whole fraction : List (Fin 10)) :
    decimal (chars whole) (chars fraction) = Decimal.value whole + Decimal.value fraction / 10 ^ fraction.length := by
  simp [decimal]

theorem number_starts (number : Number) (suffix : Suffix) (sign : Option Sign) :
    (Sign.text sign ++ (number.text ++ suffix.text)).dropWhile (fun symbol => !symbol.isDigit) =
      (number.text ++ suffix.text).dropWhile fun symbol => !symbol.isDigit := by
  match sign with
  | none => rfl
  | some .plus => rfl
  | some .minus => rfl

theorem text_ne_nil (quantity : Quantity) : quantity.text ≠ [] := by
  have number : quantity.number.text ≠ [] := by
    cases quantity.number with
    | integer whole => exact chars_ne_nil whole
    | decimal whole fraction => exact List.append_ne_nil_of_right_ne_nil _ (List.cons_ne_nil _ _)
    | trailing whole => exact List.append_ne_nil_of_right_ne_nil _ (List.cons_ne_nil _ _)
    | leading fraction => exact List.cons_ne_nil _ _
  unfold Quantity.text
  simp [number]

theorem matchGroups_digits (digits : Digits) {rest : List Char} (stops : Stops rest) :
    matchGroups (chars digits.1 ++ rest) = match matchFraction rest with
      | some fraction => some (matchSuffix (chars digits.1) (some fraction) (rest.drop (fraction.length + 1)))
      | none => some (matchSuffix (chars digits.1) none rest) := by
  have nonempty : chars digits.1 ++ rest ≠ [] := by simp [chars_ne_nil digits]
  unfold matchGroups
  simp only [skip_chars, if_neg nonempty, takeWhile_chars digits.1 stops, dropWhile_chars digits.1 stops]

theorem parseUnits_text (quantity : Quantity) : parseUnitsOfBytes quantity.text = some (readNumber quantity.number *
    match quantity.number with
    | .trailing _ => 1
    | _ => readFactor quantity.suffix) := by
  obtain ⟨sign, number, suffix⟩ := quantity
  have skipped : matchGroups (Quantity.text ⟨sign, number, suffix⟩) = matchGroups (number.text ++ suffix.text) := by
    unfold matchGroups Quantity.text
    rw [number_starts]
  rw [parseUnitsOfBytes, if_neg (text_ne_nil _), skipped]
  have stops := suffix_stops suffix
  match number with
  | .integer whole =>
    rw [Number.text, matchGroups_digits whole stops, matchFraction_suffix]
    simp only [Option.map_some, unitsOf_suffix, Option.getD_none, decimal_whole]
    rfl
  | .decimal whole fraction =>
    have point : Stops ('.' :: (chars fraction.1 ++ suffix.text)) := by simp [Stops, Char.isDigit]
    have found : matchFraction ('.' :: (chars fraction.1 ++ suffix.text)) = some (chars fraction.1) := by
      simp [matchFraction, takeWhile_chars fraction.1 stops, fraction.2]
    rw [Number.text, List.append_assoc, List.cons_append, matchGroups_digits whole point, found]
    simp only [List.drop_succ_cons, List.drop_left, Option.map_some, unitsOf_suffix, Option.getD_some, decimal_both]
    rfl
  | .trailing whole =>
    have point : Stops ('.' :: suffix.text) := by simp [Stops, Char.isDigit]
    have missed : matchFraction ('.' :: suffix.text) = none := by
      have nothing := takeWhile_chars [] stops
      simp only [chars, List.map_nil, List.nil_append] at nothing
      simp [matchFraction, nothing]
    rw [Number.text, List.append_assoc, List.singleton_append, matchGroups_digits whole point, missed]
    simp only [Option.map_some, unitsOf_point, decimal_whole, mul_one]
    rfl
  | .leading fraction =>
    have skip : matchGroups ('.' :: (chars fraction.1 ++ suffix.text)) = matchGroups (chars fraction.1 ++ suffix.text) := by
      unfold matchGroups
      rw [List.dropWhile_cons_of_pos (by decide)]
    rw [Number.text, List.cons_append, skip, matchGroups_digits fraction stops, matchFraction_suffix]
    simp only [Option.map_some, unitsOf_suffix, Option.getD_none, decimal_whole]
    rfl

/-- The power of ten that a number carries itself. -/
def ownPower : Suffix → Int
  | .exponent _ sign digits => signed sign (Decimal.value digits.1)
  | _ => 0

theorem readExponent_suffix (suffix : Suffix) : readExponent suffix.text = ownPower suffix := by
  match suffix with
  | .none => rfl
  | .binary unit => cases unit <;> rfl
  | .decimal unit => cases unit <;> rfl
  | .exponent upper sign digits =>
    have all := @takeWhile_chars digits.1 [] nofun
    rw [List.append_nil] at all
    have plain : readSign (chars digits.1) = (false, chars digits.1) := by
      have head : ∀ symbol ∈ (chars digits.1).head?, symbol.isDigit = true :=
        fun symbol first => isDigit_chars (List.mem_of_mem_head? first)
      generalize chars digits.1 = text at head
      unfold readSign
      split
      · exact absurd (head '-' rfl) (by decide)
      · exact absurd (head '+' rfl) (by decide)
      · rfl
    match sign with
    | none => cases upper <;> simp [readExponent, Suffix.text, Sign.text, plain, all, ownPower, signed]
    | some .plus => cases upper <;> simp [readExponent, Suffix.text, Sign.text, readSign, all, ownPower, signed]
    | some .minus => cases upper <;> simp [readExponent, Suffix.text, Sign.text, readSign, all, ownPower, signed]

theorem readSign_text (sign : Option Sign) (number : Number) (rest : List Char) :
    readSign (Sign.text sign ++ (number.text ++ rest)) = (decide (sign = some .minus), number.text ++ rest) := by
  match sign with
  | some .plus => rfl
  | some .minus => rfl
  | none =>
    have head : ∀ symbol ∈ (number.text ++ rest).head?, symbol.isDigit = true ∨ symbol = '.' := by
      have digits : ∀ (whole : Digits) (more : List Char), ∀ symbol ∈ (chars whole.1 ++ more).head?, symbol.isDigit = true := by
        intro whole more symbol first
        rw [List.head?_append_of_ne_nil _ (chars_ne_nil whole)] at first
        exact isDigit_chars (List.mem_of_mem_head? first)
      intro symbol first
      match number with
      | .integer whole => exact .inl (digits whole rest symbol first)
      | .decimal whole fraction =>
        rw [Number.text, List.append_assoc] at first
        exact .inl (digits whole _ symbol first)
      | .trailing whole =>
        rw [Number.text, List.append_assoc] at first
        exact .inl (digits whole _ symbol first)
      | .leading fraction => exact .inr (Option.some.inj first).symm
    rw [Sign.text, List.nil_append]
    generalize number.text ++ rest = text at head
    unfold readSign
    split
    · exact absurd (head '-' rfl) (by decide)
    · exact absurd (head '+' rfl) (by decide)
    · rfl

theorem parseFloat_text (quantity : Quantity) : parseFloat quantity.text =
    some ((if quantity.sign = some .minus then -quantity.number.value else quantity.number.value) * 10 ^ ownPower quantity.suffix) := by
  obtain ⟨sign, number, suffix⟩ := quantity
  have stops := suffix_stops suffix
  have nothing : suffix.text.takeWhile Char.isDigit = [] ∧ suffix.text.dropWhile Char.isDigit = suffix.text :=
    ⟨takeWhile_chars [] stops, dropWhile_chars [] stops⟩
  rw [parseFloat, Quantity.text, readSign_text]
  match number with
  | .integer whole =>
    simp only [Number.text, takeWhile_chars whole.1 stops, dropWhile_chars whole.1 stops, readFraction_suffix, chars_ne_nil whole,
      false_and, if_false, decide_eq_true_eq, decimal_whole, readExponent_suffix]
    rfl
  | .decimal whole fraction =>
    have point : Stops ('.' :: (chars fraction.1 ++ suffix.text)) := by simp [Stops, Char.isDigit]
    simp only [Number.text, List.append_assoc, List.cons_append, takeWhile_chars whole.1 point, dropWhile_chars whole.1 point, readFraction,
      takeWhile_chars fraction.1 stops, dropWhile_chars fraction.1 stops, chars_ne_nil whole, false_and, if_false, decide_eq_true_eq,
      decimal_both, readExponent_suffix]
    rfl
  | .trailing whole =>
    have point : Stops ('.' :: suffix.text) := by simp [Stops, Char.isDigit]
    simp only [Number.text, List.append_assoc, List.singleton_append, takeWhile_chars whole.1 point, dropWhile_chars whole.1 point, readFraction,
      nothing, chars_ne_nil whole, false_and, if_false, decide_eq_true_eq, decimal_whole, readExponent_suffix]
    rfl
  | .leading fraction =>
    have point : Stops ('.' :: (chars fraction.1 ++ suffix.text)) := by simp [Stops, Char.isDigit]
    have before : ('.' :: (chars fraction.1 ++ suffix.text)).takeWhile Char.isDigit = [] := takeWhile_chars [] point
    have after : ('.' :: (chars fraction.1 ++ suffix.text)).dropWhile Char.isDigit = '.' :: (chars fraction.1 ++ suffix.text) :=
      dropWhile_chars [] point
    simp only [Number.text, List.cons_append, before, after, readFraction, takeWhile_chars fraction.1 stops, dropWhile_chars fraction.1 stops,
      chars_ne_nil fraction, and_false, if_false, decide_eq_true_eq, readExponent_suffix]
    simp [decimal, Number.value]

/-- The factor to nano-cores that the last letter stands for. -/
def cpuFactor : Suffix → ℚ
  | .decimal .n => 1
  | .decimal .u => 1000
  | .decimal .m => 1000000
  | _ => 1000000000

theorem last_digit (before : List Char) (digits : Digits) :
    ∃ symbol, (before ++ chars digits.1).getLast? = some symbol ∧ (symbol.isDigit = true ∨ symbol = '.') := by
  have nonempty := chars_ne_nil digits
  refine ⟨(chars digits.1).getLast nonempty, ?_, .inl (isDigit_chars (List.getLast_mem nonempty))⟩
  rw [List.getLast?_append_of_ne_nil _ nonempty, List.getLast?_eq_some_getLast nonempty]

theorem number_last (before : List Char) (number : Number) :
    ∃ symbol, (before ++ number.text).getLast? = some symbol ∧ (symbol.isDigit = true ∨ symbol = '.') := by
  match number with
  | .integer whole => exact last_digit before whole
  | .decimal whole fraction =>
    rw [Number.text, ← List.singleton_append, ← List.append_assoc, ← List.append_assoc]
    exact last_digit _ fraction
  | .trailing whole => exact ⟨'.', by simp [Number.text], .inr rfl⟩
  | .leading fraction =>
    rw [Number.text, ← List.singleton_append, ← List.append_assoc]
    exact last_digit _ fraction

theorem cpuOf_number {text : List Char} (number : ℚ) (ends : ∃ symbol, text.getLast? = some symbol ∧ (symbol.isDigit = true ∨ symbol = '.')) :
    cpuOf text number = number * 1000000000 := by
  obtain ⟨symbol, last, kind⟩ := ends
  have other : symbol ≠ 'n' ∧ symbol ≠ 'u' ∧ symbol ≠ 'm' := by
    rcases kind with digit | rfl
    · refine ⟨?_, ?_, ?_⟩ <;> rintro rfl <;> exact absurd digit (by decide)
    · decide
  simp only [cpuOf, last, Option.some.injEq, other, if_false]
  ring

theorem cpuOf_text (quantity : Quantity) (number : ℚ) : cpuOf quantity.text number = number * cpuFactor quantity.suffix := by
  obtain ⟨sign, whole, suffix⟩ := quantity
  unfold Quantity.text
  rw [← List.append_assoc]
  match suffix with
  | .none =>
    rw [Suffix.text, List.append_nil]
    exact cpuOf_number number (number_last _ whole)
  | .binary unit =>
    cases unit <;> simp [cpuOf, cpuFactor, Suffix.text, BinaryUnit.text, List.getLast?_append] <;> ring
  | .decimal unit =>
    cases unit <;> simp [cpuOf, cpuFactor, Suffix.text, DecimalUnit.text, List.getLast?_append] <;> ring
  | .exponent upper sign' digits =>
    have split : Sign.text sign ++ whole.text ++ (Suffix.exponent upper sign' digits).text =
        (Sign.text sign ++ whole.text ++ (if upper then 'E' else 'e') :: Sign.text sign') ++ chars digits.1 := by
      simp [Suffix.text]
    rw [split]
    exact cpuOf_number number (last_digit _ digits)

/-! Which quantities are read by value. -/

/-- The factor that is read is that of the suffix, after a shift of the point. -/
def Suffix.Reads (shift : Nat) : Suffix → Prop
  | none => shift = 0
  | binary _ => shift = 0
  | decimal .n => False
  | decimal .u => False
  | decimal .m => False
  | decimal .k => shift = 3
  | decimal _ => shift = 0
  | exponent _ .none _ => shift = 0
  | exponent false (some sign) digits => signed sign (Decimal.value digits.1) = shift - 3
  | exponent true (some sign) digits => signed sign (Decimal.value digits.1) = shift + 18

def Suffix.IsOne : Suffix → Prop
  | none => True
  | exponent _ _ digits => Decimal.value digits.1 = 0
  | _ => False

/-- A quantity of zero, or one without a minus whose suffix is read: after a number that
ends with its point none is, and one that begins with it is read as if it did not. -/
def BytesRead (quantity : Quantity) : Prop :=
  quantity.number.value = 0 ∨ quantity.sign ≠ some .minus ∧
    match quantity.number with
    | .integer _ => quantity.suffix.Reads 0
    | .decimal _ _ => quantity.suffix.Reads 0
    | .trailing _ => quantity.suffix.IsOne
    | .leading fraction => quantity.suffix.Reads fraction.1.length

/-- A quantity of zero, or one with none of the suffixes from `k` and `Ki` on. -/
def CpuRead (quantity : Quantity) : Prop :=
  quantity.number.value = 0 ∨
    match quantity.suffix with
    | .none => True
    | .binary _ => False
    | .decimal .n => True
    | .decimal .u => True
    | .decimal .m => True
    | .decimal _ => False
    | .exponent _ _ _ => True

theorem ten_zpow_inj {first second : Int} : (10 : ℚ) ^ first = 10 ^ second ↔ first = second :=
  (zpow_right_injective₀ (by norm_num) (by norm_num)).eq_iff

/-- The factor without the powers of ten. -/
def base : Suffix → ℚ
  | .binary unit => 1024 ^ unit.power
  | _ => 1

def power : Suffix → Int
  | .decimal unit => unit.power
  | .exponent _ sign digits => signed sign (Decimal.value digits.1)
  | _ => 0

def readPower : Suffix → Int
  | .decimal .n => 0
  | .decimal .u => 0
  | .decimal .m => 0
  | .decimal .k => 0
  | .decimal unit => unit.power
  | .exponent _ none digits => Decimal.value digits.1
  | .exponent false (some _) _ => -3
  | .exponent true (some _) _ => 18
  | _ => 0

theorem base_pos (suffix : Suffix) : 0 < base suffix := by
  cases suffix <;> simp [base]

theorem factor_eq (suffix : Suffix) : suffix.factor = base suffix * 10 ^ power suffix := by
  cases suffix <;> simp [Suffix.factor, base, power]

theorem readFactor_eq (suffix : Suffix) : readFactor suffix = base suffix * 10 ^ readPower suffix := by
  match suffix with
  | .none => simp [readFactor, base, readPower]
  | .binary unit => simp [readFactor, base, readPower]
  | .decimal unit => cases unit <;> simp [readFactor, base, readPower]
  | .exponent _ none digits => simp [readFactor, base, readPower]
  | .exponent false (some _) _ => simp [readFactor, base, readPower]
  | .exponent true (some _) _ => simp [readFactor, base, readPower]

theorem factor_pos (suffix : Suffix) : 0 < suffix.factor := by
  rw [factor_eq]
  exact mul_pos (base_pos suffix) (zpow_pos (by norm_num) _)

theorem readFactor_pos (suffix : Suffix) : 0 < readFactor suffix := by
  rw [readFactor_eq]
  exact mul_pos (base_pos suffix) (zpow_pos (by norm_num) _)

theorem reads_iff (suffix : Suffix) (shift : Nat) : readFactor suffix * 10 ^ shift = suffix.factor ↔ suffix.Reads shift := by
  have powers : readFactor suffix * 10 ^ shift = suffix.factor ↔ readPower suffix + shift = power suffix := by
    rw [factor_eq, readFactor_eq, mul_assoc, ← zpow_natCast, ← zpow_add₀ (by norm_num), mul_right_inj' (base_pos suffix).ne', ten_zpow_inj]
  rw [powers]
  match suffix with
  | .none => simp [readPower, power, Suffix.Reads]
  | .binary unit => simp [readPower, power, Suffix.Reads]
  | .decimal unit => cases unit <;> simp [readPower, power, DecimalUnit.power, Suffix.Reads]; omega
  | .exponent _ none digits => simp [readPower, power, signed, Suffix.Reads]
  | .exponent false (some _) _ =>
    simp only [readPower, power, Suffix.Reads]
    omega
  | .exponent true (some _) _ =>
    simp only [readPower, power, Suffix.Reads]
    omega

theorem factor_one_iff (suffix : Suffix) : suffix.factor = 1 ↔ suffix.IsOne := by
  match suffix with
  | .none => simp [Suffix.factor, Suffix.IsOne]
  | .binary unit => cases unit <;> simp [Suffix.factor, BinaryUnit.power, Suffix.IsOne] <;> norm_num
  | .decimal unit => cases unit <;> simp [Suffix.factor, DecimalUnit.power, Suffix.IsOne] <;> norm_num
  | .exponent upper sign digits =>
    have one := @ten_zpow_inj (signed sign (Decimal.value digits.1)) 0
    rw [zpow_zero] at one
    rw [Suffix.factor, one, Suffix.IsOne, signed]
    split <;> omega

theorem value_nonneg (number : Number) : 0 ≤ number.value := by
  cases number <;> simp only [Number.value] <;> positivity

theorem units_iff {sign : Option Sign} {number read : ℚ} {factor factor' : ℚ} (number_pos : 0 < number) (read_pos : 0 < read) (pos : 0 < factor)
    (pos' : 0 < factor') : read * factor' = (if sign = some .minus then -number else number) * factor ↔
      sign ≠ some .minus ∧ read * factor' = number * factor := by
  split
  next minus =>
    have negative : -number * factor < 0 := mul_neg_of_neg_of_pos (neg_neg_of_pos number_pos) pos
    have positive : 0 < read * factor' := mul_pos read_pos pos'
    refine iff_of_false (fun same => ?_) (fun both => both.1 minus)
    rw [same] at positive
    exact lt_asymm positive negative
  next plain => exact (and_iff_right plain).symm

theorem readNumber_pos {number : Number} (pos : 0 < number.value) : 0 < readNumber number := by
  match number with
  | .integer whole => exact pos
  | .decimal whole fraction => exact pos
  | .trailing whole => exact pos
  | .leading fraction =>
    rw [Number.value, div_pos_iff_of_pos_right (by positivity)] at pos
    exact pos

theorem units_read_iff (quantity : Quantity) : parseUnitsOfBytes quantity.text = some quantity.value ↔ BytesRead quantity := by
  obtain ⟨sign, number, suffix⟩ := quantity
  rw [parseUnits_text, Option.some.injEq, BytesRead, Quantity.value]
  dsimp only
  rcases (value_nonneg number).eq_or_lt with zero | pos
  · have readZero : readNumber number = 0 := by
      match number with
      | .integer whole => exact zero.symm
      | .decimal whole fraction => exact zero.symm
      | .trailing whole => exact zero.symm
      | .leading fraction =>
        rw [Number.value, eq_comm, div_eq_zero_iff, or_iff_left (by positivity)] at zero
        exact zero
    refine iff_of_true ?_ (.inl zero.symm)
    rw [readZero, ← zero, neg_zero, ite_self, zero_mul, zero_mul]
  · have readPos := readNumber_pos pos
    rw [or_iff_right pos.ne']
    match number with
    | .integer whole =>
      refine (units_iff pos readPos (factor_pos suffix) (readFactor_pos suffix)).trans (and_congr_right fun _ => ?_)
      refine Iff.trans ?_ (reads_iff suffix 0)
      rw [pow_zero, mul_one]
      exact mul_right_inj' pos.ne'
    | .decimal whole fraction =>
      refine (units_iff pos readPos (factor_pos suffix) (readFactor_pos suffix)).trans (and_congr_right fun _ => ?_)
      refine Iff.trans ?_ (reads_iff suffix 0)
      rw [pow_zero, mul_one]
      exact mul_right_inj' pos.ne'
    | .trailing whole =>
      refine (units_iff pos readPos (factor_pos suffix) one_pos).trans (and_congr_right fun _ => ?_)
      refine Iff.trans ?_ (factor_one_iff suffix)
      rw [eq_comm]
      exact mul_eq_mul_left_iff.trans (or_iff_left pos.ne')
    | .leading fraction =>
      refine (units_iff pos readPos (factor_pos suffix) (readFactor_pos suffix)).trans (and_congr_right fun _ => ?_)
      have digits : (Decimal.value fraction.1 : ℚ) ≠ 0 := readPos.ne'
      have ten : (10 : ℚ) ^ fraction.1.length ≠ 0 := by positivity
      refine Iff.trans ?_ (reads_iff suffix fraction.1.length)
      rw [readNumber, Number.value, div_mul_eq_mul_div, eq_div_iff ten, mul_assoc, mul_right_inj' digits]

theorem cpu_read_iff (quantity : Quantity) : parseCpu quantity.text = some (quantity.value * 10 ^ 9) ↔ CpuRead quantity := by
  obtain ⟨sign, number, suffix⟩ := quantity
  rw [parseCpu, if_neg (text_ne_nil _), parseFloat_text, Option.map_some, Option.some.injEq, cpuOf_text, CpuRead, Quantity.value]
  dsimp only
  have zero : (if sign = some .minus then -number.value else number.value) = 0 ↔ number.value = 0 := by
    split
    · exact neg_eq_zero
    · exact Iff.rfl
  rw [mul_assoc, mul_assoc, mul_eq_mul_left_iff, zero, or_comm]
  refine or_congr Iff.rfl ?_
  match suffix with
  | .none => simp [ownPower, cpuFactor, Suffix.factor]; norm_num
  | .binary unit => cases unit <;> simp [ownPower, cpuFactor, Suffix.factor, BinaryUnit.power] <;> norm_num
  | .decimal unit => cases unit <;> simp [ownPower, cpuFactor, Suffix.factor, DecimalUnit.power] <;> norm_num
  | .exponent upper sign digits => simp [ownPower, cpuFactor, Suffix.factor]; norm_num

/-- Both functions read a quantity by value where its sign, number and suffix are among
those that they know, and there alone. -/
theorem quantity_read_iff (quantity : Quantity) :
    (parseUnitsOfBytes quantity.text = some quantity.value ↔ BytesRead quantity) ∧
      (parseCpu quantity.text = some (quantity.value * 10 ^ 9) ↔ CpuRead quantity) :=
  ⟨units_read_iff quantity, cpu_read_iff quantity⟩

/-- A thousand bytes with the suffix `k` are read as one. -/
theorem thousand_read_as_one : ¬∀ quantity : Quantity,
    parseUnitsOfBytes quantity.text = some quantity.value ∧ parseCpu quantity.text = some (quantity.value * 10 ^ 9) := by
  intro right
  have read := (right ⟨none, .integer ⟨[1], List.cons_ne_nil _ _⟩, .decimal .k⟩).1
  rw [parseUnits_text, Option.some.injEq] at read
  simp [readNumber, readFactor, Quantity.value, Number.value, Suffix.factor, DecimalUnit.power, Decimal.value] at read
  norm_num at read

end K8Sense.Frontend.Units
