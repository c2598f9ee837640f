import ApiSurface.Settings.Datum
import ApiSurface.Toml.Quoted

/-!
# Numbers, dates and times of TOML texts

No setting is a fraction, a date or a time, so these are only checked: for their form, and a
positive fraction also for its size. Whole numbers have at most 64 bits.

Main definitions: `number`, `exceedsDouble`.
-/
namespace ApiSurface.Toml

/-- The digits at the front of the letters; an underscore may stand between two of them. -/
def digitsOf (p : Char → Bool) : List Char → List Char × List Char
  | '_' :: d :: rest =>
    if p d then
      let (digits, rest) := digitsOf p rest
      (d :: digits, rest)
    else ([], '_' :: d :: rest)
  | c :: rest =>
    if p c then
      let (digits, rest) := digitsOf p rest
      (c :: digits, rest)
    else ([], c :: rest)
  | [] => ([], [])

/-- One digit or more. -/
def digits (p : Char → Bool) : Reader (List Char) := do
  let first ← next p
  let others ← fun letters => some (digitsOf p letters)
  pure (first :: others)

/-- The number of some digits. -/
def valueOf (base : Nat) (digits : List Char) : Nat :=
  digits.foldl (fun n c => n * base + (hexValue? c).getD 0) 0

/-- A sign, if one stands here; `true` for a minus. -/
def sign : Reader Bool := do
  match ← ahead? with
  | some '-' => do
    expect ['-']
    pure true
  | some '+' => do
    expect ['+']
    pure false
  | _ => pure false

/-- Decimal digits without a superfluous zero at their front. -/
def decimalDigits : Reader (List Char) := do
  match ← ahead? with
  | some '0' => do
    expect ['0']
    pure ['0']
  | _ => digits Char.isDigit

/-- A number within 64 bits. -/
def bounded (n : Int) : Reader Datum :=
  if -0x8000000000000000 ≤ n ∧ n < 0x8000000000000000 then pure (.int n) else failure

/-- A whole number in decimal digits. -/
def decimal : Reader Datum := do
  let isNegative ← sign
  let ds ← decimalDigits
  let n : Int := valueOf 10 ds
  bounded (if isNegative then -n else n)

/-- A whole number in another base, after a zero and the letter of the base. -/
def based (base : Nat) : Reader Datum := do
  let _ ← next fun _ => true
  let _ ← next fun _ => true
  let ds ← digits fun c => (hexValue? c).any (· < base)
  bounded (valueOf base ds)

/-- The exponent of a power of ten. -/
def exponent : Reader Int := do
  let _ ← next fun c => c = 'e' || c = 'E'
  let isNegative ← sign
  let ds ← digits Char.isDigit
  let n : Int := valueOf 10 ds
  pure (if isNegative then -n else n)

/-- The least number too large for the 64-bit binary format: halfway from its largest number to
the power of two after it. -/
def doubleLimit : Nat := Nat.pow 2 1024 - Nat.pow 2 970

/-- The number `significand · 10 ^ exponent` is too large for the 64-bit binary format. Numbers
that their digits show to be far from the limit are not computed. -/
def exceedsDouble (significand : Nat) (exponent : Int) : Bool :=
  let places : Int := (Nat.toDigits 10 significand).length + exponent
  if significand = 0 ∨ places < 309 then false
  else if 309 < places then true
  else if 0 ≤ exponent then doubleLimit ≤ significand * Nat.pow 10 exponent.toNat
  else doubleLimit * Nat.pow 10 (-exponent).toNat ≤ significand

/-- Consume something if it stands here. -/
def orNothing (r : Reader Unit) : Reader Unit := r <|> pure ()

/-- A number with a fraction, a power of ten, or both. A positive one may not be too large for
the 64-bit binary format. -/
def fraction : Reader Datum := do
  let isNegative ← sign
  let whole ← decimalDigits
  let (part, power) ← match ← ahead? with
    | some '.' => do
      expect ['.']
      let part ← digits Char.isDigit
      let power ← exponent <|> pure 0
      pure (part, power)
    | _ => do
      let power ← exponent
      pure ([], power)
  if ! isNegative && exceedsDouble (valueOf 10 (whole ++ part)) (power - part.length) then failure
  else pure .fraction

/-- One of the two words for numbers that are none. -/
def wordNumber : Reader Datum := do
  let _ ← sign
  expect "inf".toList <|> expect "nan".toList
  pure .fraction

/-- A number of so many decimal digits within bounds. -/
def fixedDigits (count low high : Nat) : Reader Nat := fun letters =>
  let ds := letters.take count
  let n := valueOf 10 ds
  if ds.length = count ∧ ds.all Char.isDigit ∧ low ≤ n ∧ n ≤ high then
    some (n, letters.drop count)
  else none

/-- The number of days of a month. -/
def daysOf (year month : Nat) : Nat :=
  if month = 2 then
    if year % 4 = 0 ∧ (year % 100 ≠ 0 ∨ year % 400 = 0) then 29 else 28
  else if month = 4 ∨ month = 6 ∨ month = 9 ∨ month = 11 then 30
  else 31

/-- A date. -/
def date : Reader Unit := do
  let year ← fixedDigits 4 0 9999
  expect ['-']
  let month ← fixedDigits 2 1 12
  expect ['-']
  let _ ← fixedDigits 2 1 (daysOf year month)
  pure ()

/-- A time of day. -/
def time : Reader Unit := do
  let _ ← fixedDigits 2 0 23
  expect [':']
  let _ ← fixedDigits 2 0 59
  expect [':']
  let _ ← fixedDigits 2 0 60
  orNothing do
    expect ['.']
    let _ ← next Char.isDigit
    fun letters => some ((), letters.dropWhile Char.isDigit)

/-- The difference from universal time. -/
def offset : Reader Unit := do
  let c ← next fun c => c = 'Z' || c = 'z' || c = '+' || c = '-'
  if c = '+' ∨ c = '-' then do
    let _ ← fixedDigits 2 0 23
    expect [':']
    let _ ← fixedDigits 2 0 59
    pure ()

/-- A date, a time, or both. -/
def moment : Reader Datum := do
  let dated : Reader Unit := do
    date
    orNothing do
      let _ ← next fun c => c = 'T' || c = 't' || c = ' '
      time
      orNothing offset
  dated <|> time
  pure .moment

/-- A number, a date or a time. The longest form that fits is the one that is meant. -/
def number : Reader Datum := fun letters =>
  match letters with
  | '0' :: 'x' :: _ => based 16 letters
  | '0' :: 'o' :: _ => based 8 letters
  | '0' :: 'b' :: _ => based 2 letters
  | _ => (moment <|> fraction <|> wordNumber <|> decimal) letters

end ApiSurface.Toml
