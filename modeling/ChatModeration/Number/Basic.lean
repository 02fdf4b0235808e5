/-
ChatModeration.Number.Basic — binary floating-point numbers of 64 bits.

A finite number is kept as the rational it denotes; the operations compute
exactly and round once, to nearest with ties to even (`Number.ofRat`).  Zero
has a sign, so the negative zero is a value of its own; the two zeros compare
equal.  Nothing compares with `nan`, and every operation on it gives `nan`.
-/

namespace ChatModeration

inductive Number where
  | nan
  | infinity (negative : Bool)
  | negativeZero
  | finite (value : Rat)
deriving DecidableEq, Inhabited

namespace Number

/-! ## § Rounding -/

/-- The integer nearest to a rational; of two equally near ones the even one. -/
def nearestEven (q : Rat) : Int :=
  let below := q.floor
  let excess := q - below
  if excess < 1 / 2 then below
  else if 1 / 2 < excess then below + 1
  else if below % 2 = 0 then below
  else below + 1

/-- The exponent `e` with `2 ^ e ≤ |q| < 2 ^ (e + 1)`, for `q` other than zero. -/
def binaryExponent (q : Rat) : Int :=
  let estimate : Int := (Nat.log2 q.num.natAbs : Int) - Nat.log2 q.den
  if q.num.natAbs * Nat.pow 2 (-estimate).toNat < q.den * Nat.pow 2 estimate.toNat then
    estimate - 1
  else estimate

/-- The distance between neighbouring numbers around `q`: 53 significant bits, and never less than
the least positive number. -/
def spacing (q : Rat) : Rat := (2 : Rat) ^ (max (binaryExponent q - 52) (-1074))

/-- The number nearest to a rational; beyond the greatest number, an infinity. -/
def ofRat (q : Rat) : Number :=
  if q = 0 then finite 0
  else
    let rounded := nearestEven (q / spacing q) * spacing q
    if rounded = 0 then (if q < 0 then negativeZero else finite 0)
    else if (2 : Rat) ^ (1024 : Nat) ≤ rounded then infinity false
    else if rounded ≤ -(2 : Rat) ^ (1024 : Nat) then infinity true
    else finite rounded

def ofInt (n : Int) : Number := ofRat n

instance (n : Nat) : OfNat Number n := ⟨finite n⟩

/-! ## § Views -/

/-- The rational that a finite number denotes. -/
def toRat? : Number → Option Rat
  | finite q => some q
  | negativeZero => some 0
  | _ => none

def isNegative : Number → Bool
  | infinity negative => negative
  | negativeZero => true
  | finite q => q < 0
  | nan => false

def isFinite (x : Number) : Bool := x.toRat?.isSome

/-- The integer that a number denotes, if it denotes one. -/
def toInt? (x : Number) : Option Int :=
  match x.toRat? with
  | some q => if q.den = 1 then some q.num else none
  | none => none

def isInteger (x : Number) : Bool := x.toInt?.isSome

/-! ## § Order -/

/-- Strictly below. -/
def lt : Number → Number → Bool
  | nan, _ => false
  | _, nan => false
  | infinity m, infinity n => m && !n
  | infinity m, _ => m
  | _, infinity n => !n
  | x, y => x.toRat?.getD 0 < y.toRat?.getD 0

/-- The greater number; `nan` wins over everything, and of the two zeros the positive one is the
greater. -/
def max (x y : Number) : Number :=
  if x = nan ∨ y = nan then nan
  else if lt x y then y
  else if lt y x then x
  else if x = negativeZero then y
  else x

/-- The lesser number; `nan` wins over everything, and of the two zeros the negative one is the
lesser. -/
def min (x y : Number) : Number :=
  if x = nan ∨ y = nan then nan
  else if lt x y then x
  else if lt y x then y
  else if y = negativeZero then y
  else x

/-- Whether two numbers are the same key: `nan` is the same as itself, and the two zeros are one. -/
def sameKey : Number → Number → Bool
  | nan, nan => true
  | nan, _ => false
  | _, nan => false
  | x, y => !lt x y && !lt y x

/-! ## § Arithmetic -/

def neg : Number → Number
  | nan => nan
  | infinity n => infinity (!n)
  | negativeZero => finite 0
  | finite q => if q = 0 then negativeZero else finite (-q)

def add : Number → Number → Number
  | nan, _ => nan
  | _, nan => nan
  | infinity m, infinity n => if m = n then infinity m else nan
  | infinity m, _ => infinity m
  | _, infinity n => infinity n
  | negativeZero, y => y
  | x, negativeZero => x
  | finite p, finite q => ofRat (p + q)

def sub (x y : Number) : Number := add x (neg y)

def mul (x y : Number) : Number :=
  let negative := x.isNegative != y.isNegative
  match x, y with
  | nan, _ => nan
  | _, nan => nan
  | infinity _, y => if y.toRat? = some 0 then nan else infinity negative
  | x, infinity _ => if x.toRat? = some 0 then nan else infinity negative
  | x, y =>
    let product := x.toRat?.getD 0 * y.toRat?.getD 0
    if product = 0 then (if negative then negativeZero else finite 0) else ofRat product

instance : Add Number := ⟨add⟩
instance : Sub Number := ⟨sub⟩
instance : Mul Number := ⟨mul⟩
instance : Neg Number := ⟨neg⟩

end Number

end ChatModeration
