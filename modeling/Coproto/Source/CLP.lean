import Mathlib.Algebra.Group.Int.Defs
import Mathlib.Algebra.Group.Nat.Defs
import Mathlib.Data.Int.Basic

/-!
# getManyOr

coproto/Common/CLP.h:150-189, CLP.cpp:98-101: the values of a key as integers,
`a..b` being a range. Extraction from a `stringstream` follows the C++ standard. A
`Char` stands for a byte.
-/
namespace Coproto

/-- `endless` is a loop that is not done after as many rounds as there are values. -/
inductive CLPFault where
  | signedOverflow | endless
  deriving DecidableEq, Repr

/-- What `>>` reads into a type: a number, a character (the character types), or the
numbers 0 and 1 (`bool`). -/
inductive Extraction where
  | number | character | flag
  deriving DecidableEq, Repr

/-- The types there are. -/
def Extraction.Has : Extraction → Nat → Bool → Bool → Prop
  | .number, bits, _, _ => 16 ≤ bits
  | .character, bits, _, promoted => bits = 8 ∧ promoted = true
  | .flag, bits, signed, promoted => bits = 1 ∧ signed = false ∧ promoted = true

/-- An integral type; arithmetic on the ones that are `promoted` is done in `int`. -/
structure IntegralType where
  bits : Nat
  signed : Bool
  promoted : Bool
  reads : Extraction
  has : reads.Has bits signed promoted

namespace IntegralType
variable (T : IntegralType)

def min : Int := if T.signed then -2 ^ (T.bits - 1) else 0

def max : Int := if T.signed then 2 ^ (T.bits - 1) - 1 else 2 ^ T.bits - 1

def fits (v : Int) : Bool := T.min ≤ v ∧ v ≤ T.max

/-- Conversion to the type. -/
def convert (v : Int) : Int :=
  if T.reads = .flag then (if v = 0 then 0 else 1) else (v - T.min) % 2 ^ T.bits + T.min

/-- Overflow is no error. -/
def wraps : Bool := !T.signed || T.promoted

/-- `x += step`. -/
def add (x step : Int) : Except CLPFault Int :=
  if T.fits (x + step) then .ok (x + step)
  else if T.wraps then .ok (T.convert (x + step))
  else .error .signedOverflow

/-- What is stored for a number, and whether it was in range. -/
def store (negative : Bool) (magnitude : Nat) : Int × Bool :=
  let v : Int := if negative then -magnitude else magnitude
  if T.fits v then (v, true)
  else if T.reads = .flag then (1, false)
  else if T.signed = false ∧ T.fits magnitude then (T.convert v, true)
  else (if T.signed ∧ negative then T.min else T.max, false)

end IntegralType

/-! ## std::stringstream -/

/-- `good` is off once the end was reached or an extraction failed. -/
structure Stream where
  rest : List Char
  good : Bool := true

namespace Stream

def isSpace (c : Char) : Bool := c ∈ [' ', '\t', '\n', '\x0b', '\x0c', '\r']

/-- `ss >> d` for a character. -/
def readChar (s : Stream) (d : Char) : Char × Stream :=
  match s.good, s.rest.dropWhile isSpace with
  | true, c :: cs => (c, ⟨cs, true⟩)
  | _, _ => (d, ⟨s.rest, false⟩)

def number (digits : List Char) : Nat :=
  digits.foldl (fun n c => 10 * n + (c.toNat - '0'.toNat)) 0

/-- `ss >> x` for a number. -/
def readNumber (T : IntegralType) (s : Stream) (x : Int) : Int × Stream :=
  match s.good, s.rest.dropWhile isSpace with
  | true, c :: cs =>
    let digits := if c = '-' ∨ c = '+' then cs else c :: cs
    let rest := digits.dropWhile Char.isDigit
    if digits.takeWhile Char.isDigit = [] then (0, ⟨rest, false⟩)
    else
      let stored := T.store (c = '-') (number (digits.takeWhile Char.isDigit))
      (stored.1, ⟨rest, stored.2 && !rest.isEmpty⟩)
  | _, _ => (x, ⟨s.rest, false⟩)

/-- `ss >> x` for a character type. -/
def readCode (T : IntegralType) (s : Stream) (x : Int) : Int × Stream :=
  match s.good, s.rest.dropWhile isSpace with
  | true, c :: cs => (T.convert c.toNat, ⟨cs, true⟩)
  | _, _ => (x, ⟨s.rest, false⟩)

/-- `ss >> x`. -/
def readInt (T : IntegralType) (s : Stream) (x : Int) : Int × Stream :=
  if T.reads = .character then s.readCode T x else s.readNumber T x

end Stream

/-! ## Ranges -/

namespace IntegralType
variable (T : IntegralType)

/-- `while (x < end)`: the last `x`, and what was pushed. -/
def whileBelow (end_ step : Int) : Nat → Int → Except CLPFault (Int × List Int)
  | 0, x => if x < end_ then .error .endless else .ok (x, [])
  | n + 1, x =>
    if x < end_ then
      (T.add x step).bind fun y => (whileBelow end_ step n y).map fun r => (r.1, x :: r.2)
    else .ok (x, [])

/-- The step, and the loop; `x` runs in one direction. -/
def range (x end_ : Int) : Except CLPFault (Int × List Int) :=
  let step := T.convert (if end_ > x then 1 else -1)
  (T.add x step).bind (T.whileBelow end_ step (2 ^ T.bits))

/-- One value; `uninit` is what the variable `end` holds that is not initialised. -/
def expand (uninit x : Int) (value : String) : Except CLPFault (Int × List Int) :=
  let (x, ss) := Stream.readInt T ⟨value.toList, true⟩ x
  let (d0, ss) := ss.readChar '\x00'
  let (d1, ss) := ss.readChar '\x00'
  if d0 = '.' ∧ d1 = '.' then
    let end_ := (Stream.readInt T ss uninit).1
    (T.range x end_).map fun r => (r.1, x :: r.2)
  else .ok (x, [x])

def expandAll (uninit : Int) : Int → List String → Except CLPFault (List Int)
  | _, [] => .ok []
  | x, v :: vs =>
    (T.expand uninit x v).bind fun r => (expandAll uninit r.1 vs).map (r.2 ++ ·)

end IntegralType

structure CLP where
  mKeyValues : String → Option (List String)

namespace CLP

def isSet (clp : CLP) (name : String) : Bool := (clp.mKeyValues name).isSome

def getManyOr (clp : CLP) (T : IntegralType) (name : String) (alt : List Int) (uninit : Int) :
    Except CLPFault (List Int) :=
  if clp.isSet name then T.expandAll uninit uninit ((clp.mKeyValues name).getD [])
  else .ok alt

end CLP
end Coproto
