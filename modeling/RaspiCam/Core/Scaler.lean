/-!
# Property Values and Their Scale

The OpenCV interfaces take every property value as a `double` and convert it
to the integer the setting is made of, several of them through a linear
scale. Values are exact rationals here, with the infinities and NaN beside
them, so what the model leaves out is rounding and nothing else.

Converting a value that the integer type cannot hold is undefined. What the
platform makes of such a value is a `Platform`, which is left arbitrary.

## Main definitions

* `Double`: A property value.
* `Platform`: Conversions of values out of range.
* `toUnsigned`, `toInt`: The conversions.
* `Scaler`: A linear scale between two intervals.
-/

namespace RaspiCam

/-- A `double` or `float`. -/
inductive Double
  | finite (q : Rat)
  | posInf
  | negInf
  | nan
deriving DecidableEq

/-- What the platform makes of a value that the integer type cannot hold. -/
structure Platform where
  unsigned : Double → UInt32
  int : Double → Int32

/-- A `float` or `double` read as an integer drops its fraction. -/
def truncate (q : Rat) : Int := q.num.tdiv q.den

/-- Conversion to `unsigned int`. -/
def toUnsigned (pf : Platform) (v : Double) : UInt32 :=
  match v with
  | .finite q =>
    if -1 < q ∧ q < 4294967296 then UInt32.ofNat (truncate q).toNat else pf.unsigned v
  | _ => pf.unsigned v

/-- Conversion to `int`. -/
def toInt (pf : Platform) (v : Double) : Int32 :=
  match v with
  | .finite q =>
    if -2147483649 < q ∧ q < 2147483648 then Int32.ofInt (truncate q) else pf.int v
  | _ => pf.int v

/-- `Scaler`, the fields that `operator()` reads. -/
structure Scaler where
  inMin : Rat
  inMax : Rat
  outMin : Rat
  outMax : Rat
  aa : Rat
  bb : Rat

/-- `Scaler::setParams`. -/
def Scaler.setParams (inMin inMax outMin outMax : Rat) : Scaler :=
  let aa := (outMax - outMin) / (inMax - inMin)
  { inMin := inMin
    inMax := inMax
    outMin := outMin
    outMax := outMax
    aa := aa
    bb := outMax - aa * inMax }

/-- `Scaler::operator()`. Comparisons with NaN are false. -/
def Scaler.eval (s : Scaler) (val : Double) : Double :=
  match val with
  | .finite q =>
    if q ≤ s.inMin then .finite s.outMin
    else if q ≥ s.inMax then .finite s.outMax
    else .finite (q * s.aa + s.bb)
  | .negInf => .finite s.outMin
  | .posInf => .finite s.outMax
  | .nan => .nan

/-- `Scaler::scale`. -/
def Scaler.scale (inMin inMax outMin outMax : Rat) (val : Double) : Double :=
  (Scaler.setParams inMin inMax outMin outMax).eval val

end RaspiCam
