import Lmrs.Lib.Floats
import Lmrs.Lib.Untyped

/-!
# Arithmetic of integers and floats

A number of a document is an integer or a float. Sums and products of two integers are exact; with a float
among the two, the other is converted first and the result is rounded. Comparisons convert nothing: they are
by value.

* `Number.add`, `Number.mul`, `Number.lt`: the operations, and `Number.add_raises`, `Number.mul_raises`.
* `Value.nonNegative`: the check of a figure whose type is not known; `Value.nonNegative_of_asInt?`: of an
  integer it is `requireNonNegative`.
-/

namespace Python

namespace PyFloat

/-- The sign of a float, zero for what is no number. -/
def sign : PyFloat → SignType
  | .finite q => SignType.sign q
  | .posInf => 1
  | .negInf => -1
  | .nan => 0

/-- `x * y`. An infinity times zero is no number. -/
def mul (round : ℚ → PyFloat) : PyFloat → PyFloat → PyFloat
  | .finite a, .finite b => round (a * b)
  | x, y =>
      match x.sign * y.sign with
      | .zero => .nan
      | .pos => .posInf
      | .neg => .negInf

/-- `x < y`. What is no number compares as false. -/
def lt : PyFloat → PyFloat → Bool
  | .finite a, .finite b => a < b
  | .negInf, .finite _ => true
  | .negInf, .posInf => true
  | .finite _, .posInf => true
  | _, _ => false

end PyFloat

/-- A number: an integer, of which a bool is one, or a float. -/
inductive Number where
  | int (n : Int)
  | float (x : PyFloat)

namespace Number

/-- The float a number is converted to: an integer may be too large for any. -/
def toFloat (round : ℚ → PyFloat) : Number → Except PyException PyFloat
  | .float x => .ok x
  | .int n =>
      match round n with
      | .finite q => .ok (.finite q)
      | _ => .error (overflowError "int too large to convert to float")

/-- `a + b`. -/
def add (round : ℚ → PyFloat) : Number → Number → Except PyException Number
  | .int m, .int n => .ok (.int (m + n))
  | a, b => do return .float (PyFloat.add round (← a.toFloat round) (← b.toFloat round))

/-- `a * b`. -/
def mul (round : ℚ → PyFloat) : Number → Number → Except PyException Number
  | .int m, .int n => .ok (.int (m * n))
  | a, b => do return .float (PyFloat.mul round (← a.toFloat round) (← b.toFloat round))

/-- The number as a float without rounding. -/
def exact : Number → PyFloat
  | .int n => .finite n
  | .float x => x

/-- `a < b`. -/
def lt (a b : Number) : Bool := a.exact.lt b.exact

/-- Integers compare as integers. -/
@[simp] theorem lt_int (m n : Int) : lt (.int m) (.int n) = decide (m < n) := by
  show decide ((m : ℚ) < n) = _
  rw [decide_eq_decide]
  exact Int.cast_lt

/-- A conversion raises `OverflowError`. -/
theorem toFloat_raises (round : ℚ → PyFloat) (a : Number) : OnlyRaises "OverflowError" (a.toFloat round) := by
  unfold toFloat
  rcases a with n | x
  · dsimp only
    split
    · exact .ok _
    · intro exc h
      cases h
      rfl
  · exact .ok _

/-- A sum raises `OverflowError`. -/
theorem add_raises (round : ℚ → PyFloat) (a b : Number) : OnlyRaises "OverflowError" (add round a b) := by
  unfold add
  split
  · exact .ok _
  · exact .bind (toFloat_raises round _) fun _ => .bind (toFloat_raises round _) fun _ => .ok _

/-- A product raises `OverflowError`. -/
theorem mul_raises (round : ℚ → PyFloat) (a b : Number) : OnlyRaises "OverflowError" (mul round a b) := by
  unfold mul
  split
  · exact .ok _
  · exact .bind (toFloat_raises round _) fun _ => .bind (toFloat_raises round _) fun _ => .ok _

end Number

namespace Value

/-- The number a value is, when it is one. -/
def asNumber? (v : Value) : Option Number :=
  match v with
  | .float x => some (.float x)
  | v => v.asInt?.map .int

/-- An integer is a number. -/
theorem asNumber?_of_asInt? {v : Value} {n : Int} (h : v.asInt? = some n) : v.asNumber? = some (.int n) := by
  cases v with
  | float x => cases h
  | _ => exact congrArg (Option.map Number.int) h

/-- `if value < 0: raise ValueError(f"{name} must be non-negative")`: a value that is no number does not
compare with one. -/
def nonNegative (name : String) (v : Value) : Except PyException Number :=
  match v.asNumber? with
  | Option.none => .error (notComparable "<" v)
  | some x => if x.lt (.int 0) then .error (valueError (name ++ " must be non-negative")) else .ok x

/-- Of an integer the check is that of an integer. -/
theorem nonNegative_of_asInt? {name : String} {v : Value} {n : Int} (h : v.asInt? = some n) :
    v.nonNegative name = (requireNonNegative name n).map fun _ => .int n := by
  unfold nonNegative requireNonNegative
  rw [asNumber?_of_asInt? h]
  dsimp only
  rw [Number.lt_int]
  by_cases hn : n < 0
  · rw [if_pos (decide_eq_true hn), if_pos hn]
    rfl
  · rw [if_neg (by simpa using hn), if_neg hn]
    rfl

/-- The exception of `n > value` for an integer and a value that is no number. -/
def notBelow (v : Value) : PyException :=
  typeError ("'>' not supported between instances of 'int' and '" ++ v.typeName ++ "'")

/-- `n > value`, for an integer. -/
def lessThanInt (v : Value) (n : Int) : Except PyException Bool :=
  match v.asNumber? with
  | Option.none => .error v.notBelow
  | some x => .ok (x.lt (.int n))

/-- An integer compares with an integer as integers do. -/
theorem lessThanInt_of_asInt? {v : Value} {m : Int} (h : v.asInt? = some m) (n : Int) :
    v.lessThanInt n = .ok (decide (m < n)) := by
  unfold lessThanInt
  rw [asNumber?_of_asInt? h]
  dsimp only
  rw [Number.lt_int]

end Value

end Python
