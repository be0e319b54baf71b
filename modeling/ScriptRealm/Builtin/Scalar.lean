import ScriptRealm.Prototype

/-!
# Members of numbers and truth values
-/

namespace ScriptRealm.Builtin.Scalar

open Value (argument)

/-- The number that the first argument is coerced to; zero without arguments. -/
def constructNumber (args : List Value) : Program Value := do
  match args with
  | v :: _ => return .number (← Program.ask (.numberOf v))
  | [] => return .int 0

/-- Whether the first argument is an integral number. -/
def isInteger (args : List Value) : Program Value :=
  match argument args 0 with
  | .number n => return .boolean n.isInteger
  | _ => return .boolean false

/-- The count of places that an argument asks for: an integer from 0 to 100, 0 if it is missing. -/
def places (v : Value) : Program Nat := do
  match v with
  | .undefined => return 0
  | v =>
    let n : Number ← Program.ask (.numberOf v)
    let refused : Program Nat :=
      .fail (.range ("toFixed() digits argument must be between 0 and 100, got " ++ n.text))
    match n with
    | .integer i => if 0 ≤ i.toInt ∧ i.toInt ≤ 100 then return i.toInt.toNat else refused
    | _ => refused

/-- The receiver with so many decimal places. -/
def toFixed (this : Value) (args : List Value) : Program Value := do
  let digits ← places (argument args 0)
  let n : Number ← Program.ask (.numberOf this)
  return .string (n.fixedText digits)

/-- The greatest integer up to which all integers are double-precision numbers. -/
def maxSafeInteger : Int := 9007199254740991

def numberMembers : Prototype.Members where
  constructor? := some (.staticMethod constructNumber)
  functions := [("toFixed", .method toFixed)]
  staticProperties :=
    [("MAX_SAFE_INTEGER", .staticValue (.int maxSafeInteger)),
     ("MIN_SAFE_INTEGER", .staticValue (.int (-maxSafeInteger)))]
  staticFunctions := [("isInteger", .staticMethod isInteger)]

def constructBoolean (args : List Value) : Program Value := do
  match args with
  | v :: _ => return .boolean (← Program.ask (.truthOf v))
  | [] => return .boolean false

def booleanMembers : Prototype.Members where
  constructor? := some (.staticMethod constructBoolean)

end ScriptRealm.Builtin.Scalar
