/-
  The exception hierarchy (`exceptions.py`) and exception objects.

  A class is given with its method resolution order, so `isinstance` is
  membership; `subclass` stands for any further class derived from a listed one.
  An exception carries its class, its `args` and its `__dict__`: the position of
  a failed batch command and the fields of a verification error are attributes.
-/
import Spd3000.Python

namespace Spd3000

/-- The exception classes the code raises, catches or passes on. -/
inductive ExcClass where
  -- built-in classes
  | baseException | exception | arithmeticError | overflowError | assertionError
  | lookupError | indexError | keyError | typeError | runtimeError | notImplementedError
  | valueError | unicodeError | unicodeDecodeError | unicodeEncodeError | jsonDecodeError
  | osError | connectionError | timeoutError
  -- failures of the driver and the instrument
  | spd3000Error | spd3000TimeoutError | spd3000ConnectionError | spd3000ProtocolError
  | spd3000CommandError | spd3000ValidationError | spd3000DeferredResultError
  | spd3000VerificationError | unsupportedFeatureError | unknownModelError
  -- failures of the gateway
  | gatewayError | gatewayConnectionError | gatewayConfigurationError
  | gatewayAuthenticationError | gatewayVersionMismatchError | gatewayProtocolError
  | gatewayInternalError
  | subclass (name : PyStr) (base : ExcClass)
  deriving DecidableEq

namespace ExcClass

/-- The attribute `cls.__mro__`, without `object`. -/
def mro : ExcClass → List ExcClass
  | baseException => [baseException]
  | exception => [exception, baseException]
  | arithmeticError => [arithmeticError, exception, baseException]
  | overflowError => [overflowError, arithmeticError, exception, baseException]
  | assertionError => [assertionError, exception, baseException]
  | lookupError => [lookupError, exception, baseException]
  | indexError => [indexError, lookupError, exception, baseException]
  | keyError => [keyError, lookupError, exception, baseException]
  | typeError => [typeError, exception, baseException]
  | runtimeError => [runtimeError, exception, baseException]
  | notImplementedError => [notImplementedError, runtimeError, exception, baseException]
  | valueError => [valueError, exception, baseException]
  | unicodeError => [unicodeError, valueError, exception, baseException]
  | unicodeDecodeError => [unicodeDecodeError, unicodeError, valueError, exception, baseException]
  | unicodeEncodeError => [unicodeEncodeError, unicodeError, valueError, exception, baseException]
  | jsonDecodeError => [jsonDecodeError, valueError, exception, baseException]
  | osError => [osError, exception, baseException]
  | connectionError => [connectionError, osError, exception, baseException]
  | timeoutError => [timeoutError, osError, exception, baseException]
  | spd3000Error => [spd3000Error, exception, baseException]
  | spd3000TimeoutError =>
    [spd3000TimeoutError, spd3000Error, timeoutError, osError, exception, baseException]
  | spd3000ConnectionError =>
    [spd3000ConnectionError, spd3000Error, connectionError, osError, exception, baseException]
  | spd3000ProtocolError => [spd3000ProtocolError, spd3000Error, exception, baseException]
  | spd3000CommandError => [spd3000CommandError, spd3000Error, exception, baseException]
  | spd3000ValidationError =>
    [spd3000ValidationError, spd3000Error, valueError, exception, baseException]
  | spd3000DeferredResultError =>
    [spd3000DeferredResultError, spd3000Error, runtimeError, exception, baseException]
  | spd3000VerificationError => [spd3000VerificationError, spd3000Error, exception, baseException]
  | unsupportedFeatureError =>
    [unsupportedFeatureError, spd3000Error, notImplementedError, runtimeError, exception,
      baseException]
  | unknownModelError =>
    [unknownModelError, spd3000ProtocolError, spd3000Error, exception, baseException]
  | gatewayError => [gatewayError, exception, baseException]
  | gatewayConnectionError =>
    [gatewayConnectionError, gatewayError, connectionError, osError, exception, baseException]
  | gatewayConfigurationError =>
    [gatewayConfigurationError, gatewayError, valueError, exception, baseException]
  | gatewayAuthenticationError => [gatewayAuthenticationError, gatewayError, exception, baseException]
  | gatewayVersionMismatchError =>
    [gatewayVersionMismatchError, gatewayError, exception, baseException]
  | gatewayProtocolError => [gatewayProtocolError, gatewayError, exception, baseException]
  | gatewayInternalError => [gatewayInternalError, gatewayError, exception, baseException]
  | subclass name base => subclass name base :: base.mro

/-- The attribute `cls.__name__`. -/
def name : ExcClass → PyStr
  | baseException => "BaseException" | exception => "Exception"
  | arithmeticError => "ArithmeticError" | overflowError => "OverflowError"
  | assertionError => "AssertionError" | lookupError => "LookupError"
  | indexError => "IndexError" | keyError => "KeyError" | typeError => "TypeError"
  | runtimeError => "RuntimeError" | notImplementedError => "NotImplementedError"
  | valueError => "ValueError" | unicodeError => "UnicodeError"
  | unicodeDecodeError => "UnicodeDecodeError" | unicodeEncodeError => "UnicodeEncodeError"
  | jsonDecodeError => "JSONDecodeError" | osError => "OSError"
  | connectionError => "ConnectionError" | timeoutError => "TimeoutError"
  | spd3000Error => "SPD3000Error" | spd3000TimeoutError => "SPD3000TimeoutError"
  | spd3000ConnectionError => "SPD3000ConnectionError"
  | spd3000ProtocolError => "SPD3000ProtocolError"
  | spd3000CommandError => "SPD3000CommandError"
  | spd3000ValidationError => "SPD3000ValidationError"
  | spd3000DeferredResultError => "SPD3000DeferredResultError"
  | spd3000VerificationError => "SPD3000VerificationError"
  | unsupportedFeatureError => "UnsupportedFeatureError"
  | unknownModelError => "UnknownModelError"
  | gatewayError => "GatewayError" | gatewayConnectionError => "GatewayConnectionError"
  | gatewayConfigurationError => "GatewayConfigurationError"
  | gatewayAuthenticationError => "GatewayAuthenticationError"
  | gatewayVersionMismatchError => "GatewayVersionMismatchError"
  | gatewayProtocolError => "GatewayProtocolError"
  | gatewayInternalError => "GatewayInternalError"
  | subclass n _ => n

/-- The test `issubclass(cls, base)`. -/
def isSubclass (cls base : ExcClass) : Bool := cls.mro.contains base

/-- The classes of `CANONICAL_EXCEPTION_TYPES`. -/
def canonicalExceptionTypes : List ExcClass :=
  [spd3000Error, spd3000TimeoutError, spd3000ConnectionError, spd3000ProtocolError,
    spd3000CommandError, spd3000ValidationError, spd3000DeferredResultError,
    spd3000VerificationError, unsupportedFeatureError, unknownModelError]

end ExcClass

/-- An exception object: its class, `args` and `__dict__`. -/
structure PyExc where
  cls : ExcClass
  args : List PyVal
  attrs : PyDict

/-- How the interpreter renders values and exceptions in texts: `repr(value)`,
    `str(exc)` and `traceback.format_exc()`.  No result depends on it. -/
class PyText where
  repr : PyVal → PyStr
  str : PyExc → PyStr
  traceback : PyExc → PyStr

/-- A rendering for concrete runs. -/
abbrev PyText.blank : PyText := ⟨fun _ => [], fun _ => [], fun _ => []⟩

namespace PyExc

/-- The arguments an exception keeps: `OSError` drops the file name given as third
    of two to five arguments, and all that follows it. -/
def initArgs (cls : ExcClass) (args : List PyVal) : List PyVal :=
  if cls.isSubclass .osError && args.length ≤ 5 then
    match args with
    | _ :: _ :: .none :: _ => args
    | a :: b :: _ :: _ => [a, b]
    | _ => args
  else args

/-- The call `cls(*args)` of a class with the constructor of `Exception` or `OSError`. -/
def new (cls : ExcClass) (args : List PyVal) : PyExc := ⟨cls, initArgs cls args, []⟩

/-- An exception with a message text as its only argument. -/
def msg (cls : ExcClass) (text : PyStr) : PyExc := new cls [.str text]

/-- The test `isinstance(exc, cls)`. -/
def isinstance (e : PyExc) (cls : ExcClass) : Bool := e.cls.isSubclass cls

/-- The value `getattr(exc, name, None)` of an instance attribute. -/
def getattr (e : PyExc) (name : PyStr) : PyVal := e.attrs.getD name

/-- The assignment `exc.__dict__[name] = value`. -/
def setattr (e : PyExc) (name : PyStr) (v : PyVal) : PyExc :=
  { e with attrs := (name, v) :: e.attrs.filter (·.1 ≠ name) }

@[simp] theorem setattr_cls (e : PyExc) (n : PyStr) (v : PyVal) : (e.setattr n v).cls = e.cls := rfl

@[simp] theorem setattr_args (e : PyExc) (n : PyStr) (v : PyVal) :
    (e.setattr n v).args = e.args := rfl

@[simp] theorem setattr_isinstance (e : PyExc) (n : PyStr) (v : PyVal) (c : ExcClass) :
    (e.setattr n v).isinstance c = e.isinstance c := rfl

@[simp] theorem new_cls (c : ExcClass) (args : List PyVal) : (new c args).cls = c := rfl

@[simp] theorem msg_cls (c : ExcClass) (t : PyStr) : (msg c t).cls = c := rfl

theorem lookup_filter_ne {n m : PyStr} (h : n ≠ m) (d : PyDict) :
    List.lookup n (d.filter (·.1 ≠ m)) = List.lookup n d := by
  induction d with
  | nil => rfl
  | cons kv d ih =>
    obtain ⟨k, v⟩ := kv
    by_cases hk : k = m
    · subst hk
      rw [List.filter_cons_of_neg (by simp), ih, List.lookup_cons, beq_false_of_ne h]
    · rw [List.filter_cons_of_pos (by simpa using hk), List.lookup_cons, List.lookup_cons, ih]

theorem get_setattr (e : PyExc) (n m : PyStr) (v : PyVal) :
    (e.setattr m v).attrs.get n = if n = m then some v else e.attrs.get n := by
  unfold setattr PyDict.get
  split_ifs with h
  · simp [h]
  · simp only [List.lookup_cons, beq_false_of_ne h]
    rw [lookup_filter_ne h]

end PyExc

/-- The call `SPD3000VerificationError(message, command=..., query=..., ...)`. -/
def verificationError (message : PyStr) (command : PyStr) (query : Option PyStr)
    (expected actual : PyVal) : PyExc :=
  ⟨.spd3000VerificationError, [.str message],
    [("command", .str command), ("query", query.elim .none .str), ("expected", expected),
      ("actual", actual)]⟩

/-! ## Sequences of calls -/

section
variable {α β : Type}

theorem ok_bind (a : α) (f : α → Except PyExc β) : (Except.ok a >>= f) = f a := rfl

/-- A sequence that returns ran both of its parts. -/
theorem bind_eq_ok {r : Except PyExc α} {f : α → Except PyExc β} {b : β} :
    (r >>= f) = .ok b ↔ ∃ a, r = .ok a ∧ f a = .ok b := by
  cases r with
  | error e =>
    constructor
    · rintro ⟨⟩
    · rintro ⟨a, ⟨⟩, -⟩
  | ok a =>
    rw [ok_bind]
    constructor
    · exact fun h => ⟨a, rfl, h⟩
    · rintro ⟨_, ⟨⟩, h⟩
      exact h

end

end Spd3000
