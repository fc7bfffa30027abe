import Mathlib.Data.Option.Basic

/-!
# Instants, exceptions and plugin-supplied values

What the service observes of the Python values it handles. An exception is kept
as far as the handlers of the service distinguish it, and a value that plugin
code supplies as far as the service tests, stringifies or serialises it.
-/

namespace BiothingsPulse

/-- A timezone-aware UTC `datetime`, in microseconds. -/
abbrev Time : Type := Int

/-- The exception classes that some handler of the service tells apart. -/
inductive ExcKind where
  | notImplemented
  | timeout
  | unsupportedPlugin
  | loaderError
  /-- Any other subclass of `Exception`. -/
  | ordinary
  /-- `SystemExit`, `KeyboardInterrupt`: not caught by `except Exception`. -/
  | baseOnly
  deriving DecidableEq, Repr

structure PyExc where
  kind : ExcKind
  typeName : String
  message : String
  deriving DecidableEq, Repr

/-- Whether `except Exception` catches it. -/
def PyExc.isException (exc : PyExc) : Bool := exc.kind ≠ .baseOnly

/-- The text `f"{type(exc).__name__}: {exc}"`. -/
def PyExc.describe (exc : PyExc) : String := exc.typeName ++ ": " ++ exc.message

/-- A value that is neither `None` nor a string: its truth value and what `str`
makes of it, both of which may run plugin code, and the JSON text written for it
when there is one. That is no JSON string: values that are written as strings, as
`bytes` and dates are, are left out. -/
structure PyObject where
  truthy : Except PyExc Bool
  str : Except PyExc String
  json : Option String

/-- A value supplied by plugin code, other than `None`. -/
inductive PyValue where
  | str (text : String)
  | other (object : PyObject)

namespace PyValue

/-- Python's truth value; `None` is false. -/
def truthy : Option PyValue → Except PyExc Bool
  | none => .ok false
  | some (.str text) => .ok (text ≠ "")
  | some (.other object) => object.truthy

/-- The expression `value or None`. -/
def orNone (value : Option PyValue) : Except PyExc (Option PyValue) :=
  (truthy value).map fun holds => if holds then value else none

/-- `str(value)`. -/
def toStr : Option PyValue → Except PyExc String
  | none => .ok "None"
  | some (.str text) => .ok text
  | some (.other object) => object.str

/-- Whether a model field holding the value can be written as JSON. -/
def representable : Option PyValue → Bool
  | none => true
  | some (.str _) => true
  | some (.other object) => object.json.isSome

/-- Whether the value is one that an `Optional[str]` field admits. -/
def optionalStr : Option PyValue → Bool
  | some (.other _) => false
  | _ => true

/-- Strings and `None` can be written as JSON. -/
theorem representable_of_optionalStr {value : Option PyValue}
    (wellTyped : optionalStr value = true) : representable value = true := by
  cases value with
  | none => rfl
  | some supplied =>
      cases supplied with
      | str text => rfl
      | other object => cases wellTyped

/-- Whether testing the value succeeds and finds it true. -/
def isTrue (value : Option PyValue) : Bool :=
  match truthy value with
  | .ok holds => holds
  | .error _ => false

/-- `value or None` is the value itself when it is true, and otherwise `None`. -/
theorem orNone_eq {value result : Option PyValue} (evaluated : orNone value = .ok result) :
    result = if isTrue value then value else none := by
  unfold orNone at evaluated
  unfold isTrue
  cases holds : truthy value with
  | error exc => rw [holds] at evaluated; cases evaluated
  | ok isTrue => rw [holds] at evaluated; exact (Except.ok.inj evaluated).symm

end PyValue

end BiothingsPulse
