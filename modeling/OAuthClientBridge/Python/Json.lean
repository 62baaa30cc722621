import Mathlib.Data.List.Infix
import Std.Data.ExtTreeMap
import OAuthClientBridge.Python.EmailUtils

/-!
The values `json.loads` returns, with the operations of Python that the bridge applies to them.
The text of a value is not modelled: `json.loads` undoes `json.dumps` on these values.
-/

namespace OAuthClientBridge.Python

/-- A Python float that a JSON text can denote. Finite ones are exact. -/
inductive PyFloat where
  | finite (q : ℚ)
  | inf (negative : Bool)
  | nan
  deriving DecidableEq

/-- A `str` that UTF-8 cannot encode, split at its first surrogate. -/
structure LoneText where
  before : String
  surrogate : Surrogate
  after : List (Char ⊕ Surrogate)
  deriving DecidableEq

namespace LoneText

def chars (t : LoneText) : List (Char ⊕ Surrogate) := t.before.toList.map .inl ++ .inr t.surrogate :: t.after

/-- What `t.encode("utf-8")` raises. -/
def encodeError (t : LoneText) : PyError :=
  .unicodeEncodeError t.before.length (t.surrogate :: (t.after.takeWhile Sum.isRight).filterMap Sum.getRight?)

end LoneText

/-- Only texts outside the names of members may hold a lone surrogate. -/
inductive Json where
  | null
  | bool (b : Bool)
  | int (n : Int)
  | float (x : PyFloat)
  | str (s : String)
  | lone (t : LoneText)
  | arr (items : List Json)
  | obj (members : List (String × Json))

namespace Json

/-- `bool(v)`. -/
def truthy : Json → Bool
  | null => false
  | bool b => b
  | int n => n ≠ 0
  | float (.finite q) => q ≠ 0
  | float _ => true
  | str s => s ≠ ""
  | lone _ => true
  | arr items => !items.isEmpty
  | obj members => !members.isEmpty

/-- `hash(v)` does not raise. -/
def hashable : Json → Bool
  | arr _ | obj _ => false
  | _ => true

/-- The number a value counts as in a comparison. -/
def number? : Json → Option PyFloat
  | bool b => some (.finite (if b then 1 else 0))
  | int n => some (.finite n)
  | float x => some x
  | _ => none

/-- A number equals the numbers of the same value; `nan` equals nothing. -/
def numEq (x : PyFloat) (w : Json) : Bool := x ≠ .nan && w.number? == some x

mutual
/-- `a == b` for values read from different texts. -/
def pyEq : Json → Json → Bool
  | null, null => true
  | str a, str b => a == b
  | lone a, lone b => a == b
  | arr xs, arr ys => pyEqItems xs ys
  | obj xs, obj ys => xs.length == ys.length && pyEqMembers xs ys
  | bool a, w => numEq (.finite (if a then 1 else 0)) w
  | int n, w => numEq (.finite n) w
  | float x, w => numEq x w
  | _, _ => false

def pyEqItems : List Json → List Json → Bool
  | [], [] => true
  | x :: xs, y :: ys => x.pyEq y && pyEqItems xs ys
  | _, _ => false

def pyEqMembers : List (String × Json) → List (String × Json) → Bool
  | [], _ => true
  | (k, v) :: xs, ys => (match ys.lookup k with | some w => v.pyEq w | none => false) && pyEqMembers xs ys
end

/-- `v == v` for one and the same object. -/
def selfEq : Json → Bool
  | float .nan => false
  | _ => true

/-- `int(v)`. -/
def toInt : Json → Except PyError Int
  | bool b => .ok (if b then 1 else 0)
  | int n => .ok n
  | float (.finite q) => .ok (q.num.tdiv q.den)
  | float (.inf _) => .error .overflowError
  | float .nan => .error .valueError
  | str s => match int? s.toList with
    | some n => .ok n
    | none => .error .valueError
  | lone _ => .error .valueError
  | null | arr _ | obj _ => .error .typeError

/-- `isinstance(v, str)`. -/
def isStr : Json → Bool
  | str _ | lone _ => true
  | _ => false

def isObject : Json → Bool
  | obj _ => true
  | _ => false

theorem pyEq_str {v w : Json} (text : w.isStr = true) : v.pyEq w = true ↔ v = w := by
  cases w <;> cases text <;> cases v <;> simp [pyEq, numEq, number?]

theorem str_pyEq {v w : Json} (text : v.isStr = true) : v.pyEq w = true ↔ v = w := by
  cases v <;> cases text <;> cases w <;> simp [pyEq]

end Json

/-- A JSON object as a Python `dict`; the order of its members never matters here. -/
abbrev Payload := Std.ExtTreeMap String Json

namespace Payload

/-- `p.get(key)`; JSON `null` and a missing member both give `None`. -/
def getOrNull (p : Payload) (key : String) : Json := p[key]?.getD .null

end Payload

structure NonObject where
  value : Json
  notObject : value.isObject = false

/-- What `json.loads` returns: a `dict`, or a value without `.get`. -/
inductive Document where
  | object (members : Payload)
  | other (v : NonObject)

namespace Document

/-- The `dict` that an access to `.get` needs. -/
def asDict : Document → Except PyError Payload
  | .object p => .ok p
  | .other _ => .error .attributeError

/-- `key in d`. -/
def has (d : Document) (key : String) : Except PyError Bool :=
  match d with
  | .object p => .ok (p.contains key)
  | .other ⟨.arr items, _⟩ => .ok (items.any fun v => v.pyEq (.str key))
  | .other ⟨.str s, _⟩ => .ok (decide (key.toList <:+: s.toList))
  | .other ⟨.lone t, _⟩ => .ok (decide (key.toList.map Sum.inl <:+: t.chars))
  | .other _ => .error .typeError

/-- `d[key]`. -/
def item (d : Document) (key : String) : Except PyError Json :=
  match d with
  | .object p => match p[key]? with
    | some v => .ok v
    | none => .error .keyError
  | .other _ => .error .typeError

@[simp] theorem asDict_object (p : Payload) : (Document.object p).asDict = .ok p := rfl

@[simp] theorem asDict_other (v : NonObject) : (Document.other v).asDict = .error .attributeError := rfl

@[simp] theorem has_object (p : Payload) (key : String) :
    (Document.object p).has key = .ok (p.contains key) := rfl

end Document

namespace Payload

theorem getElem?_of_contains {p : Payload} {key : String} (h : p.contains key = true) :
    p[key]? = some (p.getOrNull key) := by
  rw [Std.ExtTreeMap.contains_eq_isSome_getElem?, Option.isSome_iff_exists] at h
  obtain ⟨v, hv⟩ := h
  simp [getOrNull, hv]

@[simp] theorem getOrNull_insert_self (p : Payload) (key : String) (v : Json) :
    Payload.getOrNull (p.insert key v) key = v := by
  simp [getOrNull]

end Payload

end OAuthClientBridge.Python
