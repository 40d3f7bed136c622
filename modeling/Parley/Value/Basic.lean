import Parley.Binary64.Basic
import Parley.Calendar

/-!
# Values

What a conversation stores, receives and passes on: the scalars and
collections of a flow file and of typed or delivered input.

A record keeps its entries in the order in which their keys were first given.
Its keys are scalars, or tuples of keys, and compare by `Value.sameKey`: numbers
by their quantity, whatever their kind, moments by the time they stand for, and
all else by kind and content. `Value.keyLess?` puts keys of one kind in order.
-/

namespace Parley

/-- A value of the shared state, of an input or of a flow file. -/
inductive Value where
  | null
  | bool (b : Bool)
  | int (n : Int)
  | float (x : Binary64)
  | text (s : String)
  | list (items : List Value)
  | tuple (items : List Value)
  | record (entries : List (Value × Value))
  | date (d : Date)
  | moment (m : Moment)
  | bytes (octets : List UInt8)
  | set (members : List Value)
  deriving Inhabited

namespace Value

/-- The value counts as true: it is not empty, zero or null. -/
def isTruthy : Value → Bool
  | .null => false
  | .bool b => b
  | .int n => n ≠ 0
  | .float x => !x.isZero
  | .text s => !s.isEmpty
  | .list items | .tuple items | .set items => !items.isEmpty
  | .record entries => !entries.isEmpty
  | .date _ | .moment _ => true
  | .bytes octets => !octets.isEmpty

def isNull : Value → Bool
  | .null => true
  | _ => false

/-- The value as a number, a truth value counting as one or zero. -/
def quantity? : Value → Option Quantity
  | .bool b => some (.ofInt (if b then 1 else 0))
  | .int n => some (.ofInt n)
  | .float x => some x.quantity
  | _ => none

/-- What decides whether two keys are the same. -/
inductive KeyForm where
  | null
  | quantity (q : Quantity)
  | text (s : String)
  | date (d : Date)
  | moment (m : Moment)
  | bytes (octets : List UInt8)
  | tuple (items : List KeyForm)

namespace KeyForm

mutual

/-- Same form; an undefined number is the same as no key, not even itself. -/
def same : KeyForm → KeyForm → Bool
  | .null, .null => true
  | .quantity a, .quantity b => a.same b
  | .text a, .text b => a == b
  | .date a, .date b => a = b
  | .moment a, .moment b => a.isComparable b && a.microseconds = b.microseconds
  | .bytes a, .bytes b => a == b
  | .tuple as, .tuple bs => sameAll as bs
  | _, _ => false

/-- Same forms one by one. -/
def sameAll : List KeyForm → List KeyForm → Bool
  | [], [] => true
  | a :: as, b :: bs => same a b && sameAll as bs
  | _, _ => false

end

mutual

/-- The first form is less than the second, if the two can be put in order: forms of one
    kind other than null, moments only if both clocks are known or neither is. -/
def less? : KeyForm → KeyForm → Option Bool
  | .quantity a, .quantity b => some (a.less b)
  | .text a, .text b => some (a < b)
  | .date a, .date b => some (a.ordinal < b.ordinal)
  | .moment a, .moment b =>
    if a.isComparable b then some (a.microseconds < b.microseconds) else none
  | .bytes a, .bytes b => some (a < b)
  | .tuple as, .tuple bs => lessFirst? as bs
  | _, _ => none

/-- The first two forms that are not the same decide, and the length where there are none. -/
def lessFirst? : List KeyForm → List KeyForm → Option Bool
  | [], bs => some (!bs.isEmpty)
  | _ :: _, [] => some false
  | a :: as, b :: bs => if same a b then lessFirst? as bs else less? a b

end

end KeyForm

mutual

/-- The form of a value that can be a key. Collections cannot, but for tuples of
    keys. -/
def keyForm? : Value → Option KeyForm
  | .null => some .null
  | .bool b => some (.quantity (.ofInt (if b then 1 else 0)))
  | .int n => some (.quantity (.ofInt n))
  | .float x => some (.quantity x.quantity)
  | .text s => some (.text s)
  | .date d => some (.date d)
  | .moment m => some (.moment m)
  | .bytes octets => some (.bytes octets)
  | .tuple items => (keyForms? items).map .tuple
  | .list _ | .record _ | .set _ => none

def keyForms? : List Value → Option (List KeyForm)
  | [] => some []
  | v :: vs => do pure ((← keyForm? v) :: (← keyForms? vs))

end

def isKey (v : Value) : Bool :=
  v.keyForm?.isSome

/-- Both values are the same key. -/
def sameKey (a b : Value) : Bool :=
  match a.keyForm?, b.keyForm? with
  | some x, some y => x.same y
  | _, _ => false

/-- The first of two keys is less than the second, if the two can be put in order. -/
def keyLess? (a b : Value) : Option Bool :=
  match a.keyForm?, b.keyForm? with
  | some x, some y => x.less? y
  | _, _ => none

@[simp] theorem sameKey_text (a b : String) : sameKey (.text a) (.text b) = (a == b) := by
  simp only [sameKey, keyForm?, KeyForm.same]

/-- A text is the same key as nothing but itself. -/
theorem sameKey_text_iff {v : Value} {s : String} : sameKey v (.text s) ↔ v = .text s := by
  cases v with
  | tuple items =>
    rw [sameKey, keyForm?, keyForm?]
    cases keyForms? items <;> simp [KeyForm.same]
  | _ => simp [sameKey, keyForm?, KeyForm.same]

end Value

end Parley
