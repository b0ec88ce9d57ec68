/-
  MultiProcessServer.Lib.Json
  ───────────────────────────
  The values of `nlohmann::json` and the accessors that read a member of an
  object: those that throw, and those whose precondition the caller has to
  know.  An accessor answers a value, an exception, or nothing the library or
  the language defines.

  Every accessor has a lemma that says what it answers in terms of `member?`,
  the member itself.
-/
import Mathlib.Data.List.Basic
import Mathlib.Data.Rat.Defs

namespace MultiProcessServer

/-- A `double`: the numbers it has, and the values that are no numbers. -/
inductive Double
  | finite (value : Rat)
  | infinite (negative : Bool)
  | nan
  deriving DecidableEq

/-- `nlohmann::json`, by `value_t`.  Strings are bytes; the members of an
object are found by their first occurrence. -/
inductive Json
  | null
  | object (members : List (List UInt8 × Json))
  | array (elements : List Json)
  | string (value : List UInt8)
  | boolean (value : Bool)
  | numberInteger (value : Int64)
  | numberUnsigned (value : UInt64)
  | numberFloat (value : Double)
  | binary (value : List UInt8)
  | discarded

namespace Json

/-! ## §1. What an accessor answers. -/

/-- The exceptions of the library, with their ids. -/
inductive Exception
  | typeError (id : Nat)
  | outOfRange (id : Nat)
  deriving DecidableEq, Repr

/-- What no standard gives a meaning. -/
inductive Undefined
  /-- `operator[]` on a `const` object without the key: the end iterator is
  dereferenced, behind a `JSON_ASSERT`. -/
  | missingKey
  /-- A `double` converted to an integer type that does not have its integral
  part. -/
  | floatToInt
  deriving DecidableEq, Repr

inductive Fault
  | exception (e : Exception)
  | undefined (u : Undefined)
  deriving DecidableEq, Repr

/-! ## §2. The accessors. -/

/-- The member of that key, if the value is an object that has one. -/
def member? (j : Json) (key : List UInt8) : Option Json :=
  match j with
  | .object members => members.lookup key
  | _ => none

/-- `at(key)`. -/
def atKey (j : Json) (key : List UInt8) : Except Fault Json :=
  match j with
  | .object members =>
      match members.lookup key with
      | some value => .ok value
      | none => .error (.exception (.outOfRange 403))
  | _ => .error (.exception (.typeError 304))

/-- `operator[](key) const`. -/
def constIndex (j : Json) (key : List UInt8) : Except Fault Json :=
  match j with
  | .object members =>
      match members.lookup key with
      | some value => .ok value
      | none => .error (.undefined .missingKey)
  | _ => .error (.exception (.typeError 305))

def isNumber : Json → Bool
  | .numberInteger _ => true
  | .numberUnsigned _ => true
  | .numberFloat _ => true
  | _ => false

def isString : Json → Bool
  | .string _ => true
  | _ => false

/-- `get<std::string>()`, also where a value is assigned to a string. -/
def getString : Json → Except Fault (List UInt8)
  | .string value => .ok value
  | _ => .error (.exception (.typeError 302))

/-- The integral part of a finite number, if an `int` has it. -/
def truncate : Double → Option Int32
  | .finite value =>
      let n := value.num.tdiv value.den
      if -2147483648 ≤ n ∧ n ≤ 2147483647 then some (Int32.ofInt n) else none
  | .infinite _ => none
  | .nan => none

/-- `get<int>()`.  The wider integers are reduced modulo 2^32. -/
def getInt : Json → Except Fault Int32
  | .numberUnsigned value => .ok value.toUInt32.toInt32
  | .numberInteger value => .ok value.toInt32
  | .numberFloat value =>
      match truncate value with
      | some n => .ok n
      | none => .error (.undefined .floatToInt)
  | .boolean value => .ok (if value then 1 else 0)
  | _ => .error (.exception (.typeError 302))

/-- The value is a number no `int` has the integral part of. -/
def OutOfRange (j : Json) : Prop := ∃ value, j = .numberFloat value ∧ truncate value = none

/-! ## §3. What they answer. -/

variable {j : Json} {key : List UInt8}

/-- A string member, read by `at` and converted. -/
theorem atKey_getString_of_string {s : List UInt8} (h : j.member? key = some (.string s)) :
    (j.atKey key).bind getString = .ok s := by
  cases j with
  | object members =>
      have hlookup : members.lookup key = some (.string s) := h
      rw [atKey, hlookup]
      rfl
  | _ => cases h

/-- Everything else throws. -/
theorem atKey_getString_of_not (h : ∀ s, j.member? key ≠ some (.string s)) :
    ∃ e, (j.atKey key).bind getString = .error (.exception e) := by
  cases j with
  | object members =>
      have hlookup : ∀ s, members.lookup key ≠ some (.string s) := h
      rw [atKey]
      cases hvalue : members.lookup key with
      | none => exact ⟨_, rfl⟩
      | some value =>
          cases value with
          | string s => exact absurd hvalue (hlookup s)
          | _ => exact ⟨_, rfl⟩
  | _ => exact ⟨_, rfl⟩

/-- `operator[]` on a value that has some member. -/
theorem constIndex_of_object {other : List UInt8} {value : Json}
    (h : j.member? other = some value) :
    j.constIndex key = match j.member? key with
      | some v => .ok v
      | none => .error (.undefined .missingKey) := by
  cases j with
  | object members => rfl
  | _ => cases h

/-- **A number converts** unless it is out of range. -/
theorem getInt_of_number (h : j.isNumber = true) :
    (∃ n, j.getInt = .ok n) ∧ ¬ j.OutOfRange
      ∨ j.getInt = .error (.undefined .floatToInt) ∧ j.OutOfRange := by
  cases j with
  | numberInteger value =>
      exact .inl ⟨⟨_, rfl⟩, fun ⟨_, heq, _⟩ => by cases heq⟩
  | numberUnsigned value =>
      exact .inl ⟨⟨_, rfl⟩, fun ⟨_, heq, _⟩ => by cases heq⟩
  | numberFloat value =>
      cases htrunc : truncate value with
      | some n =>
          refine .inl ⟨⟨n, ?_⟩, ?_⟩
          · rw [getInt, htrunc]
          · rintro ⟨value', heq, hnone⟩
            cases heq
            rw [htrunc] at hnone
            cases hnone
      | none =>
          refine .inr ⟨?_, value, rfl, htrunc⟩
          rw [getInt, htrunc]
  | _ => cases h

theorem isString_eq_true_iff : j.isString = true ↔ ∃ s, j = .string s := by
  cases j with
  | string s => exact iff_of_true rfl ⟨s, rfl⟩
  | _ => exact iff_of_false Bool.false_ne_true (fun ⟨_, h⟩ => by cases h)

end Json

end MultiProcessServer
