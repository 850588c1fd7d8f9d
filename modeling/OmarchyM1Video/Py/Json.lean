import Mathlib.Data.Rat.Defs
import OmarchyM1Video.Py.Exec

/-!
JSON values as a Python program reads them.

`Json` is what `json.loads` returns.  An object is the list of its members and is read by its
first member of a name.  A float is kept by its exact value, since Python compares an integer
with a float exactly (`eqInt`).

* `Json.item`: `value[name]`, with the exception of a missing member or an unsuitable value;
* `eqStr`, `eqInt`: Python's `==` against a string and against an integer, where `True == 1` and
  `3.0 == 3`;
* `truthy`: the truth value of a JSON value.
-/

namespace OmarchyM1Video.Py

/-- A float: a finite one is its exact value. -/
inductive PyFloat where
  | finite (q : ℚ)
  | infinite (negative : Bool)
  | nan
  deriving DecidableEq

/-- The values `json.loads` returns. -/
inductive Json where
  | null
  | bool (b : Bool)
  | int (n : ℤ)
  | float (x : PyFloat)
  | str (s : String)
  | arr (xs : List Json)
  | obj (members : List (String × Json))

namespace Json

/-- `members.get(name)`. -/
def member? (members : List (String × Json)) (name : String) : Option Json :=
  (members.find? fun p => decide (p.1 = name)).map Prod.snd

/-- `value.get(name)` of an object; a value of another kind has no member. -/
def get? (name : String) : Json → Option Json
  | obj members => member? members name
  | _ => none

/-- `name in value` of an object. -/
def has (name : String) (j : Json) : Bool := (j.get? name).isSome

/-- `value[name]`: an object without the member raises `KeyError`, a value that takes no string
subscript `TypeError`. -/
def item {ρ : Type} (name : String) : Json → Except (Exc ρ) Json
  | obj members => found (member? members name) (.builtin .keyError)
  | _ => .error (.builtin .typeError)

/-- `isinstance(value, dict)`. -/
def isObj : Json → Bool
  | obj _ => true
  | _ => false

/-- `value == text`. -/
def eqStr (text : String) : Json → Bool
  | str s => s = text
  | _ => false

/-- `value == n`: a Boolean counts as `0` or `1`, a float by its exact value. -/
def eqInt (n : ℤ) : Json → Bool
  | bool b => (if b then 1 else 0) = n
  | int m => m = n
  | float (.finite q) => q = (n : ℚ)
  | _ => false

/-- `bool(value)`. -/
def truthy : Json → Bool
  | null => false
  | bool b => b
  | int n => n ≠ 0
  | float (.finite q) => q ≠ 0
  | float _ => true
  | str s => s ≠ ""
  | arr xs => !xs.isEmpty
  | obj members => !members.isEmpty

@[simp] lemma item_ok {ρ : Type} {name : String} {j v : Json} :
    (j.item name : Except (Exc ρ) Json) = .ok v ↔ j.get? name = some v := by
  cases j <;> simp [item, get?]

@[simp] lemma eqStr_iff {text : String} {j : Json} : j.eqStr text = true ↔ j = str text := by
  cases j <;> simp [eqStr]

end Json

end OmarchyM1Video.Py
