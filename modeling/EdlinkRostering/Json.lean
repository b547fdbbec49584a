/-
JSON values as the services hold them.

`Json` is what `json.loads` gives back: the three scalars of JSON plus Python's
`int`/`float` split, lists and dicts.  A float is carried by its `repr`, which
is the text both `str` and `json.dumps` print for it.  A dict is an association
list; `get?` is `dict.get`, and `sameDict` is `==` between two dicts, which does
not look at the order of the keys.

* `Json.pyStr` — the builtin `str` on a JSON value;
* `Dict.get?` and `Dict.sameDict` — `dict.get` and `==` between two dicts.
-/
import EdlinkRostering.Printable
import Mathlib.Data.List.Basic

/-- A JSON value as Python holds it. -/
inductive Json where
  | null
  | bool (b : Bool)
  | int (n : Int)
  | float (repr : String)
  | str (s : String)
  | arr (elems : List Json)
  | obj (fields : List (String × Json))

/-- A `dict` with string keys. -/
abbrev Dict := List (String × Json)

namespace Json

mutual

/-- Equality of JSON values is decidable: the recursion is nested through the
lists of an array and of a dict. -/
def decEq : (a b : Json) → Decidable (a = b)
  | .null, .null => isTrue rfl
  | .bool a, .bool b => decidable_of_iff (a = b) (by simp)
  | .int a, .int b => decidable_of_iff (a = b) (by simp)
  | .float a, .float b => decidable_of_iff (a = b) (by simp)
  | .str a, .str b => decidable_of_iff (a = b) (by simp)
  | .arr a, .arr b => @decidable_of_iff _ (a = b) (by simp) (decEqList a b)
  | .obj a, .obj b => @decidable_of_iff _ (a = b) (by simp) (decEqFields a b)
  | .null, .bool _ | .null, .int _ | .null, .float _ | .null, .str _ | .null, .arr _
  | .null, .obj _ | .bool _, .null | .bool _, .int _ | .bool _, .float _ | .bool _, .str _
  | .bool _, .arr _ | .bool _, .obj _ | .int _, .null | .int _, .bool _ | .int _, .float _
  | .int _, .str _ | .int _, .arr _ | .int _, .obj _ | .float _, .null | .float _, .bool _
  | .float _, .int _ | .float _, .str _ | .float _, .arr _ | .float _, .obj _ | .str _, .null
  | .str _, .bool _ | .str _, .int _ | .str _, .float _ | .str _, .arr _ | .str _, .obj _
  | .arr _, .null | .arr _, .bool _ | .arr _, .int _ | .arr _, .float _ | .arr _, .str _
  | .arr _, .obj _ | .obj _, .null | .obj _, .bool _ | .obj _, .int _ | .obj _, .float _
  | .obj _, .str _ | .obj _, .arr _ => isFalse (by simp)

def decEqList : (a b : List Json) → Decidable (a = b)
  | [], [] => isTrue rfl
  | [], _ :: _ => isFalse (by simp)
  | _ :: _, [] => isFalse (by simp)
  | a :: as, b :: bs =>
    match decEq a b, decEqList as bs with
    | isTrue h, isTrue h' => isTrue (by rw [h, h'])
    | isFalse h, _ => isFalse (by simp [h])
    | _, isFalse h => isFalse (by simp [h])

def decEqFields : (a b : List (String × Json)) → Decidable (a = b)
  | [], [] => isTrue rfl
  | [], _ :: _ => isFalse (by simp)
  | _ :: _, [] => isFalse (by simp)
  | (k, a) :: as, (l, b) :: bs =>
    match decEq a b, decEqFields as bs with
    | isTrue h, isTrue h' => decidable_of_iff (k = l) (by simp [h, h'])
    | isFalse h, _ => isFalse (by simp [h])
    | _, isFalse h => isFalse (by simp [h])

end

instance : DecidableEq Json := decEq

/-- `None` when the column is NULL, its text otherwise. -/
def ofOption : Option String → Json
  | none => .null
  | some s => .str s

@[simp] theorem ofOption_inj {a b : Option String} : ofOption a = ofOption b ↔ a = b := by
  cases a <;> cases b <;> simp [ofOption]

/-- `bool(value)`, the test behind `value or default`. -/
def truthy : Json → Bool
  | .null => false
  | .bool b => b
  | .int n => n != 0
  | .float r => r != "0.0" && r != "-0.0"
  | .str s => s != ""
  | .arr elems => !elems.isEmpty
  | .obj fields => !fields.isEmpty

/-! ### The builtin `str` -/

/-- `n` in at least `width` hexadecimal digits. -/
def hexDigits (width n : Nat) : String :=
  let digits := Nat.toDigits 16 n
  String.ofList (List.replicate (width - digits.length) '0' ++ digits)

/-- One character inside a quoted `repr`: the quote, the backslash and what is not
printable are escaped. -/
def reprChar (quote c : Char) : String :=
  if c = quote || c = '\\' then String.ofList ['\\', c]
  else if c = '\n' then "\\n"
  else if c = '\r' then "\\r"
  else if c = '\t' then "\\t"
  else if isPrintable c then String.ofList [c]
  else if c.toNat < 0x100 then "\\x" ++ hexDigits 2 c.toNat
  else if c.toNat < 0x10000 then "\\u" ++ hexDigits 4 c.toNat
  else "\\U" ++ hexDigits 8 c.toNat

/-- `repr` of a string: double quotes only when it holds a single quote and no
double quote. -/
def reprStr (s : String) : String :=
  let quote := if s.toList.contains '\'' && !s.toList.contains '"' then '"' else '\''
  String.ofList [quote] ++ String.join (s.toList.map (reprChar quote)) ++ String.ofList [quote]

mutual

/-- The builtin `repr`, which `str` uses for the elements of a container. -/
def pyRepr : Json → String
  | .null => "None"
  | .bool b => if b then "True" else "False"
  | .int n => toString n
  | .float r => r
  | .str s => reprStr s
  | .arr elems => "[" ++ ", ".intercalate (pyReprList elems) ++ "]"
  | .obj fields => "\x7b" ++ ", ".intercalate (pyReprFields fields) ++ "\x7d"

def pyReprList : List Json → List String
  | [] => []
  | v :: vs => pyRepr v :: pyReprList vs

def pyReprFields : List (String × Json) → List String
  | [] => []
  | (k, v) :: rest => (reprStr k ++ ": " ++ pyRepr v) :: pyReprFields rest

end

/-- The builtin `str`. -/
def pyStr : Json → String
  | .str s => s
  | v => pyRepr v

end Json

namespace Dict

/-- `dict.get(key)`. -/
def get? (d : Dict) (key : String) : Option Json := d.lookup key

@[simp] theorem get?_nil (key : String) : get? [] key = none := rfl

@[simp] theorem get?_cons (k key : String) (v : Json) (d : Dict) :
    get? ((k, v) :: d) key = if key = k then some v else get? d key := by
  by_cases h : key = k
  · subst h
    simp [get?]
  · have : (key == k) = false := by simpa using h
    simp [get?, List.lookup_cons, this, h]

/-- `d == e` between two dicts: the same number of keys, and every entry of the
one is an entry of the other. -/
def sameDict (d e : Dict) : Bool :=
  d.length == e.length && d.all fun kv => decide (get? e kv.1 = some kv.2)

end Dict
