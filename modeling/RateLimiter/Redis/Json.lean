import RateLimiter.Float.Rounding

open rate_limiter.float

namespace rate_limiter.redis

/-- A JSON document as `cjson` and Go's `encoding/json` read it. A number literal is an integer
    literal, or one in exponent form (as `%.14g` writes from `1e14` on) whose value is the
    integer `n`; the documents here hold no other numbers. -/
inductive Json where
  | null
  | bool (b : Bool)
  | num (n : Int)
  | numExp (n : Int)
  | str (s : String)
  | arr (items : List Json)
  | obj (fields : List (String × Json))
  deriving Repr

/-- The value of an object's field; `none` for a missing field or a document that is not an
    object. -/
def Json.field? : Json → String → Option Json
  | .obj fields, key => fields.lookup key
  | _, _ => none

/-- `cjson.encode` of a finite number (`%.14g`): an integer of at most 14 digits as an integer
    literal, a larger one in exponent form, rounded to 14 digits. -/
def Json.cjsonNumber (x : Int) : Json :=
  if x.natAbs < 10 ^ 14 then .num x else .numExp (decimal14 x)

/-- The value of a number literal as `cjson.decode` (`strtod`) or Go's `float64` reads it: the
    nearest double. -/
def Json.number? : Json → Option Int
  | .num n | .numExp n => some (binary64 n)
  | _ => none

/-- A number written by `cjson.encode` reads back as the double nearest its 14-digit decimal. -/
@[simp] theorem Json.number?_cjsonNumber (x : Int) :
    (Json.cjsonNumber x).number? = some (binary64 (decimal14 x)) := by
  unfold Json.cjsonNumber
  split_ifs with h
  · rw [decimal14_of_lt h]; rfl
  · rfl

/-- What Redis holds under a key: a JSON document, or a byte string that does not parse as
    JSON. -/
inductive Stored where
  | json (doc : Json)
  | text (raw : String)
  deriving Repr

/-- `encoding/json` decoding of a field's value (`none` when missing) into an `int64`: a missing
    or null field leaves the zero value, an integer literal must fit the type, a literal in
    exponent form is refused by `strconv.ParseInt`, anything else is a type error. -/
def Json.int64Value (key : String) : Option Json → Except String Int
  | none | some .null => .ok 0
  | some (.num n) =>
    if -2 ^ 63 ≤ n ∧ n < 2 ^ 63 then .ok n
    else .error ("json: cannot unmarshal number into Go struct field ." ++ key ++ " of type int64")
  | some (.numExp _) =>
    .error ("json: cannot unmarshal number into Go struct field ." ++ key ++ " of type int64")
  | some _ => .error ("json: cannot unmarshal into Go struct field ." ++ key ++ " of type int64")

/-- `encoding/json` decoding of one field into an `int64`. -/
def Json.int64Field (doc : Json) (key : String) : Except String Int :=
  Json.int64Value key (doc.field? key)

/-- `encoding/json` decoding of a field's value into a `float64`: a number literal becomes the
    nearest double. -/
def Json.float64Value (key : String) : Option Json → Except String Int
  | none | some .null => .ok 0
  | some (.num n) | some (.numExp n) => .ok (binary64 n)
  | some _ => .error ("json: cannot unmarshal into Go struct field ." ++ key ++ " of type float64")

/-- `encoding/json` decoding of one field into a `float64`. -/
def Json.float64Field (doc : Json) (key : String) : Except String Int :=
  Json.float64Value key (doc.field? key)

/-- `encoding/json` decoding of one field into a `string`. -/
def Json.stringField (doc : Json) (key : String) : Except String String :=
  match doc.field? key with
  | none | some .null => .ok ""
  | some (.str s) => .ok s
  | some _ => .error ("json: cannot unmarshal into Go struct field ." ++ key ++ " of type string")

/-- `json.Unmarshal` into a struct accepts an object or `null` (which leaves every field at
    its zero value); other documents and non-JSON bytes are errors. -/
def Stored.structDoc : Stored → Except String Json
  | .json (.obj fields) => .ok (.obj fields)
  | .json .null => .ok .null
  | .json _ => .error "json: cannot unmarshal into Go value of type struct"
  | .text _ => .error "invalid character looking for beginning of value"

/-- `cjson.decode`: any JSON document; non-JSON bytes raise a Lua error. -/
def Stored.cjsonDecode : Stored → Except String Json
  | .json doc => .ok doc
  | .text _ => .error "Expected value but found invalid token"

end rate_limiter.redis
