import WealthFinder.Pipeline.PythonText

/-!
# Parameters of statements and JSON documents

The values that a statement is sent, and the documents of its JSONB columns.  A document
stands for the text that `json.dumps` writes of it and `json.loads` reads back.
-/

set_option autoImplicit false

namespace WealthFinder.Pipeline.Persistent

inductive Json where
  | null
  | number (value : ℚ)
  | string (text : Text)
  | object (members : List (String × Json))

namespace Json

def ofString (text : String) : Json := .string text.toList

def keys : Json → List String
  | .object members => members.map Prod.fst
  | .null | .number _ | .string _ => []

/-- `document[name]`. -/
def get (document : Json) (name : String) : Except DecodeError Json :=
  match document with
  | .object members =>
      match members.lookup name with
      | some member => .ok member
      | none => .error .keyError
  | .null | .number _ | .string _ => .error .typeError

def getText (document : Json) (name : String) : Except DecodeError Text := do
  match ← document.get name with
  | .string text => .ok text
  | .null | .number _ | .object _ => .error .typeError

def getString (document : Json) (name : String) : Except DecodeError String :=
  (document.getText name).map String.ofList

def getNumber (document : Json) (name : String) : Except DecodeError ℚ := do
  match ← document.get name with
  | .number value => .ok value
  | .null | .string _ | .object _ => .error .typeError

theorem get_cons_same (name : String) (member : Json) (members : List (String × Json)) :
    (object ((name, member) :: members)).get name = .ok member := by
  rw [get, List.lookup_cons_self]

theorem get_cons_ne {name other : String} (apart : name ≠ other) (member : Json)
    (members : List (String × Json)) :
    (object ((other, member) :: members)).get name = (object members).get name := by
  have head : (name == other) = false := beq_eq_false_iff_ne.mpr apart
  rw [get, List.lookup_cons, head]
  rfl

theorem getText_of_get {document : Json} {name : String} {text : Text}
    (found : document.get name = .ok (.string text)) : document.getText name = .ok text := by
  rw [getText, found]
  rfl

theorem getString_of_get {document : Json} {name text : String}
    (found : document.get name = .ok (ofString text)) : document.getString name = .ok text := by
  rw [getString, getText_of_get found, Except.map, String.ofList_toList]

theorem getNumber_of_get {document : Json} {name : String} {value : ℚ}
    (found : document.get name = .ok (.number value)) : document.getNumber name = .ok value := by
  rw [getNumber, found]
  rfl

end Json

/-- `U` is the type of UUIDs. -/
inductive SqlValue (U : Type) where
  | null
  | uuid (id : U)
  | text (content : Text)
  | timestamptz (time : Timestamp)
  | float (value : ℚ)
  | integer (value : Int)
  | boolean (value : Bool)
  | jsonb (document : Json)

namespace SqlValue
variable {U : Type}

def ofString (text : String) : SqlValue U := .text text.toList

def ofTimestamp : Option Timestamp → SqlValue U
  | none => .null
  | some time => .timestamptz time

/-! What a column of each type accepts. -/

def toUuid : SqlValue U → Option U
  | .uuid id => some id
  | _ => none

def toText : SqlValue U → Option Text
  | .text content => some content
  | _ => none

def toString : SqlValue U → Option String
  | .text content => some (String.ofList content)
  | _ => none

def toTimestamp : SqlValue U → Option Timestamp
  | .timestamptz time => some time
  | _ => none

def toNullableTimestamp : SqlValue U → Option (Option Timestamp)
  | .null => some none
  | .timestamptz time => some (some time)
  | _ => none

def toFloat : SqlValue U → Option ℚ
  | .float value => some value
  | _ => none

def toInteger : SqlValue U → Option Int
  | .integer value => some value
  | _ => none

def toBoolean : SqlValue U → Option Bool
  | .boolean value => some value
  | _ => none

def toJsonb : SqlValue U → Option Json
  | .jsonb document => some document
  | _ => none

@[simp] theorem toString_ofString (text : String) :
    (ofString text : SqlValue U).toString = some text := by
  rw [ofString, toString, String.ofList_toList]

@[simp] theorem toNullableTimestamp_ofTimestamp (time : Option Timestamp) :
    (ofTimestamp time : SqlValue U).toNullableTimestamp = some time := by
  cases time with
  | none => rfl
  | some time => rfl

end SqlValue

end WealthFinder.Pipeline.Persistent
