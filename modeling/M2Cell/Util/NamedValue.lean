import M2Cell.Lib.Strtol
import M2Cell.Util.CsvFile

/-!
# Named values

A `NamedValue` is a variable that takes its value from the cell of a CSV file in the
column of its name.  `setFromString` converts the text of the cell; what is not
accepted is an exception, and the value stays as it was.

`NamedInt` converts with `strtol` and looks at nothing but the character where the
conversion ended.  The conversion to `double` is a parameter.

The classes of the source differ in the type of the value and in the conversion, so they are the
constructors of one type (`NamedValue`), each with its own `setFromString`.
`setMapValuesFromFile` goes through the map in the order of its keys and stops at the first
exception, which it hands on with the values that were set before.  `IsDecimalInt` is what a
reader of the file would take for the number in a cell, to be compared with the conversion.
-/

namespace M2Cell

/-- What the named values use of floating point numbers. -/
structure DoubleText (D : Type) where
  /-- `strtod`: the number, and the text from `endPtr` on. -/
  strtod : Text → D × Text
  /-- `to_string`. -/
  toText : D → String
  /-- The product with `RADPERDEG`. -/
  radOfDeg : D → D

/-- `NamedAngle::UnitType`. -/
inductive UnitType
  | radian
  | degree
  deriving DecidableEq, Repr

/-- A `NamedValueType`: its name, `val` and `_valueRead`. -/
structure NamedValueType (T : Type) where
  name : Text
  val : T
  valueRead : T
  deriving DecidableEq, Repr

/-- `setValueRead`. -/
def NamedValueType.setValueRead {T : Type} (value : T) (item : NamedValueType T) :
    NamedValueType T :=
  { item with val := value, valueRead := value }

/-- A `NamedInt`. -/
abbrev NamedInt := NamedValueType Int32

/-- A `NamedValue`. -/
inductive NamedValue (D : Type)
  | string (item : NamedValueType Text)
  | bool (item : NamedValueType Bool)
  | int (item : NamedInt)
  | double (item : NamedValueType D)
  | angle (expectedUnits : UnitType) (item : NamedValueType D)

/-- `NamedInt::setFromString`. -/
def NamedInt.setFromString (str : Text) (item : NamedInt) : NamedInt × Except String Unit :=
  let converted := strtol str
  let v := Int32.ofInt converted.1
  if converted.2 ≠ [] then
    (item, .error ("NamedInt::setFromString " ++ String.ofList str ++
      " did not convert properly (" ++ toString v.toInt ++ ")." ++ String.ofList item.name))
  else (item.setValueRead v, .ok ())

/-- `NamedBool::setFromString`. -/
def setBoolFromString (str : Text) (item : NamedValueType Bool) :
    NamedValueType Bool × Except String Unit :=
  let upper := str.map Char.toUpper
  if upper = ['T', 'R', 'U', 'E'] then (item.setValueRead true, .ok ())
  else if upper = ['F', 'A', 'L', 'S', 'E'] then (item.setValueRead false, .ok ())
  else (item, .error ("NamedBool::setFromString " ++ String.ofList str ++
    " is not an acceptable variant of 'true' or 'false'." ++ String.ofList item.name))

section double

variable {D : Type} (lib : DoubleText D)

/-- `getValOfString`. -/
def getValOfString (str name : Text) : Except String D :=
  let converted := lib.strtod str
  if converted.2 ≠ [] then
    .error ("NamedDouble::setFromString " ++ String.ofList str ++ " did not convert properly (" ++
      lib.toText converted.1 ++ ")." ++ String.ofList name)
  else .ok converted.1

/-- `setFromString` of `NamedDouble`, and of `NamedAngle` with a conversion of units. -/
def setDoubleFromString (units : D → D) (str : Text) (item : NamedValueType D) :
    NamedValueType D × Except String Unit :=
  match getValOfString lib str item.name with
  | .ok v => (item.setValueRead (units v), .ok ())
  | .error what => (item, .error what)

/-- The units of the text of an angle, converted to radians. -/
def UnitType.toRadians : UnitType → D → D
  | radian => id
  | degree => lib.radOfDeg

namespace NamedValue

/-- `getName`. -/
def getName : NamedValue D → Text
  | string item => item.name
  | bool item => item.name
  | int item => item.name
  | double item => item.name
  | angle _ item => item.name

/-- `setFromString`. -/
def setFromString (str : Text) : NamedValue D → NamedValue D × Except String Unit
  | string item => (string (item.setValueRead str), .ok ())
  | bool item => Prod.map bool (fun result => result) (setBoolFromString str item)
  | int item => Prod.map int (fun result => result) (item.setFromString str)
  | double item => Prod.map double (fun result => result) (setDoubleFromString lib id str item)
  | angle units item =>
      Prod.map (angle units) (fun result => result)
        (setDoubleFromString lib (units.toRadians lib) str item)

/-- `setMapValuesFromFile`: the map in the order of its keys, and the exception. -/
def setMapValuesFromFile (csvFile : CsvFile) (row : ℤ) :
    List (NamedValue D) → List (NamedValue D) × Except CsvFailure Unit
  | [] => ([], .ok ())
  | nVal :: rest =>
      match csvFile.getValue nVal.getName row with
      | .error failure => (nVal :: rest, .error failure)
      | .ok valFileRowJ =>
          match nVal.setFromString lib valFileRowJ with
          | (nVal, .error what) => (nVal :: rest, .error (.runtimeError what))
          | (nVal, .ok ()) =>
              let result := setMapValuesFromFile csvFile row rest
              (nVal :: result.1, result.2)

end NamedValue

end double

/-! ## Decimal integers -/

/-- The value is an `int`. -/
def FitsInt (value : ℤ) : Prop := -2 ^ 31 ≤ value ∧ value < 2 ^ 31

/-- `str` is the numeral of `value`, which is an `int`. -/
def IsDecimalInt (str : Text) (value : ℤ) : Prop := IsNumeral str value ∧ FitsInt value

end M2Cell
