import SplunkLogs.Foundation.Binary64
import SplunkLogs.Model.Text

/-!
# JSON values as the extension reads them

`yyjson` parses and writes, DuckDB casts timestamps: both are outside the repository and
are parameters. Access to a parsed value is modelled on the C interface, whose strings
are handed around as `const char *`.
-/
namespace SplunkLogs

open Foundation (Binary64)

/-- A JSON number keeps the representation the parser chose. -/
inductive JsonNumber where
  | uint (n : Nat)
  | sint (n : Int)
  | real (x : Binary64)

/-- `yyjson_get_num`: the number converted to `double`. -/
def JsonNumber.toDouble : JsonNumber → Binary64
  | .uint n => Binary64.ofRat n
  | .sint n => Binary64.ofRat n
  | .real x => x

/-- A parsed JSON value. Objects keep the order and the repetitions of their keys. -/
inductive Json where
  | null
  | bool (value : Bool)
  | num (value : JsonNumber)
  | str (value : Bytes)
  | arr (items : List Json)
  | obj (members : List (Bytes × Json))

namespace Json

def isObj : Json → Bool
  | obj _ => true
  | _ => false

/-- `yyjson_obj_get`: the value of the first member with that key; null on a non-object. -/
def objGet : Json → Bytes → Option Json
  | obj members, key => (members.find? fun member => member.1 == key).map Prod.snd
  | _, _ => none

end Json

/-- The string under `key`, as the C string `yyjson_get_str` returns. -/
def getStr (object : Option Json) (key : Bytes) : Option Bytes :=
  match object.bind (·.objGet key) with
  -- The length of the string is not handed on.
  | some (.str value) => some (cString value)
  | _ => none

/-- The first string under any of `keys`, sources before keys. -/
def lookupStr (sources : List (Option Json)) (keys : List Bytes) : Option Bytes :=
  sources.findSome? fun source => keys.findSome? fun key => getStr source key

/-- The results of `Timestamp::TryConvertTimestampTZ` when it succeeds. -/
structure TimestampTZ where
  micros : Int
  hasOffset : Bool
  tz : Bytes
  subMicroNanos : Int

/-- What the mapping takes from outside the repository. `llroundUndefined` is the value a
machine happens to deliver where the C standard leaves `llround` unspecified. -/
structure Externals where
  readJson : Bytes → Option Json
  writeJson : Json → Bytes
  tryConvertTimestampTZ : Bytes → Option TimestampTZ
  tryConvertTimestamp : Bytes → Option Int
  tryGetEpochNanoSeconds : Int → Option Int
  llroundUndefined : Binary64 → Int

/-- An instance that parses the texts listed, rejects all others and knows no timestamps. -/
def Externals.ofRecords (records : List (Bytes × Json)) : Externals where
  readJson text := (records.find? fun record => record.1 == text).map Prod.snd
  writeJson _ := ascii "\x7b\x7d"
  tryConvertTimestampTZ _ := none
  tryConvertTimestamp _ := none
  tryGetEpochNanoSeconds _ := none
  llroundUndefined _ := 0

end SplunkLogs
