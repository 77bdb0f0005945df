import ConnectionManager.Datum.Basic
import ConnectionManager.Value.Access

/-!
Values as data. A value is written as its signature and its content. Integers of 64 bits are
written as decimal text and doubles as the hexadecimal digits of their bits, because other programs
may not keep all digits of a number.
-/

namespace ConnectionManager

open Number (Double WordType)

namespace Datum

def dictionarySignature : String := "a\x7bsv\x7d"

def tagged (signature : String) (content : Datum) : Datum :=
  .record [("t", .text signature), ("v", content)]

def ofDouble (number : Double) : Datum :=
  let bits := number.bits.toNat
  .text (hexText ((List.range 8).map fun index => UInt8.ofNat (bits >>> (8 * (7 - index)))))

def toDouble (data : Datum) : Double :=
  ⟨UInt64.ofNat ((hexBytes data.string.toList).foldl (fun bits byte => bits * 256 + byte.toNat) 0)⟩

def decimal (number : Int) : Datum := .text (toString number)

mutual

def ofValue : Value → Datum
  | .bool content => tagged "b" (.truth content)
  | .integer word =>
      tagged (WordType.signature word.type)
        (match word.type with
          | .int64 | .uint64 => decimal word.number
          | _ => .number word.number)
  | .double value => tagged "d" (ofDouble value)
  | .string content => tagged "s" (.text content)
  | .path path => tagged "o" (datum path)
  | .bytes content => tagged "ay" (.text (hexText content))
  | .strings content => tagged "as" (datum content)
  | .paths content => tagged "ao" (datum content)
  | .boxed inner => tagged "v" (ofValue inner)
  | .dictionary entries => tagged dictionarySignature (.list (ofEntries entries))
  | .array content => tagged "array" (.list (ofValues content))
  | .tuple content => tagged "struct" (.list (ofValues content))

def ofValues : List Value → List Datum
  | [] => []
  | value :: rest => ofValue value :: ofValues rest

def ofEntries : List (String × Value) → List Datum
  | [] => []
  | (key, value) :: rest => .list [.text key, ofValue value] :: ofEntries rest

end

instance : ToDatum Value := ⟨ofValue⟩
instance : ToDatum Dictionary := ⟨fun dictionary => .list (ofEntries dictionary.entries)⟩

def toInteger : Datum → Int
  | .text digits => (Number.readInteger? digits.toList).getD 0
  | other => other.integer

/-- A value without parts; `none` for the signatures of those that have parts. -/
def simpleValue? (signature : String) (content : Datum) : Option (Outcome Value) :=
  match signature with
  | "b" => some (.ok (.bool content.boolean))
  | "d" => some (.ok (.double content.toDouble))
  | "s" => some (.ok (.string content.string))
  | "ay" => some (.ok (.bytes (hexBytes content.string.toList)))
  | "as" => some (.ok (.strings (content.items.map string)))
  | "o" => some ((ObjectPath.ofString content.string).map .path)
  | "ao" => some ((content.items.mapM fun path => ObjectPath.ofString path.string).map .paths)
  | other =>
      (WordType.ofSignature? other).map fun type =>
        .ok ((Value.ofWord type content.toInteger).getD (.bool false))

mutual

/-- Reads a value. Fuel bounds the depth. -/
def toValueWithin (fuel : Nat) (data : Datum) : Outcome Value :=
  let signature := data.stringAt "t"
  let content := data.field "v"
  match fuel, simpleValue? signature content with
  | _, some value => value
  | 0, none => .ok (.bool false)
  | fuel + 1, none =>
      if signature = "v" then (toValueWithin fuel content).map .boxed
      else if signature = "array" then (toValuesWithin fuel content.items).map .array
      else if signature = "struct" then (toValuesWithin fuel content.items).map .tuple
      else (toPairsWithin fuel content.items).map fun pairs =>
        .dictionary (Dictionary.ofPairs pairs).entries

def toValuesWithin (fuel : Nat) : List Datum → Outcome (List Value)
  | [] => .ok []
  | data :: rest => do .ok ((← toValueWithin fuel data) :: (← toValuesWithin fuel rest))

def toPairsWithin (fuel : Nat) : List Datum → Outcome (List (String × Value))
  | [] => .ok []
  | .list [key, value] :: rest => do
      let value ← toValueWithin fuel value
      .ok ((key.string, value) :: (← toPairsWithin fuel rest))
  | _ :: rest => toPairsWithin fuel rest

end

mutual

def depth : Datum → Nat
  | .list items => depthOfItems items + 1
  | .record fields => depthOfFields fields + 1
  | _ => 0

def depthOfItems : List Datum → Nat
  | [] => 0
  | item :: rest => max item.depth (depthOfItems rest)

def depthOfFields : List (String × Datum) → Nat
  | [] => 0
  | (_, value) :: rest => max value.depth (depthOfFields rest)

end

def toValue (data : Datum) : Outcome Value := toValueWithin data.depth data

/-- Reads a dictionary from a list of pairs; later pairs replace earlier ones. -/
def toDictionary (data : Datum) : Outcome Dictionary :=
  (toPairsWithin data.depth data.items).map Dictionary.ofPairs

def readings (value : Option Value) : List (String × Datum) :=
  let reading {α : Type} [ToDatum α] (read : Value → Option α) : Datum := datum (value.bind read)
  let integer (type : WordType) (write : Int → Datum) : Datum :=
    datum ((value.bind (Value.integerAs? type)).map write)
  [("bool", reading Value.bool?),
    ("u32", integer .uint32 .number),
    ("i32", integer .int32 .number),
    ("u64", integer .uint64 decimal),
    ("i64", integer .int64 decimal),
    ("f64", datum ((value.bind Value.double?).map ofDouble)),
    ("str", reading Value.string?),
    ("path", reading Value.path?),
    ("strings", reading Value.strings?),
    ("paths", reading Value.paths?),
    ("bytes", datum ((value.bind Value.bytes?).map hexText)),
    ("map", reading Value.dictionary?)]

/-- What each reader of simple values makes of a value when it has a default to fall back on. -/
def readingsOrDefault (value : Option Value) : Datum :=
  let integer (type : WordType) : Int := (value.bind (Value.integerAs? type)).getD 0
  .list [.truth ((value.bind Value.bool?).getD false), .number (integer .uint32),
    .number (integer .int32), decimal (integer .uint64), decimal (integer .int64),
    .text ((value.bind Value.string?).getD "")]

end Datum

end ConnectionManager
