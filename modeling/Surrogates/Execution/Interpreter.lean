/-
Surrogates.Execution.Interpreter — units run on JSON values.

An interpreter has codecs and units by the names of their serializers, and
the serializers that modules register for types. A unit's serializer takes
the fields of the surrogate out of an object, one after another, and runs
each by its plan; what is left of the object is dropped. A field that is
absent reads as `null` if its type may be null.

A plan is followed down as far as it concerns the value itself, and from
there on into the values inside. Those are less deep, so the depth of the
value bounds the levels: `atLevel n` runs values of depth less than `n`.
-/
import Surrogates.Execution.Codec
import Surrogates.Generation.Report
import Surrogates.Table.Basic
import Surrogates.TypeName.Builtin

namespace Surrogates.Execution

/-! ## §1 Interpreters -/

/-- Codecs and units by the names of their serializers, and the serializers
that are registered for types. -/
structure Interpreter where
  codecs : Table TypeName Codec
  units : Table TypeName SurrogateUnit
  registry : Table TypeName TypeName

namespace Interpreter

/-- The interpreter that knows nothing. -/
def empty : Interpreter := ⟨∅, ∅, ∅⟩

/-- Gives a name a codec. -/
def register (it : Interpreter) (name : TypeName) (codec : Codec) : Interpreter :=
  { it with codecs := it.codecs.insert name codec }

/-- Gives the serializer of a unit its unit. -/
def addUnit (it : Interpreter) (unit : SurrogateUnit) : Interpreter :=
  { it with units := it.units.insert unit.serializer.name unit }

/-- Registers the pairs of a module; a type registered again has its last
serializer. -/
def addModule (it : Interpreter) (spec : SerializerModule) : Interpreter :=
  { it with
    registry := it.registry.insertAll (spec.pairs.map fun pair => (pair.target, pair.serializer.name)) }

/-- Adds the units and then the modules of a generation. -/
def load (it : Interpreter) (generation : Generation) : Interpreter :=
  generation.modules.foldl addModule (generation.units.foldl addUnit it)

/-- The serializer that is registered for a type. -/
def serializerFor? (it : Interpreter) (type : TypeName) : Option TypeName :=
  it.registry.get? type

/-! ## §2 Units -/

section

variable (inner : Plan → Json → Result Json)

/-- The value of a field in an object, `null` if it is absent and may be null. -/
def fieldValue (type : TypeName) (field : SurrogateField) (source : List (String × Json)) :
    Result Json :=
  match Assoc.get? field.name source with
  | some value => .ok value
  | none =>
    if field.type.nullable then .ok .null else .error (.missingField type field.name)

/-- Runs the fields of a surrogate on an object, taking each out of it. -/
def runFields (type : TypeName) :
    List SurrogateField → List (String × Json) → List (String × Json) →
      Result (List (String × Json))
  | [], _, out => .ok out
  | field :: rest, source, out => do
    let value ← fieldValue type field source
    let value ← inner field.plan value
    runFields type rest (Assoc.erase field.name source) (Assoc.put field.name value out)

/-- The type that a unit reads in a direction. -/
def readType (unit : SurrogateUnit) : Direction → TypeName
  | .encode => unit.target
  | .decode => unit.surrogate.name

/-- Runs the serializer of a unit. -/
def runUnit (direction : Direction) (unit : SurrogateUnit) : Json → Result Json
  | .object members =>
    (runFields inner (readType unit direction) unit.surrogate.fields members []).map .object
  | found => .error (.shape (readType unit direction) .object found)

/-- Runs the serializer of a name: a codec before a unit. -/
def runNamed (it : Interpreter) (direction : Direction) (name : TypeName) (value : Json) :
    Result Json :=
  match it.codecs.get? name with
  | some codec => codec.run direction value
  | none =>
    match it.units.get? name with
    | some unit => runUnit inner direction unit value
    | none => .error (.unknownSerializer name)

/-! ## §3 Containers -/

/-- Runs items by the plans in their places; items beyond the plans stay. -/
def runTuple : List Plan → List Json → Result (List Json)
  | _, [] => .ok []
  | plans, item :: rest => do
    let item ← inner (plans.headD .native) item
    let rest ← runTuple plans.tail rest
    .ok (item :: rest)

/-- Runs the keys and values of a map; a key has to stay a string. -/
def runEntries (head : TypeName) (key item : Plan) :
    List (String × Json) → List (String × Json) → Result (List (String × Json))
  | [], out => .ok out
  | (name, value) :: rest, out => do
    match ← inner key (.string name) with
    | .string name => do
      let value ← inner item value
      runEntries head key item rest (Assoc.put name value out)
    | other => .error (.shape head .stringKey other)

/-- Runs a container that holds its values inside. -/
def runContainer (head : TypeName) (kind : ContainerKind) (args : List Plan) (value : Json) :
    Result Json :=
  let first := args.headD .native
  match kind, value with
  | .map, .object members =>
    (runEntries inner head first (args.tail.headD .native) members []).map .object
  | .map, found => .error (.shape head .object found)
  | .tuple, .array items => (runTuple inner args items).map .array
  | .tuple, found => .error (.shape head .array found)
  | _, .array items => (items.mapM (inner first)).map .array
  | _, found => .error (.shape head .array found)

end

/-! ## §4 Plans -/

variable (it : Interpreter) (direction : Direction)

/-- Runs a plan, and the plans of the values inside by `inner`. -/
def runPlan (inner : Plan → Json → Result Json) : Plan → Json → Result Json
  | .native, value => .ok value
  | .use serializer, value => runNamed inner it direction serializer.name value
  | .nullable plan, value => if value.isNull then .ok .null else runPlan inner plan value
  | .generic head args, value =>
    match head.container? with
    | none => .ok value
    | some .transparent =>
      match args with
      | [] => .ok value
      | plan :: _ => runPlan inner plan value
    | some kind => runContainer inner head kind args value

/-- Runs plans on values of depth less than the level. -/
def atLevel : Nat → Plan → Json → Result Json
  | 0 => fun _ value => .ok value
  | n + 1 => it.runPlan direction (atLevel n)

/-! ## §5 Running -/

/-- Runs the serializer of a name. -/
def run (name : TypeName) (value : Json) : Result Json :=
  runNamed (it.atLevel direction value.depth) it direction name value

/-- Runs the serializer that is registered for a type. -/
def runFor (type : TypeName) (value : Json) : Result Json :=
  match it.serializerFor? type with
  | some name => it.run direction name value
  | none => .error (.notRegistered type)

end Interpreter

end Surrogates.Execution
