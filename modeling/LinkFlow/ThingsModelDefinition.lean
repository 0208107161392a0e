/-
The processor's reading of a stored thing model.
-/
import LinkFlow.ThingsModelValidator

namespace LinkFlow

namespace ThingsModel

/-- `dataType` is the trimmed text, recognised or not. -/
structure PropertyDefinition where
  dataType : String
  required : Bool
  min : Option ℚ
  max : Option ℚ
  step : Option ℚ
  precision : Option ℤ
deriving Repr, DecidableEq

/-- `numberFromAny`, read from a field of a spec. -/
def numberField (spec : GoMap Json) (key : String) : Option ℚ :=
  (spec.get? key).bind Json.number?

/-- `body["spec"].(map[string]any)`; anything else reads as the nil map. -/
def specObject (body : GoMap Json) : GoMap Json :=
  ((body.get? "spec").bind Json.object?).getD GoMap.empty

def parsePropertyDefinition (body : GoMap Json) : PropertyDefinition where
  dataType := optionalString body "data_type"
  required := ((body.get? "required").bind Json.bool?).getD false
  min := numberField (specObject body) "min"
  max := numberField (specObject body) "max"
  step := numberField (specObject body) "step"
  precision := (numberField (specObject body) "precision").map GoMath.toInt

/-- `EventDefinition` and `ServiceDefinition`: their declared output. -/
structure OutputDefinition where
  output : GoMap PropertyDefinition

structure Definition where
  tenantID : String
  productID : String
  properties : GoMap PropertyDefinition
  events : GoMap OutputDefinition
  services : GoMap OutputDefinition

/-- What `json.Unmarshal` into `map[string]map[string]any` makes of a text: a
null body is a nil map, a body of another type an error. -/
def decodeBodies (raw : Json) : Option (GoMap (GoMap Json)) :=
  match raw with
  | .null => some GoMap.empty
  | .obj members =>
      if members.all fun member =>
          match member.2 with
          | .null | .obj _ => true
          | _ => false
      then
        some ((GoMap.ofMembers members).mapValues fun _ body =>
          body.object?.getD GoMap.empty)
      else none
  | _ => none

/-- The columns of a thing model. -/
inductive Section where
  | properties
  | events
  | services
deriving Repr, DecidableEq

/-- Why a stored thing model cannot be read. -/
inductive ParseError where
  | decode (kind : Section)
  | outputNotObject (kind : Section) (identifier paramName : String)
deriving Repr, DecidableEq

/-- `parseEventDefinitions` and `parseServiceDefinitions`, which differ in the
section their errors name.  A missing output is empty, an output parameter that
is not an object is an error. -/
def parseOutputDefinitions (kind : Section) (raw : Json) :
    Except ParseError (GoMap OutputDefinition) :=
  match decodeBodies raw with
  | none => .error (.decode kind)
  | some bodies =>
      let output (body : GoMap Json) : GoMap Json :=
        ((body.get? "output").bind Json.object?).getD GoMap.empty
      match bodies.range fun identifier body =>
          (output body).range fun paramName param =>
            match param.object? with
            | some _ => .ok ()
            | none => .error (.outputNotObject kind identifier paramName) with
      | .error err => .error err
      | .ok () =>
          .ok (bodies.mapValues fun _ body =>
            ⟨(output body).mapValues fun _ param =>
              parsePropertyDefinition (param.object?.getD GoMap.empty)⟩)

def parseDefinition (tenantID productID : String)
    (properties events services : Json) : Except ParseError Definition :=
  match decodeBodies properties with
  | none => .error (.decode .properties)
  | some bodies =>
      match parseOutputDefinitions .events events,
          parseOutputDefinitions .services services with
      | .error err, _ => .error err
      | .ok _, .error err => .error err
      | .ok events, .ok services =>
          .ok
            { tenantID := tenantID
              productID := productID
              properties := bodies.mapValues fun _ => parsePropertyDefinition
              events := events
              services := services }

end ThingsModel

end LinkFlow
