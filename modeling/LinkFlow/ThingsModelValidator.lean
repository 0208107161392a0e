/-
The backend's check of a thing model before it is stored: property, event and
service definitions, down to the numeric spec of one parameter.
-/
import LinkFlow.Json
import LinkFlow.Lib.GoMath

namespace LinkFlow

/-- The data types of properties and parameters. -/
inductive DataType where
  | int
  | float
  | double
  | bool
  | string
deriving Repr, DecidableEq

/-- The data type a text names. -/
def DataType.ofText? : String → Option DataType
  | "int" => some .int
  | "float" => some .float
  | "double" => some .double
  | "bool" => some .bool
  | "string" => some .string
  | _ => none

/-- `numericThingsModelDataType`. -/
def DataType.numeric : DataType → Bool
  | .int | .float | .double => true
  | .bool | .string => false

namespace ThingsModel

/-- Every error wraps `errInvalidThingsModelDefinition`. -/
def invalidDefinition (reason : String) : String :=
  "invalid thingsmodel definition: " ++ reason

/-- `^[A-Za-z][A-Za-z0-9_]*$` -/
def thingsModelIdentifierPattern : Pattern := ⟨isLetter, isWord⟩

def validThingsModelIdentifier (identifier : String) : Bool :=
  thingsModelIdentifierPattern.matches identifier

def requiredString (value : GoMap Json) (key : String) : Bool :=
  match (value.get? key).bind Json.string? with
  | some raw => trimSpace raw ≠ ""
  | none => false

def optionalString (value : GoMap Json) (key : String) : String :=
  match (value.get? key).bind Json.string? with
  | some raw => trimSpace raw
  | none => ""

/-- A missing number is no error; a value of another type is. -/
def optionalNumber (value : GoMap Json) (key : String) :
    Except String (Option ℚ) :=
  match value.get? key with
  | none => .ok none
  | some (.num number _) => .ok (some number)
  | some _ => .error (invalidDefinition (key ++ " must be number"))

/-- The numbers of a spec, where present. -/
structure SpecNumbers where
  min : Option ℚ
  max : Option ℚ
  step : Option ℚ
  precision : Option ℚ
deriving Repr, DecidableEq

/-- The four `optionalNumber` calls both checks begin with. -/
def specNumbers (spec : GoMap Json) : Except String SpecNumbers := do
  let min ← optionalNumber spec "min"
  let max ← optionalNumber spec "max"
  let step ← optionalNumber spec "step"
  let precision ← optionalNumber spec "precision"
  return ⟨min, max, step, precision⟩

/-- A declared unit is a string that is not blank. -/
def validUnit (spec : GoMap Json) : Bool :=
  match spec.get? "unit" with
  | none => true
  | some (.str unit) => trimSpace unit ≠ ""
  | some _ => false

/-- `math.Trunc(x) != x` -/
def hasFraction (x : ℚ) : Bool := (GoMath.trunc x : ℚ) ≠ x

def validateThingModelSpec (dataType : DataType) (spec : GoMap Json) :
    Except String Unit :=
  match specNumbers spec with
  | .error err => .error err
  | .ok ⟨min, max, step, precision⟩ =>
      if !validUnit spec then
        .error (invalidDefinition "unit must be non-empty string")
      else if (min.isSome || max.isSome || step.isSome || precision.isSome) &&
          !dataType.numeric then
        .error (invalidDefinition "numeric spec requires numeric data_type")
      else if min.any fun min => max.any fun max => min > max then
        .error (invalidDefinition "min cannot exceed max")
      else if step.any (· ≤ 0) then
        .error (invalidDefinition "step must be greater than zero")
      else if precision.any fun precision =>
          precision < 0 || hasFraction precision then
        .error (invalidDefinition "precision must be non-negative integer")
      else if dataType = .int && precision.any (· ≠ 0) then
        .error (invalidDefinition "int precision must be zero")
      else if dataType = .int &&
          (min.any hasFraction || max.any hasFraction ||
            step.any hasFraction) then
        .error (invalidDefinition "int spec values must be integers")
      else .ok ()

def validPropertyAccessMode (accessMode : String) : Bool :=
  accessMode ∈ ["read", "write", "readwrite"]

def validEventLevel (level : String) : Bool :=
  level ∈ ["info", "warning", "error"]

def validServiceCallType (callType : String) : Bool :=
  callType ∈ ["sync", "async"]

def validateThingModelParamDefinition (definition : GoMap Json)
    (requireAccessMode : Bool) : Except String Unit :=
  if !requiredString definition "name" then
    .error (invalidDefinition "name is required")
  else
    match DataType.ofText? (optionalString definition "data_type") with
    | none => .error (invalidDefinition "invalid data_type")
    | some dataType =>
        if ((definition.get? "required").bind Json.bool?).isNone then
          .error (invalidDefinition "required must be bool")
        else if requireAccessMode &&
            !validPropertyAccessMode
              (optionalString definition "access_mode") then
          .error (invalidDefinition "invalid access_mode")
        else
          match definition.get? "spec" with
          | none => .ok ()
          | some spec =>
              match spec.object? with
              | none => .error (invalidDefinition "spec must be object")
              | some spec => validateThingModelSpec dataType spec

/-- Prefix an error with the place it comes from. -/
def within (place : String) (result : Except String Unit) :
    Except String Unit :=
  result.mapError fun err => invalidDefinition (place ++ ": " ++ err)

def validateThingModelParamMap (params : GoMap Json) : Except String Unit :=
  params.range fun identifier raw =>
    if !validThingsModelIdentifier identifier then
      .error (invalidDefinition "invalid param identifier")
    else
      match raw.object? with
      | none => .error (invalidDefinition "param must be object")
      | some definition =>
          within ("param " ++ identifier)
            (validateThingModelParamDefinition definition false)

def validateThingsModelProperties (properties : GoMap Json) :
    Except String Unit :=
  properties.range fun identifier raw =>
    if !validThingsModelIdentifier identifier then
      .error (invalidDefinition "invalid property identifier")
    else
      match raw.object? with
      | none => .error (invalidDefinition "property must be object")
      | some definition =>
          within ("property " ++ identifier)
            (validateThingModelParamDefinition definition true)

/-- A description may be missing but not of another type. -/
def validDesc (definition : GoMap Json) : Bool :=
  match definition.get? "desc" with
  | none => true
  | some desc => desc.string?.isSome

def validateThingsModelEvents (events : GoMap Json) : Except String Unit :=
  events.range fun identifier raw =>
    if !validThingsModelIdentifier identifier then
      .error (invalidDefinition "invalid event identifier")
    else
      match raw.object? with
      | none => .error (invalidDefinition "event must be object")
      | some definition =>
          if !requiredString definition "name" then
            .error (invalidDefinition "event name is required")
          else if !validEventLevel (optionalString definition "level") then
            .error (invalidDefinition "invalid event level")
          else if !validDesc definition then
            .error (invalidDefinition "event desc must be string")
          else
            match (definition.get? "output").bind Json.object? with
            | none => .error (invalidDefinition "event output must be object")
            | some output =>
                within ("event " ++ identifier ++ " output")
                  (validateThingModelParamMap output)

def validateThingsModelServices (services : GoMap Json) : Except String Unit :=
  services.range fun identifier raw =>
    if !validThingsModelIdentifier identifier then
      .error (invalidDefinition "invalid service identifier")
    else
      match raw.object? with
      | none => .error (invalidDefinition "service must be object")
      | some definition =>
          if !requiredString definition "name" then
            .error (invalidDefinition "service name is required")
          else if !validServiceCallType
              (optionalString definition "call_type") then
            .error (invalidDefinition "invalid service call_type")
          else if !validDesc definition then
            .error (invalidDefinition "service desc must be string")
          else
            match (definition.get? "input").bind Json.object?,
                (definition.get? "output").bind Json.object? with
            | none, _ =>
                .error (invalidDefinition "service input must be object")
            | some _, none =>
                .error (invalidDefinition "service output must be object")
            | some input, some output =>
                match within ("service " ++ identifier ++ " input")
                    (validateThingModelParamMap input) with
                | .error err => .error err
                | .ok () =>
                    within ("service " ++ identifier ++ " output")
                      (validateThingModelParamMap output)

def validateThingsModelDefinition (properties events services : GoMap Json) :
    Except String Unit := do
  validateThingsModelProperties properties
  validateThingsModelEvents events
  validateThingsModelServices services

end ThingsModel

end LinkFlow
