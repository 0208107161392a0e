/-
The two checks of one value against its definition: the backend's before a
command goes down to the device, and the processor's when the device reports.
-/
import LinkFlow.ThingsModelDefinition

namespace LinkFlow

namespace ThingsModel

/-- `precisionEpsilon`, and the same literal in the backend. -/
def precisionEpsilon : ℚ := 1 / 1000000000

/-- `math.Abs(x-math.Round(x)) <= 1e-9*math.Max(1, math.Abs(x))`, the tolerance
both programs use. -/
def nearInteger (x : ℚ) : Bool :=
  |x - GoMath.round x| ≤ precisionEpsilon * max 1 |x|

/-- The errors of the device service: its sentinels, and any other by its
text. -/
inductive DeviceError where
  | invalidDeviceInput
  | deviceServiceNotFound
  | deviceOffline
  | deviceNotFound
  | commandPublisherUnavailable
  | other (text : String)
deriving Repr, DecidableEq

def validateDeviceServiceCallNumber (dataType : DataType) (spec : GoMap Json)
    (value : ℚ) : Except DeviceError Unit :=
  match specNumbers spec with
  | .error _ => .error .invalidDeviceInput
  | .ok ⟨min, max, step, precision⟩ =>
      if min.any (value < ·) then .error .invalidDeviceInput
      else if max.any (value > ·) then .error .invalidDeviceInput
      else if precision.any fun precision =>
          precision < 0 || hasFraction precision ||
            !nearInteger (value * GoMath.pow10 (GoMath.toInt precision)) then
        .error .invalidDeviceInput
      else if step.any fun step =>
          step ≤ 0 || !nearInteger ((value - min.getD 0) / step) then
        .error .invalidDeviceInput
      else if dataType = .int && hasFraction value then
        .error .invalidDeviceInput
      else .ok ()

/-- The downlink check.  The name of the property is not part of the answer. -/
def validateDeviceServiceCallValue (_name : String) (definition : GoMap Json)
    (value : Json) : Except DeviceError Unit :=
  match DataType.ofText? (optionalString definition "data_type") with
  | some .int =>
      match value.number? with
      | some number =>
          if hasFraction number then .error .invalidDeviceInput
          else
            validateDeviceServiceCallNumber .int (specObject definition) number
      | none => .error .invalidDeviceInput
  | some .float =>
      match value.number? with
      | some number =>
          validateDeviceServiceCallNumber .float (specObject definition) number
      | none => .error .invalidDeviceInput
  | some .double =>
      match value.number? with
      | some number =>
          validateDeviceServiceCallNumber .double (specObject definition) number
      | none => .error .invalidDeviceInput
  | some .bool =>
      match value with
      | .bool _ => .ok ()
      | _ => .error .invalidDeviceInput
  | some .string =>
      match value with
      | .str _ => .ok ()
      | _ => .error .invalidDeviceInput
  | none => .error .invalidDeviceInput

/-- The errors a report is refused with. -/
inductive Sentinel where
  | invalidPropertyValue
  | invalidEventValue
  | invalidServiceOutput
deriving Repr, DecidableEq

/-- Why a value is refused, with the data the message shows. -/
inductive Reason where
  | expectedInteger
  | fractionalPart (value : ℚ)
  | expectedNumeric
  | expectedBoolean
  | expectedString
  | unsupportedDataType (dataType : String)
  | belowMin (value min : ℚ)
  | aboveMax (value max : ℚ)
  | exceedsPrecision (value : ℚ) (precision : ℤ)
  | invalidStep (step : ℚ)
  | notAligned (value step : ℚ)
deriving Repr, DecidableEq

structure ValueError where
  sentinel : Sentinel
  name : String
  reason : Reason
deriving Repr, DecidableEq

/-- The loop of `decimalDigits`: the first of at most eight scales, counted from
`digits`, at which the value is an integer. -/
def decimalDigitsFrom (value : ℚ) (digits : Nat) : Nat → Nat
  | 0 => 8
  | fuel + 1 =>
      let scaled := |value| * GoMath.pow10 digits
      if |scaled - GoMath.round scaled| < precisionEpsilon then digits
      else decimalDigitsFrom value (digits + 1) fuel

def decimalDigits (value : ℚ) : Nat := decimalDigitsFrom value 0 9

def effectivePrecision (definition : PropertyDefinition) : ℤ :=
  match definition.precision with
  | some precision => precision
  | none =>
      let digits (value : Option ℚ) : Nat := value.elim 0 decimalDigits
      (max (max (digits definition.step) (digits definition.min))
        (digits definition.max) : Nat)

def validateNumericConstraints (name : String) (definition : PropertyDefinition)
    (value : ℚ) (sentinel : Sentinel) : Except ValueError Unit :=
  match definition.min.filter (value < ·),
    definition.max.filter (value > ·) with
  | some min, _ => .error ⟨sentinel, name, .belowMin value min⟩
  | none, some max => .error ⟨sentinel, name, .aboveMax value max⟩
  | none, none =>
      let precision := effectivePrecision definition
      let scale := GoMath.pow10 precision
      if !nearInteger (value * scale) then
        .error ⟨sentinel, name, .exceedsPrecision value precision⟩
      else
        match definition.step with
        | none => .ok ()
        | some step =>
            let scaledStep := GoMath.round (step * scale)
            let anchor :=
              definition.min.elim 0 fun min => GoMath.round (min * scale)
            if scaledStep ≤ 0 then
              .error ⟨sentinel, name, .invalidStep step⟩
            else if GoMath.mod (GoMath.round (value * scale) - anchor)
                scaledStep ≠ 0
            then .error ⟨sentinel, name, .notAligned value step⟩
            else .ok ()

/-- The uplink check. -/
def validateDefinedValue (name : String) (definition : PropertyDefinition)
    (value : Json) (sentinel : Sentinel) : Except ValueError Unit :=
  match DataType.ofText? definition.dataType with
  | some .int =>
      match value.number? with
      | none => .error ⟨sentinel, name, .expectedInteger⟩
      | some number =>
          if hasFraction number then
            .error ⟨sentinel, name, .fractionalPart number⟩
          else validateNumericConstraints name definition number sentinel
  | some .float | some .double =>
      match value.number? with
      | none => .error ⟨sentinel, name, .expectedNumeric⟩
      | some number =>
          validateNumericConstraints name definition number sentinel
  | some .bool =>
      match value with
      | .bool _ => .ok ()
      | _ => .error ⟨sentinel, name, .expectedBoolean⟩
  | some .string =>
      match value with
      | .str _ => .ok ()
      | _ => .error ⟨sentinel, name, .expectedString⟩
  | none => .error ⟨sentinel, name, .unsupportedDataType definition.dataType⟩

section Sentinels

variable {sentinel : Sentinel}

theorem validateNumericConstraints_sentinel {name : String}
    {definition : PropertyDefinition} {value : ℚ} {err : ValueError}
    (herr : validateNumericConstraints name definition value sentinel =
      .error err) :
    err.sentinel = sentinel := by
  rw [validateNumericConstraints] at herr
  grind

/-- A refused value is refused with the sentinel of its validator. -/
theorem validateDefinedValue_sentinel {name : String}
    {definition : PropertyDefinition} {value : Json} {err : ValueError}
    (herr : validateDefinedValue name definition value sentinel = .error err) :
    err.sentinel = sentinel := by
  unfold validateDefinedValue at herr
  have hnumeric := @validateNumericConstraints_sentinel sentinel name definition
  grind

end Sentinels

end ThingsModel

end LinkFlow
