/-
The thing-model editor of the web: the sections of a stored model as form rows,
and the rows as sections again.  The rows' local ids are left out.
-/
import LinkFlow.JsonNumbers
import LinkFlow.ThingsModelReading
import LinkFlow.Lib.NumberText

namespace LinkFlow

namespace Editor

open ThingsModel

section JavaScript

/-- White space and line terminators. -/
def isJsSpace (char : Char) : Bool :=
  char ∈ ['\t', '\n', '\x0b', '\x0c', '\r', ' ', '\u00a0', '\u1680', '\u2028',
    '\u2029', '\u202f', '\u205f', '\u3000', '\ufeff'] ||
  ('\u2000' ≤ char && char ≤ '\u200a')

/-- `text.trim()` -/
def trim (text : String) : String :=
  String.ofList ((text.toList.dropWhile isJsSpace).rdropWhile isJsSpace)

mutual

/-- `String(value)`; the items of an array are joined, null ones as nothing. -/
def stringOf : Json → String
  | .null => "null"
  | .bool true => "true"
  | .bool false => "false"
  | .num value _ => NumberText.toText value
  | .str value => value
  | .arr items => ",".intercalate (itemStrings items)
  | .obj _ => "[object Object]"

def itemStrings : List Json → List String
  | [] => []
  | .null :: rest => "" :: itemStrings rest
  | item :: rest => stringOf item :: itemStrings rest

end

end JavaScript

section Choices

/-- A type of choices with their texts; one of them stands for any other text.
The backend finds nothing to trim in them. -/
structure Choices (α : Type) where
  text : α → String
  values : List α
  fallback : α
  mem_values : ∀ value, value ∈ values
  injective : ∀ first second, text first = text second → first = second
  clean : ∀ value, (text value).toList.all fun char => !isSpace char

variable {α : Type}

/-- `switch (value)` over the texts. -/
def Choices.fromUnknown (choices : Choices α) : Option Json → α
  | some (.str raw) =>
      (choices.values.find? fun value => choices.text value = raw).getD
        choices.fallback
  | _ => choices.fallback

inductive PropertyAccessMode where
  | read
  | write
  | readwrite
deriving Repr, DecidableEq

inductive EventLevel where
  | info
  | warning
  | error
deriving Repr, DecidableEq

inductive ServiceCallType where
  | sync
  | async
deriving Repr, DecidableEq

def dataTypes : Choices DataType where
  text
    | .int => "int"
    | .float => "float"
    | .double => "double"
    | .bool => "bool"
    | .string => "string"
  values := [.int, .float, .double, .bool, .string]
  fallback := .string
  mem_values := by rintro (_ | _) <;> decide
  injective := by rintro (_ | _) (_ | _) <;> decide
  clean := by rintro (_ | _) <;> decide

def accessModes : Choices PropertyAccessMode where
  text
    | .read => "read"
    | .write => "write"
    | .readwrite => "readwrite"
  values := [.read, .write, .readwrite]
  fallback := .readwrite
  mem_values := by rintro (_ | _) <;> decide
  injective := by rintro (_ | _) (_ | _) <;> decide
  clean := by rintro (_ | _) <;> decide

def eventLevels : Choices EventLevel where
  text
    | .info => "info"
    | .warning => "warning"
    | .error => "error"
  values := [.info, .warning, .error]
  fallback := .info
  mem_values := by rintro (_ | _) <;> decide
  injective := by rintro (_ | _) (_ | _) <;> decide
  clean := by rintro (_ | _) <;> decide

def callTypes : Choices ServiceCallType where
  text
    | .sync => "sync"
    | .async => "async"
  values := [.sync, .async]
  fallback := .sync
  mem_values := by rintro (_ | _) <;> decide
  injective := by rintro (_ | _) (_ | _) <;> decide
  clean := by rintro (_ | _) <;> decide

def dataTypeFromUnknown : Option Json → DataType := dataTypes.fromUnknown

def accessModeFromUnknown : Option Json → PropertyAccessMode :=
  accessModes.fromUnknown

def eventLevelFromUnknown : Option Json → EventLevel := eventLevels.fromUnknown

def callTypeFromUnknown : Option Json → ServiceCallType := callTypes.fromUnknown

end Choices

section Rows

structure ParamDraft where
  identifier : String
  name : String
  dataType : DataType
  required : Bool
  min : String
  max : String
  step : String
  unit : String
  precision : String

structure PropertyDraft extends ParamDraft where
  accessMode : PropertyAccessMode

structure EventDraft where
  identifier : String
  name : String
  desc : String
  level : EventLevel
  outputParams : List ParamDraft

structure ServiceDraft where
  identifier : String
  name : String
  desc : String
  callType : ServiceCallType
  inputParams : List ParamDraft
  outputParams : List ParamDraft

/-- `isPlainObject(value) ? value : {}` -/
def plainObject (value : Option Json) : GoMap Json :=
  (value.bind Json.object?).getD GoMap.empty

def stringFromUnknown (value : Option Json) : String :=
  (value.bind Json.string?).getD ""

def boolFromUnknown (value : Option Json) : Bool :=
  (value.bind Json.bool?).getD false

/-- `value === undefined ? '' : String(value)` -/
def textFromUnknown (value : Option Json) : String := value.elim "" stringOf

def draftFromParamDefinition (identifier : String) (definition : Json) :
    ParamDraft :=
  let body := plainObject (some definition)
  let spec := plainObject (body.get? "spec")
  { identifier := identifier
    name := stringFromUnknown (body.get? "name")
    dataType := dataTypeFromUnknown (body.get? "data_type")
    required := boolFromUnknown (body.get? "required")
    min := textFromUnknown (spec.get? "min")
    max := textFromUnknown (spec.get? "max")
    step := textFromUnknown (spec.get? "step")
    unit := stringFromUnknown (spec.get? "unit")
    precision := textFromUnknown (spec.get? "precision") }

/-- `Object.entries(value).map(([identifier, definition]) => …)` -/
def rowsFromObject {Row : Type} (row : String → Json → Row)
    (value : GoMap Json) :
    List Row :=
  value.entries.map fun entry => row entry.1 entry.2

def paramRowsFromObject : GoMap Json → List ParamDraft :=
  rowsFromObject draftFromParamDefinition

def propertyRowsFromObject : GoMap Json → List PropertyDraft :=
  rowsFromObject fun identifier definition =>
    { draftFromParamDefinition identifier definition with
      accessMode := accessModeFromUnknown
        ((plainObject (some definition)).get? "access_mode") }

def eventRowsFromObject : GoMap Json → List EventDraft :=
  rowsFromObject fun identifier definition =>
    let body := plainObject (some definition)
    { identifier := identifier
      name := stringFromUnknown (body.get? "name")
      desc := stringFromUnknown (body.get? "desc")
      level := eventLevelFromUnknown (body.get? "level")
      outputParams := paramRowsFromObject (plainObject (body.get? "output")) }

def serviceRowsFromObject : GoMap Json → List ServiceDraft :=
  rowsFromObject fun identifier definition =>
    let body := plainObject (some definition)
    { identifier := identifier
      name := stringFromUnknown (body.get? "name")
      desc := stringFromUnknown (body.get? "desc")
      callType := callTypeFromUnknown (body.get? "call_type")
      inputParams := paramRowsFromObject (plainObject (body.get? "input"))
      outputParams := paramRowsFromObject (plainObject (body.get? "output")) }

end Rows

section Objects

def numberOrUndefined (value : String) : Except String (Option ℚ) :=
  let trimmed := trim value
  if trimmed = "" then .ok none
  else
    match NumberText.ofText trimmed with
    | some number => .ok (some number)
    | none => .error "numeric spec fields must be valid numbers"

def intOrUndefined (value : String) : Except String (Option ℚ) :=
  let trimmed := trim value
  if trimmed = "" then .ok none
  else
    match NumberText.ofText trimmed with
    | some number =>
        if number.den ≠ 1 || number < 0 then
          .error "precision must be a non-negative integer"
        else .ok (some number)
    | none => .error "precision must be a non-negative integer"

/-- `if (number !== undefined) { spec[key] = number; }` -/
def putNumber (key : String) (number : Option ℚ) (spec : GoMap Json) :
    GoMap Json :=
  number.elim spec fun number =>
    spec.set key (.num number (Json.integerLiteral number))

def paramSpecFromDraft (draft : ParamDraft) : Except String (GoMap Json) := do
  let min ← numberOrUndefined draft.min
  let max ← numberOrUndefined draft.max
  let step ← numberOrUndefined draft.step
  let precision ← intOrUndefined draft.precision
  let unit := trim draft.unit
  let spec := putNumber "step" step
    (putNumber "max" max (putNumber "min" min GoMap.empty))
  let spec := if unit = "" then spec else spec.set "unit" (.str unit)
  return putNumber "precision" precision spec

def paramDefinitionFromDraft (draft : ParamDraft) :
    Except String (GoMap Json) := do
  let spec ← paramSpecFromDraft draft
  let definition := GoMap.ofMembers [("name", .str (trim draft.name)),
    ("data_type", .str (dataTypes.text draft.dataType)),
    ("required", .bool draft.required)]
  return if spec.isEmpty then definition else definition.set "spec"
    (Json.ofMap spec)

def propertyDefinitionFromDraft (draft : PropertyDraft) :
    Except String (GoMap Json) := do
  let definition ← paramDefinitionFromDraft draft.toParamDraft
  return definition.set "access_mode" (.str (accessModes.text draft.accessMode))

/-- `rows.reduce(…, {})`; a row without an identifier is skipped. -/
def objectFromRows {Row : Type} (identifier : Row → String)
    (definition : Row → Except String (GoMap Json)) (rows : List Row) :
    Except String (GoMap Json) :=
  rows.foldlM (fun result row =>
    if trim (identifier row) = "" then .ok result
    else (definition row).map fun body =>
      result.set (trim (identifier row)) (Json.ofMap body)) GoMap.empty

def objectFromParamRows : List ParamDraft → Except String (GoMap Json) :=
  objectFromRows ParamDraft.identifier paramDefinitionFromDraft

def objectFromPropertyRows : List PropertyDraft → Except String (GoMap Json) :=
  objectFromRows (fun row => row.identifier) propertyDefinitionFromDraft

def objectFromEventRows : List EventDraft → Except String (GoMap Json) :=
  objectFromRows EventDraft.identifier fun row => do
    let output ← objectFromParamRows row.outputParams
    return GoMap.ofMembers [("name", .str (trim row.name)),
      ("level", .str (eventLevels.text row.level)),
      ("desc", .str (trim row.desc)), ("output", Json.ofMap output)]

def objectFromServiceRows : List ServiceDraft → Except String (GoMap Json) :=
  objectFromRows ServiceDraft.identifier fun row => do
    let input ← objectFromParamRows row.inputParams
    let output ← objectFromParamRows row.outputParams
    return GoMap.ofMembers [("name", .str (trim row.name)),
      ("call_type", .str (callTypes.text row.callType)),
      ("desc", .str (trim row.desc)), ("input", Json.ofMap input),
      ("output", Json.ofMap output)]

end Objects

end Editor

end LinkFlow
