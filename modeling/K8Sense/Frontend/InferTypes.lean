import K8Sense.Library.DataTypes
import K8Sense.Library.Grouping
import K8Sense.Library.Keyed

/-! The types that are inferred for the objects of an advanced search, and the
declarations made of them. -/

namespace K8Sense.Frontend.InferTypes
open DataTypes Grouping Keyed

/-- Distinct strings up to which literal types are used. -/
def maxStringLiterals : Nat := 200

def maxStringLiteralLength : Nat := 20

/-- The default of `maxKeysPerObject`. -/
def defaultMaxKeys : Nat := 25

inductive Primitive where
  | null
  | string
  | number
  | boolean
deriving DecidableEq

def Primitive.name : Primitive → Text
  | .null => "null".toList
  | .string => "string".toList
  | .number => "number".toList
  | .boolean => "boolean".toList

/-- `presenceCount` is how many times a field is used, `parentObjectCount` how many times
its parent is. The sets are in the order in which they were filled. -/
structure TypeInfoNode where
  primitiveTypes : List Primitive
  stringLiterals : List Text
  hasStringType : Bool
  isArray : Bool
  arrayElementInfo : Option TypeInfoNode
  isObject : Bool
  objectProperties : List (Text × TypeInfoNode)
  presenceCount : Nat
  parentObjectCount : Nat

def createTypeInfoNode : TypeInfoNode where
  primitiveTypes := []
  stringLiterals := []
  hasStringType := false
  isArray := false
  arrayElementInfo := none
  isObject := false
  objectProperties := []
  presenceCount := 0
  parentObjectCount := 0

namespace TypeInfoNode

def inParent (parentObjectCount : Nat) (node : TypeInfoNode) : TypeInfoNode := { node with parentObjectCount }

/-- One more use of the field. -/
def present (parentObjectCount : Nat) (node : TypeInfoNode) : TypeInfoNode :=
  { node with presenceCount := node.presenceCount + 1, parentObjectCount }

def addPrimitive (type : Primitive) (node : TypeInfoNode) : TypeInfoNode :=
  { node with primitiveTypes := note node.primitiveTypes type }

/-- Literals are held until there are too many. The string that finds them so clears them. -/
def holdLiteral (literals : List Text) (value : Text) : List Text :=
  if literals.length < maxStringLiterals then
    if Utf16.length value < maxStringLiteralLength then note literals value else literals
  else []

def addString (value : Text) (node : TypeInfoNode) : TypeInfoNode :=
  { node with
    hasStringType := true
    primitiveTypes := note node.primitiveTypes .string
    stringLiterals := holdLiteral node.stringLiterals value }

/-- The properties that the object lacks were not counted in it otherwise. -/
def countMissing (currentKeys : List Text) (node : TypeInfoNode) : TypeInfoNode :=
  { node with
    objectProperties := node.objectProperties.map fun property =>
      if property.1 ∈ currentKeys then property else (property.1, property.2.inParent node.presenceCount) }

end TypeInfoNode

mutual

def aggregateTypeInfo (value : Value) (node : TypeInfoNode) (parentObjectCount : Nat) : TypeInfoNode :=
  let node := node.present parentObjectCount
  match value with
  | .null => node.addPrimitive .null
  | .string text => node.addString text
  | .number _ => node.addPrimitive .number
  | .bool _ => node.addPrimitive .boolean
  | .array items =>
    { node with
      isArray := true
      arrayElementInfo := some ((aggregateElements items (node.arrayElementInfo.getD createTypeInfoNode) node.presenceCount).inParent
        node.presenceCount) }
  | .object fields =>
    { node with
      isObject := true
      objectProperties := aggregateFields fields node.objectProperties node.presenceCount }.countMissing (keys fields)
termination_by structural value

def aggregateElements (items : List Value) (node : TypeInfoNode) (parentObjectCount : Nat) : TypeInfoNode :=
  match items with
  | [] => node
  | item :: rest => aggregateElements rest (aggregateTypeInfo item node parentObjectCount) parentObjectCount
termination_by structural items

/-- The loop over an object's own keys. -/
def aggregateFields (fields : List (Text × Value)) (properties : List (Text × TypeInfoNode)) (parentObjectCount : Nat) :
    List (Text × TypeInfoNode) :=
  match fields with
  | [] => properties
  | (key, value) :: rest =>
    let properties := upsert key (aggregateTypeInfo value createTypeInfoNode parentObjectCount)
      (fun node => aggregateTypeInfo value node parentObjectCount) properties
    aggregateFields rest properties parentObjectCount
termination_by structural fields

end

/-! The text of a type. -/

def sortedByKey {α : Type} (rows : List (Text × α)) : List α :=
  (rows.mergeSort fun first second => Utf16.le first.1 second.1).map Prod.snd

def primitiveTypeStrings (primitiveTypes : List Primitive) : List Text :=
  (primitiveTypes.filter (· ≠ .string)).map Primitive.name

/-- Literals are used if there are any and they are within the limit. -/
def usesLiterals (stringLiterals : List Text) : Bool := 0 < stringLiterals.length && stringLiterals.length < maxStringLiterals

def stringTypeStrings (hasStringType : Bool) (stringLiterals : List Text) : List Text :=
  if hasStringType then
    if usesLiterals stringLiterals then stringLiterals.map fun literal => quote (escape literal)
    else ["string".toList]
  else []

def nextIndentation (indentation : Text) : Text := indentation ++ [' ', ' ']

def listsKeys (isObject : Bool) (keyCount maxKeysPerObject : Nat) : Bool := isObject && 0 < keyCount && keyCount < maxKeysPerObject

def objectTypeStrings (isObject lists : Bool) (propertyLines : List Text) (indentation : Text) : List Text :=
  if lists then
    if 0 < propertyLines.length then ['{' :: '\n' :: lines propertyLines ++ '\n' :: indentation ++ ['}']]
    else ["Record<string, any>".toList]
  else if isObject then ["Record<string, any>".toList]
  else []

/-- Parentheses are added if the type of the elements is complex. -/
def isComplex (elementTypeString : Text) : Bool :=
  elementTypeString.contains '|' || elementTypeString.head? = some '{' || elementTypeString.contains '&'

def arrayTypeStrings (isArray : Bool) (elementTypeString : Option Text) : List Text :=
  if isArray then
    match elementTypeString with
    | some text => if isComplex text then ['(' :: text ++ [')'] ++ ['[', ']']] else [text ++ ['[', ']']]
    | none => ["any".toList ++ ['[', ']']]
  else []

def joinTypes (types : List Text) : Text :=
  match types with
  | [] => "any".toList
  | [type] => type
  | types => [' ', '|', ' '].intercalate (Utf16.sort types)

/-- Something was recorded about the elements. -/
def TypeInfoNode.isRecorded (node : TypeInfoNode) : Bool :=
  0 < node.presenceCount || 0 < node.primitiveTypes.length || 0 < node.stringLiterals.length || node.isObject || node.isArray

def TypeInfoNode.isOptional (node : TypeInfoNode) : Bool := 0 < node.parentObjectCount && node.presenceCount < node.parentObjectCount

def formattedKey (key : Text) : Text := if isIdentifier key then key else quote key

def propertyLine (indentation key : Text) (isOptional : Bool) (propertyTypeString : Text) : Text :=
  indentation ++ formattedKey key ++ (if isOptional then ['?'] else []) ++ ':' :: ' ' :: propertyTypeString ++ [';']

mutual

def generateTypeString (node : TypeInfoNode) (indentation : Text) (maxKeysPerObject : Nat) : Text :=
  match node with
  | ⟨primitiveTypes, stringLiterals, hasStringType, isArray, arrayElementInfo, isObject, objectProperties, _, _⟩ =>
    joinTypes (primitiveTypeStrings primitiveTypes ++ stringTypeStrings hasStringType stringLiterals ++
      objectTypeStrings isObject (listsKeys isObject objectProperties.length maxKeysPerObject)
        (sortedByKey (propertyLines objectProperties (nextIndentation indentation) maxKeysPerObject)) indentation ++
      arrayTypeStrings isArray (elementTypeString arrayElementInfo indentation))
termination_by structural node

/-- The lines of the properties with their keys. They are sorted where they are used. -/
def propertyLines (objectProperties : List (Text × TypeInfoNode)) (indentation : Text) (maxKeysPerObject : Nat) : List (Text × Text) :=
  match objectProperties with
  | [] => []
  | (key, node) :: rest =>
    (key, propertyLine indentation key node.isOptional (generateTypeString node indentation maxKeysPerObject)) ::
      propertyLines rest indentation maxKeysPerObject
termination_by structural objectProperties

/-- The limit on keys is not passed on to the elements of an array. -/
def elementTypeString (arrayElementInfo : Option TypeInfoNode) (indentation : Text) : Option Text :=
  match arrayElementInfo with
  | none => none
  | some node => if node.isRecorded then some (generateTypeString node indentation defaultMaxKeys) else none
termination_by structural arrayElementInfo

end

/-! The declarations. -/

/-- The nodes of the properties of those that are objects. -/
def topLevelPropertyNodes (objects : List Value) : List (Text × TypeInfoNode) :=
  objects.foldl (fun nodes object => match object with
    | .object fields => aggregateFields fields nodes 1
    | _ => nodes) []

def validObjectCount (objects : List Value) : Nat := objects.countP fun object => object.fields?.isSome

def declaration (key typeString : Text) : Text := "declare var ".toList ++ key ++ ':' :: ' ' :: typeString ++ [';']

def declarationOf (maxKeysPerObject : Nat) (key : Text) (node : TypeInfoNode) : Option Text :=
  if isIdentifier key then
    let node := node.inParent node.presenceCount
    let typeString := generateTypeString node [] maxKeysPerObject
    if typeString ≠ "any".toList ∨ 0 < node.presenceCount then some (declaration key typeString) else none
  else none

/-- What is not an array is a type error for the caller. -/
def generateGlobalVarDeclarations (objects : List Value) (maxKeysPerObject : Option Nat) : Text :=
  if objects.length = 0 then []
  else if validObjectCount objects = 0 then []
  else ['\n', '\n'].intercalate (sortedByKey ((topLevelPropertyNodes objects).map fun row =>
    (row.1, declarationOf (maxKeysPerObject.getD defaultMaxKeys) row.1 row.2))).reduceOption

end K8Sense.Frontend.InferTypes
