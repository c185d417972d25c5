/-
This file relates histories to the documents in which they are stored.
-/

import ChatCalculator.Document.Reading
import ChatCalculator.Session.Basic

namespace ChatCalculator

namespace Entry

def inputName : Text := "input".toList

def expressionName : Text := "expression".toList

def resultName : Text := "result".toList

def detailedName : Text := "detailed_mode".toList

def valueName : Text := "Ok".toList

def errorName : Text := "Err".toList

/-- A value that is not finite is stored as no value. -/
def valueDocument (value : Float) : Document :=
  if Binary.isFinite value then .number (Notation.stored value) else .null

def resultDocument : Except Text Float → Document
  | .ok value => .object [(some valueName, valueDocument value)]
  | .error message => .object [(some errorName, .string (some message))]

/-- The steps of an entry and its duration are not stored. -/
def document (entry : Entry) : Document :=
  .object [
    (some inputName, .string (some entry.input)),
    (some expressionName, .string (some entry.expression)),
    (some resultName, resultDocument entry.result),
    (some detailedName, .boolean entry.detailed)]

/-- A stored result has exactly one member, which is a value or an error text. -/
def resultOfDocument? : Document → Option (Except Text Float)
  | .object [(some name, .number written)] =>
      if name = valueName then
        ((StoredNumber.ofText? written).bind StoredNumber.value?).map .ok
      else none
  | .object [(some name, .string (some message))] =>
      if name = errorName then some (.error message) else none
  | _ => none

/-- An entry is put together from its four parts. -/
def ofParts? : Document → Document → Document → Document → Option Entry
  | .string (some input), .string (some expression), result, .boolean detailed =>
      (resultOfDocument? result).map fun result => { input, expression, result, detailed }
  | _, _, _, _ => none

/-- These are the values of all members of a name. -/
def valuesOf (name : Text) (members : List (Option Text × Document)) : List Document :=
  members.filterMap fun member => if member.1 = some name then some member.2 else none

/-- An entry is read from named members in any order or from a list of them. A known name stands
only once, an unknown one is ignored, and without a word about details there were none. -/
def ofDocument? : Document → Option Entry
  | .object members =>
      if members.any fun member => member.1.isNone then none
      else
        match valuesOf inputName members, valuesOf expressionName members,
            valuesOf resultName members, valuesOf detailedName members with
        | [input], [expression], [result], [] =>
            ofParts? input expression result (.boolean false)
        | [input], [expression], [result], [detailed] =>
            ofParts? input expression result detailed
        | _, _, _, _ => none
  | .array [input, expression, result] => ofParts? input expression result (.boolean false)
  | .array [input, expression, result, detailed] => ofParts? input expression result detailed
  | _ => none

end Entry

/-- A history is stored as the list of its entries. -/
def historyText (history : List Entry) : Text := (Document.array (history.map Entry.document)).write

/-- One entry that cannot be read makes the whole history unreadable. -/
def historyOfText? (text : Text) : Option (List Entry) :=
  match Document.ofText? text with
  | some (.array elements) => elements.mapM Entry.ofDocument?
  | _ => none

end ChatCalculator
