import SupplyCatalog.Payload.ManufacturerPart
import SupplyCatalog.Store.Reading

/-!
# Writing manufacturer parts and their parameters

A manufacturer part designates a part that can be bought and a company that is a manufacturer, and
no two have the same part, manufacturer and number. A parameter belongs to a manufacturer part,
which has no two parameters of one name.
-/

namespace SupplyCatalog

/-- Same part, manufacturer and number; two missing numbers are the same. -/
def ManufacturerPart.designatesAs (a b : ManufacturerPart) : Bool :=
  a.part == b.part && a.manufacturer == b.manufacturer && a.mpn == b.mpn

def Parameter.describesAs (a b : Parameter) : Bool :=
  a.manufacturerPart == b.manufacturerPart && a.name == b.name

namespace Database

/-- Uniqueness is looked at only when the references are right. -/
def manufacturerPartViolations (database : Database) (row : ManufacturerPart) : List Violation :=
  let references :=
    Violation.of (database.purchaseablePart "part" row.part) ++
      Violation.of (database.companyWithRole "manufacturer" row.manufacturer .manufacturer)
  let isTaken := database.manufacturerParts.anyOther row.pk (·.designatesAs row)
  if references.isEmpty && isTaken then
    [.notUnique "The fields part, manufacturer, MPN must make a unique set."]
  else references

def addManufacturerPart (database : Database) (row : ManufacturerPart) :
    Except ServiceError (ManufacturerPart × Database) := do
  ServiceError.check (database.manufacturerPartViolations row)
  let (saved, table) ←
    ManufacturerPart.clauses.insert database database.manufacturerParts
      "insert manufacturer part" row
  return (saved, { database with manufacturerParts := table })

def draftNewManufacturerPart (database : Database) (changes : ManufacturerPartChanges) :
    Except ServiceError (Draft ManufacturerPartBundle) := do
  let (saved, database) ← database.addManufacturerPart changes.create
  return ⟨database, none, database.manufacturerPartBundle saved⟩

def draftChangedManufacturerPart (database : Database) (pk : Int)
    (changes : ManufacturerPartChanges) :
    Except ServiceError (Draft ManufacturerPartBundle) := do
  let changed := changes.applyTo (← database.manufacturerParts.wanted "manufacturer part" pk)
  ServiceError.check (database.manufacturerPartViolations changed)
  let table ←
    ManufacturerPart.clauses.replace database database.manufacturerParts
      "update manufacturer part" changed
  let database := { database with manufacturerParts := table }
  return ⟨database, none, database.manufacturerPartBundle changed⟩

def draftWithoutManufacturerPart (database : Database) (pk : Int) :
    Except ServiceError (Draft Unit) := do
  discard (database.manufacturerParts.wanted "manufacturer part" pk)
  return ⟨database.removeManufacturerParts (·.pk == pk), none, .ok ()⟩

def parameterViolations (database : Database) (row : Parameter) : List Violation :=
  let isTaken := database.parameters.anyOther row.pk (·.describesAs row)
  match database.manufacturerParts.referred "manufacturer_part" row.manufacturerPart with
  | .error violation => [violation]
  | .ok _ =>
      if isTaken then
        [.notUnique "The fields manufacturer_part, name must make a unique set."]
      else []

def draftNewParameter (database : Database) (changes : ParameterChanges) :
    Except ServiceError (Draft ParameterBundle) := do
  let row := changes.create
  ServiceError.check (database.parameterViolations row)
  let (saved, table) ←
    Parameter.clauses.insert database database.parameters "insert parameter" row
  let database := { database with parameters := table }
  return ⟨database, none, database.parameterBundle saved⟩

def draftChangedParameter (database : Database) (pk : Int) (changes : ParameterChanges) :
    Except ServiceError (Draft ParameterBundle) := do
  let changed := changes.applyTo (← database.parameters.wanted "parameter" pk)
  ServiceError.check (database.parameterViolations changed)
  let table ←
    Parameter.clauses.replace database database.parameters "update parameter" changed
  let database := { database with parameters := table }
  return ⟨database, none, database.parameterBundle changed⟩

def draftWithoutParameter (database : Database) (pk : Int) :
    Except ServiceError (Draft Unit) := do
  discard (database.parameters.wanted "parameter" pk)
  return ⟨{ database with parameters := database.parameters.erase pk }, none, .ok ()⟩

end Database

namespace Store

def createManufacturerPart (store : Store) (changes : ManufacturerPartChanges) :
    Except ServiceError ManufacturerPartBundle × Store :=
  store.write (store.database.draftNewManufacturerPart changes)

def updateManufacturerPart (store : Store) (pk : Int) (changes : ManufacturerPartChanges) :
    Except ServiceError ManufacturerPartBundle × Store :=
  store.write (store.database.draftChangedManufacturerPart pk changes)

/-- Removes a manufacturer part with all that belongs to it; files of its attachments stay. -/
def deleteManufacturerPart (store : Store) (pk : Int) : Except ServiceError Unit × Store :=
  store.write (store.database.draftWithoutManufacturerPart pk)

def createParameter (store : Store) (changes : ParameterChanges) :
    Except ServiceError ParameterBundle × Store :=
  store.write (store.database.draftNewParameter changes)

def updateParameter (store : Store) (pk : Int) (changes : ParameterChanges) :
    Except ServiceError ParameterBundle × Store :=
  store.write (store.database.draftChangedParameter pk changes)

def deleteParameter (store : Store) (pk : Int) : Except ServiceError Unit × Store :=
  store.write (store.database.draftWithoutParameter pk)

end Store

end SupplyCatalog
