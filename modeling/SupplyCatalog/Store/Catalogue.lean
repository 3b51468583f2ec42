import SupplyCatalog.Store.Reading

/-!
# Parts and stock

Parts and stock items are kept elsewhere; here they are only put in, so that there is something to
refer to and to count.
-/

namespace SupplyCatalog

def Database.getPart (database : Database) (pk : Int) : Except ServiceError Part :=
  database.parts.wanted "part" pk

namespace Store

def addPart (store : Store) (part : Part) : Int × Store :=
  let table := store.database.parts
  (table.nextPk,
    { store with database := { store.database with parts := table.insert part } })

def addStockItem (store : Store) (item : StockItem) : Except ServiceError Int × Store :=
  let database := store.database
  match StockItem.clauses.insert database database.stock "insert stock item" item with
  | .ok (saved, table) =>
      (.ok saved.pk, { store with database := { database with stock := table } })
  | .error failure => (.error failure, store)

end Store

end SupplyCatalog
