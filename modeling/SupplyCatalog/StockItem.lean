/-!
# Stock items

A quantity of a part in stock, and the supplier part through which it came. Stock is kept elsewhere
and only counted here.
-/

namespace SupplyCatalog

structure StockItem where
  pk : Int
  part : Int
  supplierPart : Option Int
  quantity : Float
  isBuilding : Bool
  customer : Option Int

/-- Whether the item counts as in stock: a positive quantity that is neither part of a running
build nor with a customer. -/
def StockItem.isInStock (item : StockItem) : Bool :=
  0.0 < item.quantity && !item.isBuilding && item.customer.isNone

end SupplyCatalog
