import SupplyCatalog.Proofs.MediaFile
import SupplyCatalog.Proofs.ServiceRun
import SupplyCatalog.Proofs.Success

/-!
# Requests that fail

A request that is answered with an error leaves all tables, the keys last given out and all files
as they were. A file that goes with a write is written last, and what is read for the answer is
there; so nothing can go wrong once a file has been written over another one. What a failure may
leave behind is a directory that was made for a file whose name is too long.
-/

namespace SupplyCatalog

open Http

namespace Service

/-- After any run, a request that is answered with an error, for whatever reason, changes nothing in
the database, the counters of keys included, and no file. -/
theorem failed_request_changes_nothing (currencies : CurrencyTable)
    (remoteImages : RemoteImageSettings) (events : List Event) (around : Surroundings)
    (request : Request) :
    let service := (fresh currencies remoteImages).after events
    isSuccess (service.handle around request).1.status = false →
      (service.handle around request).2.store.database = service.store.database ∧
        (service.handle around request).2.store.media.files = service.store.media.files := by
  intro service fails
  have sound : service.IsSound := after_is_sound (fresh_is_sound currencies remoteImages) events
  have handles := handle_handles sound.database.references around request
  generalize service.handle around request = outcome at handles fails ⊢
  cases handles with
  | answered response expected => exact ⟨rfl, rfl⟩
  | carriedOut asks response tells =>
      apply Operation.run_of_failure sound.database
      intro succeeds
      rw [success_of_tells tells succeeds] at fails
      cases fails

end Service

/-! ## A link that fails -/

namespace SmallCatalogue

def newSupplier : Request :=
  post "/company/" "\x7b\"name\": \"Acme\", \"currency\": \"USD\"\x7d"

def suppliedEvents : List Event := [.seedPart part, .request around newSupplier]

/-- A supplier part with a quantity, to be linked to what its supplier makes. -/
def newLinkedPart : Request :=
  post "/company/part/" ("\x7b\"part\": 1, \"supplier\": 1, \"SKU\": \"S-1\", " ++
    "\"available\": 5, \"manufacturer\": 1, \"MPN\": \"B-1\"\x7d")

/-- The supplier makes nothing. -/
theorem linked_part_is_refused :
    isSuccess (((Service.fresh .standard .standard).after suppliedEvents).handle around
      newLinkedPart).1.status = false := by
  decide +kernel

end SmallCatalogue

open SmallCatalogue in
/-- When the link fails, the supplier part has been put in and its quantity taken over. -/
theorem failed_link_leaves_no_part :
    let service := (Service.fresh .standard .standard).after suppliedEvents
    isSuccess (service.handle around newLinkedPart).1.status = false ∧
      (service.handle around newLinkedPart).2.store.database = service.store.database ∧
      (service.handle around newLinkedPart).2.store.media.files = service.store.media.files :=
  ⟨linked_part_is_refused, Service.failed_request_changes_nothing .standard .standard suppliedEvents
    around newLinkedPart linked_part_is_refused⟩

end SupplyCatalog
