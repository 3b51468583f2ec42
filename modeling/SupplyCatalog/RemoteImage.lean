import SupplyCatalog.Http.Status
import SupplyCatalog.Image
import SupplyCatalog.ServiceError
import SupplyCatalog.Url.Request

/-!
# Remote images

Fetching an image from the address that a request gives. What the server of that address answers is
given from outside: nothing at all, or a status and a body in chunks. Every failure is reported on
the field that holds the address, and nothing about it depends on how the body was divided.
-/

namespace SupplyCatalog

structure RemoteImageSettings where
  isEnabled : Bool
  maxMegabytes : Nat
  timeoutSeconds : Nat
deriving DecidableEq

def RemoteImageSettings.standard : RemoteImageSettings := ⟨false, 1, 10⟩

/-- The most bytes that an image may have, as far as they can be counted in 64 bits. -/
def RemoteImageSettings.maxBytes (settings : RemoteImageSettings) : Nat :=
  min (settings.maxMegabytes * 1048576) Number.greatestWord

inductive RemoteReply
  /-- No connection was made. -/
  | unreachable
  /-- A status, the length of the body as declared in front of it, and the body. -/
  | answered (status : Nat) (declaredLength : Option Nat) (chunks : List Bytes)
deriving DecidableEq

/-- What the servers of all addresses answer. -/
abbrev RemoteWorld := Url → RemoteReply

inductive FetchError
  | notEnabled
  | badAddress
  | notRequestable (address : Url)
  | noConnection (address : Url)
  | badStatus (status : Nat)
  | tooLarge (limit : Nat)
  | notAnImage

namespace FetchError

def message : FetchError → String
  | notEnabled => "Downloading images from remote URL is not enabled"
  | badAddress => "Enter a valid URL."
  | notRequestable address =>
      s!"Failed to download image: builder error for url ({address.requestText})"
  | noConnection address =>
      s!"Failed to download image: error sending request for url ({address.requestText})"
  | badStatus status => "Failed to download image: HTTP " ++ Http.statusText status
  | tooLarge limit => s!"Image size exceeds maximum allowable size ({limit} bytes)"
  | notAnImage => "Supplied URL is not a valid image file"

def toServiceError (failure : FetchError) : ServiceError :=
  .ofField "remote_image" failure.message

end FetchError

namespace RemoteImage

def address? (text : String) : Option Url := do
  let url ← Url.parse? (Text.trim text)
  if Url.fetchSchemes.contains url.scheme then some url else none

/-- Joins chunks, up to the first with which the body is larger than allowed. -/
def join (limit : Nat) (body : Bytes) : List Bytes → Except FetchError Bytes
  | [] => .ok body
  | chunk :: rest =>
      let body := body ++ chunk
      if limit < body.length then .error (.tooLarge limit) else join limit body rest

/-- Accepts a body that begins like an image. -/
def ofBody (body : Bytes) : Except FetchError CompanyImage :=
  if (ImageFormat.ofBytes? body).isSome then .ok ⟨body⟩ else .error .notAnImage

def ofReply (limit : Nat) (address : Url) : RemoteReply → Except FetchError CompanyImage
  | .unreachable => .error (.noConnection address)
  | .answered status declaredLength chunks => do
      if !Http.isSuccess status then .error (.badStatus status)
      else if declaredLength.any (limit < ·) then .error (.tooLarge limit)
      else ofBody (← join limit [] chunks)

def fetch (settings : RemoteImageSettings) (world : RemoteWorld) (text : String) :
    Except FetchError CompanyImage :=
  if !settings.isEnabled then .error .notEnabled
  else
    match address? text with
    | none => .error .badAddress
    | some address =>
        if address.isRequestable then ofReply settings.maxBytes address (world address)
        else .error (.notRequestable address)

def fetchGiven (settings : RemoteImageSettings) (world : RemoteWorld) :
    Option String → Except ServiceError (Option CompanyImage)
  | none => .ok none
  | some text =>
      match fetch settings world text with
      | .ok image => .ok (some image)
      | .error failure => .error failure.toServiceError

end RemoteImage

end SupplyCatalog
