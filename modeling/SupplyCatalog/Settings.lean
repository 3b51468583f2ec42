import SupplyCatalog.Currency
import SupplyCatalog.Number.Integer
import SupplyCatalog.RemoteImage
import SupplyCatalog.Text.Utf8
import SupplyCatalog.Toml.Document

/-!
# Settings

How a service is set up: where it listens and keeps its data, which currencies it admits, and
whether it fetches images. Settings come from a configuration file, in which everything may be left
out, and then from the environment.
-/

namespace SupplyCatalog

structure ServerSettings where
  port : Nat
  baseUrl : String
  dataDirectory : String
deriving DecidableEq

structure CurrencySettings where
  codes : List String
  defaultCode : String
deriving DecidableEq

structure Settings where
  server : ServerSettings
  currency : CurrencySettings
  remoteImages : RemoteImageSettings
deriving DecidableEq

def ServerSettings.standard : ServerSettings := ⟨3000, "http://localhost:3000", "data"⟩

def CurrencySettings.standard : CurrencySettings :=
  ⟨CurrencyTable.standard.codes, CurrencyTable.standard.defaultCode⟩

def CurrencySettings.table (settings : CurrencySettings) :
    Except CurrencyTableError CurrencyTable :=
  CurrencyTable.ofCodes settings.codes settings.defaultCode

namespace Settings

def standard : Settings :=
  ⟨ServerSettings.standard, CurrencySettings.standard, RemoteImageSettings.standard⟩

inductive FileError
  /-- The file is not there as text. -/
  | unreadable
  /-- The text is not a configuration. -/
  | malformed
deriving DecidableEq

inductive ConfigurationFile
  | missing
  | directory
  | content (bytes : List UInt8)

/-! ## Reading the file -/

def text? : Toml → Option String
  | .string value => some value
  | _ => none

def flag? : Toml → Option Bool
  | .boolean value => some value
  | _ => none

def natUpTo? (greatest : Nat) : Toml → Option Nat
  | .integer (.ofNat value) => if value ≤ greatest then some value else none
  | _ => none

def texts? : Toml → Option (List String)
  | .array items => items.mapM text?
  | _ => none

def orStandard {α : Type} (read : Toml → Option α) (standard : α) : Option Toml → Option α
  | some value => read value
  | none => some standard

/-- The values of the named settings of a section. A section is a table; an array gives the values
in the order of the names, and a date gives none. -/
def section? (names : List String) : Option Toml → Option (List (Option Toml))
  | none => some (names.map fun _ => none)
  | some (.table _ entries) => some (names.map (Toml.get? entries))
  | some (.array items) => some ((List.range names.length).map fun index => items[index]?)
  | some (.tables elements) =>
      some ((List.range names.length).map fun index => (elements[index]?).map (.table .header))
  | some .moment => some (names.map fun _ => none)
  | some _ => none

def greatestPort : Nat := 0xFFFF

def readServer? (value : Option Toml) : Option ServerSettings := do
  let standard := ServerSettings.standard
  match ← section? ["port", "base_url", "data_dir"] value with
  | [port, baseUrl, dataDirectory] =>
      return {
        port := ← orStandard (natUpTo? greatestPort) standard.port port
        baseUrl := ← orStandard text? standard.baseUrl baseUrl
        dataDirectory := ← orStandard text? standard.dataDirectory dataDirectory }
  | _ => none

def readCurrency? (value : Option Toml) : Option CurrencySettings := do
  let standard := CurrencySettings.standard
  match ← section? ["codes", "default"] value with
  | [codes, defaultCode] =>
      return {
        codes := ← orStandard texts? standard.codes codes
        defaultCode := ← orStandard text? standard.defaultCode defaultCode }
  | _ => none

def word? : Toml → Option Nat := natUpTo? Number.greatestWord

def readRemoteImages? (value : Option Toml) : Option RemoteImageSettings := do
  let standard := RemoteImageSettings.standard
  match ← section? ["enabled", "max_size_mb", "timeout_secs"] value with
  | [isEnabled, maxMegabytes, timeoutSeconds] =>
      return {
        isEnabled := ← orStandard flag? standard.isEnabled isEnabled
        maxMegabytes := ← orStandard word? standard.maxMegabytes maxMegabytes
        timeoutSeconds := ← orStandard word? standard.timeoutSeconds timeoutSeconds }
  | _ => none

/-- The settings of a configuration text; names that are not known are passed over. -/
def ofText? (text : String) : Option Settings := do
  let entries ← Toml.parse? text
  return {
    server := ← readServer? (Toml.get? entries "server")
    currency := ← readCurrency? (Toml.get? entries "currency")
    remoteImages := ← readRemoteImages? (Toml.get? entries "remote_images") }

/-- Without a file the settings are the standard ones. -/
def ofFile : ConfigurationFile → Except FileError Settings
  | .missing => .ok standard
  | .directory => .error .unreadable
  | .content bytes =>
      match Text.decodeStrict? bytes with
      | none => .error .unreadable
      | some text =>
          match ofText? text with
          | some settings => .ok settings
          | none => .error .malformed

/-! ## The environment -/

abbrev Environment := List (String × String)

/-- The value of a variable; an empty one counts as not set. -/
def valueOf? (environment : Environment) (name : String) : Option String :=
  match environment.find? fun entry => entry.1 == name with
  | some (_, value) => if value = "" then none else some value
  | none => none

def filePath (environment : Environment) : String :=
  (valueOf? environment "STOCKROOM_CONFIG").getD "stockroom.toml"

structure EnvironmentError where
  name : String
  value : String
deriving DecidableEq

def EnvironmentError.message (failure : EnvironmentError) : String :=
  s!"invalid value for {failure.name}: {failure.value}"

/-- Takes over port, data directory and base address from the environment. A port that is not one
stops this before anything is taken over. -/
def applyEnvironment (settings : Settings) (environment : Environment) :
    Except EnvironmentError Settings := do
  let server := settings.server
  let port ← match valueOf? environment "PORT" with
    | none => pure server.port
    | some value =>
        match Number.readUpTo? greatestPort value.toList with
        | some port => pure port
        | none => .error ⟨"PORT", value⟩
  let dataDirectory := (valueOf? environment "STOCKROOM_DATA_DIR").getD server.dataDirectory
  let baseUrl := (valueOf? environment "BASE_URL").getD server.baseUrl
  return { settings with server := { port, dataDirectory, baseUrl } }

end Settings

end SupplyCatalog
