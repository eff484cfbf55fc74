/-
Module: ModuleAlias.Fault
Purpose: Everything that can go wrong, by cause. Configurations and manifests that cannot be used
  are reported to the user with a path and a reason; the other faults end a run. The wording of each
  report is here and nowhere else.
Imports: ModuleAlias.FileStore, ModuleAlias.Json.Reader, ModuleAlias.Text.Display
Main exports: Fault, ConfigurationFlaw, ManifestFlaw, Fault.report?, Report
-/
import ModuleAlias.FileStore
import ModuleAlias.Json.Reader
import ModuleAlias.Text.Display

namespace ModuleAlias

/-- What is wrong with a configuration file that is there. -/
inductive ConfigurationFlaw where
  | json (fault : Json.Fault)
  | access (fault : FileStore.AccessFault) (path : Text)
  | empty
  | notObject (kindName : String)
  | unsupported (suffix : Text)
  | notImportable (cause : Text)
  | evaluatorMissing (executable : Text)
  | evaluatorFailed (firstLine : Option Text)

/-- What is wrong with a manifest that is there. -/
inductive ManifestFlaw where
  | json (fault : Json.Fault)
  | access (fault : FileStore.AccessFault) (path : Text)
  | notObject (kindName : String)

/-- Why something could not be done. -/
inductive Fault where
  /-- The configuration is not there, or not usable. -/
  | configuration (path : Text) (flaw : Option ConfigurationFlaw)
  /-- The manifest is not usable. -/
  | manifest (path : Text) (flaw : ManifestFlaw)
  /-- A part of a configuration that has to be an object is something else. -/
  | shape
  /-- A numeric escape is too large for a machine word. -/
  | escapeTooLarge
  /-- A text holds half of a surrogate pair and cannot be written in UTF-8. -/
  | notEncodable
  /-- A file is not in UTF-8. -/
  | notUtf8
  /-- An integer in a JSON text has too many digits. -/
  | integerTooLong
  /-- A file cannot be opened. -/
  | access (fault : FileStore.AccessFault)

/-- The words of the system for a file that cannot be opened. -/
def FileStore.AccessFault.messageFor (fault : FileStore.AccessFault) (path : Text) : Text :=
  Text.ofString fault.message ++ Text.ofString ": " ++ Text.display path

/-- The reason given for a configuration. -/
def ConfigurationFlaw.message : ConfigurationFlaw → Text
  | .json fault => Text.ofString fault.message
  | .access fault path => fault.messageFor path
  | .empty => Text.ofString "configuration is empty"
  | .notObject kindName => Text.ofString s!"expected an object, got {kindName}"
  | .unsupported suffix =>
    Text.ofString "unsupported config type '" ++ suffix ++ Text.ofChars ['\'']
  | .notImportable cause => cause
  | .evaluatorMissing executable => executable ++ Text.ofString " not found"
  | .evaluatorFailed firstLine => firstLine.getD (Text.ofString "node failed")

/-- The reason given for a manifest. -/
def ManifestFlaw.message : ManifestFlaw → Text
  | .json fault => Text.ofString fault.message
  | .access fault path => fault.messageFor path
  | .notObject kindName => Text.ofString s!"expected an object, got {kindName}"

/-- A report to the user. The details of a configuration carry a reason, those of a manifest do
not. -/
inductive Report where
  | configurationNotFound (path : Text) (reason : Option Text)
  | invalidManifest (path reason : Text)
  | general (message : Text) (details : Members)

namespace Report

/-- The name of a kind of report. -/
def kindName : Report → String
  | .configurationNotFound _ _ => "ConfigNotFound"
  | .invalidManifest _ _ => "InvalidManifest"
  | .general _ _ => "AliasError"

/-- The words of a report. An empty reason is not mentioned. -/
def message : Report → Text
  | .configurationNotFound path reason =>
    let base := Text.ofString "Cannot find configuration file: " ++ path
    match reason with
    | some (c :: cs) => base ++ Text.ofString " (" ++ (c :: cs) ++ Text.ofChars [')']
    | _ => base
  | .invalidManifest path reason =>
    Text.ofString "Invalid manifest " ++ path ++ Text.ofString ": " ++ reason
  | .general message _ => message

/-- The details of a report. -/
def details : Report → Members
  | .configurationNotFound path reason =>
    [(Text.ofString "path", .text path),
      (Text.ofString "reason", (reason.map Value.text).getD .null)]
  | .invalidManifest path _ => [(Text.ofString "path", .text path)]
  | .general _ details => details

end Report

/-- The report of a fault that is reported to the user. -/
def Fault.report? : Fault → Option Report
  | .configuration path flaw => some (.configurationNotFound path (flaw.map (·.message)))
  | .manifest path flaw => some (.invalidManifest path flaw.message)
  | _ => none

end ModuleAlias
