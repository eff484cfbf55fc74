/-
Module: ModuleAlias.Script.Language
Purpose: The language of a script, which the extension of its file tells: TypeScript without or
  with markup, or else JavaScript, which always has markup.
Imports: ModuleAlias.Path, ModuleAlias.Text.LowerCase
Main exports: Script.Language, Script.Language.ofFilename
-/
import ModuleAlias.Path
import ModuleAlias.Text.LowerCase

namespace ModuleAlias.Script

/-- The languages of scripts. -/
inductive Language where
  | javascript
  | typescript
  | tsx
deriving DecidableEq, Repr

namespace Language

/-- The word for a language. -/
def word : Language → String
  | .javascript => "javascript"
  | .typescript => "typescript"
  | .tsx => "tsx"

/-- Whether a language has types. -/
def hasTypes : Language → Bool
  | .javascript => false
  | _ => true

/-- The language of a file by its extension, in which capitals count as small letters. -/
def ofFilename (filename : Text) : Language :=
  let suffix := Text.toLower (Path.Plain.ofText filename).suffix
  if suffix ∈ [".ts", ".mts", ".cts"].map Text.ofString then .typescript
  else if suffix = Text.ofString ".tsx" then .tsx
  else .javascript

end Language

end ModuleAlias.Script
