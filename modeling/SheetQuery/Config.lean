import SheetQuery.Session.Basic
import SheetQuery.Toml.Reader

/-!
# Configurations

What a session starts from: a file, options and mappings, written as a document. Everything may be
left out, and keys that mean nothing here are passed over. Mappings and the file are checked for
blank names; whether two properties share a column is found out by the session that takes the
mappings.
-/

namespace SheetQuery

/-- The settings that a session starts from. -/
structure Config where
  file : Option String
  options : Options
  mappings : Dictionary String

/-- What a configuration can hold that is of no use. -/
inductive ConfigFault where
  | emptyProperty (column : String)
  | emptyColumn (property : String)
  | emptyFile
  deriving DecidableEq, Repr

/-- The wording of a configuration fault. -/
def ConfigFault.message : ConfigFault → String
  | .emptyProperty column => "mapping to column '" ++ column ++ "' has an empty property name"
  | .emptyColumn property => "property '" ++ property ++ "' is mapped to an empty column name"
  | .emptyFile => "file_name is empty"

/-- Why there is no configuration: the file cannot be read, its text is no document of the right
form, or what it says is of no use. -/
inductive ConfigError where
  | unreadable (path reason : String)
  | malformed
  | invalid (fault : ConfigFault)
  deriving DecidableEq, Repr

/-- The wording of a failure. -/
def ConfigError.message : ConfigError → String
  | .unreadable path reason => "Failed to read config file " ++ path ++ ": " ++ reason
  | .malformed => "Failed to parse config"
  | .invalid fault => "Invalid configuration: " ++ fault.message

namespace Config

/-! ## Decoding -/

/-- Decodes what stands under a key; without the key there is a standard value. -/
def under {α : Type} (entries : Toml.Entries) (key : String) (standard : α)
    (decode : Toml.Value → Option α) : Option α :=
  match entries.get? key with
  | some value => decode value
  | none => some standard

/-- The element at a position, decoded; without the element there is a standard value. -/
def element {α : Type} (items : List Toml.Value) (index : Nat) (standard : α)
    (decode : Toml.Value → Option α) : Option α :=
  match items[index]? with
  | some value => decode value
  | none => some standard

/-- A text. -/
def text? : Toml.Value → Option String
  | .text s => some s
  | _ => none

/-- A truth value. -/
def boolean? : Toml.Value → Option Bool
  | .boolean b => some b
  | _ => none

/-- The value holds nothing: an empty array or an empty table. -/
def holdsNothing : Toml.Value → Bool
  | .array _ [] | .table _ [] => true
  | _ => false

/-- The name of a choice: a text, or the one key of a table that holds nothing under it. -/
def choice? : Toml.Value → Option String
  | .text s => some s
  | .table _ [(key, value)] => if holdsNothing value then some key else none
  | _ => none

/-- A strictness by its word. -/
def strictMapping? (v : Toml.Value) : Option StrictMapping := do
  let word ← choice? v
  StrictMapping.values.find? (·.key == word)

/-- A trim policy by its word. -/
def trimPolicy? (v : Toml.Value) : Option TrimPolicy := do
  let word ← choice? v
  TrimPolicy.values.find? (·.key == word)

/-- Options: by key in a table, or in their order in an array. A moment has no key of theirs. -/
def options? : Toml.Value → Option Options
  | .table _ entries => do
    return ⟨← under entries "strict_mapping" .none strictMapping?,
      ← under entries "trim_spaces" .none trimPolicy?,
      ← under entries "persistent_connection" false boolean?,
      ← under entries "read_only" false boolean?⟩
  | .array _ items => do
    return ⟨← element items 0 .none strictMapping?, ← element items 1 .none trimPolicy?,
      ← element items 2 false boolean?, ← element items 3 false boolean?⟩
  | .moment _ => some Options.standard
  | _ => none

/-- The key under which a moment shows its text where a table is wanted. -/
def momentKey : String :=
  "$__toml_private_datetime"

/-- Mappings: a table of texts. -/
def mappings? : Toml.Value → Option (Dictionary String)
  | .table _ entries => do
    let pairs ← entries.mapM fun (property, column) => (text? column).map (property, ·)
    return pairs.foldl (fun d (property, column) => Dictionary.insert property column d) []
  | .moment s => some [(momentKey, s)]
  | _ => none

/-- The configuration of a document. -/
def ofEntries? (entries : Toml.Entries) : Option Config := do
  return ⟨← under entries "file_name" none fun v => (text? v).map some,
    ← under entries "options" Options.standard options?,
    ← under entries "mappings" [] mappings?⟩

/-! ## Checking -/

/-- The fault of one mapping. -/
def mappingFault? (mapping : String × String) : Option ConfigFault :=
  if Text.allBlank mapping.1.toList then some (.emptyProperty mapping.2)
  else if Text.allBlank mapping.2.toList then some (.emptyColumn mapping.1)
  else none

/-- The first fault: of the mappings in the order of their properties, then of the file. -/
def fault? (c : Config) : Option ConfigFault :=
  c.mappings.findSome? mappingFault? <|> (if c.file = some "" then some .emptyFile else none)

/-- The configuration once it has passed its checks. -/
def checked (c : Config) : Except ConfigError Config :=
  match c.fault? with
  | some fault => .error (.invalid fault)
  | none => .ok c

/-- The configuration that only names a file. -/
def ofFile (file : String) : Config :=
  ⟨some file, Options.standard, []⟩

/-- The configuration of a text. -/
def ofText (s : String) : Except ConfigError Config :=
  match (Toml.read? s.toList).bind ofEntries? with
  | some c => c.checked
  | none => .error .malformed

/-- The configuration in a file, given its text or the reason why there is none. -/
def load (path : String) (contents : Except String String) : Except ConfigError Config :=
  match contents with
  | .ok s => ofText s
  | .error reason => .error (.unreadable path reason)

end Config

/-- A session with the settings of a configuration. The mappings are registered in the order of
their properties. -/
def Session.ofConfig (c : Config) : Except QueryError Session :=
  (Mapper.empty.registerAll c.mappings).map fun mapper => ⟨c.file, mapper, c.options⟩

end SheetQuery
