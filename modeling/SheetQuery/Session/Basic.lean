import SheetQuery.Session.Query

/-!
# Sessions

A session binds a file to mappings and options and makes queries that carry them. Queries take the
settings as they stand when they are made. A session without a file can be configured but not
queried.
-/

namespace SheetQuery

/-- The settings of a session. -/
structure Session where
  file : Option String
  mapper : Mapper
  options : Options

namespace Session

/-- A session for a file, or for none yet, with nothing else set. -/
def new (file : Option String) : Session :=
  ⟨file, Mapper.empty, Options.standard⟩

/-! ## Settings -/

/-- The session with the mapper that a change left, or the failure of the change. -/
def withMapper (s : Session) : Except QueryError Mapper → Except QueryError Unit × Session
  | .ok mapper => (.ok (), { s with mapper := mapper })
  | .error e => (.error e, s)

/-- Maps a property to a column. -/
def addMapping (s : Session) (property column : String) : Except QueryError Unit × Session :=
  s.withMapper (s.mapper.register property column)

/-- Attaches a transformation to a property. -/
def addTransformation (s : Session) (property : String) (transform : Transform) :
    Except QueryError Unit × Session :=
  s.withMapper (s.mapper.registerTransform property transform)

/-- Maps a property to a column, then attaches a transformation. The mapping stays where the
transformation is refused. -/
def addMappingWithTransform (s : Session) (property column : String) (transform : Transform) :
    Except QueryError Unit × Session :=
  match s.addMapping property column with
  | (.ok _, s) => s.addTransformation property transform
  | refused => refused

/-- The session with another strictness. -/
def setStrictMapping (s : Session) (mode : StrictMapping) : Session :=
  { s with options := { s.options with strictMapping := mode } }

/-- The session with another trim policy. -/
def setTrim (s : Session) (policy : TrimPolicy) : Session :=
  { s with options := { s.options with trim := policy } }

/-- The session that opens files for reading only, or not. -/
def setReadOnly (s : Session) (enabled : Bool) : Session :=
  { s with options := { s.options with readOnly := enabled } }

/-- The session for another file. -/
def setFile (s : Session) (file : String) : Session :=
  { s with file := some file }

/-- The session that keeps connections, or not. -/
def setPersistent (s : Session) (enabled : Bool) : Session :=
  { s with options := { s.options with persistent := enabled } }

/-! ## Queries -/

/-- The file, which must be set. -/
def requiredFile (s : Session) : Except QueryError String :=
  match s.file with
  | some file => .ok file
  | none => .error (.configuration .fileNameMissing)

/-- A query for all items of a type in some part of the file. -/
def query (s : Session) (root : TableIdentity) (type : ItemType) : Except QueryError Query := do
  let file ← s.requiredFile
  let mapper := s.mapper.mergeHints (← type.hints)
  let source ← Source.checked ⟨file, root, type.hasHeader, mapper, s.options⟩
  return ⟨source, type, Model.all type.shape⟩

/-! ## Looking at the tables -/

/-- The way to open the file for a look at its tables. -/
def catalogSpec (s : Session) : Except QueryError ConnectionSpec :=
  s.requiredFile.map fun file => ⟨file, true, s.options.readOnly⟩

variable {σ α : Type} [Backend σ]

/-- Looks at the tables over a connection. -/
def look (s : Session) (use : ConnectionSpec → Action σ α) : Action σ α := do
  let spec ← Action.ofExcept s.catalogSpec
  Action.withConnection s.options.persistent spec (use spec)

/-- The worksheets. -/
def worksheets (s : Session) : Action σ (List String) :=
  s.look Action.worksheets

/-- The named ranges of a worksheet, or of the whole file for none. -/
def namedRanges (s : Session) (worksheet : Option String) : Action σ (List String) :=
  s.look fun spec => Action.namedRanges spec worksheet

/-- The column names of a table. -/
def columnNames (s : Session) (table : Table) : Action σ (List String) :=
  s.look fun spec => do Action.orFail (← Action.columnNames spec table)

end Session

end SheetQuery
