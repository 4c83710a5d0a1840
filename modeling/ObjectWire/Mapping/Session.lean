import ObjectWire.Mapping.Descriptor
/-!
# Serializer sessions

A session is a serializer at work: its catalog and options, the caches it fills (resolved
members per type, mapping lists per type and version, compiled layouts, root plans) and the
log records it has emitted. Caches change no result; they decide which records are logged
(a type's members are reported once, when first resolved).

Work runs in `Run`, a computation over a machine holding the session, a writer and a reader.
A failure keeps the machine as it was at that point: what the sink took and what was logged.
-/

namespace ObjectWire

/-- The severity of a log record. -/
inductive Level where
  | debug
  | trace
  | warn
  deriving DecidableEq, Repr

/-- The name of a level. -/
def Level.name : Level → String
  | .debug => "DEBUG"
  | .trace => "TRACE"
  | .warn => "WARN"

/-- A log record. -/
structure LogRecord where
  level : Level
  message : String
  deriving Repr

/-- A serializer at work. -/
structure Session where
  catalog : Catalog
  options : Options
  members : List (Ty × List Descriptor) := []
  lists : List ((Ty × VersionKey) × MappingList) := []
  compiled : List (Ty × VersionKey) := []
  roots : List ((Ty × Engine) × RootPlan) := []
  logs : Array LogRecord := #[]

namespace Session

/-- A fresh session. -/
def new (catalog : Catalog) (options : Options) : Session := { catalog, options }

/-- The session with every cache emptied. -/
def clearCaches (s : Session) : Session :=
  { s with members := [], lists := [], compiled := [], roots := [] }

/-- The rendering of the mapper: its options and the sizes of its list and layout caches. -/
def mapperDebug (s : Session) : String :=
  "Mapper \x7b options: " ++ s.options.debug ++ ", lists: " ++ toString s.lists.length ++
    ", compiled: " ++ toString s.compiled.length ++ ", .. \x7d"

end Session

/-- A session with a writer and a reader. -/
structure Machine where
  session : Session
  writer : Writer
  reader : Reader

/-- Computations of a serializer. -/
abbrev Run := EStateM Error Machine

namespace Run

/-- Appends a log record. -/
def log (level : Level) (message : String) : Run Unit :=
  modify fun m => { m with session := { m.session with logs := m.session.logs.push ⟨level, message⟩ } }

/-- The session. -/
def session : Run Session := do pure (← get).session

/-- Changes the session. -/
def modifySession (f : Session → Session) : Run Unit :=
  modify fun m => { m with session := f m.session }

/-- The catalog. -/
def catalog : Run Catalog := do pure (← get).session.catalog

/-- The options. -/
def options : Run Options := do pure (← get).session.options

/-- Fails unless a pure step succeeds. -/
def lift (e : Except Error α) : Run α :=
  match e with
  | .ok a => pure a
  | .error err => throw err

/-- Runs a writing step on the machine's writer; a failure keeps what the sink took. -/
def emit (w : Emit α) : Run α := fun m =>
  match w m.writer with
  | .ok a w' => .ok a { m with writer := w' }
  | .error e w' => .error e { m with writer := w' }

/-- Runs a reading step on the machine's reader. -/
def take (r : Take α) : Run α := fun m =>
  match r m.reader with
  | .ok a r' => .ok a { m with reader := r' }
  | .error e r' => .error e { m with reader := r' }

/-- Runs a writing computation into a fresh unlimited writer of the same encoding, and gives
its bytes; the machine's writer is left as it was, also on failure. -/
def scratch (body : Run Unit) : Run (List UInt8) := fun m =>
  let main := m.writer
  match body { m with writer := Writer.new main.encoding } with
  | .ok () m' => .ok m'.writer.bytes { m' with writer := main }
  | .error e m' => .error e { m' with writer := main }

end Run
end ObjectWire
