import GelClient.Codec.Decode
import GelClient.Codec.Encode
import GelClient.Connection.Stream
import GelClient.Schema.Registry

/-!
# Connections

A connection that has started: its stream of messages, the codecs that it shares, and the state
of its session. A query runs in a cycle: the client sends a command and a `Sync`, and the server
answers with messages up to `ReadyForCommand`. A query whose types are not known yet is compiled
in a cycle of its own first. The first failure of a cycle is kept and the rest of the cycle is
read, so the next cycle starts in step with the server.

With every query goes the state of the session, which the server asks for by describing its type.
When the server finds the state out of date, the query is run once more.

A failure of the transport or of the protocol, or one that asks for a new connection, leaves the
connection unusable.
-/

namespace GelClient

/-- The state of the session that is sent with every query. -/
structure SessionState where
  typeId : Uuid := .nil
  data : Bytes := []
  deriving DecidableEq, Repr

/-- A connection. -/
structure Connection where
  stream : Stream
  registry : CodecRegistry
  version : ProtocolVersion
  implicitLimit : Int64
  session : SessionState := {}
  transactionState : TransactionState := .notInTransaction
  serverKey : Option Bytes := none
  suggestedPoolConcurrency : Option Nat := none
  isConnected : Bool := false

/-- A query with its arguments, and what is allowed and expected of it. -/
structure Query where
  text : String
  arguments : Value := .nothing
  capabilities : Capabilities := .all
  cardinality : Cardinality := .many
  format : IoFormat := .binary

/-- The key of a query in the cache. -/
def Query.key (q : Query) : UInt64 := queryKey q.text q.cardinality q.format

/-- The result of a query. -/
structure QueryResult where
  capabilities : Capabilities
  values : List Value

namespace Connection

/-- An action on a connection that can fail. -/
abbrev Action := EStateM Cause Connection

/-- An action on the stream of a connection. -/
def onStream {α : Type} (action : Stream.Action α) : Action α := fun c =>
  match action c.stream with
  | .ok a stream => .ok a { c with stream }
  | .error e stream => .error e { c with stream }

/-- An action on the codecs that a connection shares. -/
def onRegistry {α : Type} (action : CodecRegistry.Action α) : Action α := fun c =>
  match action c.registry with
  | .ok a registry => .ok a { c with registry }
  | .error e registry => .error (.codec e) { c with registry }

/-- An action whose failure is its result. -/
def outcome {α : Type} (action : Action α) : Action (Except Cause α) := fun c =>
  match action c with
  | .ok a c => .ok (.ok a) c
  | .error e c => .ok (.error e) c

/-- The result of a codec. -/
def ofCodec {α : Type} : Except CodecError α → Action α
  | .ok a => pure a
  | .error e => throw (.codec e)

/-- Buffers messages and writes them to the socket. -/
def sendAll (ms : List ClientMessage) : Action Unit := do
  match ms.foldlM Stream.send? (← get).stream with
  | some stream =>
    modify fun c => { c with stream }
    onStream Stream.flush
  | none => throw .misannounced

/-- Receives a message. -/
def receive : Action ServerMessage := onStream Stream.receive

/-- Adopts the described type of the session state, with the empty object as the state. -/
def applyState (d : StateDataDescription) : Action Unit := do
  let codec ← onRegistry (CodecRegistry.build (← get).version d.typeId d.descriptors)
  let data ← match codec with
    | .null => pure []
    | codec => ofCodec (codec.encode (.object []))
  modify fun c => { c with session := { typeId := d.typeId, data } }

/-- Remembers the described types of a query and gives their codecs. -/
def applyDescription (key : UInt64) (d : CommandDataDescription) : Action PreparedQuery := do
  let version := (← get).version
  let input ← onRegistry (CodecRegistry.build version d.inputTypeId d.inputDescriptors)
  let output ← onRegistry (CodecRegistry.build version d.outputTypeId d.outputDescriptors)
  let types : QueryTypes := ⟨d.inputTypeId, d.outputTypeId, d.cardinality, d.capabilities⟩
  modify fun c => { c with registry := c.registry.updateQuery version key types }
  return {
    inputId := d.inputTypeId, input, outputId := d.outputTypeId, output
    cardinality := d.cardinality, capabilities := d.capabilities }

/-- What is sent with every command about a query. -/
def request (c : Connection) (q : Query) : QueryRequest :=
  { capabilities := q.capabilities, compilationFlags := .none, implicitLimit := c.implicitLimit
    format := q.format, cardinality := q.cardinality, query := q.text
    stateTypeId := c.session.typeId, stateData := c.session.data }

/-- What a cycle has come to so far. -/
structure Reply where
  /-- The codecs that were described last. -/
  prepared : Option PreparedQuery
  /-- The codec of the rows that arrive. -/
  output : Codec
  capabilities : Capabilities
  /-- The rows, last one first. -/
  rows : List Value := []
  /-- The first failure. -/
  failure : Option Cause := none

namespace Reply

/-- The reply with a failure, unless there is one already. -/
def record (r : Reply) (cause : Cause) : Reply :=
  { r with failure := r.failure <|> some cause }

/-- The reply with a row. Rows behind a failure are dropped. -/
def addRow (r : Reply) (payload : Bytes) : Reply :=
  if r.failure.isSome then r
  else
    match r.output.decode payload with
    | .ok v => { r with rows := v :: r.rows }
    | .error e => r.record (.codec e)

/-- The reply with the codecs that were described. -/
def adopt (r : Reply) (p : PreparedQuery) : Reply :=
  { r with prepared := some p, output := p.output }

end Reply

/-- The commands that are answered by a cycle. -/
inductive Command where
  | parse
  | execute
  deriving DecidableEq, Repr

/-- The name of a command in messages. -/
def Command.name : Command → String
  | .parse => "Parse"
  | .execute => "Execute"

/-- Takes one message of a cycle before its end. -/
def absorb (command : Command) (q : Query) (r : Reply) (m : ServerMessage) : Action Reply := do
  match command, m with
  | _, .commandDataDescription d =>
    match ← outcome (applyDescription q.key d) with
    | .ok p => return r.adopt p
    | .error e => return r.record e
  | _, .stateDataDescription d =>
    match ← outcome (applyState d) with
    | .ok () => return r
    | .error e => return r.record e
  | _, .errorResponse e => return r.record (.database (e.toDatabaseError.withQuery q.text))
  | .execute, .data payload => return r.addRow payload
  | .execute, .commandComplete m => return { r with capabilities := m.capabilities }
  | command, m => return r.record (.protocol (.unexpectedIn command.name m.kind.toByte))

/-- Reads a cycle to its end. The bound counts the messages that can still arrive. -/
def readCycle (command : Command) (q : Query) : (bound : Nat) → Reply → Action Reply
  | 0, _ => throw (.io .endOfStream)
  | bound + 1, r => do
    match ← receive with
    | .readyForCommand ready =>
      modify fun c => { c with transactionState := ready.transactionState }
      return r
    | m => readCycle command q bound (← absorb command q r m)

/-- Sends a command and reads its cycle. -/
def runCycle (command : Command) (q : Query) (message : ClientMessage) (r : Reply) :
    Action Reply := do
  sendAll [message, .sync]
  readCycle command q ((← get).stream.backlog + 1) r

/-- Compiles a query. -/
def parse (q : Query) : Action PreparedQuery := do
  let r ← runCycle .parse q (.parse ((← get).request q))
    { prepared := none, output := .null, capabilities := q.capabilities }
  match r.failure, r.prepared with
  | some e, _ => throw e
  | none, some p => return p
  | none, none =>
    throw (.protocol (.unexpected (some MessageKind.commandDataDescription.toByte)
      MessageKind.readyForCommand.toByte none))

/-- The codecs of a query: those that are cached, those of a query without arguments and results,
or else those that the server describes. -/
def prepare (q : Query) : Action PreparedQuery := do
  let c ← get
  let (cached, registry) := c.registry.query? c.version q.key
  set { c with registry }
  match cached with
  | some p => return p
  | none =>
    if q.format = .none ∧ q.arguments.isNothing then
      return {
        inputId := .nil, input := .null, outputId := .nil, output := .null
        cardinality := .noResult, capabilities := q.capabilities }
    else parse q

/-- Runs a query once. -/
def executeOnce (q : Query) : Action QueryResult := do
  let p ← prepare q
  let arguments ← ofCodec (p.input.encodeArguments q.arguments)
  let message : ClientMessage := .execute ((← get).request q) p.inputId p.outputId arguments
  let r ← runCycle .execute q message
    { prepared := none, output := p.output, capabilities := p.capabilities }
  match r.failure with
  | some e => throw e
  | none => return { capabilities := r.capabilities, values := r.rows.reverse }

/-- Whether the server found the state of the session out of date. -/
def isStale (e : Cause) : Bool :=
  e.code? == some .stateMismatch

/-- Fails, leaving the connection unusable if the failure does. -/
def abandon {α : Type} (e : Cause) : Action α := do
  if e.breaksConnection then modify fun c => { c with isConnected := false }
  throw e

/-- Runs a query, and again as often as is allowed while the session is out of date. -/
def executeAgain (q : Query) : (more : Nat) → Action QueryResult
  | 0 => do
    match ← outcome (executeOnce q) with
    | .ok r => return r
    | .error e => abandon e
  | more + 1 => do
    match ← outcome (executeOnce q) with
    | .ok r => return r
    | .error e => if isStale e then executeAgain q more else abandon e

/-- Runs a query. -/
def execute (q : Query) : Action QueryResult := do
  if (← get).isConnected then executeAgain q 1
  else throw (.connection .closed)

/-- Closes the connection. -/
def close : Action Unit := do
  if (← get).isConnected then
    modify fun c => { c with isConnected := false }
    sendAll [.terminate]

end Connection

end GelClient
