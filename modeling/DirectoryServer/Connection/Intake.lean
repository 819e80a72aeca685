import DirectoryServer.Connection.Basic

set_option autoImplicit false

namespace DirectoryServer.Connection

variable {σ : Type}

def send (connection : Connection σ) (id : MessageId) (response : Response) : Connection σ :=
  connection.withSession (connection.session.send ⟨id, response, false⟩).2

def answer (connection : Connection σ) (id : MessageId) (kind : OperationKind)
    (outcome : Outcome) : Connection σ :=
  match kind.finalResponse? outcome with
  | some response => connection.send id response
  | none => connection

def tooMany : Outcome := ⟨.busy, "too many outstanding requests on this connection"⟩

def idInUse : Outcome := ⟨.protocolError, "message ID already in use"⟩

-- An abandon is served before the requests that wait, for its target may be one of them.
def serveAtOnce (connection : Connection σ) (message : Message) : Connection σ :=
  let (token, registry) := connection.session.registry.issue
  let scene := { connection.scene with session := { connection.session with registry } }
  let work := connection.config.routes.dispatch message.request
    ⟨message.id, message.request.kind, token⟩
  { connection with scene := (work.run scene).2 }

def enqueue (connection : Connection σ) (message : Message) : Connection σ :=
  if maxPending ≤ connection.pending.length then
    connection.answer message.id message.request.kind tooMany
  else
    match connection.session.registry.register message.id with
    | (some token, registry) =>
        { connection.withSession { connection.session with registry } with
          pending := connection.pending ++ [(message, token)] }
    | (none, _) => connection.answer message.id message.request.kind idInUse

def takeMessage (connection : Connection σ) (message : Message) : Connection σ :=
  match message.request with
  | .abandon _ => connection.serveAtOnce message
  | _ => connection.enqueue message

def refuse (connection : Connection σ) (failure : DecodeFailure) :
    Connection σ × Option ConnectionError :=
  match failure.id with
  | none => (connection, some (.codec failure.error))
  | some id =>
      let fault : Outcome := ⟨.protocolError, failure.error.message⟩
      match failure.kind, failure.error with
      | some kind, _ => (connection.answer id kind fault, none)
      | none, .unknownOperation _ =>
          (connection.answer id .extended ⟨.unwillingToPerform, notImplemented⟩, none)
      | none, _ => (connection.answer id .extended fault, none)

def takeFrame (connection : Connection σ) (frame : Frame) :
    Connection σ × Option ConnectionError :=
  let counted := connection.withSession
    { connection.session with stats := connection.session.stats.requested }
  match Message.decode frame with
  | .ok message => (counted.takeMessage message, none)
  | .error failure => counted.refuse failure

end DirectoryServer.Connection
