import DirectoryServer.Backend
import DirectoryServer.Session.Basic

set_option autoImplicit false

/-!
The work on one request, action by action. Between two actions others may act on the same session:
an abandon may raise the token of the request, and the connection takes responses from the queue.
`Work.step` makes one action; `Work.run` makes all of them with nobody in between.
-/
namespace DirectoryServer

inductive Work (σ α : Type) : Type where
  | done (value : α)
  | poll (token : Token) (next : Bool → Work σ α)
  | queue (out : Outgoing) (next : Bool → Work σ α)
  | abandon (target : MessageId) (next : Bool → Work σ α)
  | identity (next : Option String → Work σ α)
  | identify (name : Option String) (next : Work σ α)
  | transport (next : (secured available : Bool) → Work σ α)
  | ask (question : σ → ResultCode × σ) (next : ResultCode → Work σ α)
  | search (backend : Backend σ) (query : Query)
      (next : Except ResultCode (List Entry) → Work σ α)

structure Scene (σ : Type) where
  session : Session
  state : σ

namespace Work

variable {σ α β : Type}

def bind : Work σ α → (α → Work σ β) → Work σ β
  | .done value, f => f value
  | .poll token next, f => .poll token fun raised => (next raised).bind f
  | .queue out next, f => .queue out fun sent => (next sent).bind f
  | .abandon target next, f => .abandon target fun found => (next found).bind f
  | .identity next, f => .identity fun name => (next name).bind f
  | .identify name next, f => .identify name (next.bind f)
  | .transport next, f => .transport fun secured available => (next secured available).bind f
  | .ask question next, f => .ask question fun code => (next code).bind f
  | .search backend query next, f => .search backend query fun found => (next found).bind f

instance : Monad (Work σ) where
  pure := .done
  bind := bind

def isHeld : Work σ α → Bool
  | .search backend query _ => backend.holds query.base
  | _ => false

def searchScene (backend : Backend σ) (query : Query) (scene : Scene σ) :
    Except ResultCode (List Entry) × Scene σ :=
  let (found, state) := backend.search query.base query.filter query.attributes scene.state
  (found.answer,
    ⟨found.abandons.foldl (fun session target => (session.abandon target).2) scene.session, state⟩)

def step : Work σ α → Scene σ → Work σ α × Scene σ
  | .done value, scene => (.done value, scene)
  | .poll token next, scene => (next (scene.session.registry.isRaised token), scene)
  | .queue out next, scene =>
      let (sent, session) := scene.session.send out
      (next sent, { scene with session })
  | .abandon target next, scene =>
      let (found, session) := scene.session.abandon target
      (next found, { scene with session })
  | .identity next, scene => (next scene.session.bound, scene)
  | .identify name next, scene => (next, { scene with session := scene.session.identify name })
  | .transport next, scene => (next scene.session.secured scene.session.tlsAvailable, scene)
  | .ask question next, scene =>
      let (code, state) := question scene.state
      (next code, { scene with state })
  | .search backend query next, scene =>
      let (found, scene) := searchScene backend query scene
      (next found, scene)

def run : Work σ α → Scene σ → α × Scene σ
  | .done value, scene => (value, scene)
  | .poll token next, scene => (next (scene.session.registry.isRaised token)).run scene
  | .queue out next, scene =>
      let (sent, session) := scene.session.send out
      (next sent).run { scene with session }
  | .abandon target next, scene =>
      let (found, session) := scene.session.abandon target
      (next found).run { scene with session }
  | .identity next, scene => (next scene.session.bound).run scene
  | .identify name next, scene => next.run { scene with session := scene.session.identify name }
  | .transport next, scene =>
      (next scene.session.secured scene.session.tlsAvailable).run scene
  | .ask question next, scene =>
      let (code, state) := question scene.state
      (next code).run { scene with state }
  | .search backend query next, scene =>
      let (found, scene) := searchScene backend query scene
      (next found).run scene

end Work

structure Context where
  id : MessageId
  kind : OperationKind
  token : Token
deriving DecidableEq, Repr

namespace Context

variable {σ : Type}

def cancelled (context : Context) : Work σ Bool :=
  .poll context.token .done

def write (context : Context) (response : Response) : Work σ Bool :=
  .queue ⟨context.id, response, false⟩ .done

def writeOutcome (context : Context) (outcome : Outcome) : Work σ Bool :=
  match context.kind.finalResponse? outcome with
  | some response => context.write response
  | none => .done false

def writeThenUpgrade (context : Context) (response : Response) : Work σ Bool :=
  .queue ⟨context.id, response, true⟩ .done

end Context

end DirectoryServer
