import QuotaBoard.Board.Basic

/-!
# Worlds that keep a record

A plan is carried out in a world that answers as it likes: what it says may depend on everything
that happened before.  `Carrier.recording` puts a notebook beside such a world, in which each
request is written down when it is made and nothing else is; the answers stay the same.  What is
proved of the notebook for every world is proved for every script of replies.

`scripted` is the world that hands out the replies of a list, one for each call.
-/

namespace QuotaBoard

variable {σ α : Type}

/-! ## 1. Plans step by step -/

namespace Fetch

@[simp] theorem run_done (carrier : Carrier (StateM σ)) (result : α) (w : σ) :
    ((done result).run carrier).run w = (result, w) := rfl

@[simp] theorem run_call (carrier : Carrier (StateM σ)) (request : ApiRequest)
    (next : Except FetchError ApiReply → Fetch α) (w : σ) :
    ((call request next).run carrier).run w =
      ((next ((carrier.call request).run w).1).run carrier).run
        ((carrier.call request).run w).2 := rfl

@[simp] theorem run_tokenFile (carrier : Carrier (StateM σ)) (name : String)
    (next : Option String → Fetch α) (w : σ) :
    ((tokenFile name next).run carrier).run w =
      ((next ((carrier.tokenFile name).run w).1).run carrier).run
        ((carrier.tokenFile name).run w).2 := rfl

@[simp] theorem run_clock (carrier : Carrier (StateM σ)) (next : Int → Fetch α) (w : σ) :
    ((clock next).run carrier).run w =
      ((next (carrier.clock.run w).1).run carrier).run (carrier.clock.run w).2 := rfl

@[simp] theorem run_both {β γ : Type} (carrier : Carrier (StateM σ)) (left : Fetch β)
    (right : Fetch γ) (next : β → γ → Fetch α) (w : σ) :
    ((both left right next).run carrier).run w =
      let (a, w') := (left.run carrier).run w
      let (b, w'') := (right.run carrier).run w'
      ((next a b).run carrier).run w'' := rfl

end Fetch

/-! ## 2. The notebook -/

/-- A step of the world of which nothing is written down. -/
def silently (step : StateM σ α) : StateM (σ × List ApiRequest) α :=
  fun (w, sent) => let (a, w') := step w; (a, (w', sent))

/-- The same world with a notebook of the requests that are made. -/
def Carrier.recording (carrier : Carrier (StateM σ)) :
    Carrier (StateM (σ × List ApiRequest)) where
  call request := fun (w, sent) =>
    let (reply, w') := carrier.call request w
    (reply, (w', sent ++ [request]))
  tokenFile name := silently (carrier.tokenFile name)
  clock := silently carrier.clock
  held := carrier.held
  delay := carrier.delay

/-- The same service with a notebook of the requests that are made. -/
def Service.recording (service : Service (StateM σ)) :
    Service (StateM (σ × List ApiRequest)) where
  toCarrier := service.toCarrier.recording
  credentials := silently service.credentials
  apiKeys := silently service.apiKeys

@[simp] theorem Carrier.recording_call (carrier : Carrier (StateM σ)) (request : ApiRequest)
    (w : σ) (sent : List ApiRequest) :
    (carrier.recording.call request).run (w, sent) =
      (((carrier.call request).run w).1, (((carrier.call request).run w).2, sent ++ [request])) :=
  rfl

/-! ## 3. A world with a script -/

/-- The world that answers each call with the next reply of a list; one without any reply left
breaks the connection. -/
def scripted : Carrier (StateM (List (Except FetchError ApiReply))) where
  call _ := fun
    | [] => (.error (.transport "connection closed" none), [])
    | reply :: rest => (reply, rest)
  tokenFile _ := pure none
  clock := pure 0

@[simp] theorem scripted_call (request : ApiRequest) (reply : Except FetchError ApiReply)
    (rest : List (Except FetchError ApiReply)) :
    (scripted.call request).run (reply :: rest) = (reply, rest) := rfl

end QuotaBoard
