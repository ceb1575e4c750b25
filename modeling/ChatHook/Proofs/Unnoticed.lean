import ChatHook.Proofs.Chain

/-!
# What a chain takes no notice of

Where a chain goes is decided by URLs and answers. A change of requests that leaves their URLs alone
and may as well be made before a redirect as behind it (`Unnoticed`) therefore changes the requests
of a chain and nothing else: it passes through a turn (`turn_map`), and so through a whole chain
(`follow_mapRequests`).
-/

namespace ChatHook.Http

/-- A change of requests of which a client takes no notice. -/
structure Unnoticed (client : Client) (f : Request → Request) : Prop where
  url : ∀ r, (f r).url = r.url
  redirected : ∀ r keepsBody url,
    (f r).redirected client keepsBody url = f (r.redirected client keepsBody url)

/-- A delivery with its requests changed. -/
def Delivery.mapRequests (f : Request → Request) (d : Delivery) : Delivery :=
  { d with requests := d.requests.map f }

/-- A turn with the request to which it leads changed. -/
def Turn.map (f : Request → Request) : Turn → Turn
  | .onward next => .onward (f next)
  | .final result => .final result

variable {client : Client} {f : Request → Request} (hf : Unnoticed client f)

include hf

theorem next?_map (r : Request) (reply : Reply) :
    (f r).next? client reply = (r.next? client reply).map f := by
  rw [Request.next?, Request.next?, hf.url]
  cases reply.status.redirect? with
  | none => rfl
  | some keepsBody =>
    cases reply.location.bind (location? r.url) with
    | none => rfl
    | some url => exact congrArg some (hf.redirected r keepsBody url)

/-- The turn of a changed request is the changed turn. -/
theorem turn_map (origin : Url) (budget : Option Nat) (r : Request) (answer : Answer) :
    (f r).turn client origin budget answer = (r.turn client origin budget answer).map f := by
  cases hreply : answer.reply with
  | error fault => simp only [Request.turn, hreply, Turn.map]
  | ok reply =>
    simp only [Request.turn, hreply, next?_map hf]
    cases budget with
    | none => cases r.next? client reply <;> rfl
    | some budget =>
      cases hnext : r.next? client reply with
      | none => cases budget <;> rfl
      | some next =>
        cases budget with
        | zero => rfl
        | succ n =>
          simp only [Option.map_some, hf.url]
          rw [apply_ite (Turn.map f)]
          rfl

/-- **What a chain takes no notice of.** The chain of a changed request is the chain of the request
with all requests changed. -/
theorem follow_mapRequests (origin : Url) (budget : Option Nat) (r : Request)
    (answers : List Answer) :
    follow client origin budget (f r) answers =
      (follow client origin budget r answers).mapRequests f := by
  induction answers generalizing budget r with
  | nil => rw [follow_nil, follow_nil]; rfl
  | cons answer answers ih =>
    rw [follow_cons, follow_cons, turn_map hf]
    cases r.turn client origin budget answer with
    | onward next =>
      simp only [Turn.map, ih]
      rfl
    | final result => rfl

end ChatHook.Http
