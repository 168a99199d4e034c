import TestDispatch.Plan
import TestDispatch.Ticket.Codec
/-!
# A dispatch session

A session takes the tests requested for execution tickets to the work topic:

1. the universe is classified, and the requests are taken as given or resolved from the
   tickets (a ticket that cannot be resolved is left out);
2. the plan is built and cut into work items;
3. the work topic is reset; a failure ends the session (`reset topic: ...`);
4. every item is put on the queue, which the publisher drains onto the topic: an item that
   cannot be encoded is skipped, one the topic rejects has failed, the others are published;
5. the session fails when the publisher reports an error (`publish: ...`) or when not every
   item was published (`incomplete dispatch: 14 of 18 items published`).

A session whose context is cancelled before it starts resolves nothing (`context canceled`
when there are tickets to resolve); given requests, it plans, resets the topic, puts no item on
the queue and ends interrupted with `context canceled`.

The topic here is kept in memory. It refuses a reset when told to, rejects the items of the
tags it is told to, and may report an error once the queue is shut down.
-/

namespace TestDispatch.Coordinator

/-- The name of the work topic. -/
def workTopic : String := "testfleet-tickets"

/-- Why the topic could not be reset. -/
inductive ResetFailure where
  /-- The topic could not be created; its name and the broker's reason. -/
  | unavailable (topic reason : String)
  /-- Any other failure, in its own words. -/
  | failed (message : String)
  deriving DecidableEq, Repr, Inhabited

/-- The words of a reset failure. -/
def ResetFailure.message : ResetFailure → String
  | .unavailable topic reason => s!"work topic unavailable: {topic}: {reason}"
  | .failed message => message

/-- What the publisher did with the items it was given. -/
structure PublishResult where
  published : Nat := 0
  failed : Nat := 0
  skipped : Nat := 0
  deriving DecidableEq, Repr, Inhabited

/-- Whether every item reached the topic. -/
def PublishResult.complete (r : PublishResult) : Bool := r.failed = 0 && r.skipped = 0

/-- A work topic kept in memory. -/
structure MemoryTopic where
  resetFailure : Option ResetFailure := none
  /-- Items of these tags are rejected. -/
  rejectTags : List String := []
  /-- The error reported after the queue is shut down. -/
  closingError : Option String := none
  /-- The encoded items published, in order. -/
  records : List String := []
  deriving DecidableEq, Repr, Inhabited

/-- Publishes one item. -/
def MemoryTopic.publish (t : MemoryTopic) (r : PublishResult) (item : WorkItem) :
    MemoryTopic × PublishResult :=
  match Ticket.encode item with
  | .error _ => (t, { r with skipped := r.skipped + 1 })
  | .ok text =>
    if t.rejectTags.contains item.tag then (t, { r with failed := r.failed + 1 })
    else ({ t with records := t.records ++ [text] }, { r with published := r.published + 1 })

/-- Where the requests come from. -/
inductive Source where
  /-- Requests as given. -/
  | requests (rs : List Request)
  /-- Tickets to resolve, with the resolver. -/
  | tickets (ts : List String) (resolve : String → Except String (List String))

/-- The requests a source gives: its requests, or its tickets resolved, without those that do
not resolve. -/
def Source.requestList : Source → List Request
  | .requests rs => rs
  | .tickets ts resolve => resolveRequests resolve ts

/-- What a session is given; a missing part is `none`. -/
structure Session where
  tests : Option Universe
  classifier : Option Classify.Options
  source : Source
  planMeta : PlanMeta := {}
  topic : Option MemoryTopic

/-- What a session did. -/
structure Summary where
  tickets : Nat := 0
  requested : Nat := 0
  /-- The items put on the queue. -/
  items : Nat := 0
  unknown : List String := []
  skipped : List String := []
  unclassified : List String := []
  dispatch : PublishResult := {}
  interrupted : Bool := false
  deriving DecidableEq, Repr, Inhabited

/-- Why a session failed. -/
inductive SessionError where
  | missingParts
  | cancelled
  | reset (f : ResetFailure)
  | publish (message : String)
  | incomplete (published items : Nat)
  deriving DecidableEq, Repr, Inhabited

/-- The words of a session error. -/
def SessionError.message : SessionError → String
  | .missingParts => "coordinator: universe, classifier, admin and publisher are required"
  | .cancelled => "context canceled"
  | .reset f => s!"reset topic: {f.message}"
  | .publish m => s!"publish: {m}"
  | .incomplete published items => s!"incomplete dispatch: {published} of {items} items published"

/-- Runs a session, its context cancelled from the start when `cancelled`. Answers the summary,
the error, and the topic's records. -/
def Session.run (s : Session) (cancelled : Bool) : Summary × Option SessionError × List String :=
  let initial : Summary := { tickets := match s.source with | Source.tickets ts _ => ts.length | Source.requests _ => 0 }
  match s.tests, s.classifier, s.topic with
  | some u, some o, some topic =>
    let resolved : Except SessionError (List Request × Nat) := match s.source with
      | .requests rs => .ok (rs, rs.length)
      | .tickets ts resolve =>
        if cancelled && !ts.isEmpty then .error .cancelled else .ok (resolveRequests resolve ts, ts.length)
    match resolved with
    | .error e => (initial, some e, [])
    | .ok (requests, tickets) =>
      let p := Plan.build requests u (o.classify u.records)
      let sum : Summary :=
        { tickets, requested := (requests.map (·.testIds.length)).foldl (· + ·) 0,
          unknown := p.unknown, skipped := p.skipped, unclassified := p.unclassified }
      match topic.resetFailure with
      | some f => (sum, some (.reset f), [])
      | none =>
        let items := if cancelled then [] else p.workItems s.planMeta
        let (topic, result) := items.foldl (fun (t, r) item => t.publish r item) (topic, {})
        let sum := { sum with items := items.length, dispatch := result, interrupted := cancelled }
        let error : Option SessionError :=
          if cancelled then some .cancelled
          else match topic.closingError with
            | some m => some (.publish m)
            | none =>
              if !result.complete || result.published ≠ items.length then
                some (.incomplete result.published items.length)
              else none
        (sum, error, topic.records)
  | _, _, _ => (initial, some .missingParts, [])

end TestDispatch.Coordinator
