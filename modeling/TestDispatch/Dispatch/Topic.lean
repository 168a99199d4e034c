import TestDispatch.Config
import TestDispatch.Dispatch.Consumer
import TestDispatch.Text.Duration
/-!
# Resetting the work topic

A session starts by resetting the work topic, so that no ticket of an earlier session is read
again: the admin deletes the topic, waits until the broker no longer lists it, and creates it
afresh.

* The deletion asks the broker to delete the topic. A broker that does not know the topic
  (`UNKNOWN_TOPIC_OR_PARTITION`) counts as done. Otherwise the admin lists the topic until the
  broker no longer shows it, a poll interval between listings, for at most the deletion timeout.
* The creation asks the broker to create the topic with the configured partitions and
  replication factor, again and again while the broker answers `TOPIC_ALREADY_EXISTS`, for at
  most the deletion timeout.
* A failed deletion is only logged. A failed creation fails the reset with
  `work topic unavailable: <topic>: <error>`, or with the context's error once the caller's
  context has ended. After a creation the admin describes the new topic and only logs what it
  hears.

The broker keeps each topic's partition count and records. A topic marked for deletion stays
listed for as many more listings as the broker chooses; until then it can be neither created nor
marked again. The network decides, for each request, how long it takes and whether the admin
gets an error in place of the broker's answer; the broker may have acted on such a request or
not. A request whose answer would come once its context has ended gets the context's error,
when the context ends. Times are in nanoseconds.
-/

namespace TestDispatch

/-- A setting that is not positive takes its default. -/
def orDefault (value default : Int) : Int := if value ≤ 0 then default else value

/-- The broker settings with the dispatch defaults for those left unset: two partitions, one
replica, a 30 s deletion timeout, a 60 s poll timeout and the client id `testfleet`. -/
def KafkaConfig.withDefaults (c : KafkaConfig) : KafkaConfig :=
  { c with
    partitions := orDefault c.partitions 2
    replicationFactor := orDefault c.replicationFactor 1
    deleteTimeout := orDefault c.deleteTimeout 30000000000
    pollTimeout := orDefault c.pollTimeout 60000000000
    clientId := if c.clientId = "" then "testfleet" else c.clientId }

end TestDispatch

namespace TestDispatch.Dispatch

/-! ## The broker -/

/-- An error of the broker client: the broker's `UNKNOWN_TOPIC_OR_PARTITION` and
`TOPIC_ALREADY_EXISTS`, the end of the request's context, or any other error in its own words. -/
inductive KafkaError where
  | unknownTopicOrPartition
  | topicAlreadyExists
  | context (e : ContextError)
  | other (message : String)
  deriving DecidableEq, Repr

/-- The words of a broker client error. -/
def KafkaError.message : KafkaError → String
  | .unknownTopicOrPartition =>
    "UNKNOWN_TOPIC_OR_PARTITION: This server does not host this topic-partition."
  | .topicAlreadyExists => "TOPIC_ALREADY_EXISTS: Topic with this name already exists."
  | .context e => e.message
  | .other message => message

/-- A topic on the broker: its partition count and its records, and, once it is marked for
deletion, how many more listings still show it. -/
structure Topic where
  partitions : Nat
  records : List (List UInt8)
  deleting : Option Nat := none
  deriving DecidableEq, Repr

/-- A topic just created: no record, not marked for deletion. -/
def Topic.fresh (partitions : Nat) : Topic := { partitions, records := [] }

/-- The broker: the topic of each name, none where it has none. -/
@[ext] structure Broker where
  topics : String → Option Topic

/-- The broker with the topic of one name replaced. -/
def Broker.set (b : Broker) (name : String) (t : Option Topic) : Broker :=
  ⟨fun n => if n = name then t else b.topics n⟩

/-- A request of the admin client, about one topic. -/
inductive Request where
  | deleteTopics (topic : String)
  | listTopics (topic : String)
  | createTopics (topic : String) (partitions replicationFactor : Int)
  deriving DecidableEq, Repr

/-- The topic a request is about. -/
def Request.topic : Request → String
  | .deleteTopics t | .listTopics t | .createTopics t _ _ => t

/-- Whether a request asks for a topic to be created. -/
def Request.isCreate : Request → Bool
  | .createTopics .. => true
  | _ => false

/-- What the admin client returns for a request. -/
inductive Reply where
  /-- The request failed as a whole. -/
  | failed (e : KafkaError)
  /-- The broker answered with an error for the topic. -/
  | refused (e : KafkaError)
  /-- The broker answered for the topic without error: marked, listed or created. -/
  | ok
  deriving DecidableEq, Repr

/-- The error a reply carries, whether the request's or the topic's. -/
def Reply.error? : Reply → Option KafkaError
  | .failed e | .refused e => some e
  | .ok => none

/-- How the broker answers a request, and the broker after it. A topic marked for deletion stays
listed `lag` more times; marking it again changes nothing. -/
def Broker.serve (b : Broker) (lag : Nat) : Request → Reply × Broker
  | .deleteTopics name =>
    match b.topics name with
    | none => (.refused .unknownTopicOrPartition, b)
    | some t => (.ok, b.set name (some { t with deleting := t.deleting.or (some lag) }))
  | .listTopics name =>
    match b.topics name with
    | none => (.refused .unknownTopicOrPartition, b)
    | some t =>
      match t.deleting with
      | none => (.ok, b)
      | some 0 => (.refused .unknownTopicOrPartition, b.set name none)
      | some (k + 1) => (.ok, b.set name (some { t with deleting := some k }))
  | .createTopics name partitions _ =>
    match b.topics name with
    | none => (.ok, b.set name (some (Topic.fresh partitions.toNat)))
    | some _ => (.refused .topicAlreadyExists, b)

/-! ## The network and the contexts -/

/-- An error the admin gets in place of the broker's answer: the request's, or one for the
topic. -/
inductive Fault where
  | request (e : KafkaError)
  | topic (e : KafkaError)
  deriving DecidableEq, Repr

/-- The reply a fault gives. -/
def Fault.reply : Fault → Reply
  | .request e => .failed e
  | .topic e => .refused e

/-- What becomes of one request: how long its answer takes, whether a fault replaces the
broker's answer, whether the broker acted on a request that got a fault, and, for a deletion,
how many more listings show the topic. -/
structure Turn where
  latency : Nat := 0
  fault : Option Fault := none
  applied : Bool := false
  lag : Nat := 0
  deriving DecidableEq, Repr

/-- The network: the turn of each request, by the number of requests made before it. -/
abbrev Network := Nat → Turn

/-- When a context ends, and its error then. -/
structure Deadline where
  time : Nat
  err : ContextError
  deriving DecidableEq, Repr

/-- The error of a context at a time, none while it runs; a context of none never ends. -/
def ctxErr : Option Deadline → Nat → Option ContextError
  | some d, now => if d.time ≤ now then some d.err else none
  | none, _ => none

/-- The context that ends `timeout` after `now`, or with its parent when the parent ends first
(`context.WithTimeout`). -/
def withTimeout (parent : Option Deadline) (now timeout : Nat) : Deadline :=
  match parent with
  | some p => if p.time ≤ now + timeout then p else ⟨now + timeout, .deadlineExceeded⟩
  | none => ⟨now + timeout, .deadlineExceeded⟩

/-- A call of the admin client: the request, when it was made, when its reply came, and the
reply. -/
structure Call where
  request : Request
  sentAt : Nat
  answeredAt : Nat
  reply : Reply
  deriving DecidableEq, Repr

/-- What a reset runs in: the clock, the broker, and the calls made so far, in order. -/
structure Cluster where
  now : Nat
  broker : Broker
  calls : List Call := []

/-- The cluster later by `dt`. -/
def Cluster.pause (c : Cluster) (dt : Nat) : Cluster := { c with now := c.now + dt }

/-- The cluster at `time`, unless that is past. -/
def Cluster.pauseUntil (c : Cluster) (time : Nat) : Cluster := { c with now := max c.now time }

/-- What comes of a request: the reply, when it comes, and whether the broker acted on it. -/
structure Delivery where
  reply : Reply
  time : Nat
  acted : Bool

/-- The delivery of the broker's answer on a turn, its context aside. -/
def Turn.outcome (turn : Turn) (answer : Reply) (now : Nat) : Delivery :=
  match turn.fault with
  | some f => ⟨f.reply, now + turn.latency, turn.applied⟩
  | none => ⟨answer, now + turn.latency, true⟩

/-- The delivery of the broker's answer to a request sent at `now` under a context. A request
sent once its context has ended fails at once; one whose answer would come once the context has
ended fails when it ends, acted on or not. -/
def deliver (ctx : Option Deadline) (turn : Turn) (answer : Reply) (now : Nat) : Delivery :=
  match ctx with
  | some d =>
    if d.time ≤ now then ⟨.failed (.context d.err), now, false⟩
    else if d.time ≤ now + turn.latency then ⟨.failed (.context d.err), d.time, turn.applied⟩
    else turn.outcome answer now
  | none => turn.outcome answer now

/-- Sends a request under a context: the network's turn for it and the broker decide the reply,
and the call is logged. -/
def send (net : Network) (ctx : Option Deadline) (req : Request) (c : Cluster) :
    Reply × Cluster :=
  let turn := net c.calls.length
  let served := c.broker.serve turn.lag req
  let out := deliver ctx turn served.1 c.now
  (out.reply,
    { now := out.time, broker := if out.acted then served.2 else c.broker,
      calls := c.calls ++ [⟨req, c.now, out.time, out.reply⟩] })

/-- An answer never comes before its request was sent. -/
theorem le_deliver_time (ctx : Option Deadline) (turn : Turn) (answer : Reply) (now : Nat) :
    now ≤ (deliver ctx turn answer now).time := by
  have houtcome : now ≤ (turn.outcome answer now).time := by
    unfold Turn.outcome
    split <;> simp
  unfold deliver
  split
  · split
    · exact Nat.le_refl _
    · split
      · simp only; omega
      · exact houtcome
  · exact houtcome

/-- A request leaves the clock where it was or later. -/
theorem send_now_le (net : Network) (ctx : Option Deadline) (req : Request) (c : Cluster) :
    c.now ≤ (send net ctx req c).2.now :=
  le_deliver_time ctx _ _ c.now

/-! ## The topic admin -/

/-- The topic admin: the broker settings, and the pause between two polls. -/
structure Admin where
  cfg : KafkaConfig
  pollInterval : Nat
  poll_pos : 0 < pollInterval

/-- A new admin: the settings with their defaults, and polls half a second apart. -/
def Admin.new (cfg : KafkaConfig) : Admin :=
  { cfg := cfg.withDefaults, pollInterval := 500000000, poll_pos := by decide }

/-- The deletion timeout, which bounds the wait for a deleted topic and the creation alike. -/
def Admin.deleteTimeout (a : Admin) : Nat := a.cfg.deleteTimeout.toNat

/-- A polling loop under a context that ends at `d`: send the request, and `judge` the reply,
which ends the loop or asks for another try. Another try comes a poll interval later; when the
context ends before that, the loop ends with `giveUp` of the last reply. -/
def retry (a : Admin) (net : Network) (d : Deadline) (req : Request) (judge : Reply → Option α)
    (giveUp : Reply → α) (c : Cluster) : α × Cluster :=
  match judge (send net (some d) req c).1 with
  | some x => (x, (send net (some d) req c).2)
  | none =>
    if (send net (some d) req c).2.now + a.pollInterval < d.time then
      retry a net d req judge giveUp ((send net (some d) req c).2.pause a.pollInterval)
    else (giveUp (send net (some d) req c).1, (send net (some d) req c).2.pauseUntil d.time)
termination_by d.time - c.now
decreasing_by
  have := send_now_le net (some d) req c
  have := a.poll_pos
  simp only [Cluster.pause]
  omega

/-- Whether a listing shows the topic (`topicExists`); a topic the broker does not know is not
shown. -/
def shown : Reply → Except KafkaError Bool
  | .failed e => .error e
  | .refused .unknownTopicOrPartition => .ok false
  | .refused e => .error e
  | .ok => .ok true

/-- Why a deletion failed. -/
inductive DeleteError where
  /-- The delete request failed. -/
  | request (e : KafkaError)
  /-- The broker refused the deletion. -/
  | refused (e : KafkaError)
  /-- The context ended while listing the topic failed. -/
  | waiting (e : KafkaError)
  /-- The context ended while the topic was still listed; the timeout in nanoseconds. -/
  | stillListed (timeout : Int)
  deriving DecidableEq, Repr

/-- The words of a deletion error. -/
def DeleteError.message : DeleteError → String
  | .request e | .refused e => e.message
  | .waiting e => s!"waiting for deletion: {e.message}"
  | .stillListed timeout => s!"topic still listed after {Text.Duration.format ⟨timeout⟩}"

/-- The wait for a deleted topic to go: the admin lists it until the broker no longer shows it. -/
def awaitGone (a : Admin) (net : Network) (d : Deadline) (c : Cluster) :
    Option DeleteError × Cluster :=
  retry a net d (.listTopics a.cfg.topic) gone (timedOut a.cfg.deleteTimeout) c
where
  /-- The wait ends when a listing no longer shows the topic. -/
  gone (r : Reply) : Option (Option DeleteError) :=
    match shown r with
    | .ok false => some none
    | _ => none
  /-- When the context ends first, the wait fails with the last listing's error, or because the
  topic is still listed. -/
  timedOut (timeout : Int) (r : Reply) : Option DeleteError :=
    match shown r with
    | .error e => some (.waiting e)
    | .ok _ => some (.stillListed timeout)

/-- `deleteTopic`: ask for the deletion, then wait for the topic to go, within the deletion
timeout. -/
def deleteTopic (a : Admin) (net : Network) (ctx : Option Deadline) (c : Cluster) :
    Option DeleteError × Cluster :=
  match send net (some (withTimeout ctx c.now a.deleteTimeout)) (.deleteTopics a.cfg.topic) c with
  | (.failed e, c') => (some (.request e), c')
  | (.refused .unknownTopicOrPartition, c') => (none, c')
  | (.refused e, c') => (some (.refused e), c')
  | (.ok, c') => awaitGone a net (withTimeout ctx c.now a.deleteTimeout) c'

/-- What the admin makes of a creation's reply: done, another try while the broker still has the
topic, or the error. -/
def creationStep (r : Reply) : Option (Option KafkaError) :=
  match r.error? with
  | none => some none
  | some .topicAlreadyExists => none
  | some e => some (some e)

/-- The request that creates the topic with the configured partitions and replication. -/
def Admin.creation (a : Admin) : Request :=
  .createTopics a.cfg.topic a.cfg.partitions a.cfg.replicationFactor

/-- `createTopic`: ask for the topic, again while the broker answers `TOPIC_ALREADY_EXISTS`,
within the deletion timeout. -/
def createTopic (a : Admin) (net : Network) (ctx : Option Deadline) (c : Cluster) :
    Option KafkaError × Cluster :=
  retry a net (withTimeout ctx c.now a.deleteTimeout) a.creation creationStep Reply.error? c

/-- `Describe`: one listing of the topic under the caller's context. -/
def describe (a : Admin) (net : Network) (ctx : Option Deadline) (c : Cluster) :
    Reply × Cluster :=
  send net ctx (.listTopics a.cfg.topic) c

/-- Why a reset failed. -/
inductive ResetError where
  /-- The caller's context ended. -/
  | context (e : ContextError)
  /-- The topic could not be created (`ErrTopicUnavailable`). -/
  | unavailable (topic : String) (cause : KafkaError)
  deriving DecidableEq, Repr

/-- The words of a reset error. -/
def ResetError.message : ResetError → String
  | .context e => e.message
  | .unavailable topic cause => s!"work topic unavailable: {topic}: {cause.message}"

/-- `ResetTopic`: delete the topic, then create it. -/
def resetTopic (a : Admin) (net : Network) (ctx : Option Deadline) (c : Cluster) :
    Option ResetError × Cluster :=
  match deleteTopic a net ctx c with
  -- a failed deletion is only logged, unless the caller's context has ended
  | (some _, c') =>
    match ctxErr ctx c'.now with
    | some e => (some (.context e), c')
    | none => created a net ctx c'
  | (none, c') => created a net ctx c'
where
  /-- The creation, and the description of the new topic, whose answer is only logged. -/
  created (a : Admin) (net : Network) (ctx : Option Deadline) (c : Cluster) :
      Option ResetError × Cluster :=
    match createTopic a net ctx c with
    | (some err, c') =>
      match ctxErr ctx c'.now with
      | some e => (some (.context e), c')
      | none => (some (.unavailable a.cfg.topic err), c')
    | (none, c') => (none, (describe a net ctx c').2)

end TestDispatch.Dispatch
