import TestDispatch.Dispatch.Topic
/-!
# What a reset of the work topic leaves

The resets of the work topic over every broker, every network and every timing: a request may
take any time, may get any error in place of the broker's answer, acted on by the broker or not,
and a deleted topic may stay listed for any number of listings.

* `serve_broker`, `send_ok`: a request changes at most its own topic, and a reply without error
  is the broker's own answer, given before the request's context ended.
* `retry_spec`: a polling loop makes its calls one after another from where it started; every
  call but the last was judged worth another try, and the last one ends the loop or is given up
  on once the context has ended.
* `deleteTopic_spec`: the deletion succeeds exactly when the broker answers
  `UNKNOWN_TOPIC_OR_PARTITION`, to the deletion or to a listing.
* `createTopic_spec`: every creation but the last is answered `TOPIC_ALREADY_EXISTS`, and the
  creation returns the last one's error.
* `reset_fresh`: a reset that returns no error leaves the topic fresh, with the configured
  partitions, and every other topic as it was.

Main statement, `reset_topic_contract`: under a context that never ends, a reset always asks for
the topic, whatever became of the deletion. It returns no error exactly when a creation is
answered without error within the deletion timeout of the first creation, and the topic is then
fresh, with the configured partitions (two when not set) and no record. Otherwise the topic is
unavailable for the last creation's error, which is `TOPIC_ALREADY_EXISTS` only when every
creation was answered so and the timeout has passed. A second reset that returns no error leaves
the broker as the first one did.
-/

namespace TestDispatch.Dispatch

/-! ## The broker -/

namespace Broker

@[simp] theorem set_topics_self (b : Broker) (n : String) (t : Option Topic) :
    (b.set n t).topics n = t := by
  simp [set]

@[simp] theorem set_topics_of_ne (b : Broker) {m n : String} (t : Option Topic) (h : m ≠ n) :
    (b.set n t).topics m = b.topics m := by
  simp [set, h]

@[simp] theorem set_set (b : Broker) (n : String) (t t' : Option Topic) :
    (b.set n t).set n t' = b.set n t' := by
  ext m
  by_cases h : m = n <;> simp [h]

/-- A request leaves the broker as it was, or replaces the topic it is about. -/
theorem serve_broker (b : Broker) (lag : Nat) (req : Request) :
    (b.serve lag req).2 = b ∨ ∃ t, (b.serve lag req).2 = b.set req.topic t := by
  cases req with
  | deleteTopics n =>
    simp only [serve]
    split
    · exact .inl rfl
    · exact .inr ⟨_, rfl⟩
  | listTopics n =>
    simp only [serve]
    split
    · exact .inl rfl
    · split
      · exact .inl rfl
      · exact .inr ⟨_, rfl⟩
      · exact .inr ⟨_, rfl⟩
  | createTopics n p rf =>
    simp only [serve]
    split
    · exact .inr ⟨_, rfl⟩
    · exact .inl rfl

theorem serve_topics_of_ne (b : Broker) (lag : Nat) (req : Request) {m : String}
    (h : m ≠ req.topic) : (b.serve lag req).2.topics m = b.topics m := by
  rcases serve_broker b lag req with hb | ⟨t, hb⟩ <;> simp [hb, h]

/-- The broker creates a topic only where it has none, and creates it fresh. -/
theorem serve_creation_ok {b : Broker} {lag : Nat} {n : String} {p rf : Int}
    (h : (b.serve lag (.createTopics n p rf)).1 = .ok) :
    (b.serve lag (.createTopics n p rf)).2 = b.set n (some (Topic.fresh p.toNat)) := by
  simp only [serve] at h ⊢
  split at h
  · rfl
  · cases h

/-- Listing a topic that is not marked for deletion changes nothing. -/
theorem serve_listing_fresh {b : Broker} (lag : Nat) {n : String} {p : Nat}
    (h : b.topics n = some (Topic.fresh p)) : (b.serve lag (.listTopics n)).2 = b := by
  simp [serve, h, Topic.fresh]

end Broker

/-! ## Requests -/

@[simp] theorem pause_calls (c : Cluster) (dt : Nat) : (c.pause dt).calls = c.calls := rfl
@[simp] theorem pause_broker (c : Cluster) (dt : Nat) : (c.pause dt).broker = c.broker := rfl
@[simp] theorem pause_now (c : Cluster) (dt : Nat) : (c.pause dt).now = c.now + dt := rfl
@[simp] theorem pauseUntil_calls (c : Cluster) (t : Nat) : (c.pauseUntil t).calls = c.calls := rfl
@[simp] theorem pauseUntil_broker (c : Cluster) (t : Nat) :
    (c.pauseUntil t).broker = c.broker := rfl
@[simp] theorem pauseUntil_now (c : Cluster) (t : Nat) : (c.pauseUntil t).now = max c.now t := rfl

section Send

variable (net : Network) (ctx : Option Deadline) (req : Request) (c : Cluster)

@[simp] theorem send_calls :
    (send net ctx req c).2.calls =
      c.calls ++ [⟨req, c.now, (send net ctx req c).2.now, (send net ctx req c).1⟩] := rfl

/-- After a request the broker is as it was, or as it served the request. -/
theorem send_broker :
    (send net ctx req c).2.broker = c.broker ∨
      (send net ctx req c).2.broker = (c.broker.serve (net c.calls.length).lag req).2 := by
  simp only [send]
  split
  · exact .inr rfl
  · exact .inl rfl

theorem send_topics_of_ne {m : String} (h : m ≠ req.topic) :
    (send net ctx req c).2.broker.topics m = c.broker.topics m := by
  rcases send_broker net ctx req c with hb | hb
  · rw [hb]
  · rw [hb, Broker.serve_topics_of_ne _ _ _ h]

/-- A fault never reads as an answer without error. -/
theorem Fault.reply_ne_ok (f : Fault) : f.reply ≠ .ok := by
  cases f <;> simp [Fault.reply]

/-- A delivered reply without error is the broker's answer, acted on, and came before the
context ended. -/
theorem deliver_ok {turn : Turn} {answer : Reply} {now : Nat}
    (h : (deliver ctx turn answer now).reply = .ok) :
    answer = .ok ∧ (deliver ctx turn answer now).acted = true ∧
      (deliver ctx turn answer now).time = now + turn.latency ∧
      ∀ d ∈ ctx, now + turn.latency < d.time := by
  -- the reply of a turn without fault is the broker's answer; a fault is never `ok`
  have houtcome (h : (turn.outcome answer now).reply = .ok) :
      answer = .ok ∧ (turn.outcome answer now).acted = true ∧
        (turn.outcome answer now).time = now + turn.latency := by
    unfold Turn.outcome at h ⊢
    split at h
    · exact absurd h (Fault.reply_ne_ok _)
    · exact ⟨h, rfl, rfl⟩
  unfold deliver at h ⊢
  split at h
  · rename_i d
    split at h
    · cases h
    · split at h
      · cases h
      · rename_i hnow hlate
        simp only [if_neg hnow, if_neg hlate]
        refine ⟨(houtcome h).1, (houtcome h).2.1, (houtcome h).2.2, ?_⟩
        intro d' hd'
        cases hd'
        omega
  · exact ⟨(houtcome h).1, (houtcome h).2.1, (houtcome h).2.2, by simp⟩

/-- A reply without error is the broker's own answer, the broker acted on the request, and the
reply came before the request's context ended. -/
theorem send_ok (h : (send net ctx req c).1 = .ok) :
    (c.broker.serve (net c.calls.length).lag req).1 = .ok ∧
      (send net ctx req c).2.broker = (c.broker.serve (net c.calls.length).lag req).2 ∧
      ∀ d ∈ ctx, (send net ctx req c).2.now < d.time := by
  obtain ⟨hanswer, hacted, htime, hbefore⟩ := deliver_ok ctx h
  refine ⟨hanswer, ?_, ?_⟩
  · simp only [send, hacted, if_true]
  · intro d hd
    simp only [send, htime]
    exact hbefore d hd

end Send

/-! ## Polling loops -/

section Retry

variable {α : Type} (a : Admin) (net : Network) (d : Deadline) (req : Request)
  (judge : Reply → Option α) (giveUp : Reply → α)

/-- What a polling loop does. Before its last call it made the calls `init`, each of the request
and each judged worth another try, the first when the loop started; they lead to the cluster
`cl`, which differs from where the loop started only in the topic of the request. The loop ends
with the calls and the broker of its last call, made from `cl`: that call is judged to end the
loop, or it is not and the loop gives up on it once the context has ended. -/
theorem retry_spec (c : Cluster) :
    ∃ (init : List Call) (cl : Cluster), cl.calls = c.calls ++ init ∧ c.now ≤ cl.now ∧
      (∀ x ∈ init, x.request = req ∧ c.now ≤ x.sentAt ∧ judge x.reply = none) ∧
      (∀ x ∈ init.head?, x.sentAt = c.now) ∧ (init = [] → cl = c) ∧
      (∀ m, m ≠ req.topic → cl.broker.topics m = c.broker.topics m) ∧
      (retry a net d req judge giveUp c).2.calls = (send net (some d) req cl).2.calls ∧
      (retry a net d req judge giveUp c).2.broker = (send net (some d) req cl).2.broker ∧
      (judge (send net (some d) req cl).1 = some (retry a net d req judge giveUp c).1 ∨
        judge (send net (some d) req cl).1 = none ∧
          (retry a net d req judge giveUp c).1 = giveUp (send net (some d) req cl).1 ∧
          d.time ≤ (retry a net d req judge giveUp c).2.now) := by
  fun_induction retry a net d req judge giveUp c with
  | case1 c x hj =>
    exact ⟨[], c, by simp, Nat.le_refl _, by simp, by simp, fun _ => rfl, fun _ _ => rfl,
      rfl, rfl, .inl hj⟩
  | case2 c hj hlt ih =>
    -- the first call asked for another try; the rest of the loop runs from a poll later
    obtain ⟨init, cl, hcalls, hnow, hinit, -, -, hframe, hlast⟩ := ih
    have hsend := send_now_le net (some d) req c
    refine ⟨⟨req, c.now, (send net (some d) req c).2.now, (send net (some d) req c).1⟩ :: init,
      cl, ?_, ?_, ?_, by simp, by simp, ?_, hlast⟩
    · simp [hcalls]
    · simp only [pause_now] at hnow
      omega
    · intro x hx
      rcases List.mem_cons.1 hx with rfl | hx
      · exact ⟨rfl, Nat.le_refl _, hj⟩
      · obtain ⟨hreq, hsent, hjx⟩ := hinit x hx
        simp only [pause_now] at hsent
        exact ⟨hreq, by omega, hjx⟩
    · intro m hm
      rw [hframe m hm, pause_broker, send_topics_of_ne net _ req c hm]
  | case3 c hj hge =>
    exact ⟨[], c, by simp, Nat.le_refl _, by simp, by simp, fun _ => rfl, fun _ _ => rfl,
      rfl, rfl, .inr ⟨hj, rfl, Nat.le_max_right _ _⟩⟩

end Retry

/-! ## The deletion -/

/-- The wait for a deleted topic ends, without error, exactly on a listing the broker answers
`UNKNOWN_TOPIC_OR_PARTITION`. -/
theorem gone_eq (r : Reply) :
    awaitGone.gone r = if r = .refused .unknownTopicOrPartition then some none else none := by
  cases r with
  | failed e => simp [awaitGone.gone, shown]
  | refused e => cases e <;> simp [awaitGone.gone, shown]
  | ok => simp [awaitGone.gone, shown]

/-- The wait lists the topic, changes no other topic, and ends without error exactly when a
listing is answered `UNKNOWN_TOPIC_OR_PARTITION`. -/
theorem awaitGone_spec (a : Admin) (net : Network) (d : Deadline) (c : Cluster) :
    ∃ made : List Call, (awaitGone a net d c).2.calls = c.calls ++ made ∧
      (∀ x ∈ made, x.request = .listTopics a.cfg.topic) ∧
      (∀ m, m ≠ a.cfg.topic → (awaitGone a net d c).2.broker.topics m = c.broker.topics m) ∧
      ((awaitGone a net d c).1 = none ↔
        ∃ x ∈ made, x.reply = .refused .unknownTopicOrPartition) := by
  obtain ⟨init, cl, hcalls, -, hinit, -, -, hframe, hendCalls, hendBroker, hlast⟩ :=
    retry_spec a net d (.listTopics a.cfg.topic) awaitGone.gone
      (awaitGone.timedOut a.cfg.deleteTimeout) c
  obtain ⟨s, hs⟩ : ∃ s, s = send net (some d) (.listTopics a.cfg.topic) cl := ⟨_, rfl⟩
  rw [← hs] at hendCalls hendBroker hlast
  -- the wait ends without error exactly when its last listing is answered so
  have hresult : (awaitGone a net d c).1 = none ↔ s.1 = .refused .unknownTopicOrPartition := by
    by_cases hu : s.1 = .refused .unknownTopicOrPartition
    · rcases hlast with hj | ⟨hj, -, -⟩ <;> rw [gone_eq, if_pos hu] at hj
      · exact iff_of_true (Option.some.inj hj).symm hu
      · cases hj
    · rcases hlast with hj | ⟨-, h1, -⟩
      · rw [gone_eq, if_neg hu] at hj
        cases hj
      · refine iff_of_false ?_ hu
        simp only [awaitGone, h1, awaitGone.timedOut]
        split <;> simp
  refine ⟨init ++ [⟨.listTopics a.cfg.topic, cl.now, s.2.now, s.1⟩], ?_, ?_, ?_, ?_⟩
  · rw [awaitGone, hendCalls, hs, send_calls, hcalls, List.append_assoc]
  · intro x hx
    rcases List.mem_append.1 hx with hx | hx
    · exact (hinit x hx).1
    · rw [List.mem_singleton.1 hx]
  · intro m hm
    rw [awaitGone, hendBroker, hs, send_topics_of_ne net _ _ cl hm, hframe m hm]
  · rw [hresult]
    constructor
    · intro hu
      exact ⟨_, List.mem_append_right _ (List.mem_singleton_self _), hu⟩
    · rintro ⟨x, hx, hu⟩
      rcases List.mem_append.1 hx with hx | hx
      · -- a listing before the last asked for another try, so it was not answered so
        have hj := (hinit x hx).2.2
        rw [gone_eq, if_pos hu] at hj
        cases hj
      · rw [List.mem_singleton.1 hx] at hu
        exact hu

/-- The deletion makes no creation and changes no other topic; it succeeds exactly when the
broker answers `UNKNOWN_TOPIC_OR_PARTITION`, to the deletion or to a listing. -/
theorem deleteTopic_spec (a : Admin) (net : Network) (ctx : Option Deadline) (c : Cluster) :
    ∃ made : List Call, (deleteTopic a net ctx c).2.calls = c.calls ++ made ∧
      (∀ x ∈ made, x.request.isCreate = false) ∧
      (∀ m, m ≠ a.cfg.topic → (deleteTopic a net ctx c).2.broker.topics m = c.broker.topics m) ∧
      ((deleteTopic a net ctx c).1 = none ↔
        ∃ x ∈ made, x.reply = .refused .unknownTopicOrPartition) := by
  unfold deleteTopic
  generalize withTimeout ctx c.now a.deleteTimeout = d
  have hcalls := send_calls net (some d) (.deleteTopics a.cfg.topic) c
  have hframe (m : String) (hm : m ≠ a.cfg.topic) :=
    send_topics_of_ne net (some d) (.deleteTopics a.cfg.topic) c hm
  rcases hs : send net (some d) (.deleteTopics a.cfg.topic) c with ⟨r, c'⟩
  rw [hs] at hcalls hframe
  simp only at hcalls hframe
  -- the deletion's own call, with the reply the rest of the deletion depends on
  have hdel : ∀ x ∈ [(⟨.deleteTopics a.cfg.topic, c.now, c'.now, r⟩ : Call)],
      x.request.isCreate = false := by
    simp [Request.isCreate]
  cases r with
  | failed e => exact ⟨_, hcalls, hdel, hframe, by simp⟩
  | refused e => cases e <;> exact ⟨_, hcalls, hdel, hframe, by simp⟩
  | ok =>
    obtain ⟨made, hmade, hlist, hframe', hiff⟩ := awaitGone_spec a net d c'
    refine ⟨[⟨.deleteTopics a.cfg.topic, c.now, c'.now, .ok⟩] ++ made,
      by rw [hmade, hcalls, List.append_assoc], ?_, ?_, ?_⟩
    · intro x hx
      rcases List.mem_append.1 hx with hx | hx
      · exact hdel x hx
      · rw [hlist x hx]
        rfl
    · intro m hm
      rw [hframe' m hm, hframe m hm]
    · simp only [hiff, List.mem_append, List.mem_singleton]
      constructor
      · rintro ⟨x, hx, hunknown⟩
        exact ⟨x, .inr hx, hunknown⟩
      · rintro ⟨x, rfl | hx, hunknown⟩
        · cases hunknown
        · exact ⟨x, hx, hunknown⟩

/-! ## The creation -/

/-- A reply carries no error exactly when it is the broker's answer without error. -/
@[simp] theorem Reply.error?_eq_none_iff (r : Reply) : r.error? = none ↔ r = .ok := by
  cases r <;> simp [Reply.error?]

/-- A creation asks for another try exactly on `TOPIC_ALREADY_EXISTS`. -/
theorem creationStep_eq_none_iff (r : Reply) :
    creationStep r = none ↔ r.error? = some .topicAlreadyExists := by
  unfold creationStep
  split <;> simp_all [Reply.error?]

/-- A creation that ends returns its reply's error. -/
theorem creationStep_eq_some {r : Reply} {x : Option KafkaError} (h : creationStep r = some x) :
    x = r.error? := by
  unfold creationStep at h
  split at h <;> simp_all [Reply.error?]

namespace Broker

/-- Replacing a topic of two brokers that agree on every other topic gives the same broker. -/
theorem set_eq_set_of_agree {b b' : Broker} {n : String} (t : Option Topic)
    (h : ∀ m, m ≠ n → b.topics m = b'.topics m) : b.set n t = b'.set n t := by
  ext m
  by_cases hm : m = n <;> simp [hm, h]

end Broker

/-- The creation. Its calls are the creation request, the first made when it starts, and all but
the last answered `TOPIC_ALREADY_EXISTS`. It returns the last reply's error. A last reply without
error came before the deletion timeout ran out, and then the topic is fresh with the configured
partitions; a last `TOPIC_ALREADY_EXISTS` is given up on only once the timeout has run out. No
other topic changes. -/
theorem createTopic_spec (a : Admin) (net : Network) (ctx : Option Deadline) (c : Cluster) :
    ∃ (init : List Call) (last : Call), (createTopic a net ctx c).2.calls = c.calls ++ init ++ [last] ∧
      (∀ x ∈ init ++ [last], x.request = a.creation ∧ c.now ≤ x.sentAt) ∧
      (∃ x ∈ init ++ [last], x.sentAt = c.now) ∧
      (∀ x ∈ init, x.reply.error? = some .topicAlreadyExists) ∧
      (createTopic a net ctx c).1 = last.reply.error? ∧
      (last.reply = .ok →
        last.answeredAt < (withTimeout ctx c.now a.deleteTimeout).time ∧
        (createTopic a net ctx c).2.broker =
          c.broker.set a.cfg.topic (some (Topic.fresh a.cfg.partitions.toNat))) ∧
      (last.reply.error? = some .topicAlreadyExists →
        (withTimeout ctx c.now a.deleteTimeout).time ≤ (createTopic a net ctx c).2.now) ∧
      (∀ m, m ≠ a.cfg.topic → (createTopic a net ctx c).2.broker.topics m = c.broker.topics m) := by
  obtain ⟨init, cl, hcalls, hnow, hinit, hhead, hnil, hframe, hendCalls, hendBroker, hlast⟩ :=
    retry_spec a net (withTimeout ctx c.now a.deleteTimeout) a.creation creationStep Reply.error? c
  obtain ⟨s, hs⟩ : ∃ s, s = send net (some (withTimeout ctx c.now a.deleteTimeout)) a.creation cl :=
    ⟨_, rfl⟩
  rw [← hs] at hendCalls hendBroker hlast
  refine ⟨init, ⟨a.creation, cl.now, s.2.now, s.1⟩, ?_, ?_, ?_, ?_, ?_, ?_, ?_, ?_⟩
  · rw [createTopic, hendCalls, hs, send_calls, hcalls]
  · intro x hx
    rcases List.mem_append.1 hx with hx | hx
    · exact ⟨(hinit x hx).1, (hinit x hx).2.1⟩
    · rw [List.mem_singleton.1 hx]
      exact ⟨rfl, hnow⟩
  · cases init with
    | nil => exact ⟨_, List.mem_singleton_self _, by rw [hnil rfl]⟩
    | cons x rest => exact ⟨x, List.mem_cons_self .., hhead x rfl⟩
  · intro x hx
    exact (creationStep_eq_none_iff _).1 (hinit x hx).2.2
  · rcases hlast with hj | ⟨-, h1, -⟩
    · exact creationStep_eq_some hj
    · exact h1
  · -- the broker created the topic: it had none, and no other topic changed since the start
    intro hok
    simp only at hok
    obtain ⟨hanswer, hbroker, hbefore⟩ := send_ok net _ a.creation cl (hs ▸ hok)
    refine ⟨hs ▸ hbefore _ rfl, ?_⟩
    rw [createTopic, hendBroker, hs, hbroker]
    unfold Admin.creation at hanswer ⊢
    rw [Broker.serve_creation_ok hanswer]
    exact Broker.set_eq_set_of_agree _ hframe
  · intro htae
    rcases hlast with hj | ⟨-, -, hlate⟩
    · rw [(creationStep_eq_none_iff _).2 htae] at hj
      cases hj
    · exact hlate
  · intro m hm
    rw [createTopic, hendBroker, hs, send_topics_of_ne net _ _ cl hm, hframe m hm]

/-! ## The reset -/

/-- Under a context that never ends, a reset is the creation from wherever the deletion left the
cluster, whatever the deletion returned. -/
theorem resetTopic_never (a : Admin) (net : Network) (c : Cluster) :
    resetTopic a net none c = resetTopic.created a net none (deleteTopic a net none c).2 := by
  rcases h : deleteTopic a net none c with ⟨r, c'⟩
  cases r <;> simp [resetTopic, h, ctxErr]

theorem created_of_error {a : Admin} {net : Network} {c : Cluster} {err : KafkaError}
    (h : (createTopic a net none c).1 = some err) :
    resetTopic.created a net none c =
      (some (.unavailable a.cfg.topic err), (createTopic a net none c).2) := by
  rcases hc : createTopic a net none c with ⟨r, c'⟩
  rw [hc] at h
  simp only at h
  simp [resetTopic.created, hc, h, ctxErr]

theorem created_of_ok {a : Admin} {net : Network} {c : Cluster}
    (h : (createTopic a net none c).1 = none) :
    resetTopic.created a net none c =
      (none, (describe a net none (createTopic a net none c).2).2) := by
  rcases hc : createTopic a net none c with ⟨r, c'⟩
  rw [hc] at h
  simp only at h
  simp [resetTopic.created, hc, h]

/-- Describing a fresh topic adds a listing to the calls and changes nothing at the broker. -/
theorem describe_fresh {a : Admin} (net : Network) (ctx : Option Deadline) {c : Cluster} {p : Nat}
    (h : c.broker.topics a.cfg.topic = some (Topic.fresh p)) :
    (describe a net ctx c).2.broker = c.broker ∧
      (describe a net ctx c).2.calls = c.calls ++ [⟨.listTopics a.cfg.topic, c.now,
        (describe a net ctx c).2.now, (describe a net ctx c).1⟩] := by
  refine ⟨?_, send_calls ..⟩
  rcases send_broker net ctx (.listTopics a.cfg.topic) c with hb | hb
  · exact hb
  · rw [describe, hb, Broker.serve_listing_fresh _ h]

/-- A reset that returns no error, under a context that never ends, leaves the topic fresh with
the configured partitions, and every other topic as it was. -/
theorem reset_fresh (a : Admin) (net : Network) (c : Cluster)
    (h : (resetTopic a net none c).1 = none) :
    (resetTopic a net none c).2.broker =
      c.broker.set a.cfg.topic (some (Topic.fresh a.cfg.partitions.toNat)) := by
  rw [resetTopic_never] at h ⊢
  obtain ⟨made, -, -, hdelFrame, -⟩ := deleteTopic_spec a net none c
  obtain ⟨-, last, -, -, -, -, hresult, hok, -, -⟩ :=
    createTopic_spec a net none (deleteTopic a net none c).2
  cases hc : (createTopic a net none (deleteTopic a net none c).2).1 with
  | some err =>
    rw [created_of_error hc] at h
    cases h
  | none =>
    rw [created_of_ok hc]
    have hfresh := (hok ((Reply.error?_eq_none_iff _).1 (hresult ▸ hc))).2
    rw [(describe_fresh net none (p := a.cfg.partitions.toNat) (by rw [hfresh]; simp)).1, hfresh]
    exact Broker.set_eq_set_of_agree _ hdelFrame

/-- Two resets that both return no error leave the broker as the first one left it. -/
theorem reset_twice (a : Admin) (net net' : Network) (c : Cluster)
    (hfirst : (resetTopic a net none c).1 = none)
    (hsecond : (resetTopic a net' none (resetTopic a net none c).2).1 = none) :
    (resetTopic a net' none (resetTopic a net none c).2).2.broker =
      (resetTopic a net none c).2.broker := by
  rw [reset_fresh a net' _ hsecond, reset_fresh a net _ hfirst, Broker.set_set]

/-- The creation calls a cluster has logged, in order. -/
def Cluster.creations (c : Cluster) : List Call := c.calls.filter (·.request.isCreate)

@[simp] theorem Cluster.creations_start (now : Nat) (b : Broker) :
    ({ now, broker := b } : Cluster).creations = [] := rfl

/-- The creations of a reset under a context that never ends are those of its creation step,
which starts at `start`: the first is made then, and all but the last are answered
`TOPIC_ALREADY_EXISTS`. The reset fails exactly with the last one's error, as the topic's
unavailability. A last reply without error came before the deletion timeout after `start` ran
out; a last `TOPIC_ALREADY_EXISTS` was given up on only once it had. -/
theorem reset_creations (a : Admin) (net : Network) (c : Cluster) :
    ∃ (start : Nat) (init : List Call) (last : Call),
      (resetTopic a net none c).2.creations = c.creations ++ init ++ [last] ∧
      (∀ x ∈ init ++ [last], start ≤ x.sentAt) ∧ (∃ x ∈ init ++ [last], x.sentAt = start) ∧
      (∀ x ∈ init, x.reply.error? = some .topicAlreadyExists) ∧
      (resetTopic a net none c).1 = last.reply.error?.map (.unavailable a.cfg.topic) ∧
      (last.reply = .ok → last.answeredAt < start + a.deleteTimeout) ∧
      (last.reply.error? = some .topicAlreadyExists →
        start + a.deleteTimeout ≤ (resetTopic a net none c).2.now) := by
  obtain ⟨made, hdelCalls, hdelCreate, -, -⟩ := deleteTopic_spec a net none c
  rw [resetTopic_never]
  generalize (deleteTopic a net none c).2 = c1 at hdelCalls ⊢
  obtain ⟨init, last, hcalls, hreq, hfirst, htae, hresult, hok, hgive, -⟩ :=
    createTopic_spec a net none c1
  -- the creation step's calls are creations; the deletion's and the description's are not
  have hcreate : ∀ x ∈ init ++ [last], x.request.isCreate = true := by
    intro x hx
    rw [(hreq x hx).1]
    rfl
  have hfilter (extra : List Call) (hextra : ∀ x ∈ extra, x.request.isCreate = false) :
      (c1.calls ++ init ++ [last] ++ extra).filter (·.request.isCreate) =
        c.creations ++ init ++ [last] := by
    have hmade : made.filter (·.request.isCreate) = [] :=
      List.filter_eq_nil_iff.2 (by simpa using hdelCreate)
    have hinitF : init.filter (·.request.isCreate) = init :=
      List.filter_eq_self.2 (fun x hx => hcreate x (List.mem_append_left _ hx))
    have hlastF : [last].filter (·.request.isCreate) = [last] :=
      List.filter_eq_self.2 (fun x hx => hcreate x (List.mem_append_right _ hx))
    have hextra : extra.filter (·.request.isCreate) = [] :=
      List.filter_eq_nil_iff.2 (by simpa using hextra)
    simp only [Cluster.creations, hdelCalls, List.filter_append, hmade, hinitF, hlastF, hextra,
      List.append_nil, List.nil_append, List.append_assoc]
  refine ⟨c1.now, init, last, ?_, fun x hx => (hreq x hx).2, hfirst, htae, ?_,
    fun h => (hok h).1, ?_⟩
  · cases hc : (createTopic a net none c1).1 with
    | some err =>
      have hnone := hfilter [] (by simp)
      rw [List.append_nil] at hnone
      rw [created_of_error hc, Cluster.creations, hcalls]
      exact hnone
    | none =>
      have hfresh := (hok ((Reply.error?_eq_none_iff _).1 (hresult ▸ hc))).2
      rw [created_of_ok hc, Cluster.creations,
        (describe_fresh net none (p := a.cfg.partitions.toNat) (by rw [hfresh]; simp)).2, hcalls]
      exact hfilter _ (by simp [Request.isCreate])
  · cases hc : (createTopic a net none c1).1 with
    | some err => rw [created_of_error hc, ← hresult, hc]; rfl
    | none => rw [created_of_ok hc, ← hresult, hc]; rfl
  · intro htae'
    have hc : (createTopic a net none c1).1 = some .topicAlreadyExists := hresult ▸ htae'
    rw [created_of_error hc]
    exact hgive htae'

/-- Among calls all of which but the last were answered `TOPIC_ALREADY_EXISTS`, one answered
otherwise is the last. -/
theorem eq_last_of_ne_taken {init : List Call} {last x : Call}
    (htae : ∀ y ∈ init, y.reply.error? = some .topicAlreadyExists) (hx : x ∈ init ++ [last])
    (hne : x.reply.error? ≠ some .topicAlreadyExists) : x = last := by
  rcases List.mem_append.1 hx with hx | hx
  · exact absurd (htae x hx) hne
  · exact List.mem_singleton.1 hx

/-! ## A reset from a cluster with no call made -/

section Outcome

variable (a : Admin) (net : Network) (now : Nat) (b : Broker)

/-- A reset always asks for the topic, whatever became of the deletion. -/
theorem reset_asks_for_topic : (resetTopic a net none { now, broker := b }).2.creations ≠ [] := by
  obtain ⟨-, init, last, hcreations, -⟩ := reset_creations a net { now, broker := b }
  rw [hcreations]
  simp

/-- A reset returns no error exactly when a creation is answered without error within the
deletion timeout after every creation request. -/
theorem reset_succeeds_iff :
    (resetTopic a net none { now, broker := b }).1 = none ↔
      ∃ x ∈ (resetTopic a net none { now, broker := b }).2.creations, x.reply = .ok ∧
        ∀ y ∈ (resetTopic a net none { now, broker := b }).2.creations,
          x.answeredAt < y.sentAt + a.deleteTimeout := by
  obtain ⟨start, init, last, hcreations, hafter, -, htae, hresult, hok, -⟩ :=
    reset_creations a net { now, broker := b }
  simp only [Cluster.creations_start, List.nil_append] at hcreations
  rw [hcreations, hresult, Option.map_eq_none_iff, Reply.error?_eq_none_iff]
  constructor
  · intro hlast
    refine ⟨last, by simp, hlast, fun y hy => ?_⟩
    have := hafter y hy
    have := hok hlast
    omega
  · -- the creations before the last asked for another try, so the last one succeeded
    rintro ⟨x, hx, hxok, -⟩
    rw [← eq_last_of_ne_taken htae hx (by simp [hxok, Reply.error?])]
    exact hxok

/-- Every failure of a reset is the topic's unavailability, for the error of one of its
creations. -/
theorem reset_fails_unavailable (e : ResetError)
    (he : (resetTopic a net none { now, broker := b }).1 = some e) :
    ∃ err, e = .unavailable a.cfg.topic err ∧
      ∃ x ∈ (resetTopic a net none { now, broker := b }).2.creations, x.reply.error? = some err := by
  obtain ⟨-, init, last, hcreations, -, -, -, hresult, -⟩ :=
    reset_creations a net { now, broker := b }
  rw [hresult, Option.map_eq_some_iff] at he
  obtain ⟨err, herr, rfl⟩ := he
  exact ⟨err, rfl, last, by simp [hcreations], herr⟩

/-- A creation error other than `TOPIC_ALREADY_EXISTS` fails the reset with that error. -/
theorem reset_fails_on_error (x : Call) (hx : x ∈ (resetTopic a net none { now, broker := b }).2.creations)
    (err : KafkaError) (herr : x.reply.error? = some err) (hne : err ≠ .topicAlreadyExists) :
    (resetTopic a net none { now, broker := b }).1 = some (.unavailable a.cfg.topic err) := by
  obtain ⟨-, init, last, hcreations, -, -, htae, hresult, -⟩ :=
    reset_creations a net { now, broker := b }
  simp only [Cluster.creations_start, List.nil_append] at hcreations
  rw [hcreations] at hx
  rw [hresult, ← eq_last_of_ne_taken htae hx (by rw [herr]; simpa using hne), herr]
  rfl

/-- A reset fails for `TOPIC_ALREADY_EXISTS` exactly when every creation was answered so, and
then the deletion timeout after the first creation has passed. -/
theorem reset_taken_iff :
    (resetTopic a net none { now, broker := b }).1 =
        some (.unavailable a.cfg.topic .topicAlreadyExists) ↔
      (∀ x ∈ (resetTopic a net none { now, broker := b }).2.creations,
        x.reply.error? = some .topicAlreadyExists) ∧
      ∃ x ∈ (resetTopic a net none { now, broker := b }).2.creations,
        x.sentAt + a.deleteTimeout ≤ (resetTopic a net none { now, broker := b }).2.now := by
  obtain ⟨start, init, last, hcreations, -, hfirst, htae, hresult, -, hgive⟩ :=
    reset_creations a net { now, broker := b }
  simp only [Cluster.creations_start, List.nil_append] at hcreations
  rw [hcreations, hresult]
  constructor
  · intro htaken
    obtain ⟨err, herr, heq⟩ := Option.map_eq_some_iff.1 htaken
    cases heq
    refine ⟨fun x hx => ?_, ?_⟩
    · rcases List.mem_append.1 hx with hx | hx
      · exact htae x hx
      · rw [List.mem_singleton.1 hx]
        exact herr
    · obtain ⟨x, hx, hstart⟩ := hfirst
      exact ⟨x, hx, hstart ▸ hgive herr⟩
  · rintro ⟨hall, -⟩
    rw [hall last (by simp)]
    rfl

end Outcome

/-- The reset of the work topic by a new admin, from any broker, over any network and any timing,
under a context that never ends. The reset always asks for the topic, whatever became of the
deletion. It returns no error exactly when a creation is answered without error within the
deletion timeout (30 s when not set) after every creation request; the topic is then fresh with
the configured partitions (two when not set), holding no record, and no other topic changed.
Every failure is the topic's unavailability for the error of a creation; a creation error other
than `TOPIC_ALREADY_EXISTS` fails the reset with that error, and `TOPIC_ALREADY_EXISTS` fails it
exactly when every creation was answered so, once the deletion timeout after the first has
passed. The deletion counts `UNKNOWN_TOPIC_OR_PARTITION` as success and nothing else. A second
reset that returns no error leaves the broker as the first one did. -/
theorem reset_topic_contract (cfg : KafkaConfig) (net : Network) (now : Nat) (b : Broker) :
    let r := resetTopic (Admin.new cfg) net none { now, broker := b }
    let creations := r.2.calls.filter (·.request.isCreate)
    let timeout := (if cfg.deleteTimeout ≤ 0 then 30000000000 else cfg.deleteTimeout).toNat
    creations ≠ [] ∧
    (r.1 = none ↔
      ∃ x ∈ creations, x.reply = .ok ∧ ∀ y ∈ creations, x.answeredAt < y.sentAt + timeout) ∧
    (r.1 = none → r.2.broker = b.set cfg.topic
      (some (Topic.fresh (if cfg.partitions ≤ 0 then 2 else cfg.partitions).toNat))) ∧
    (∀ e, r.1 = some e →
      ∃ err, e = .unavailable cfg.topic err ∧ ∃ x ∈ creations, x.reply.error? = some err) ∧
    (∀ x ∈ creations, ∀ err, x.reply.error? = some err → err ≠ .topicAlreadyExists →
      r.1 = some (.unavailable cfg.topic err)) ∧
    (r.1 = some (.unavailable cfg.topic .topicAlreadyExists) ↔
      (∀ x ∈ creations, x.reply.error? = some .topicAlreadyExists) ∧
      ∃ x ∈ creations, x.sentAt + timeout ≤ r.2.now) ∧
    ((deleteTopic (Admin.new cfg) net none { now, broker := b }).1 = none ↔
      ∃ x ∈ (deleteTopic (Admin.new cfg) net none { now, broker := b }).2.calls,
        x.reply = .refused .unknownTopicOrPartition) ∧
    (∀ net', r.1 = none → (resetTopic (Admin.new cfg) net' none r.2).1 = none →
      (resetTopic (Admin.new cfg) net' none r.2).2.broker = r.2.broker) := by
  intro r creations timeout
  -- a new cluster has made no call, so the deletion's calls are all the calls it logged
  obtain ⟨made, hcalls, -, -, hdeleted⟩ :=
    deleteTopic_spec (Admin.new cfg) net none { now, broker := b }
  simp only [List.nil_append] at hcalls
  exact ⟨reset_asks_for_topic _ net now b, reset_succeeds_iff _ net now b,
    reset_fresh _ net _, reset_fails_unavailable _ net now b,
    reset_fails_on_error _ net now b, reset_taken_iff _ net now b, hcalls ▸ hdeleted,
    fun net' => reset_twice _ net net' _⟩

end TestDispatch.Dispatch
