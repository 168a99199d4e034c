import TestDispatch.Proofs.Reporting.Call
import TestDispatch.Proofs.Json.Literals
import TestDispatch.Proofs.Dispatch.Publisher
/-!
# Every call is answered once

The reporting endpoint answers every body posted to `/rpc` with one JSON-RPC 1.1 answer, whatever
the body holds and whatever the handler of its method does. The checks come in a fixed order, and
the code of the answer says which one stopped the call: -32700 for a body whose first MiB holds no
call, -32600 for a call without a method, -32601 for a method no handler serves, -32000 for a
handler that fails, panics or answers what has no JSON form; otherwise the answer carries the
handler's result.

Main results:

* `Server.call_cases`: the four ways a call is served, with the answer and the server after it;
* `RpcRequest.decode_validParams`: the parameters of a decoded call are values the reader can
  produce, so what a handler returns can be written and read back;
* `RpcResponse.Sound`, `Server.call_sound`: every answer has version 1.1, exactly one of a result
  and a fault, a result with valid literals and one of the four codes; `RpcResponse.Sound.decode`:
  such an answer, written, reads back as itself;
* `Server.call_calls`: each call is counted once, under its method (the empty one when the body
  holds no call) and its outcome;
* `Client.send_isFault`: a client's call ends in a fault of a code exactly when the endpoint
  answered with that code;
* `rpc_dispatch_total`: all of it together, with the code of each answer in the order of the
  checks.
-/

namespace TestDispatch

open Json

/-! ## Decoding keeps an invariant -/

namespace Json

variable {α β : Type}

theorem Decoding.run_bind_eq_ok {x : Decoding α} {f : α → Decoding β} {s s' : Option String}
    {b : β} (h : (x >>= f).run s = .ok (b, s')) :
    ∃ a s₁, x.run s = .ok (a, s₁) ∧ (f a).run s₁ = .ok (b, s') := by
  rw [StateT.run_bind] at h
  cases hx : x.run s with
  | error e => rw [hx] at h; cases h
  | ok p => rw [hx] at h; exact ⟨p.1, p.2, rfl, h⟩

theorem Decoding.run_map_eq_ok {f : α → β} {x : Decoding α} {s s' : Option String} {b : β}
    (h : (f <$> x).run s = .ok (b, s')) : ∃ a, x.run s = .ok (a, s') ∧ b = f a := by
  rw [StateT.run_map] at h
  cases hx : x.run s with
  | error e => rw [hx] at h; cases h
  | ok p => rw [hx] at h; cases h; exact ⟨p.1, rfl, rfl⟩

/-- The field that a member name selects is one of the table's. -/
theorem select_mem {fields : List (String × β)} {member : String} {f : β}
    (h : select fields member = some f) : ∃ name, (name, f) ∈ fields := by
  unfold select at h
  split at h
  · rename_i name g hfind
    cases h
    exact ⟨name, List.mem_of_find?_eq_some hfind⟩
  · obtain ⟨⟨name, g⟩, hfind, rfl⟩ := Option.map_eq_some_iff.mp h
    exact ⟨name, List.mem_of_find?_eq_some hfind⟩

/-- Decoding the members of an object keeps an invariant of the record that every field keeps,
given a value of the kind the members hold. -/
theorem decodeMembers_inv (P : α → Prop) (Q : Value → Prop)
    {field : String → Option (Value → α → Decoding α)}
    (hstep : ∀ name dec v acc s r s', field name = some dec → Q v → P acc →
      (dec v acc).run s = .ok (r, s') → P r) (members : List (String × Value)) :
    ∀ (init : α) (s s' : Option String) (r : α), (∀ m ∈ members, Q m.2) → P init →
      (decodeMembers members init field).run s = .ok (r, s') → P r := by
  induction members with
  | nil =>
    intro init s s' r _ hinit h
    cases h
    exact hinit
  | cons m ms ih =>
    obtain ⟨name, v⟩ := m
    intro init s s' r hQ hinit h
    obtain ⟨a, s₁, hfirst, hrest⟩ := Decoding.run_bind_eq_ok h
    -- the first member either selects a field, which keeps the invariant, or is skipped
    have ha : P a := by
      dsimp only at hfirst
      cases hf : field name with
      | none => rw [hf] at hfirst; cases hfirst; exact hinit
      | some dec =>
        rw [hf] at hfirst
        exact hstep name dec v init s a s₁ hf (hQ _ List.mem_cons_self) hinit hfirst
    exact ih a s₁ s' r (fun m' hm' => hQ m' (List.mem_cons_of_mem _ hm')) ha hrest

/-- A record decoded from a value is the initial one, or the one the value's members make. -/
theorem decodeValue_eq_ok {site : Site} {init r : α}
    {fields : Site → List (String × (Value → α → Decoding α))} {v : Value}
    (h : decodeValue site init fields v = .ok r) :
    r = init ∨ ∃ members s', v = .object members ∧
      (decodeMembers members init (select (fields site))).run none = .ok (r, s') := by
  unfold decodeValue at h
  cases v with
  | object members =>
    dsimp only at h
    split at h
    · cases h
    · cases h
    · rename_i r' hrun
      cases h
      exact .inr ⟨members, none, rfl, hrun⟩
  | null => cases h; exact .inl rfl
  -- a value of any other kind is a mismatch of the whole record
  | _ => cases h

end Json

namespace Reporting

/-! ## The parameters of a call -/

/-- The parameters of a call, if any, are values the reader can produce. -/
def RpcRequest.ValidParams (r : RpcRequest) : Prop := ∀ ps ∈ r.params, ∀ p ∈ ps, ValidLiterals p

/-- Decoding parameters keeps the old ones, clears them, or takes the array given. -/
theorem decodeParams_run {site : Site} {v : Value} {old ps : Option (List Value)}
    {s s' : Option String} (h : (decodeParams site v old).run s = .ok (ps, s')) :
    ps = old ∨ ps = none ∨ ∃ items, v = .array items ∧ ps = some items := by
  cases v with
  | array items => cases h; exact .inr (.inr ⟨items, rfl, rfl⟩)
  | null => cases h; exact .inr (.inl rfl)
  | _ =>
    obtain ⟨_, _, -, h⟩ := Decoding.run_bind_eq_ok h
    cases h
    exact .inl rfl

/-- Every field of a call keeps its parameters valid, given a valid member. -/
theorem RpcRequest.fields_valid {site : Site} {name : String}
    {dec : Value → RpcRequest → Decoding RpcRequest} (hf : (name, dec) ∈ RpcRequest.fields site)
    {v : Value} (hv : ValidLiterals v) {r r' : RpcRequest} {s s' : Option String}
    (hr : r.ValidParams) (h : (dec v r).run s = .ok (r', s')) : r'.ValidParams := by
  simp only [RpcRequest.fields, bind_pure_comp, List.mem_cons, Prod.mk.injEq, List.mem_nil_iff,
    or_false] at hf
  rcases hf with ⟨-, rfl⟩ | ⟨-, rfl⟩ | ⟨-, rfl⟩ | ⟨-, rfl⟩ <;>
    obtain ⟨x, hx, rfl⟩ := Decoding.run_map_eq_ok h
  -- the id, the method and the version leave the parameters as they were
  any_goals exact hr
  rcases decodeParams_run hx with rfl | rfl | ⟨items, rfl, rfl⟩
  · exact hr
  · intro ps hps
    cases hps
  · intro ps hps
    cases hps
    exact ValidLiterals.array_iff.mp hv

/-- The parameters of a decoded call are values the reader can produce. -/
theorem RpcRequest.decode_validParams {body : List UInt8} {req : RpcRequest}
    (h : RpcRequest.decode body = .ok req) : req.ValidParams := by
  have hnone : ({} : RpcRequest).ValidParams := fun ps hps => by cases hps
  unfold RpcRequest.decode decodeWhole at h
  split at h
  · cases h
  · rename_i v hread
    have hv := readWhole_validLiterals hread
    rcases decodeValue_eq_ok h with rfl | ⟨members, s', rfl, hrun⟩
    · exact hnone
    · -- each member is valid, and each field it selects keeps the parameters valid
      refine decodeMembers_inv RpcRequest.ValidParams ValidLiterals ?_ members _ _ _ _
        (ValidLiterals.object_iff.mp hv) hnone hrun
      intro name dec v acc s r s' hsel hv hacc hrun
      obtain ⟨n, hmem⟩ := select_mem hsel
      exact RpcRequest.fields_valid hmem hv hacc hrun

/-! ## Handlers -/

/-- The answer to the call of id `id` whose handler ended so. -/
def Outcome.answer (id : String) : Outcome → RpcResponse
  | .returned v => { id, result := some v }
  | .unwritable why =>
    { id, error := some (Server.refusal serverErrorCode s!"encode result: {why}") }
  | .failed why => { id, error := some ⟨"HandlerError", serverErrorCode, why⟩ }
  | .panicked why => { id, error := some ⟨"HandlerPanic", serverErrorCode, why⟩ }

/-- How a call whose handler ended so is counted. -/
def Outcome.label : Outcome → String
  | .returned _ => "ok"
  | _ => "fault"

/-- A call whose handler ended so is counted as its answer says: a fault when it carries one. -/
theorem Outcome.label_eq (id : String) (o : Outcome) :
    o.label = if (o.answer id).error.isSome then "fault" else "ok" := by
  cases o <;> rfl

theorem Outcome.answer_code (id : String) (o : Outcome) (c : Int) :
    (o.answer id).error.map (·.code) = some c ↔ c = serverErrorCode ∧ ∀ v, o ≠ .returned v := by
  cases o <;> simp [answer, Server.refusal, eq_comm]

theorem Outcome.answer_id (id : String) (o : Outcome) : (o.answer id).id = id := by
  cases o <;> rfl

/-! ## Sound answers -/

/-- The codes of the faults the endpoint answers with. -/
def faultCodes : List Int :=
  [parseErrorCode, invalidRequestCode, methodNotFoundCode, serverErrorCode]

/-- An answer the endpoint can give: version 1.1, exactly one of a result and a fault, a result
whose literals are valid, and a fault of one of the four codes. -/
structure RpcResponse.Sound (a : RpcResponse) : Prop where
  version : a.version = "1.1"
  one : a.result.isSome = !a.error.isSome
  result : ∀ v ∈ a.result, ValidLiterals v
  code : ∀ f ∈ a.error, f.code ∈ faultCodes

namespace RpcResponse

theorem sound_result (id : String) {v : Value} (hv : ValidLiterals v) :
    ({ id, result := some v } : RpcResponse).Sound where
  version := rfl
  one := rfl
  result := fun w hw => by cases hw; exact hv
  code := fun f hf => by cases hf

theorem sound_fault (id : String) {f : Fault} (hf : f.code ∈ faultCodes) :
    ({ id, error := some f } : RpcResponse).Sound where
  version := rfl
  one := rfl
  result := fun w hw => by cases hw
  code := fun g hg => by cases hg; exact hf

/-- An answer with a result of valid literals, written, reads back as itself. -/
theorem decode_result (id : String) {v : Value} (hv : ValidLiterals v) :
    RpcResponse.decode (Utf8.encode (Value.write true
      ({ id, result := some v } : RpcResponse).toJson ++ "\n")) = .ok { id, result := some v } := by
  have hnl : Utf8.encode "\n" = [0x0A] := by decide
  have hvalid : ValidLiterals ({ id, result := some v } : RpcResponse).toJson := by
    simp [RpcResponse.toJson, hv]
  rw [RpcResponse.decode, decodeWhole, Utf8.encode_append, hnl,
    (readWhole_write_of_validLiterals hvalid (by simp [RpcResponse.toJson]) true).2]
  rfl

theorem int64_of_mem_faultCodes {c : Int} (h : c ∈ faultCodes) :
    int64Min ≤ c ∧ c ≤ int64Max := by
  simp only [faultCodes, List.mem_cons, List.mem_nil_iff, or_false] at h
  rcases h with rfl | rfl | rfl | rfl <;> decide

/-- A sound answer, written with a line break after it, reads back as itself. -/
theorem Sound.decode {a : RpcResponse} (h : a.Sound) :
    RpcResponse.decode (Utf8.encode (Value.write true a.toJson ++ "\n")) = .ok a := by
  obtain ⟨hversion, hone, hresult, hcode⟩ := h
  rcases a with ⟨id, version, result, error⟩
  dsimp only at hversion hone hresult hcode
  subst hversion
  cases error with
  | none =>
    -- an answer without a fault carries a result
    obtain ⟨v, rfl⟩ := Option.isSome_iff_exists.mp (by simpa using hone)
    exact decode_result id (hresult v rfl)
  | some f =>
    obtain rfl : result = none := by simpa using hone
    exact decode_toJson (by simp) fun g hg => by
      cases hg
      exact int64_of_mem_faultCodes (hcode f rfl)

end RpcResponse

theorem Outcome.answer_sound (id : String) {o : Outcome}
    (h : ∀ v, o = .returned v → ValidLiterals v) : (o.answer id).Sound := by
  cases o with
  | returned v => exact RpcResponse.sound_result id (h v rfl)
  | _ => exact RpcResponse.sound_fault id (by simp [faultCodes, Server.refusal])

/-! ## How a call is served -/

namespace Server

variable (now : Instant) (s : Server) (body : List UInt8)

/-- The four ways a call is served: a body whose first MiB holds no call, a call without a
method, a call no handler serves, and a call its handler served. -/
theorem call_cases :
    (∃ e, RpcRequest.decode (body.take maxBody) = .error e ∧
      s.call now body =
        ({ error := some (refusal parseErrorCode s!"parse error: {e}") }, s.count "" "fault")) ∨
    (∃ req, RpcRequest.decode (body.take maxBody) = .ok req ∧ req.method = "" ∧
      s.call now body =
        ({ id := req.id, error := some (refusal invalidRequestCode "method is required") },
          s.count "" "fault")) ∨
    (∃ req, RpcRequest.decode (body.take maxBody) = .ok req ∧ req.method ≠ "" ∧
      s.handlers.find? (·.1 = req.method) = none ∧
      s.call now body =
        ({ id := req.id, error := some (refusal methodNotFoundCode
            s!"method {Quoted.quote req.method} not found") }, s.count req.method "fault")) ∨
    (∃ req name h, RpcRequest.decode (body.take maxBody) = .ok req ∧ req.method ≠ "" ∧
      s.handlers.find? (·.1 = req.method) = some (name, h) ∧
      s.call now body =
        ((h.run now req.params s.recorder).1.answer req.id,
          { s with recorder := (h.run now req.params s.recorder).2 }.count req.method
            (h.run now req.params s.recorder).1.label)) := by
  rcases hdec : RpcRequest.decode (body.take maxBody) with e | req
  · exact .inl ⟨e, rfl, by simp only [call, hdec]⟩
  · by_cases hm : req.method = ""
    · exact .inr (.inl ⟨req, rfl, hm, by simp only [call, hdec, hm, if_true]⟩)
    · cases hfind : s.handlers.find? (·.1 = req.method) with
      | none =>
        exact .inr (.inr (.inl ⟨req, rfl, hm, hfind, by simp only [call, hdec, hm, hfind,
          if_false]⟩))
      | some entry =>
        obtain ⟨name, h⟩ := entry
        refine .inr (.inr (.inr ⟨req, name, h, rfl, hm, hfind, ?_⟩))
        simp only [call, hdec, hm, hfind, if_false]
        -- the answer and the count follow the handler's outcome
        obtain ⟨run, -⟩ := h
        dsimp only
        generalize run now req.params s.recorder = result
        obtain ⟨o, rec⟩ := result
        cases o <;> rfl

/-- Every answer of the endpoint is sound. -/
theorem call_sound : (s.call now body).1.Sound := by
  rcases call_cases now s body with ⟨e, -, hcall⟩ | ⟨req, -, -, hcall⟩ | ⟨req, -, -, -, hcall⟩ |
    ⟨req, name, h, hdec, -, -, hcall⟩
  -- the endpoint's own refusals
  any_goals (rw [hcall]; exact RpcResponse.sound_fault _ (by simp [faultCodes, refusal]))
  -- what the handler returns is valid, since the parameters it was given are
  rw [hcall]
  exact Outcome.answer_sound req.id fun v hv =>
    h.returned_valid now req.params s.recorder v (RpcRequest.decode_validParams hdec) hv

/-- The method a call is counted under: its own, or the empty one when the body holds no call. -/
def methodLabel (read : List UInt8) : String :=
  match RpcRequest.decode read with
  | .ok req => req.method
  | .error _ => ""

/-- Each call is counted once, under its method and its outcome. -/
theorem call_calls (vs : List String) :
    (s.call now body).2.calls.count vs = s.calls.count vs +
      if vs = [methodLabel (body.take maxBody),
        if (s.call now body).1.error.isSome then "fault" else "ok"] then 1 else 0 := by
  rcases call_cases now s body with ⟨e, hdec, hcall⟩ | ⟨req, hdec, hm, hcall⟩ |
    ⟨req, hdec, -, -, hcall⟩ | ⟨req, name, h, hdec, -, -, hcall⟩ <;>
    rw [hcall] <;> simp only [count, CounterFamily.count_inc, methodLabel, hdec,
      Option.isSome_some, if_true, ← Outcome.label_eq]
  -- a call without a method is counted under the empty one
  rw [hm]

/-- A call changes no handler. -/
theorem call_handlers : (s.call now body).2.handlers = s.handlers := by
  rcases call_cases now s body with ⟨_, _, hcall⟩ | ⟨_, _, _, hcall⟩ | ⟨_, _, _, _, hcall⟩ |
    ⟨_, _, _, _, _, _, hcall⟩ <;> rw [hcall] <;> rfl

/-- An answer has code -32700 exactly when the body holds no call. -/
theorem call_parseError_iff :
    (s.call now body).1.error.map (·.code) = some parseErrorCode ↔
      ∃ e, RpcRequest.decode (body.take maxBody) = .error e := by
  rcases call_cases now s body with ⟨e, hdec, hcall⟩ | ⟨req, hdec, -, hcall⟩ |
    ⟨req, hdec, -, -, hcall⟩ | ⟨req, name, h, hdec, -, -, hcall⟩ <;> rw [hcall, hdec]
  · simp [refusal]
  · simp [refusal, parseErrorCode, invalidRequestCode]
  · simp [refusal, parseErrorCode, methodNotFoundCode]
  · rw [Outcome.answer_code]
    simp [parseErrorCode, serverErrorCode]

/-- The answer to a call follows the checks in their order: -32600 exactly for a call without a
method, then -32601 exactly for a method no handler serves, then -32000 exactly when the handler
did not return, and otherwise what it returned. The id of the call is echoed. -/
theorem call_of_decode {req : RpcRequest} (hdec : RpcRequest.decode (body.take maxBody) = .ok req) :
    (s.call now body).1.id = req.id ∧
    ((s.call now body).1.error.map (·.code) = some invalidRequestCode ↔ req.method = "") ∧
    (req.method ≠ "" → ((s.call now body).1.error.map (·.code) = some methodNotFoundCode ↔
      s.handlers.find? (·.1 = req.method) = none)) ∧
    ∀ name h, req.method ≠ "" → s.handlers.find? (·.1 = req.method) = some (name, h) →
      ((s.call now body).1.error.map (·.code) = some serverErrorCode ↔
        ∀ v, (h.run now req.params s.recorder).1 ≠ .returned v) ∧
      ∀ v, (h.run now req.params s.recorder).1 = .returned v →
        (s.call now body).1.result = some v := by
  rcases call_cases now s body with ⟨e, hdec', -⟩ | ⟨req', hdec', hm, hcall⟩ |
    ⟨req', hdec', hm, hfind, hcall⟩ | ⟨req', name, h, hdec', hm, hfind, hcall⟩
  · rw [hdec] at hdec'
    cases hdec'
  all_goals
    rw [hdec] at hdec'
    cases hdec'
    rw [hcall]
  · -- a call without a method
    exact ⟨rfl, by simp [refusal, hm], fun hne => absurd hm hne, fun _ _ hne => absurd hm hne⟩
  · -- a method no handler serves
    refine ⟨rfl, by simp [refusal, hm, invalidRequestCode, methodNotFoundCode],
      fun _ => by simp [refusal, hfind], fun name h _ hfind' => ?_⟩
    rw [hfind] at hfind'
    cases hfind'
  · -- a method its handler served
    refine ⟨Outcome.answer_id .., ?_, fun _ => ?_, fun name' h' _ hfind' => ?_⟩
    · rw [Outcome.answer_code]
      simp [hm, invalidRequestCode, serverErrorCode]
    · rw [Outcome.answer_code]
      simp [hfind, methodNotFoundCode, serverErrorCode]
    rw [hfind] at hfind'
    cases hfind'
    refine ⟨by rw [Outcome.answer_code]; simp, fun v hv => ?_⟩
    rw [hv]
    rfl

/-- Every request posted to `/rpc` is answered with status 200 and the answer to its body,
written as JSON with a line break after it. -/
theorem handle_rpc {r : Http.Request} (hpath : r.path = "/rpc") (hmethod : r.method = "POST") :
    s.handle now r =
      ({ status := 200, contentType := "application/json",
         body := Value.write true (s.call now (Utf8.encode r.body)).1.toJson ++ "\n" },
       (s.call now (Utf8.encode r.body)).2) := by
  have hhealth : ¬ ("/rpc" = "/health") := by decide
  unfold handle
  simp only [hpath, hmethod, hhealth, if_false, if_true, Utf8.toUTF8_toList]

end Server

/-! ## The client -/

/-- A client's call ends in a fault of a code exactly when the endpoint answered with that code:
the client reads back the very answer the endpoint wrote. -/
theorem Client.send_isFault (now : Instant) (c : Client) (s : Server) (method : String)
    (params : List Value) (code : Int) :
    (∃ e, (c.send now s method params).1 = .error e ∧ e.isFault code = true) ↔
      (s.call now (Utf8.encode (Value.write true (callJson c.nextId method params)))).1.error.map
        (·.code) = some code := by
  have hdec := (Server.call_sound now s
    (Utf8.encode (Value.write true (callJson c.nextId method params)))).decode
  unfold Client.send
  simp only [Server.handle_post]
  rw [show s!"{c.idStem}-{c.calls + 1}" = c.nextId from rfl, Utf8.toUTF8_toList, hdec]
  dsimp only
  generalize (s.call now (Utf8.encode (Value.write true
    (callJson c.nextId method params)))).1.error = err
  cases err with
  | none => simp
  | some f => simp [CallError.isFault]

/-! ## Serving JSON-RPC -/

/-- Serving JSON-RPC is total and per call. Every body posted to `/rpc` gets status 200 and one
answer, written as JSON, that reads back as itself: version 1.1, exactly one of a result and a
fault. Its code follows the checks in their order, over the first MiB of the body, which is all
that is read: -32700 exactly when that holds no call; otherwise the id is echoed, and the code is
-32600 exactly for a call without a method, then -32601 exactly for a method no handler serves,
then -32000 exactly when the handler failed, panicked or answered what has no JSON form; otherwise
the result is what the handler returned. No call changes the handlers, so a fault never changes
how later calls are served. Each call is counted once, under its method (the empty one when the
body holds no call) and whether it ended in a fault. A client's call ends in a fault of a code
exactly when the endpoint answered with that code. -/
theorem rpc_dispatch_total (now : Instant) (s : Server) (body : List UInt8) :
    let read := body.take Server.maxBody
    let a := (s.call now body).1
    let s' := (s.call now body).2
    (∀ r : Http.Request, r.path = "/rpc" → r.method = "POST" → Utf8.encode r.body = body →
      s.handle now r =
        ({ status := 200, contentType := "application/json",
           body := Value.write true a.toJson ++ "\n" }, s')) ∧
    RpcResponse.decode (Utf8.encode (Value.write true a.toJson ++ "\n")) = .ok a ∧
    a.version = "1.1" ∧ (a.result.isSome ↔ a.error.isNone) ∧
    (a.error.map (·.code) = some parseErrorCode ↔ ∃ e, RpcRequest.decode read = .error e) ∧
    (∀ req, RpcRequest.decode read = .ok req →
      a.id = req.id ∧
      (a.error.map (·.code) = some invalidRequestCode ↔ req.method = "") ∧
      (req.method ≠ "" → (a.error.map (·.code) = some methodNotFoundCode ↔
        s.handlers.find? (·.1 = req.method) = none)) ∧
      ∀ name h, req.method ≠ "" → s.handlers.find? (·.1 = req.method) = some (name, h) →
        (a.error.map (·.code) = some serverErrorCode ↔
          ∀ v, (h.run now req.params s.recorder).1 ≠ .returned v) ∧
        ∀ v, (h.run now req.params s.recorder).1 = .returned v → a.result = some v) ∧
    s'.handlers = s.handlers ∧
    (∀ vs, s'.calls.count vs = s.calls.count vs +
      if vs = [Server.methodLabel read, if a.error.isSome then "fault" else "ok"] then 1 else 0) ∧
    ∀ (c : Client) (method : String) (params : List Value) (code : Int),
      (∃ e, (c.send now s method params).1 = .error e ∧ e.isFault code = true) ↔
        (s.call now (Utf8.encode (Value.write true (callJson c.nextId method params)))).1.error.map
          (·.code) = some code := by
  intro read a s'
  have hsound := Server.call_sound now s body
  have hone : a.result.isSome ↔ a.error.isNone := by
    rw [hsound.one]
    cases (s.call now body).1.error <;> rfl
  refine ⟨fun r hpath hmethod hbody => ?_, hsound.decode, hsound.version, hone,
    Server.call_parseError_iff now s body, fun req hdec => Server.call_of_decode now s body hdec,
    Server.call_handlers now s body, Server.call_calls now s body,
    fun c method params code => Client.send_isFault now c s method params code⟩
  rw [Server.handle_rpc now s hpath hmethod, hbody]

end Reporting

end TestDispatch
