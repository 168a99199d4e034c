import TestDispatch.Reporting.Client
import TestDispatch.Proofs.Reporting.Recorder
import TestDispatch.Proofs.Time.Format
import TestDispatch.Proofs.Json.Integers
/-!
# Reporting a finished test, end to end

A client reports a finished test by posting a JSON-RPC call; the endpoint reads the call, decodes
the test result, hands it to the recorder and answers with the outcome, which the client reads
back. Main result, `testFinished_reports_result`: when the call fits in the first MiB of a body,
which is all the endpoint reads, and the result's start time and duration can be written and
read back (a year in 0..9999, a zone of whole minutes less than a day from UTC, a duration of 64
bits), the recorder is handed the result itself; the client succeeds exactly when the recorder
does, and every failure reaches the client as a fault of code -32000 with the recorder's words.

On the way:

* `Number.toInt?_ofInt`, `TestResult.decode_toJson`: a result reads back from its JSON form;
* `RpcRequest.decode_callJson`: the endpoint reads a written call as it was written;
* `Server.call_testFinished`, `Server.handle_post`: how the endpoint serves the call and answers;
* `RpcResponse.decode_toJson`: the client reads an answer as it was written;
* `Client.testFinished_eq`: the whole call, in terms of the recorder's outcome.

The limit is real: a call cut inside its artifact ends inside a string, so the endpoint reads no
call (`decode_resultCall_cut`), answers a parse error and never calls the recorder
(`Client.testFinished_unread`); `oversized_result_unread` is a valid result so refused.
-/

namespace TestDispatch

open Json

/-! ## Results as JSON -/

/-- An integer's literal reads back as the integer. -/
theorem Json.Number.toInt?_ofInt (i : Int) : (Number.ofInt i).toInt? = some i := by
  have hdig : ∀ n, (Nat.toDigits 10 n).all Char.isDigit := fun n =>
    List.all_eq_true.mpr fun c hc => Nat.isDigit_of_mem_toDigits (by decide) (by decide) hc
  have hval : ∀ n, Text.decimalValue (Nat.toDigits 10 n) = n := fun n => by
    rw [Text.decimalValue, Instant.foldl_digits_eq, Nat.ofDigitChars_ten_toDigits]
  unfold Number.toInt?
  rw [ofInt_chars]
  by_cases h : 0 ≤ i
  · rw [if_pos h]
    split
    · -- the digits of a natural number never start with a minus sign
      rename_i ds hds
      have := List.all_eq_true.mp (hdig i.toNat) '-' (by rw [hds]; exact List.mem_cons_self)
      exact absurd this (by decide)
    · simp [hdig, hval, Nat.toDigits_ne_nil]
      omega
  · rw [if_neg h]
    simp [hdig, hval, Nat.toDigits_ne_nil]
    omega

theorem TestResult.intLiterals_toJson (r : TestResult) : IntLiterals r.toJson := by
  simp only [TestResult.toJson, IntLiterals.object_iff]
  intro m hm
  simp only [List.mem_append, List.mem_cons, List.mem_nil_iff, or_false] at hm
  -- every member is a text but the duration, an integer
  rcases hm with (((rfl | rfl | rfl | rfl) | hm) | hm) | rfl | rfl <;> try simp
  all_goals split at hm <;> simp_all

/-- A result whose start time and duration can be written reads back from its JSON form. -/
theorem TestResult.decode_toJson {r : TestResult} (hyear : r.startedAt.yearInRange)
    (h60 : r.startedAt.offset % 60 = 0) (hday : r.startedAt.offset.natAbs < 86400)
    (hnanos : r.startedAt.nanos < Nat.pow 10 9)
    (hdur : int64Min ≤ r.duration ∧ r.duration ≤ int64Max) :
    TestResult.decode r.toJson = .ok r := by
  have htime := Instant.readStrict_format hyear h60 hday hnanos
  unfold decode decodeValue toJson
  by_cases ht : r.target = "" <;> by_cases hb : r.build = "" <;>
    simp only [decodeMembers, select, fields, decodeText, bind_pure_comp, decodeTime, decodeInt64,
      Bool.and_eq_true, decide_eq_true_eq, ht, hb, ↓reduceIte, List.append_nil, List.cons_append,
      List.nil_append, Value.int, List.foldlM_cons, decide_true, List.find?_cons_of_pos, map_pure,
      String.reduceEq, decide_false, Bool.false_eq_true, not_false_eq_true, List.find?_cons_of_neg,
      htime, Number.toInt?_ofInt, hdur, and_self, List.foldlM_nil, bind_pure, StateT.run_pure]
  all_goals
    cases r
    simp_all only [pure, Except.pure]

namespace Reporting

/-! ## The endpoint -/

/-- A written call reads back as the call: its id, method, version and parameters. -/
theorem RpcRequest.decode_callJson (id method : String) {params : List Value}
    (h : ∀ p ∈ params, IntLiterals p) :
    RpcRequest.decode (Utf8.encode (Value.write true (callJson id method params))) =
      .ok { id, method, version := "1.1", params := some params } := by
  rw [RpcRequest.decode, decodeWhole,
    readWhole_write_of_intLiterals (by simpa [callJson] using h) (by simp [callJson])]
  simp [decodeValue, callJson, decodeMembers, select, RpcRequest.fields, decodeText, decodeParams]
  rfl

/-- The endpoint serves a `Reporter.TestFinished` call that fits in what it reads by recording
the result, and answers `true` or the recorder's fault. -/
theorem Server.call_testFinished (now : Instant) {s : Server} (id : String) {v : Value}
    {r : TestResult}
    (hreg : (s.handlers.find? (·.1 = testFinishedMethod)).map Prod.snd = some .testFinished)
    (hv : IntLiterals v) (hdec : TestResult.decode v = .ok r)
    (hfit : (Utf8.encode (Value.write true (callJson id testFinishedMethod [v]))).length ≤
      Server.maxBody) :
    s.call now (Utf8.encode (Value.write true (callJson id testFinishedMethod [v]))) =
      match s.recorder.record now r with
      | (.ok (), rec) =>
        ({ id, result := some (.bool true) },
          { s with recorder := rec }.count testFinishedMethod "ok")
      | (.error e, rec) =>
        ({ id, error := some ⟨"HandlerError", serverErrorCode, e⟩ },
          { s with recorder := rec }.count testFinishedMethod "fault") := by
  obtain ⟨⟨name, h⟩, hfind, hh⟩ := Option.map_eq_some_iff.mp hreg
  simp only at hh
  subst hh
  unfold Server.call
  rw [List.take_of_length_le hfit, RpcRequest.decode_callJson _ _ (by simpa using hv)]
  have hne : testFinishedMethod ≠ "" := by decide
  simp only [hne, if_false, hfind, Handler.testFinished, Recorder.handle, Option.getD_some, hdec]
  rcases s.recorder.record now r with ⟨_ | _, rec⟩ <;> rfl

/-- The endpoint serves a posted call at `/rpc` and answers it with status 200, the answer
written as JSON and a line break. -/
theorem Server.handle_post (now : Instant) (s : Server) (body : String) :
    s.handle now (Client.post body) =
      ({ status := 200, contentType := "application/json",
         body := Value.write true (s.call now (Utf8.encode body)).1.toJson ++ "\n" },
       (s.call now (Utf8.encode body)).2) := by
  have hpath : (Client.post body).path = "/rpc" := by simp [Http.Request.path, Client.post]
  have hmethod : (Client.post body).method = "POST" := rfl
  have hbody : (Client.post body).body = body := rfl
  have hhealth : ¬ ("/rpc" = "/health") := by decide
  unfold Server.handle
  simp only [hpath, hmethod, hbody, hhealth, if_false, if_true, Utf8.toUTF8_toList]

/-! ## The answer and the client -/

theorem intLiterals_answer {a : RpcResponse} (hres : ∀ v ∈ a.result, IntLiterals v) :
    IntLiterals a.toJson := by
  simp only [RpcResponse.toJson, IntLiterals.object_iff]
  intro m hm
  simp only [List.mem_append, List.mem_cons, List.mem_nil_iff, or_false, Option.mem_toList,
    Option.map_eq_some_iff] at hm
  -- the id and the version are texts, and a fault's code is an integer
  rcases hm with ((rfl | rfl) | ⟨v, hv, rfl⟩) | ⟨f, -, rfl⟩
  · simp
  · simp
  · exact hres v hv
  · simp [Fault.toJson]

/-- An answer, written with a line break after it, reads back as itself. -/
theorem RpcResponse.decode_toJson {a : RpcResponse} (hres : ∀ v ∈ a.result, IntLiterals v)
    (hcode : ∀ f ∈ a.error, int64Min ≤ f.code ∧ f.code ≤ int64Max) :
    RpcResponse.decode (Utf8.encode (Value.write true a.toJson ++ "\n")) = .ok a := by
  have hnl : Utf8.encode "\n" = [0x0A] := by decide
  rw [RpcResponse.decode, decodeWhole, Utf8.encode_append, hnl,
    readWhole_write_newline (intLiterals_answer hres) (by simp [RpcResponse.toJson])]
  rcases a with ⟨id, version, result, error⟩
  cases error with
  | none => cases result <;> rfl
  | some f =>
    -- only the fault's code needs more than unfolding: its literal is read back as an integer
    have hf : int64Min ≤ f.code ∧ f.code ≤ int64Max := hcode f rfl
    cases result <;>
      simp only [decodeValue, RpcResponse.toJson, Option.map_none, Option.toList_none,
        List.append_nil, Fault.toJson, Option.map_some, Option.toList_some, List.cons_append,
        List.nil_append, decodeMembers, select, RpcResponse.fields, decodeText, bind_pure_comp,
        decodeFault, Fault.fields, decodeInt64, Bool.and_eq_true, decide_eq_true_eq,
        List.foldlM_cons, decide_true, List.find?_cons_of_pos, map_pure, String.reduceEq,
        decide_false, Bool.false_eq_true, not_false_eq_true, List.find?_cons_of_neg,
        Number.toInt?_ofInt, hf, and_self, ↓reduceIte, List.foldlM_nil, bind_pure,
        StateT.run_pure] <;>
      rfl

/-- The id of a client's next call. -/
def Client.nextId (c : Client) : String := s!"{c.idStem}-{c.calls + 1}"

/-- The error a client reports when the recorder refused a result with the words `e`. -/
def recorderFault (e : String) : CallError :=
  { message := s!"{testFinishedMethod}: rpc fault {serverErrorCode}: {e}",
    fault := some ⟨"HandlerError", serverErrorCode, e⟩ }

/-- The error a client reports when the endpoint could not read its call, for the reason `e`. -/
def parseFault (e : String) : CallError :=
  { message := s!"{testFinishedMethod}: rpc fault {parseErrorCode}: parse error: {e}",
    fault := some (Server.refusal parseErrorCode s!"parse error: {e}") }

/-- A client's report of a result, in terms of what the recorder does with it. -/
theorem Client.testFinished_eq (now : Instant) (c : Client) {s : Server} {r : TestResult}
    (hyear : r.startedAt.yearInRange) (h60 : r.startedAt.offset % 60 = 0)
    (hday : r.startedAt.offset.natAbs < 86400) (hnanos : r.startedAt.nanos < Nat.pow 10 9)
    (hdur : int64Min ≤ r.duration ∧ r.duration ≤ int64Max)
    (hreg : (s.handlers.find? (·.1 = testFinishedMethod)).map Prod.snd = some .testFinished)
    (hfit : (Utf8.encode (Value.write true
      (callJson c.nextId testFinishedMethod [r.toJson]))).length ≤ Server.maxBody) :
    c.testFinished now s r =
      match s.recorder.record now r with
      | (.ok (), rec) =>
        (.ok (), { c with calls := c.calls + 1 },
          { s with recorder := rec }.count testFinishedMethod "ok")
      | (.error e, rec) =>
        (.error (recorderFault e), { c with calls := c.calls + 1 },
          { s with recorder := rec }.count testFinishedMethod "fault") := by
  have hmarshal : r.marshalError? = none := by
    have h24 : ¬ (r.startedAt.offset.natAbs / 3600 ≥ 24) := by omega
    simp only [TestResult.marshalError?, Instant.marshalError?, hyear, Bool.not_true, Bool.false_eq_true, if_false, h24,
      Option.map_none]
  have hcall := Server.call_testFinished now c.nextId hreg r.intLiterals_toJson
    (TestResult.decode_toJson hyear h60 hday hnanos hdur) hfit
  unfold Client.testFinished Client.send
  rw [hmarshal]
  simp only [Server.handle_post]
  rw [show s!"{c.idStem}-{c.calls + 1}" = c.nextId from rfl, hcall]
  obtain ⟨out, rec⟩ := s.recorder.record now r
  cases out with
  | ok u =>
    have hdec := @RpcResponse.decode_toJson { id := c.nextId, result := some (Value.bool true) }
      (by simp) (by simp)
    simp only [Utf8.toUTF8_toList, hdec]
    rfl
  | error e =>
    have hdec := @RpcResponse.decode_toJson
      { id := c.nextId, error := some ⟨"HandlerError", serverErrorCode, e⟩ } (by simp)
      (by simp [serverErrorCode, int64Min, int64Max])
    simp only [Utf8.toUTF8_toList, hdec]
    rfl

/-- A client's report of a result whose call the endpoint cannot read in what it reads: the
endpoint answers a parse error, counted under the empty method, and the recorder is never
called. -/
theorem Client.testFinished_unread (now : Instant) (c : Client) (s : Server) {r : TestResult}
    (hmarshal : r.marshalError? = none) {e : String}
    (hdec : RpcRequest.decode ((Utf8.encode (Value.write true
      (callJson c.nextId testFinishedMethod [r.toJson]))).take Server.maxBody) = .error e) :
    c.testFinished now s r =
      (.error (parseFault e), { c with calls := c.calls + 1 }, s.count "" "fault") := by
  have hcall : s.call now (Utf8.encode (Value.write true
      (callJson c.nextId testFinishedMethod [r.toJson]))) =
      ({ error := some (Server.refusal parseErrorCode s!"parse error: {e}") },
        s.count "" "fault") := by
    unfold Server.call
    rw [hdec]
  have hanswer := @RpcResponse.decode_toJson
    { error := some (Server.refusal parseErrorCode s!"parse error: {e}") } (by simp)
    (by simp [Server.refusal, parseErrorCode, int64Min, int64Max])
  unfold Client.testFinished Client.send
  rw [hmarshal]
  simp only [Server.handle_post]
  rw [show s!"{c.idStem}-{c.calls + 1}" = c.nextId from rfl, hcall]
  simp only [Utf8.toUTF8_toList, hanswer]
  rfl

/-! ## Reporting end to end -/

/-- Reporting a finished test end to end: the recorder is handed the result itself; the call
succeeds exactly when the result has a test id and a valid status and the tracker and the
database (those present) take it; a failure is a fault of code -32000 with the recorder's words;
the tracker is told once, of a valid result with a ticket, and the database is given its report
once, after the tracker took the update. -/
theorem testFinished_reports_result (now : Instant) (c : Client) (s : Server) (r : TestResult)
    (hyear : r.startedAt.yearInRange) (h60 : r.startedAt.offset % 60 = 0)
    (hday : r.startedAt.offset.natAbs < 86400) (hnanos : r.startedAt.nanos < Nat.pow 10 9)
    (hdur : int64Min ≤ r.duration ∧ r.duration ≤ int64Max)
    (hreg : (s.handlers.find? (·.1 = testFinishedMethod)).map Prod.snd = some .testFinished)
    (hfit : (Utf8.encode (Value.write true
      (callJson c.nextId testFinishedMethod [r.toJson]))).length ≤ Server.maxBody) :
    let call := c.testFinished now s r
    call.2.2.recorder = (s.recorder.record now r).2 ∧
    (call.1 = .ok () ↔
      r.testId ≠ "" ∧ r.statusValid ∧ s.recorder.trackerAccepts r ∧
        s.recorder.dbAccepts now r) ∧
    (∀ err, call.1 = .error err →
      err.isFault serverErrorCode ∧ ∃ e, (s.recorder.record now r).1 = .error e ∧
        err.fault.map (·.message) = some e) ∧
    call.2.2.recorder.tracker =
      (if r.testId ≠ "" ∧ r.statusValid ∧ r.ticket ≠ "" then
        s.recorder.tracker.map fun t => { t with calls := t.calls ++ [statusCall r] }
      else s.recorder.tracker) ∧
    call.2.2.recorder.reports =
      (if r.testId ≠ "" ∧ r.statusValid ∧ s.recorder.trackerAccepts r then
        s.recorder.reports.map fun db =>
          ((db.create now s!"report-{db.rows.length + 1}" r.toEntry).toOption).getD db
      else s.recorder.reports) := by
  intro call
  have hcall : call = _ := Client.testFinished_eq now c hyear h60 hday hnanos hdur hreg hfit
  have hok := Recorder.record_ok_iff now r s.recorder
  have htracker := Recorder.record_tracker now r s.recorder
  have hreports := Recorder.record_reports now r s.recorder
  rcases hr : s.recorder.record now r with ⟨out, rec⟩
  rw [hr] at hcall hok htracker hreports
  rw [← htracker, ← hreports, ← hok]
  cases out with
  | ok u =>
    rw [hcall]
    simp [Server.count]
  | error e =>
    rw [hcall]
    simp [Server.count, recorderFault, CallError.isFault]

/-- A passing result with a ticket, reported to an endpoint whose recorder has a tracker and a
report database, is recorded, and the tracker is told of it once. -/
theorem passing_result_reaches_tracker :
    let call := ({ idStem := "c0ffee00" } : Client).testFinished { unix := 1700000060 }
      (Server.create { tracker := some {}, reports := some {} })
      { testId := "T", ticket := "X-1", status := "PASSED", artifact := "log",
        startedAt := { unix := 1700000000 }, duration := 5 }
    call.1 = .ok () ∧
      call.2.2.recorder.tracker = some { calls := [⟨"X-1", "T", "PASSED", "log"⟩] } := by
  intro call
  obtain ⟨-, hok, -, htracker, -⟩ := testFinished_reports_result { unix := 1700000060 }
    { idStem := "c0ffee00" } (Server.create { tracker := some {}, reports := some {} })
    { testId := "T", ticket := "X-1", status := "PASSED", artifact := "log",
      startedAt := { unix := 1700000000 }, duration := 5 }
    (by decide) (by decide) (by decide) (by decide) (by decide) rfl (by decide +kernel)
  refine ⟨hok.mpr ⟨by decide, by decide, by decide, by decide +kernel⟩, ?_⟩
  rw [htracker]
  decide

/-! ## A call longer than what the endpoint reads -/

/-- The text of the call of id `id` reporting `r`, up to its artifact, when `r` has neither
target nor build: the call's id, method and version, the opening of its parameters, and the
result's test id, ticket and status. -/
def resultCallHead (id : String) (r : TestResult) : String :=
  "\x7b" ++ Value.writeMembers true [("id", .string id), ("method", .string testFinishedMethod),
      ("version", .string "1.1")] ++ "," ++ writeString true "params" ++ ":" ++ "[" ++ "\x7b" ++
    Value.writeMembers true [("test_id", .string r.testId), ("ticket", .string r.ticket),
      ("status", .string r.status)] ++ "," ++ writeString true "artifact" ++ ":"

/-- A result without target or build is written with its artifact right after the head. -/
theorem write_resultCall (id : String) {r : TestResult} (ht : r.target = "") (hb : r.build = "") :
    ∃ tail, Value.write true (callJson id testFinishedMethod [r.toJson]) =
      resultCallHead id r ++ writeString true r.artifact ++ tail := by
  refine ⟨"," ++ Value.writeMembers true [("started_at", .string r.startedAt.format),
    ("duration", Value.int r.duration)] ++ "\x7d" ++ "]" ++ "\x7d", ?_⟩
  have hcall : callJson id testFinishedMethod [r.toJson] =
      .object ([("id", .string id), ("method", .string testFinishedMethod),
        ("version", .string "1.1")] ++ [("params", .array [r.toJson])]) := rfl
  have hresult : r.toJson = .object ([("test_id", .string r.testId),
      ("ticket", .string r.ticket), ("status", .string r.status)] ++
      ([("artifact", .string r.artifact)] ++ [("started_at", .string r.startedAt.format),
        ("duration", Value.int r.duration)])) := by
    simp [TestResult.toJson, ht, hb]
  rw [hcall, Value.write, writeMembers_append true (by simp) (by simp), hresult]
  simp only [Value.writeMembers, Value.write, Value.writeElements]
  rw [writeMembers_append true (by simp) (by simp), writeMembers_append true (by simp) (by simp)]
  simp only [Value.writeMembers, Value.write, resultCallHead, String.append_assoc]

/-- The head of a result's call takes the reader to where the artifact's value begins, inside
the result, the call's parameters and the call. -/
theorem feeds_resultCallHead (id : String) (r : TestResult) :
    Machine.start.Feeds (Utf8.encode (resultCallHead id r))
      ⟨[.object [("status", .string r.status), ("ticket", .string r.ticket),
          ("test_id", .string r.testId)] (some "artifact"), .array [],
        .object [("version", .string "1.1"), ("method", .string testFinishedMethod),
          ("id", .string id)] (some "params")], .value false⟩ := by
  have hstrings : ∀ (ms : List (String × Value)), (∀ m ∈ ms, ∃ s, m.2 = .string s) →
      ∀ m ∈ ms, Readable true m.2 := by
    intro ms h m hm
    obtain ⟨s, hs⟩ := h m hm
    rw [hs]
    exact fun st ec => Machine.feeds_string true s st ec
  have hopen : Utf8.encode "\x7b" = [0x7B] := by decide
  have hbracket : Utf8.encode "[" = [0x5B] := by decide
  have hcomma : Utf8.encode "," = [0x2C] := by decide
  have hcolon : Utf8.encode ":" = [0x3A] := by decide
  simp only [resultCallHead, Utf8.encode_append, hopen, hbracket, hcomma, hcolon,
    List.append_assoc, List.cons_append, List.nil_append]
  -- the call's members so far, and the result's, last first as the machine keeps them
  let callMs : List (String × Value) := [("version", .string "1.1"),
    ("method", .string testFinishedMethod), ("id", .string id)]
  let resultMs : List (String × Value) := [("status", .string r.status),
    ("ticket", .string r.ticket), ("test_id", .string r.testId)]
  refine .cons ⟨[.object [] none], .key true⟩
    (fun _ => by simp [Machine.start, Machine.step, Machine.valueStep, isBlank]) trivial ?_
  refine (Machine.feeds_members true [] _ _ [] true (hstrings _ (by simp))).append ?_
  refine .cons ⟨[.object callMs none], .key false⟩
    (fun _ => by simp [callMs, Machine.step, Machine.afterValueStep, isBlank]) trivial ?_
  refine (Machine.feeds_key true "params" callMs [] false).append ?_
  refine .cons ⟨[.object callMs (some "params")], .value false⟩
    (fun _ => by simp [Machine.step, isBlank]) trivial ?_
  refine .cons ⟨[.array [], .object callMs (some "params")], .value true⟩
    (fun _ => by simp [Machine.step, Machine.valueStep, isBlank]) trivial ?_
  refine .cons ⟨[.object [] none, .array [], .object callMs (some "params")], .key true⟩
    (fun _ => by simp [Machine.step, Machine.valueStep, isBlank]) trivial ?_
  refine (Machine.feeds_members true _ _ _ [] true (hstrings _ (by simp))).append ?_
  refine .cons ⟨[.object resultMs none, .array [], .object callMs (some "params")], .key false⟩
    (fun _ => by simp [resultMs, Machine.step, Machine.afterValueStep, isBlank]) trivial ?_
  refine (Machine.feeds_key true "artifact" resultMs _ false).append ?_
  exact .byte (fun _ => by simp [callMs, resultMs, Machine.step, isBlank]) trivial

/-- A call reporting a result without target or build, cut by the endpoint's limit after the
artifact's opening quote and before its closing one, holds no call: the text ends inside a
string. -/
theorem decode_resultCall_cut (id : String) {r : TestResult} (ht : r.target = "")
    (hb : r.build = "")
    (hplain : ∀ b ∈ r.artifact.toList.flatMap (escapedOctets true), Plain b)
    (hlong : (Utf8.encode (resultCallHead id r)).length < Server.maxBody)
    (hshort : Server.maxBody ≤ (Utf8.encode (resultCallHead id r)).length + 1 +
      (r.artifact.toList.flatMap (escapedOctets true)).length) :
    RpcRequest.decode ((Utf8.encode (Value.write true
      (callJson id testFinishedMethod [r.toJson]))).take Server.maxBody) =
      .error ReadError.truncated.wholeMessage := by
  obtain ⟨tail, hwrite⟩ := write_resultCall id ht hb
  generalize hhead : Utf8.encode (resultCallHead id r) = head at hlong hshort
  generalize htext : r.artifact.toList.flatMap (escapedOctets true) = text at hplain hshort
  obtain ⟨k, hk, hkt⟩ : ∃ k, Server.maxBody = head.length + (k + 1) ∧ k ≤ text.length :=
    ⟨Server.maxBody - head.length - 1, by omega, by omega⟩
  -- the endpoint reads the head, the artifact's opening quote and `k` octets of its text
  have hcut : (Utf8.encode (Value.write true (callJson id testFinishedMethod [r.toJson]))).take
      Server.maxBody = head ++ 0x22 :: text.take k := by
    rw [hwrite, Utf8.encode_append, Utf8.encode_append, encode_writeString, hhead, htext, hk,
      List.append_assoc, List.take_length_add_append]
    simp only [List.cons_append, List.take_succ_cons, List.append_assoc,
      List.take_append_of_le_length hkt]
  have hprefix : ∀ b ∈ text.take k, Plain b := fun b hb' => hplain b (List.mem_of_mem_take hb')
  have hfeeds := (feeds_resultCallHead id r).append (Machine.feeds_open_string hprefix)
  rw [hhead] at hfeeds
  rw [hcut, RpcRequest.decode, decodeWhole, Machine.readWhole_of_feeds_str hfeeds]

/-- A name of `n` letters `a` is written as `n` octets `a`. -/
theorem escapedOctets_letters (n : Nat) :
    (String.ofList (List.replicate n 'a')).toList.flatMap (escapedOctets true) =
      List.replicate n 0x61 := by
  rw [String.toList_ofList]
  induction n with
  | zero => rfl
  | succ n ih =>
    rw [List.replicate_succ, List.flatMap_cons, ih, List.replicate_succ]
    rfl

/-- A valid passing result whose artifact is named by a MiB of letters is never recorded: its
call is longer than what the endpoint reads, so the endpoint answers a parse error, which the
client returns as a fault of code -32700 rather than -32000, and the tracker is not told. -/
theorem oversized_result_unread :
    let r : TestResult :=
      { testId := "T", status := "PASSED", artifact := String.ofList (List.replicate 1048576 'a') }
    let s := Server.create { tracker := some {} }
    let call := ({ idStem := "c0ffee00" } : Client).testFinished { unix := 1700000060 } s r
    r.statusValid ∧ r.marshalError? = none ∧
      (∃ e, call.1 = .error e ∧ e.isFault parseErrorCode = true ∧
        e.isFault serverErrorCode = false) ∧
      call.2.2.recorder = s.recorder := by
  intro r s call
  have hletters : r.artifact.toList.flatMap (escapedOctets true) = List.replicate 1048576 0x61 :=
    escapedOctets_letters 1048576
  have hmarshal : r.marshalError? = none := by decide
  have hplain : ∀ b ∈ r.artifact.toList.flatMap (escapedOctets true), Plain b := by
    rw [hletters]
    intro b hb
    rw [List.eq_of_mem_replicate hb]
    exact ⟨by decide, by decide, by decide⟩
  have hlong : (Utf8.encode (resultCallHead ({ idStem := "c0ffee00" } : Client).nextId r)).length
      < Server.maxBody := by decide +kernel
  have hshort : Server.maxBody ≤
      (Utf8.encode (resultCallHead ({ idStem := "c0ffee00" } : Client).nextId r)).length + 1 +
        (r.artifact.toList.flatMap (escapedOctets true)).length := by
    rw [hletters, List.length_replicate, Server.maxBody]
    omega
  have hcall := Client.testFinished_unread { unix := 1700000060 } { idStem := "c0ffee00" } s
    hmarshal (decode_resultCall_cut _ rfl rfl hplain hlong hshort)
  have hfault : (parseFault ReadError.truncated.wholeMessage).isFault parseErrorCode = true ∧
      (parseFault ReadError.truncated.wholeMessage).isFault serverErrorCode = false := by
    decide
  rw [show call = _ from hcall]
  exact ⟨by decide, hmarshal, ⟨_, rfl, hfault⟩, rfl⟩

end Reporting

end TestDispatch
