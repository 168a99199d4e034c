import Mathlib.Data.List.Induction
import Mathlib.Data.List.Nodup
import TestDispatch.Proofs.Ticket.Roundtrip
/-!
# What the ticket reader accepts

`Ticket.decode` checks the first JSON value of a message against the ticket schema, then reads
the whole message as a work item; a message that breaks the schema is still read as the stop
message when the whole of it is one object whose `te_ticket` member says `STOP`. Three readers
take part, and this module says what they accept together.

* `Json.readFirst_of_readWhole`: a text that reads as one whole value starts with that value as
  a stream, so the schema is checked on the value the item is then read from.
* `Ticket.decode_eq_ok_iff`: a message decodes exactly when the whole of it is one object that
  either passes the schema and reads as the item without a mismatch, or breaks the schema and
  names the stop ticket.
* `Ticket.probeTicket_eq_stop_iff`: what naming the stop ticket means. Every member whose name
  folds to `te_ticket` (case does not count) holds a text or `null`, and the last of them holds
  `STOP`.
* `Ticket.check_eq_nil_iff`: the schema's three rules, said of the members.
* `WorkItem.ofMembers_of_wire`: members of an item's wire form, in any order and repeated any
  number of times, read as the fields they name.
* `Ticket.checked_iff_perm`: an object that names each member once passes the schema and reads
  as an item exactly when its members are the item's wire form in some order.
* `Ticket.decode_trailing`: the schema sees the first value only, so a valid ticket followed by
  any other octet than a blank passes it and is then refused when read as a whole.
* `Ticket.ticket_decode_accepts`: all of it together. `Ticket.upper_case_ticket_stops`: a message
  with no member named `te_ticket` exactly can still be the stop message.
-/
namespace TestDispatch

namespace Json

namespace Machine

/-- Once a whole value stands, a whole text can only end with that value. -/
theorem runWhole_done (s : List Frame) (u : Value) {v : Value} {bs : List UInt8}
    (h : (⟨s, .done u⟩ : Machine).runWhole bs = .ok v) : v = u := by
  induction bs with
  | nil =>
    cases s with
    | nil => simpa [runWhole, finish] using h.symm
    | cons f s => simp [runWhole, finish] at h
  | cons b rest ih =>
    by_cases hb : isBlank b = true
    · simp only [runWhole, step, hb, if_true] at h
      exact ih h
    · simp [runWhole, step, hb] at h

/-- A number at the top level that the next octet cannot continue is whole: the octet must be a
blank, after which the value stands. -/
theorem step_of_endsNumber {m : Machine} {b : UInt8} {u : Value} (h : m.endsNumber? b = some u)
    (rest : List UInt8) :
    m.step b rest =
      if isBlank b then .ok ⟨[], .done u⟩ else .error (refuse b rest .afterTopLevel) := by
  obtain ⟨stack, lexeme⟩ := m
  unfold endsNumber? at h
  split at h
  · rename_i body phase hs hl
    simp only at hs hl
    subst hs hl
    simp only [Bool.and_eq_true, Option.isNone_iff_eq_none] at h
    split at h
    · rename_i hc
      cases h
      simp [step, hc.2, hc.1]
    · cases h
  · cases h

/-- Reading a whole text that gives a value reads that value first as a stream. -/
theorem runFirst_of_runWhole {m : Machine} {bs : List UInt8} {v : Value}
    (h : m.runWhole bs = .ok v) : ∃ rest, m.runFirst bs = .ok (v, rest) := by
  induction bs generalizing m with
  | nil =>
    refine ⟨[], ?_⟩
    simp only [runWhole] at h
    rw [runFirst, h]
    rfl
  | cons b rest ih =>
    rw [runWhole] at h
    cases hends : m.endsNumber? b with
    | some u =>
      -- the octet ends a top-level number; the whole reader goes on only after a blank
      rw [step_of_endsNumber hends] at h
      by_cases hb : isBlank b = true
      · simp only [hb, if_true] at h
        obtain rfl := runWhole_done [] u h
        exact ⟨b :: rest, by simp [runFirst, hends]⟩
      · simp [hb] at h
    | none =>
      cases hstep : m.step b rest with
      | error e => simp [hstep] at h
      | ok m' =>
        simp only [hstep] at h
        simp only [runFirst, hends, hstep]
        split
        · rename_i first hlex
          obtain ⟨stack, lexeme⟩ := m'
          simp only at hlex
          subst hlex
          obtain rfl := runWhole_done stack first h
          exact ⟨rest, rfl⟩
        · exact ih h

end Machine

/-- A text that reads as one value whole starts with that value as a stream. -/
theorem readFirst_of_readWhole {bytes : List UInt8} {v : Value} (h : readWhole bytes = .ok v) :
    ∃ rest, readFirst bytes = .ok (v, rest) :=
  Machine.runFirst_of_runWhole h

/-- The written text of a value without numbers, followed by an octet other than a blank, is
refused as a whole text at that octet. -/
theorem readWhole_write_append {v : Value} (hv : v.numberFree = true) (html : Bool) {b : UInt8}
    (hb : isBlank b = false) (rest : List UInt8) :
    readWhole (Utf8.encode (v.write html) ++ b :: rest) =
      .error (refuse b rest .afterTopLevel) := by
  have hfeeds := (readable_of_numberFree html v hv [] false (b :: rest)).1
  rw [readWhole, Machine.start, hfeeds]
  simp [Machine.close, Machine.runWhole, Machine.step, hb]

/-! ## Looking up the members of an object -/

/-- Looking up a name finds a member exactly when some member has that name. -/
theorem get?_isSome_iff {ms : List (String × Value)} {k : String} :
    ((Value.object ms).get? k).isSome ↔ k ∈ ms.map Prod.fst := by
  simp [Value.get?, List.find?_isSome]

/-- Looking up a name that no member has finds nothing. -/
theorem get?_eq_none_iff {ms : List (String × Value)} {k : String} :
    (Value.object ms).get? k = none ↔ k ∉ ms.map Prod.fst := by
  rw [← Option.not_isSome_iff_eq_none, get?_isSome_iff]

/-- In an object whose names are distinct, a member is there exactly when looking up its name
finds its value. -/
theorem mem_iff_get? {ms : List (String × Value)} (hnd : (ms.map Prod.fst).Nodup) {k : String}
    {v : Value} : (k, v) ∈ ms ↔ (Value.object ms).get? k = some v := by
  constructor
  · intro hmem
    obtain ⟨x, hx⟩ : ∃ x, ms.reverse.find? (·.1 = k) = some x :=
      Option.isSome_iff_exists.mp
        (List.find?_isSome.mpr ⟨(k, v), List.mem_reverse.mpr hmem, by simp⟩)
    have hxm : x ∈ ms := List.mem_reverse.mp (List.mem_of_find?_eq_some hx)
    have hxk : x.1 = k := by simpa using List.find?_some hx
    -- the names are distinct, so the member found is the one given
    obtain rfl : x = (k, v) := List.inj_on_of_nodup_map hnd hxm hmem hxk
    simp [Value.get?, hx]
  · intro h
    simp only [Value.get?, Option.map_eq_some_iff] at h
    obtain ⟨x, hx, rfl⟩ := h
    have hxk : x.1 = k := by simpa using List.find?_some hx
    have hxm : x ∈ ms := List.mem_reverse.mp (List.mem_of_find?_eq_some hx)
    rw [← hxk]
    exact hxm

/-- Two objects with distinct names that look up the same value under every name hold the same
members, in some order. -/
theorem perm_of_get?_eq {ms ms' : List (String × Value)} (hnd : (ms.map Prod.fst).Nodup)
    (hnd' : (ms'.map Prod.fst).Nodup)
    (h : ∀ k, (Value.object ms).get? k = (Value.object ms').get? k) : ms.Perm ms' := by
  rw [List.perm_ext_iff_of_nodup (hnd.of_map _) (hnd'.of_map _)]
  rintro ⟨k, v⟩
  rw [mem_iff_get? hnd, mem_iff_get? hnd', h]

/-- Reordering the members of an object with distinct names changes no lookup. -/
theorem get?_eq_of_perm {ms ms' : List (String × Value)} (hnd : (ms.map Prod.fst).Nodup)
    (hp : ms.Perm ms') (k : String) : (Value.object ms).get? k = (Value.object ms').get? k := by
  have hnd' : (ms'.map Prod.fst).Nodup := (hp.map Prod.fst).nodup_iff.mp hnd
  refine Option.ext fun v => ?_
  rw [← mem_iff_get? hnd, ← mem_iff_get? hnd', hp.mem_iff]

end Json

namespace Ticket

open Json (readWhole readFirst namesField)

/-- The schema is checked on the value that the whole message reads as. -/
theorem validate_of_readWhole {data : List UInt8} {v : Json.Value} (h : readWhole data = .ok v) :
    validate data = if check v = [] then .ok () else .error (.violations (check v)) := by
  obtain ⟨rest, hfirst⟩ := Json.readFirst_of_readWhole h
  rw [validate, hfirst]
  dsimp only
  cases hc : check v with
  | nil => rfl
  | cons x xs => rfl

/-- Only an object can pass the schema. -/
theorem eq_object_of_check_eq_nil {v : Json.Value} (h : check v = []) :
    ∃ ms, v = .object ms := by
  cases v with
  | object ms => exact ⟨ms, rfl⟩
  | _ => simp [check] at h

/-- A message reads as the stop message despite the schema exactly when the whole of it is one
object whose ticket member reads as `STOP`. -/
theorem isStopMessage_iff (data : List UInt8) :
    isStopMessage data = true ↔
      ∃ ms, readWhole data = .ok (.object ms) ∧ probeTicket ms = (some stopTicket, true) := by
  unfold isStopMessage
  split
  · rename_i ms hread
    cases hp : probeTicket ms with
    | mk ticket ok => simp [hread, hp, and_comm]
  · rename_i hread
    simp only [Bool.false_eq_true, false_iff, not_exists, not_and]
    intro ms hms
    exact (hread ms hms).elim

/-- A message decodes exactly when the whole of it is one object that either passes the schema
and reads as the item without a mismatch, or breaks the schema and names the stop ticket, and
then it is the stop message. -/
theorem decode_eq_ok_iff (data : List UInt8) (w : WorkItem) :
    decode data = .ok w ↔ ∃ ms, readWhole data = .ok (.object ms) ∧
      ((check (.object ms) = [] ∧ WorkItem.ofMembers ms = (w, none)) ∨
       (check (.object ms) ≠ [] ∧ probeTicket ms = (some stopTicket, true) ∧
        w = WorkItem.stop)) := by
  constructor
  · intro h
    unfold decode at h
    cases hv : validate data with
    | error e =>
      rw [hv] at h
      dsimp only at h
      split at h
      · rename_i hstop
        cases h
        obtain ⟨ms, hread, hprobe⟩ := (isStopMessage_iff data).mp hstop
        have hcheck : check (.object ms) ≠ [] := by
          intro hc
          rw [validate_of_readWhole hread, if_pos hc] at hv
          cases hv
        exact ⟨ms, hread, .inr ⟨hcheck, hprobe, rfl⟩⟩
      · cases h
    | ok u =>
      rw [hv] at h
      dsimp only at h
      cases hread : readWhole data with
      | error e => simp [hread] at h
      | ok v =>
        -- the value read whole is the one the schema accepted, so it is an object
        have hc : check v = [] := by
          rw [validate_of_readWhole hread] at hv
          split at hv
          · assumption
          · cases hv
        obtain ⟨ms, rfl⟩ := eq_object_of_check_eq_nil hc
        rw [hread] at h
        dsimp only at h
        cases hom : WorkItem.ofMembers ms with
        | mk w' e =>
          rw [hom] at h
          cases e with
          | none => cases h; exact ⟨ms, rfl, .inl ⟨hc, hom⟩⟩
          | some m => cases h
  · rintro ⟨ms, hread, ⟨hc, hom⟩ | ⟨hc, hprobe, rfl⟩⟩
    · rw [decode, validate_of_readWhole hread, if_pos hc]
      dsimp only
      rw [hread]
      dsimp only
      rw [hom]
    · have hstop := (isStopMessage_iff data).mpr ⟨ms, hread, hprobe⟩
      rw [decode, validate_of_readWhole hread, if_neg hc]
      dsimp only
      rw [if_pos hstop]

/-! ## Naming the stop ticket -/

/-- The ticket member after one more member: a member whose name folds to `te_ticket` sets it
as a text field reads the value (a text sets it, `null` clears it), and any other value marks it
as unreadable. -/
theorem probeTicket_append {ms : List (String × Json.Value)} {cur : Option String} {ok : Bool}
    (hp : probeTicket ms = (cur, ok)) (name : String) (v : Json.Value) :
    probeTicket (ms ++ [(name, v)]) =
      if namesField name "te_ticket" then (v.asText?.toOption.elim cur id, ok && v.asText?.isOk)
      else (cur, ok) := by
  rw [probeTicket] at hp
  rw [probeTicket, List.foldl_append, hp]
  cases v <;> simp [Json.Value.asText?, Except.toOption, Except.isOk, Except.toBool]

/-- The ticket member stays readable exactly when every member that names it holds a text or
`null`. -/
theorem probeTicket_ok_iff (ms : List (String × Json.Value)) :
    (probeTicket ms).2 = true ↔
      ∀ m ∈ ms, namesField m.1 "te_ticket" = true → m.2.asText?.isOk = true := by
  induction ms using List.reverseRecOn with
  | nil => simp [probeTicket]
  | append_singleton ms m ih =>
    obtain ⟨name, v⟩ := m
    rcases hp : probeTicket ms with ⟨cur, ok⟩
    rw [hp] at ih
    rw [probeTicket_append hp, List.forall_mem_append, List.forall_mem_singleton, ← ih]
    by_cases hn : namesField name "te_ticket" = true <;> simp [hn]

/-- A message names the stop ticket exactly when every member whose name folds to `te_ticket`
holds a text or `null` and the last of them holds `STOP`. -/
theorem probeTicket_eq_stop_iff (ms : List (String × Json.Value)) :
    probeTicket ms = (some stopTicket, true) ↔
      (∀ m ∈ ms, namesField m.1 "te_ticket" = true → m.2.asText?.isOk = true) ∧
      ((ms.filter fun m => namesField m.1 "te_ticket").map Prod.snd).getLast? =
        some (.string stopTicket) := by
  induction ms using List.reverseRecOn with
  | nil => simp [probeTicket]
  | append_singleton ms m ih =>
    obtain ⟨name, v⟩ := m
    rcases hp : probeTicket ms with ⟨cur, ok⟩
    have hok := probeTicket_ok_iff ms
    rw [hp] at ih hok
    rw [← hok] at ih
    rw [probeTicket_append hp, List.forall_mem_append, List.forall_mem_singleton, ← hok,
      List.filter_append]
    by_cases hn : namesField name "te_ticket" = true
    · -- the last member that names the ticket decides it alone
      cases v <;>
        simp [hn, Json.Value.asText?, Except.isOk, Except.toBool, Except.toOption, and_comm]
    · simp [hn, ih]

/-! ## The schema as a property of the members -/

theorem mem_distinctNames (ms : List (String × Json.Value)) (n : String) :
    n ∈ distinctNames ms ↔ n ∈ ms.map Prod.fst := by
  induction ms using List.reverseRecOn generalizing n with
  | nil => simp [distinctNames]
  | append_singleton ms m ih =>
    simp only [distinctNames] at ih ⊢
    simp only [List.foldl_append, List.foldl_cons, List.foldl_nil, List.map_append,
      List.map_cons, List.map_nil, List.mem_append, List.mem_singleton]
    split
    · -- the name was seen before, so the list stays as it was
      rename_i hc
      have hm : m.1 ∈ ms.map Prod.fst := (ih m.1).mp (List.contains_iff_mem.mp hc)
      rw [ih]
      exact ⟨.inl, fun h => h.elim id fun h => h ▸ hm⟩
    · rw [List.mem_append, List.mem_singleton, ih]

/-- The three rules of the schema: every member of the ticket is present, every name is one of
the ticket's, and the value a name looks up is of its member's kind. -/
theorem check_eq_nil_iff (ms : List (String × Json.Value)) :
    check (.object ms) = [] ↔
      (∀ p ∈ members, p.1 ∈ ms.map Prod.fst) ∧
      (∀ m ∈ ms, m.1 ∈ members.map Prod.fst) ∧
      ∀ p ∈ members, ∀ v, (Json.Value.object ms).get? p.1 = some v →
        checkMember p.1 p.2 v = [] := by
  simp only [check, List.append_eq_nil_iff, List.map_eq_nil_iff, List.filter_eq_nil_iff,
    List.flatMap_eq_nil_iff, Bool.not_eq_true', Bool.not_eq_false]
  rw [and_assoc]
  refine and_congr ?missing (and_congr ?unexpected ?wrong)
  case missing =>
    simp [mem_distinctNames]
  case unexpected =>
    simp only [List.any_eq_true, beq_iff_eq, mem_distinctNames, List.mem_map]
    constructor
    · intro h m hm
      obtain ⟨p, hp, he⟩ := h m.1 ⟨m, hm, rfl⟩
      exact ⟨p, hp, he⟩
    · rintro h n ⟨m, hm, rfl⟩
      exact h m hm
  case wrong =>
    refine forall_congr' fun p => imp_congr_right fun _ => ?_
    obtain ⟨name, kind⟩ := p
    cases (Json.Value.object ms).get? name <;> simp

/-! ## Values of their member's kind -/

theorem checkMember_text_eq_nil {name : String} {v : Json.Value} :
    checkMember name .text v = [] ↔ ∃ s, v = .string s := by
  cases v <;> simp [checkMember]

theorem checkMember_flag_eq_nil {name : String} {v : Json.Value} :
    checkMember name .flag v = [] ↔ ∃ b, v = .bool b := by
  cases v <;> simp [checkMember]

/-- Values that are all texts are the texts of a list. -/
theorem eq_map_string {items : List Json.Value} (h : ∀ x ∈ items, ∃ s, x = .string s) :
    ∃ xs : List String, items = xs.map .string := by
  induction items with
  | nil => exact ⟨[], rfl⟩
  | cons x items ih =>
    obtain ⟨s, rfl⟩ := h x List.mem_cons_self
    obtain ⟨xs, rfl⟩ := ih fun y hy => h y (List.mem_cons_of_mem _ hy)
    exact ⟨s :: xs, rfl⟩

/-- A member of texts passes exactly when it is an array of texts. -/
theorem checkMember_texts_eq_nil {name : String} {v : Json.Value} :
    checkMember name .texts v = [] ↔ ∃ xs, v = Json.Value.strs xs := by
  constructor
  · intro h
    cases v with
    | array items =>
      rw [checkMember, List.filterMap_eq_nil_iff] at h
      -- an item that is no text would be reported at its index
      have hstr : ∀ x ∈ items, ∃ s, x = .string s := by
        intro x hx
        obtain ⟨⟨y, i⟩, hmem, rfl⟩ : ∃ p ∈ items.zipIdx, p.1 = x := by
          rw [← List.mem_map, List.zipIdx_map_fst]
          exact hx
        have hnone := h _ hmem
        cases y <;> simp at hnone ⊢
      obtain ⟨xs, rfl⟩ := eq_map_string hstr
      exact ⟨xs, rfl⟩
    | _ => simp [checkMember] at h
  · rintro ⟨xs, rfl⟩
    exact checkMember_strs name xs

/-- A member of the schema that an object passing it holds, with a value of its kind. -/
theorem checked_get {ms : List (String × Json.Value)} (hc : check (.object ms) = [])
    {p : String × MemberKind} (hp : p ∈ members) :
    ∃ v, (Json.Value.object ms).get? p.1 = some v ∧ checkMember p.1 p.2 v = [] := by
  obtain ⟨hpresent, -, hkinds⟩ := (check_eq_nil_iff ms).mp hc
  obtain ⟨v, hv⟩ := Option.isSome_iff_exists.mp (Json.get?_isSome_iff.mpr (hpresent p hp))
  exact ⟨v, hv, hkinds p hp v hv⟩

end Ticket

/-! ## Reading the wire form of an item -/

namespace WorkItem

/-- The names of an item's wire form. -/
theorem toJson_names {w : WorkItem} {ms : List (String × Json.Value)}
    (h : w.toJson = .object ms) :
    ms.map Prod.fst =
      ["tag", "test_set", "parallel", "te_ticket", "targets", "build", "build_type",
        "test_plan"] := by
  simp only [toJson, Json.Value.object.injEq] at h
  subst h
  rfl

theorem toJson_names_nodup {w : WorkItem} {ms : List (String × Json.Value)}
    (h : w.toJson = .object ms) : (ms.map Prod.fst).Nodup := by
  rw [toJson_names h]
  simp

/-- A name outside the schema looks up nothing in an item's wire form. -/
theorem toJson_get?_eq_none (w : WorkItem) {k : String} (hk : k ∉ Ticket.members.map Prod.fst) :
    w.toJson.get? k = none := by
  obtain ⟨ms, hms⟩ : ∃ ms, w.toJson = .object ms := ⟨_, rfl⟩
  rw [hms, Json.get?_eq_none_iff, toJson_names hms]
  simp only [Ticket.members, List.map_cons, List.map_nil, List.mem_cons, List.not_mem_nil,
    or_false, not_or] at hk ⊢
  tauto

/-- The item with the fields named in `names` taken from `w` and the others from `z`. -/
def copyFields (names : List String) (w z : WorkItem) : WorkItem where
  tag := if "tag" ∈ names then w.tag else z.tag
  testIds := if "test_set" ∈ names then w.testIds else z.testIds
  parallel := if "parallel" ∈ names then w.parallel else z.parallel
  ticket := if "te_ticket" ∈ names then w.ticket else z.ticket
  targets := if "targets" ∈ names then w.targets else z.targets
  build := if "build" ∈ names then w.build else z.build
  buildType := if "build_type" ∈ names then w.buildType else z.buildType
  testPlan := if "test_plan" ∈ names then w.testPlan else z.testPlan

theorem copyFields_nil (w z : WorkItem) : copyFields [] w z = z := by
  simp [copyFields]

theorem copyFields_copyFields (a b : List String) (w z : WorkItem) :
    copyFields a w (copyFields b w z) = copyFields (b ++ a) w z := by
  simp only [copyFields, List.mem_append]
  congr 1 <;> split_ifs <;> simp_all

/-- Taking every field of the schema from `w` gives `w`. -/
theorem copyFields_of_members {names : List String} (h : ∀ p ∈ Ticket.members, p.1 ∈ names)
    (w z : WorkItem) : copyFields names w z = w := by
  simp only [Ticket.members, List.mem_cons, List.not_mem_nil, forall_eq_or_imp, or_false,
    forall_eq] at h
  obtain ⟨h1, h2, h3, h4, h5, h6, h7, h8⟩ := h
  simp [copyFields, h1, h2, h3, h4, h5, h6, h7, h8]

/-- Reading a member of the wire form of `w`, both lists present, takes that field from `w`. -/
theorem readMember_wire {w : WorkItem} (ht : w.testIds.isSome) (hg : w.targets.isSome)
    {ms : List (String × Json.Value)} (hms : w.toJson = .object ms) {k : String} {v : Json.Value}
    (hkv : (k, v) ∈ ms) (z : WorkItem) : z.readMember k v = .ok (copyFields [k] w z) := by
  obtain ⟨xs, hxs⟩ := Option.isSome_iff_exists.mp ht
  obtain ⟨ys, hys⟩ := Option.isSome_iff_exists.mp hg
  simp only [toJson, Json.Value.object.injEq] at hms
  subst hms
  simp only [List.mem_cons, Prod.mk.injEq, List.not_mem_nil, or_false] at hkv
  -- each member name selects its own field, decided on the literal names
  rcases hkv with ⟨rfl, rfl⟩ | ⟨rfl, rfl⟩ | ⟨rfl, rfl⟩ | ⟨rfl, rfl⟩ | ⟨rfl, rfl⟩ | ⟨rfl, rfl⟩ |
      ⟨rfl, rfl⟩ | ⟨rfl, rfl⟩ <;>
    simp +decide [readMember, copyFields, listValue, hxs, hys, asTexts_strs, Json.Value.asText?,
      Json.Value.asFlag?]

/-- Reading members of the wire form of `w`, in any order and any number of times, takes the
fields they name from `w` and leaves the others empty. -/
theorem ofMembers_of_wire {w : WorkItem} (ht : w.testIds.isSome) (hg : w.targets.isSome)
    {ms' : List (String × Json.Value)} (hms' : w.toJson = .object ms')
    (ms : List (String × Json.Value)) (hsub : ∀ m ∈ ms, m ∈ ms') :
    ofMembers ms = (copyFields (ms.map Prod.fst) w {}, none) := by
  induction ms using List.reverseRecOn with
  | nil => simp [ofMembers, copyFields_nil]
  | append_singleton ms m ih =>
    have hprev := ih fun x hx => hsub x (List.mem_append_left _ hx)
    rw [ofMembers] at hprev
    obtain ⟨k, v⟩ := m
    have hread := readMember_wire ht hg hms'
      (hsub _ (List.mem_append_right _ (List.mem_singleton_self (k, v))))
    simp only [ofMembers, List.foldl_append, hprev, List.foldl_cons, List.foldl_nil, hread,
      copyFields_copyFields, List.map_append, List.map_cons, List.map_nil]

/-- A list of members of the wire form of `w` that names every field reads as `w`. -/
theorem ofMembers_eq_of_wire {w : WorkItem} (ht : w.testIds.isSome) (hg : w.targets.isSome)
    {ms' : List (String × Json.Value)} (hms' : w.toJson = .object ms')
    {ms : List (String × Json.Value)} (hsub : ∀ m ∈ ms, m ∈ ms')
    (hall : ∀ p ∈ Ticket.members, p.1 ∈ ms.map Prod.fst) : ofMembers ms = (w, none) := by
  rw [ofMembers_of_wire ht hg hms' ms hsub, copyFields_of_members hall]

end WorkItem

namespace Ticket

open Json (readWhole namesField)

/-- The wire form of an item with both lists present breaks no rule of the schema. -/
theorem check_toJson_of_isSome {w : WorkItem} (ht : w.testIds.isSome) (hg : w.targets.isSome) :
    check w.toJson = [] := by
  obtain ⟨xs, hxs⟩ := Option.isSome_iff_exists.mp ht
  obtain ⟨ys, hys⟩ := Option.isSome_iff_exists.mp hg
  exact check_toJson hxs hys

/-- An object that passes the schema looks up, under every name, what the wire form of an item
with both lists present does. -/
theorem checked_values {ms : List (String × Json.Value)} (hc : check (.object ms) = []) :
    ∃ w : WorkItem, w.testIds.isSome ∧ w.targets.isSome ∧
      ∀ k, (Json.Value.object ms).get? k = w.toJson.get? k := by
  -- the value under each name of the schema, of that member's kind
  have text : ∀ name, (name, MemberKind.text) ∈ members →
      ∃ s, (Json.Value.object ms).get? name = some (.string s) := fun name hp => by
    obtain ⟨v, hv, hk⟩ := checked_get hc hp
    obtain ⟨s, rfl⟩ := checkMember_text_eq_nil.mp hk
    exact ⟨s, hv⟩
  have texts : ∀ name, (name, MemberKind.texts) ∈ members →
      ∃ xs, (Json.Value.object ms).get? name = some (Json.Value.strs xs) := fun name hp => by
    obtain ⟨v, hv, hk⟩ := checked_get hc hp
    obtain ⟨xs, rfl⟩ := checkMember_texts_eq_nil.mp hk
    exact ⟨xs, hv⟩
  have flag : ∀ name, (name, MemberKind.flag) ∈ members →
      ∃ b, (Json.Value.object ms).get? name = some (.bool b) := fun name hp => by
    obtain ⟨v, hv, hk⟩ := checked_get hc hp
    obtain ⟨b, rfl⟩ := checkMember_flag_eq_nil.mp hk
    exact ⟨b, hv⟩
  obtain ⟨tag, htag⟩ := text "tag" (by simp [members])
  obtain ⟨tests, htests⟩ := texts "test_set" (by simp [members])
  obtain ⟨parallel, hparallel⟩ := flag "parallel" (by simp [members])
  obtain ⟨ticket, hticket⟩ := text "te_ticket" (by simp [members])
  obtain ⟨targets, htargets⟩ := texts "targets" (by simp [members])
  obtain ⟨build, hbuild⟩ := text "build" (by simp [members])
  obtain ⟨buildType, hbuildType⟩ := text "build_type" (by simp [members])
  obtain ⟨testPlan, htestPlan⟩ := text "test_plan" (by simp [members])
  refine ⟨⟨tag, some tests, parallel, ticket, some targets, build, buildType, testPlan⟩, rfl, rfl,
    fun k => ?_⟩
  by_cases hk : k ∈ members.map Prod.fst
  · simp only [members, List.map_cons, List.map_nil, List.mem_cons, List.not_mem_nil,
      or_false] at hk
    rcases hk with rfl | rfl | rfl | rfl | rfl | rfl | rfl | rfl <;>
      simp only [htag, htests, hticket, htargets, hbuild, hbuildType, htestPlan, hparallel] <;>
      simp [WorkItem.toJson, WorkItem.listValue, Json.Value.get?]
  · -- no member has a name outside the schema, and neither has the wire form
    obtain ⟨-, hnames, -⟩ := (check_eq_nil_iff ms).mp hc
    have hms : k ∉ ms.map Prod.fst := fun hmem => by
      obtain ⟨m, hm, rfl⟩ := List.mem_map.mp hmem
      exact hk (hnames m hm)
    rw [Json.get?_eq_none_iff.mpr hms, WorkItem.toJson_get?_eq_none _ hk]

/-- An object that names each member once passes the schema and reads as an item exactly when
its members are the wire form of that item, both lists present, in some order. -/
theorem checked_iff_perm {ms : List (String × Json.Value)} (hnd : (ms.map Prod.fst).Nodup)
    (w : WorkItem) :
    (check (.object ms) = [] ∧ WorkItem.ofMembers ms = (w, none)) ↔
      w.testIds.isSome ∧ w.targets.isSome ∧ ∃ ms', w.toJson = .object ms' ∧ ms.Perm ms' := by
  constructor
  · rintro ⟨hc, hread⟩
    -- the object looks up what the wire form of some item does, so it is that form reordered
    obtain ⟨w₀, ht, hg, hget⟩ := checked_values hc
    obtain ⟨ms', hms'⟩ : ∃ ms', w₀.toJson = .object ms' := ⟨_, rfl⟩
    have hperm : ms.Perm ms' :=
      Json.perm_of_get?_eq hnd (WorkItem.toJson_names_nodup hms') fun k => by rw [hget k, hms']
    obtain ⟨hpresent, -, -⟩ := (check_eq_nil_iff ms).mp hc
    have hw₀ := WorkItem.ofMembers_eq_of_wire ht hg hms' (fun m hm => hperm.mem_iff.mp hm) hpresent
    rw [hread, Prod.mk.injEq] at hw₀
    obtain rfl := hw₀.1
    exact ⟨ht, hg, ms', hms', hperm⟩
  · rintro ⟨ht, hg, ms', hms', hperm⟩
    -- the wire form passes the schema, and reordering it changes no lookup
    have hwire := check_toJson_of_isSome ht hg
    rw [hms'] at hwire
    obtain ⟨hpresent', hnames', hkinds'⟩ := (check_eq_nil_iff ms').mp hwire
    have hnames : ∀ n, n ∈ ms.map Prod.fst ↔ n ∈ ms'.map Prod.fst :=
      fun n => (hperm.map Prod.fst).mem_iff
    have hpresent : ∀ p ∈ members, p.1 ∈ ms.map Prod.fst :=
      fun p hp => (hnames _).mpr (hpresent' p hp)
    refine ⟨(check_eq_nil_iff ms).mpr ⟨hpresent, fun m hm => hnames' m (hperm.mem_iff.mp hm), ?_⟩,
      WorkItem.ofMembers_eq_of_wire ht hg hms' (fun m hm => hperm.mem_iff.mp hm) hpresent⟩
    intro p hp v hv
    rw [Json.get?_eq_of_perm hnd hperm] at hv
    exact hkinds' p hp v hv

/-- The schema sees the first value of a message only: the text of a ticket followed by any
octet other than a blank passes it, and the message is then refused as a whole at that octet. -/
theorem decode_trailing {w : WorkItem} (ht : w.testIds.isSome) (hg : w.targets.isSome)
    {b : UInt8} (hb : Json.isBlank b = false) (rest : List UInt8) :
    validate (Utf8.encode (w.toJson.write true) ++ b :: rest) = .ok () ∧
      decode (Utf8.encode (w.toJson.write true) ++ b :: rest) =
        .error (.malformed (Json.refuse b rest .afterTopLevel)) := by
  have hvalid : validate (Utf8.encode (w.toJson.write true) ++ b :: rest) = .ok () := by
    simp [validate, Json.readFirst_write w.toJson_numberFree true, check_toJson_of_isSome ht hg]
  refine ⟨hvalid, ?_⟩
  rw [decode, hvalid]
  dsimp only
  rw [Json.readWhole_write_append w.toJson_numberFree true hb rest]

/-- What the ticket reader accepts. A message decodes exactly when the whole of it is one JSON
object and either the object passes the schema and its members read as the item without a
mismatch, or it breaks the schema and names the stop ticket: every member whose name folds to
`te_ticket` holds a text or `null` and the last of them holds `STOP`; then the item is the stop
message. An object that names each member once passes and reads as an item exactly when its
members are that item's wire form in some order. The schema is checked on the first value only,
so a ticket followed by more than blanks passes it and is then refused when read whole. -/
theorem ticket_decode_accepts (data : List UInt8) (w : WorkItem) :
    (decode data = .ok w ↔ ∃ ms, readWhole data = .ok (.object ms) ∧
      ((check (.object ms) = [] ∧ WorkItem.ofMembers ms = (w, none)) ∨
       (check (.object ms) ≠ [] ∧
        ((∀ m ∈ ms, namesField m.1 "te_ticket" = true → m.2.asText?.isOk = true) ∧
          ((ms.filter fun m => namesField m.1 "te_ticket").map Prod.snd).getLast? =
            some (.string stopTicket)) ∧
        w = WorkItem.stop))) ∧
    (∀ ms : List (String × Json.Value), (ms.map Prod.fst).Nodup →
      (check (.object ms) = [] ∧ WorkItem.ofMembers ms = (w, none) ↔
        w.testIds.isSome ∧ w.targets.isSome ∧ ∃ ms', w.toJson = .object ms' ∧ ms.Perm ms')) ∧
    (w.testIds.isSome → w.targets.isSome → ∀ b rest, Json.isBlank b = false →
      validate (Utf8.encode (w.toJson.write true) ++ b :: rest) = .ok () ∧
      decode (Utf8.encode (w.toJson.write true) ++ b :: rest) =
        .error (.malformed (Json.refuse b rest .afterTopLevel))) := by
  refine ⟨?_, fun ms hnd => checked_iff_perm hnd w,
    fun ht hg b rest hb => decode_trailing ht hg hb rest⟩
  simp only [decode_eq_ok_iff, probeTicket_eq_stop_iff]

/-- The one member of this message is `TE_TICKET`, not `te_ticket`, so the message breaks the
schema; it still reads as the stop message, as member names are compared without case. -/
theorem upper_case_ticket_stops :
    (∃ e, validate (Utf8.encode ((Json.Value.object [("TE_TICKET", .string stopTicket)]).write
      true)) = .error e) ∧
    decode (Utf8.encode ((Json.Value.object [("TE_TICKET", .string stopTicket)]).write true)) =
      .ok WorkItem.stop := by
  have hread : readWhole (Utf8.encode ((Json.Value.object [("TE_TICKET", .string stopTicket)]).write
      true)) = .ok (.object [("TE_TICKET", .string stopTicket)]) :=
    Json.readWhole_write rfl true
  have hcheck : check (.object [("TE_TICKET", .string stopTicket)]) ≠ [] := by
    intro hc
    obtain ⟨hpresent, -, -⟩ := (check_eq_nil_iff _).mp hc
    simpa using hpresent ("tag", .text) (by simp [members])
  have hprobe : probeTicket [("TE_TICKET", .string stopTicket)] = (some stopTicket, true) := by
    have hname : namesField "TE_TICKET" "te_ticket" = true := by decide
    simp [probeTicket, hname]
  refine ⟨⟨_, by rw [validate_of_readWhole hread, if_neg hcheck]⟩, ?_⟩
  exact (decode_eq_ok_iff _ _).mpr ⟨_, hread, .inr ⟨hcheck, hprobe, rfl⟩⟩

end Ticket

end TestDispatch
