import TestDispatch.Proofs.Json.Roundtrip
import TestDispatch.Ticket.Codec
/-!
# A written ticket reads back as its item

`Ticket.encode` writes a work item as the JSON text of its wire form, with its lists present and
its build named (`normalize`), and refuses an item other than the stop message without tag or
tests. `Ticket.decode` checks the first JSON value of a message against the ticket schema and
then reads the whole message as an item. Main result:

* `ticket_round_trip`: writing fails exactly for an item other than the stop message that lacks
  a tag or tests, with an invalid-ticket error, and every text it writes decodes as the
  normalized item.

Underneath, `Ticket.decode_write`: the wire form of an item with both lists present holds no
number, so the JSON reader reads its text back; it breaks no rule of the schema
(`Ticket.check_toJson`), and reading its members in order sets every field again
(`WorkItem.ofMembers_toJson`).
-/

namespace TestDispatch

namespace WorkItem

/-- A list of texts as JSON reads back as the list. -/
theorem asTexts_strs (xs : List String) : (Json.Value.strs xs).asTexts? = .ok (some (some xs)) := by
  rw [Json.Value.strs, Json.Value.asTexts?]
  split
  · rename_i bad hbad
    have hsome := List.find?_some hbad
    obtain ⟨x, -, rfl⟩ := List.mem_map.mp (List.mem_of_find?_eq_some hbad)
    simp at hsome
  · simp [Function.comp_def]

theorem listValue_numberFree (l : Option (List String)) : (listValue l).numberFree = true := by
  cases l with
  | none => rfl
  | some xs =>
    induction xs with
    | nil => rfl
    | cons x xs ih =>
      simpa [listValue, Json.Value.strs, Json.Value.numberFree,
        Json.Value.elementsNumberFree] using ih

/-- The wire form of an item holds no number. -/
theorem toJson_numberFree (w : WorkItem) : w.toJson.numberFree = true := by
  simp [toJson, Json.Value.numberFree, Json.Value.membersNumberFree, listValue_numberFree]

/-- Reading the members of the wire form of an item with both lists present, in order, sets
every field again, and no member is of a wrong kind. -/
theorem ofMembers_toJson {w : WorkItem} {xs ys : List String} (ht : w.testIds = some xs)
    (hg : w.targets = some ys) {ms : List (String × Json.Value)} (hms : w.toJson = .object ms) :
    ofMembers ms = (w, none) := by
  simp only [toJson, Json.Value.object.injEq] at hms
  subst hms
  -- each member name selects its own field, decided on the literal names
  simp +decide [ofMembers, readMember, ht, hg, listValue, asTexts_strs, Json.Value.asText?,
    Json.Value.asFlag?]
  cases w
  simp only at ht hg
  simp [ht, hg]

end WorkItem


namespace Ticket

/-- A list of texts breaks no rule for a member of texts. -/
theorem checkMember_strs (name : String) (xs : List String) :
    checkMember name .texts (Json.Value.strs xs) = [] := by
  rw [Json.Value.strs, checkMember, List.filterMap_eq_nil_iff]
  rintro ⟨item, i⟩ hmem
  obtain ⟨x, -, rfl⟩ : ∃ x, x ∈ xs ∧ Json.Value.string x = item := by
    simpa using List.fst_mem_of_mem_zipIdx hmem
  rfl

/-- The wire form of an item with both lists present breaks no rule of the ticket schema. -/
theorem check_toJson {w : WorkItem} {xs ys : List String} (ht : w.testIds = some xs)
    (hg : w.targets = some ys) : check w.toJson = [] := by
  simp +decide [check, WorkItem.toJson, ht, hg, WorkItem.listValue, distinctNames, members,
    Json.Value.get?, checkMember_strs, checkMember.eq_1, checkMember.eq_3]

/-- The text of the wire form of an item with both lists present passes the schema check. -/
theorem validate_write {w : WorkItem} {xs ys : List String} (ht : w.testIds = some xs)
    (hg : w.targets = some ys) : validate (Utf8.encode (w.toJson.write true)) = .ok () := by
  have hfirst := Json.readFirst_write w.toJson_numberFree true []
  rw [List.append_nil] at hfirst
  simp [validate, hfirst, check_toJson ht hg]

/-- The text of the wire form of an item with both lists present decodes as the item. -/
theorem decode_write {w : WorkItem} {xs ys : List String} (ht : w.testIds = some xs)
    (hg : w.targets = some ys) : decode (Utf8.encode (w.toJson.write true)) = .ok w := by
  obtain ⟨ms, hms⟩ : ∃ ms, w.toJson = .object ms := ⟨_, rfl⟩
  rw [decode, validate_write ht hg]
  dsimp only
  rw [Json.readWhole_write w.toJson_numberFree true, hms]
  dsimp only
  rw [WorkItem.ofMembers_toJson ht hg hms]

/-- The wire form of a normalized item passes the check that writing makes, so writing hands
out its text. -/
theorem encode_of_complete {w : WorkItem} (hok : w.isStop = true ∨ w.tag ≠ "" ∧ w.tests ≠ []) :
    encode w = .ok ((normalize w).toJson.write true) := by
  have hvalid := validate_write (w := normalize w) rfl rfl
  rw [← Utf8.toUTF8_toList] at hvalid
  -- neither refusal applies, and the check passes
  have htag : (!w.isStop && decide (w.tag = "")) = false := by
    rcases hok with hs | ⟨ht, -⟩ <;> simp [*]
  have htests : (!w.isStop && w.tests.isEmpty) = false := by
    rcases hok with hs | ⟨-, hx⟩ <;> simp [*]
  simp only [encode, htag, htests, Bool.false_eq_true, if_false]
  rw [hvalid]


/-- What writing an item gives: the error of a missing tag, that of missing tests, or the text of
the wire form of the normalized item; the stop message needs neither tag nor tests. -/
theorem encode_cases (w : WorkItem) :
    (w.isStop = false ∧ w.tag = "" ∧ encode w = .error .emptyTag) ∨
    (w.isStop = false ∧ w.tag ≠ "" ∧ w.tests = [] ∧ encode w = .error .emptyTestSet) ∨
    ((w.isStop = true ∨ w.tag ≠ "" ∧ w.tests ≠ []) ∧
      encode w = .ok ((normalize w).toJson.write true)) := by
  cases hs : w.isStop with
  | true => exact .inr (.inr ⟨.inl rfl, encode_of_complete (.inl hs)⟩)
  | false =>
    by_cases ht : w.tag = ""
    · exact .inl ⟨rfl, ht, by simp [encode, hs, ht]⟩
    · by_cases hx : w.tests = []
      · exact .inr (.inl ⟨rfl, ht, hx, by simp [encode, hs, ht, hx]⟩)
      · exact .inr (.inr ⟨.inr ⟨ht, hx⟩, encode_of_complete (.inr ⟨ht, hx⟩)⟩)

/-- Writing a work item fails exactly when it is not the stop message and lacks a tag or tests,
and then with an invalid-ticket error; every text it writes decodes as the item with its lists
present and its build named. -/
theorem ticket_round_trip (w : WorkItem) :
    ((∃ e, encode w = .error e) ↔ w.isStop = false ∧ (w.tag = "" ∨ w.tests = [])) ∧
    (∀ e, encode w = .error e →
      e.message = "invalid ticket: empty tag" ∨ e.message = "invalid ticket: empty test_set") ∧
    ∀ s, encode w = .ok s → decode s.toUTF8.toList = .ok (normalize w) := by
  rcases encode_cases w with ⟨hs, ht, he⟩ | ⟨hs, ht, hx, he⟩ | ⟨hok, he⟩
  · simp [he, hs, ht, TicketError.message, TicketError.detail]
  · simp [he, hs, hx, TicketError.message, TicketError.detail]
  · refine ⟨?_, by simp [he], fun s hs => ?_⟩
    · simp only [he, reduceCtorEq, exists_false, false_iff]
      rintro ⟨hstop, hmiss⟩
      rcases hok with hok | ⟨ht, hx⟩
      · simp [hok] at hstop
      · exact hmiss.elim ht hx
    · -- the normalized item has both lists, so its wire form decodes as it
      obtain rfl : (normalize w).toJson.write true = s := by simpa [he] using hs
      rw [Utf8.toUTF8_toList]
      exact decode_write (w := normalize w) rfl rfl

end Ticket

end TestDispatch
