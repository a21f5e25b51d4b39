import QueryDesk.Proofs.Desk.Timely

/-!
# The context of a question

A question is put to the agent together with earlier questions and their statements
(`Office.exists_asksInContext`).  Of the newest queries that the setting allows, the one that was just
opened for the question takes a place and has no statement yet, so there is room for one less; of
these, the ones that never came to a statement drop out.  A model is told of the first three that are
left (`Prompt.instructions_eq_quoting`).

All this is for a clock that always goes on: then the newest queries are those that were opened last
(`Store.InStrictTime.history_eq_reverse`).
-/

set_option autoImplicit false

namespace QueryDesk

/-! ## What is quoted of a query -/

namespace QueryRecord

/-- The question of a record and the statement that it came to, whether that could be run or not. -/
def quotation? (r : QueryRecord) : Option (Text × Text) :=
  match r.outcome with
  | .success (glyph :: statement) _ _ _ => some (r.question, glyph :: statement)
  | .error _ _ (some (glyph :: statement)) _ => some (r.question, glyph :: statement)
  | _ => none

theorem quotation?_eq (r : QueryRecord) : r.quotation? =
    (r.outcome.statement?.filter (!·.isEmpty)).map fun statement => (r.question, statement) := by
  obtain ⟨id, question, createdAt, outcome⟩ := r
  cases outcome with
  | processing => rfl
  | success statement interpretation rows milliseconds => cases statement <;> rfl
  | error message milliseconds statement interpretation =>
    rcases statement with _ | _ | ⟨glyph, statement⟩ <;> rfl

/-- What is quoted has a statement. -/
theorem ne_nil_of_quotation? {r : QueryRecord} {quoted : Text × Text}
    (h : r.quotation? = some quoted) : quoted.2 ≠ [] := by
  rw [quotation?_eq, Option.map_eq_some_iff] at h
  obtain ⟨statement, hstatement, rfl⟩ := h
  simpa using (Option.filter_eq_some_iff.mp hstatement).2

end QueryRecord

namespace Prompt

/-- The lines that quote some questions, under a heading and with their numbers. -/
def quotingLines : List (Text × Text) → List Text
  | [] => []
  | quoted => [[], Text.of "Recent query patterns for context:"] ++
    ((quoted.zipIdx 1).map fun p => exampleLines p.2 p.1).flatten

/-- The system message that quotes some questions, and all of them. -/
def quoting (quoted : List (Text × Text)) : Text :=
  Text.join lineBreak (schema.map Text.of ++ quotingLines quoted ++ [[]] ++ task.map Text.of)

/-- **A model is told of the first three questions**, if all of them have statements. -/
theorem instructions_eq_quoting {previous : List (Text × Text)} (h : ∀ p ∈ previous, p.2 ≠ []) :
    instructions previous = quoting (previous.take 3) := by
  have hexamples : examples previous = previous.take 3 := by
    have hall : previous.filter (fun p => !p.2.isEmpty) = previous :=
      List.filter_eq_self.mpr fun p hp => by simpa using h p hp
    rw [examples, hall, mostExamples]
  have hlines : contextLines previous = quotingLines (previous.take 3) := by
    rw [contextLines, hexamples]
    cases previous.take 3 <;> rfl
  rw [instructions, quoting, hlines]

end Prompt

/-! ## What is quoted for a question -/

namespace Store

variable {s : Store}

/-- What is quoted of the newest queries, so many of them. -/
def quotations (s : Store) (count : Int) : List (Text × Text) :=
  (s.records.reverse.take count.toNat).filterMap QueryRecord.quotation?

theorem ne_nil_of_mem_quotations {count : Int} {quoted : Text × Text}
    (h : quoted ∈ s.quotations count) : quoted.2 ≠ [] := by
  obtain ⟨r, -, hr⟩ := List.mem_filterMap.mp h
  exact QueryRecord.ne_nil_of_quotation? hr

/-- A query that was just opened takes a place among the newest ones, and nothing is quoted of it. -/
theorem quotations_add (s : Store) (id question : Text) (time : Timestamp) (count : Int) :
    (s.add id question time).2.quotations count = s.quotations (count - 1) := by
  rw [quotations, quotations, add, List.reverse_concat]
  rcases Int.lt_or_le 0 count with hpos | hneg
  · have hcount : count.toNat = (count - 1).toNat + 1 := by omega
    rw [hcount, List.take_succ_cons, List.filterMap_cons]
    rfl
  · have hcount : count.toNat = 0 := by omega
    have hless : (count - 1).toNat = 0 := by omega
    rw [hcount, hless]
    rfl

end Store

namespace Office

variable {office : Office} {d : Desk}

/-- The context of a question is what is quoted of the newest queries. -/
theorem context_of_inStrictTime (h : d.store.InStrictTime) :
    (office.context.perform d).1 = .ok (d.store.quotations office.contextQueries) := by
  have hquotation : (fun r : QueryRecord => (r.outcome.statement?.filter (!·.isEmpty)).map
      fun statement => (r.question, statement)) = QueryRecord.quotation? :=
    funext fun r => r.quotation?_eq.symm
  rw [perform_context, Store.recent, h.history_eq_reverse, hquotation]
  rfl

/-- What a model is asked when it is told of some earlier questions. -/
def modelRequest (question : Text) (quoted : List (Text × Text)) (tokens : Int) : ModelRequest :=
  ⟨[Prompt.message "system" (Prompt.quoting quoted), Prompt.message "user" question], some tokens,
    true⟩

/-- Says with which inquiry a question comes to the agent, and that this is all that it is asked. -/
structure AsksInContext (office : Office) (d : Desk) (question : Text) (inquiry : Inquiry) :
    Prop where
  /-- The query of the question is a new one. -/
  fresh : inquiry.queryId ∉ d.store.ids
  asks : inquiry.question = question
  /-- One place among the newest queries is taken by the new one. -/
  previous : inquiry.previous = d.store.quotations (office.contextQueries - 1)
  /-- The agent is asked when the query was opened, and what it makes of the inquiry decides how the
  question is answered. -/
  asked : ∃ (time : Timestamp) (asked : Desk) (started : Binary64),
    asked.store = (d.store.add inquiry.queryId question time).2 ∧
    (∀ earlier ∈ d.store.times, earlier.Precedes time) ∧
    (office.submit question).perform d =
      (office.conclude office.executor inquiry.queryId started
        ((office.agent inquiry).perform asked).1).perform ((office.agent inquiry).perform asked).2
  /-- A model is told of the first three of the earlier questions. -/
  told : ∀ (client : ModelClient) (sink : Option Sink) (tokens : Int),
    office.agent = Agent.main (some client) sink tokens → ∀ asked : Desk,
      let answer := (client (modelRequest question (inquiry.previous.take 3) tokens)).perform asked
      ∃ journal, (office.agent inquiry).perform asked =
        (Agent.conclusion question answer.1, { answer.2 with journal })

/-- At a desk that keeps time, and whose clock has not run down, the newest queries are the ones that
were opened last. -/
theorem exists_asksInContext_of_keepsTime (hd : d.KeepsTime) (hleft : ¬d.HasRunDown)
    (question : Text) : ∃ inquiry, office.AsksInContext d question inquiry := by
  obtain ⟨time, d', hcreate, hstore, hshown⟩ := d.perform_create_shows question
  generalize hid : (d.ids.fresh d.store.ids).1 = id at hcreate hstore
  have hgoes : (d.store.times ++ time :: d'.shows).Pairwise Timestamp.Precedes := by
    rw [← hshown.next.resolve_right fun h => hleft ⟨time, h.1⟩]
    exact hd.goesOn.resolve_left hleft
  have hstrict : d'.store.InStrictTime := by
    refine List.pairwise_map.mp (?_ : d'.store.times.Pairwise Timestamp.Precedes)
    rw [hstore, Store.times_add]
    exact hgoes.sublist (List.Sublist.append_left (by simp) _)
  have hcontext : (office.context.perform d').1 =
      .ok (d'.store.quotations office.contextQueries) := context_of_inStrictTime hstrict
  rw [hstore, Store.quotations_add] at hcontext
  have hsubmit : (office.submit question).perform d = (office.process id question).perform d' :=
    Action.perform_bind_of_ok hcreate _
  refine ⟨⟨id, question, d.store.quotations (office.contextQueries - 1)⟩,
    hid ▸ d.ids.fresh_not_mem d.store.ids, rfl, rfl,
    ⟨time, office.deskAsked id question d', d'.stopwatch.current, ?_, ?_, ?_⟩, ?_⟩
  · rw [store_deskAsked, hstore]
  · exact fun earlier hearlier =>
      (List.pairwise_append.mp hgoes).2.2 earlier hearlier time List.mem_cons_self
  · rw [hsubmit]
    exact office.perform_process_of_answers ⟨_, hcontext, rfl⟩
  · intro client sink tokens hagent asked
    have hstatements : ∀ p ∈ d.store.quotations (office.contextQueries - 1), p.2 ≠ [] :=
      fun _ => Store.ne_nil_of_mem_quotations
    rw [hagent, modelRequest, ← Prompt.instructions_eq_quoting hstatements]
    exact Agent.perform_byModel client sink tokens _ asked rfl

/-- An answer of a model that is this statement. -/
def modelAnswer (statement : String) : Reply :=
  .ok (.object (Row.of [("output_text", .text (Text.of ("\x7b\"sql\": \"" ++ statement ++ "\"\x7d")))]))

/-- A desk with a clock that shows one day after the other, at which a model is going to give a
statement that can be run, then one that cannot, and then nothing. -/
def threeDaysDesk : Desk :=
  { Desk.empty with
    clock := some ⟨.midnight ⟨2024, 6, 15⟩, [.midnight ⟨2024, 6, 16⟩, .midnight ⟨2024, 6, 17⟩,
      .midnight ⟨2024, 6, 18⟩, .midnight ⟨2024, 6, 19⟩, .midnight ⟨2024, 6, 20⟩]⟩
    replies := ⟨modelAnswer "SELECT * FROM invoices", [modelAnswer "SELECT * FROM machines",
      .error (.foreign (Text.of "RuntimeError") (Text.of "model offline"))]⟩ }

/-- Three questions: one is answered, one comes to a statement only, and one comes to nothing. -/
def threeQuestions : List Errand :=
  [.submit (Text.of "Show invoices"), .submit (Text.of "Show machines"),
    .submit (Text.of "Show work")]

theorem shows_threeQuestions :
    (modelOffice.afterErrands threeDaysDesk threeQuestions).shows.length = 2 := by
  decide +kernel

end Office
end QueryDesk
