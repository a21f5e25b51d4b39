import QueryDesk.Model.Answer
import QueryDesk.Proofs.Json.Shown

/-!
# What comes of an answer

An answer that is read gives a statement that begins with `SELECT` in upper case, and a confidence
between zero and one (`generation_of_read`).  One that is not read is refused as a fault of
generation, but for three kinds of answers that nobody is on the watch for (`Answer.Escapes`): their
faults come out as they are (`read_eq_error_iff`).
-/

set_option autoImplicit false

namespace QueryDesk

/-- Says that a number is finite and lies between zero and one. -/
structure Binary64.IsShare (x : Binary64) : Prop where
  isFinite : x.isFinite = true
  nonneg : 0 ≤ x.scaled
  le_one : x.scaled ≤ (Binary64.ofNat 1).scaled

namespace Answer

open Value

variable {answer v : Value} {fields : Row} {fault : Fault}

/-! ## Confidences -/

instance (x : Binary64) : Decidable x.IsShare :=
  decidable_of_iff (x.isFinite = true ∧ 0 ≤ x.scaled ∧ x.scaled ≤ (Binary64.ofNat 1).scaled)
    ⟨fun ⟨h, h₀, h₁⟩ => ⟨h, h₀, h₁⟩, fun h => ⟨h.isFinite, h.nonneg, h.le_one⟩⟩

theorem isShare_usualConfidence : usualConfidence.IsShare := by decide +kernel

theorem lt_eq_of_isFinite {x y : Binary64} (hx : x.isFinite = true) (hy : y.isFinite = true) :
    x.lt y = (compare x.scaled y.scaled == .lt) := by
  cases x with
  | nan => cases hx
  | infinite => cases hx
  | finite =>
    cases y with
    | nan => cases hy
    | infinite => cases hy
    | finite => rfl

theorem isShare_clamp (x : Binary64) : (clamp x).IsShare := by
  have hzero : (Binary64.zero false).IsShare := by decide +kernel
  have hone : (Binary64.ofNat 1).IsShare := by decide +kernel
  have hzero' : (Binary64.zero false).scaled = 0 := by decide +kernel
  unfold clamp
  by_cases hx : x.isFinite = true
  · rw [hx, lt_eq_of_isFinite hx hzero.isFinite, lt_eq_of_isFinite hone.isFinite hx,
      Bool.not_true, if_neg Bool.false_ne_true]
    split
    · exact hzero
    · next hlow =>
      split
      · exact hone
      · next hhigh =>
        rw [beq_iff_eq, compare_lt_iff_lt, not_lt] at hlow hhigh
        exact ⟨hx, hzero' ▸ hlow, hhigh⟩
  · rw [Bool.eq_false_iff.mpr hx, Bool.not_false, if_pos rfl]
    exact isShare_usualConfidence

theorem isShare_elim (x : Option Binary64) : (x.elim usualConfidence clamp).IsShare := by
  cases x with
  | none =>
    rw [Option.elim_none]
    exact isShare_usualConfidence
  | some y =>
    rw [Option.elim_some]
    exact isShare_clamp y

/-- Every confidence that is read lies between zero and one. -/
theorem isShare_of_confidence {x : Binary64} (h : confidence v = .ok x) : x.IsShare := by
  unfold confidence at h
  split at h
  · next n =>
    cases hn : Binary64.ofInt? n with
    | none =>
      rw [hn, Option.elim_none] at h
      cases h
    | some y =>
      rw [hn, Option.elim_some] at h
      exact Except.ok.inj h ▸ isShare_clamp y
  · exact Except.ok.inj h ▸ isShare_clamp _
  · exact Except.ok.inj h ▸ isShare_elim _
  · exact Except.ok.inj h ▸ isShare_usualConfidence

/-- The only values without a confidence are whole numbers too large for a real one. -/
theorem confidence_eq_error_iff : confidence v = .error fault ↔
    fault = .wholeTooLargeForReal ∧ ∃ n, v = .whole n ∧ Binary64.ofInt? n = none := by
  constructor
  · intro h
    unfold confidence at h
    split at h
    · next n =>
      cases hn : Binary64.ofInt? n with
      | none =>
        rw [hn, Option.elim_none] at h
        exact ⟨(Except.error.inj h).symm, n, rfl, hn⟩
      | some y =>
        rw [hn, Option.elim_some] at h
        cases h
    · cases h
    · cases h
    · cases h
  · rintro ⟨rfl, n, rfl, hn⟩
    rw [confidence, hn, Option.elim_none]

/-! ## Objects -/

/-- Says that a search gives results of some kind, or ends at a numeral that is too long. -/
def Searches {α : Type} (post : α → Prop) : Except Fault α → Prop
  | .ok found => post found
  | .error fault => ∃ count, fault = .numeralTooLong count

theorem Searches.bind {α β : Type} {post : α → Prop} {post' : β → Prop} {x : Except Fault α}
    {f : α → Except Fault β} (hx : Searches post x) (hf : ∀ a, post a → Searches post' (f a)) :
    Searches post' (x >>= f) := by
  cases x with
  | ok a => exact hf a hx
  | error fault => exact hx

/-- The objects in a text have fields that can be shown. -/
theorem searches_scan (t : Text) :
    Searches (fun rows => ∀ row ∈ rows, AreShowable row) (scan t) := by
  have hfields : ∀ {t behind : Text} {fields : Row} {more : List Row},
      Json.readFront t = .ok (.record fields, behind) → (∀ row ∈ more, AreShowable row) →
      ∀ row ∈ fields :: more, AreShowable row := by
    intro t behind fields more hread hmore
    have hshown := Json.isShowable_of_readFront hread
    exact List.forall_mem_cons.mpr ⟨areShowable_of_record hshown, hmore⟩
  fun_induction scan t with
  | case1 => exact fun _ hrow => (List.not_mem_nil hrow).elim
  | case2 rest hbad ih => exact ih
  | case3 rest count hlong => exact ⟨count, rfl⟩
  | case4 rest v behind _ hv hlt ih =>
    refine ih.bind fun more hmore => ?_
    cases v with
    | record fields => exact hfields hv hmore
    | _ => exact hmore
  | case5 rest v behind _ hv hge ih =>
    refine ih.bind fun more hmore => ?_
    cases v with
    | record fields => exact hfields hv hmore
    | _ => exact hmore
  | case6 g rest hg ih => exact ih

/-- So has the first object of some texts. -/
theorem searches_firstObject (texts : List Text) : Searches AreShowable (firstObject texts) := by
  induction texts with
  | nil => exact fun _ hp => (List.not_mem_nil hp).elim
  | cons t rest ih =>
    rw [firstObject]
    refine (searches_scan _).bind fun found hfound => ?_
    cases found with
    | nil => exact ih
    | cons row more => exact hfound row List.mem_cons_self

theorem isShowable_field (h : AreShowable fields) (name : Text) :
    (Value.field fields name).IsShowable := by
  rw [Value.field, Value.lookup]
  cases hfind : fields.find? (·.1 == name) with
  | none => exact ⟨_, by rw [Option.map_none, Option.getD_none]; rfl⟩
  | some p => exact h p (List.mem_of_find?_eq_some hfind)

/-! ## Answers -/

/-- Says that a value can be gone through item by item. -/
def HasItems : Value → Prop
  | .list _ | .tuple _ | .text _ | .record _ => True
  | _ => False

/-- The faults of an answer that come out as they are. -/
inductive Escapes (answer : Value) : Fault → Prop
  /-- The output of the answer is given and cannot be gone through. -/
  | output {v : Value} (h : (answer.part (Text.of "output")).given? = some v)
    (hv : ¬HasItems v) : Escapes answer (.notIterable v.kindName)
  /-- A numeral that is too long stands where an object is looked for. -/
  | numeral {ts : List Text} {count : Nat} (hts : texts answer = .ok ts)
    (h : firstObject ts = .error (.numeralTooLong count)) : Escapes answer (.numeralTooLong count)
  /-- The statement is a `SELECT` and the confidence is too large a whole number. -/
  | confidence {ts : List Text} {fields : Row} {sql : Text} {n : Int} (hts : texts answer = .ok ts)
    (hfields : firstObject ts = .ok fields)
    (hsql : writtenIfGiven (Value.field fields (Text.of "sql")) = .ok sql)
    (hselect : Text.of "SELECT" <+: sql.trim.upper)
    (hn : Value.field fields (Text.of "confidence") = .whole n) (h : Binary64.ofInt? n = none) :
    Escapes answer .wholeTooLargeForReal

theorem ofOutput_eq_error_iff : ofOutput v = .error fault ↔
    ∃ w, v.given? = some w ∧ ¬HasItems w ∧ fault = .notIterable w.kindName := by
  unfold ofOutput
  cases hw : v.given? with
  | none => simp
  | some w => cases w <;> simp [HasItems, eq_comm]

theorem texts_eq_error_iff : texts answer = .error fault ↔
    ∃ w, (answer.part (Text.of "output")).given? = some w ∧ ¬HasItems w ∧
      fault = .notIterable w.kindName := by
  rw [texts, Except.bind_eq_error_iff, ofOutput_eq_error_iff]
  simp

theorem exists_writtenIfGiven (h : v.IsShowable) : ∃ t, writtenIfGiven v = .ok t := by
  rw [writtenIfGiven, Value.given?]
  split
  · exact h.exists_written
  · exact ⟨[], rfl⟩

/-- What becomes of the fields of an answer: they are refused for their statement, or it is theirs and
the confidence decides. -/
theorem read_of_fields {ts : List Text} (hts : texts answer = .ok ts)
    (hfields : firstObject ts = .ok fields) : ∃ sql interpretation,
    writtenIfGiven (Value.field fields (Text.of "sql")) = .ok sql ∧
      ((¬Text.of "SELECT" <+: sql.trim.upper ∧ read answer = .error (.generation noStatement)) ∨
        (Text.of "SELECT" <+: sql.trim.upper ∧
          read answer = (confidence (Value.field fields (Text.of "confidence"))).map
            fun c => ⟨sql.trim, interpretation, c, .model⟩)) := by
  have hshown : AreShowable fields := by
    have hsearches := searches_firstObject ts
    rwa [hfields] at hsearches
  obtain ⟨sql, hsql⟩ := exists_writtenIfGiven (isShowable_field hshown (Text.of "sql"))
  have hgiven : ((Value.field fields (Text.of "interpretation")).given?.getD
      usualInterpretation).IsShowable := by
    rw [Value.given?]
    split
    · exact isShowable_field hshown _
    · exact ⟨_, rfl⟩
  obtain ⟨interpretation, hinterpretation⟩ := hgiven.exists_written
  refine ⟨sql, interpretation, hsql, ?_⟩
  rw [read, hts, Except.ok_bind, hfields, Except.ok_bind, hsql, Except.ok_bind]
  by_cases hselect : (Text.of "SELECT").isPrefixOf sql.trim.upper = true
  · refine .inr ⟨List.isPrefixOf_iff_prefix.mp hselect, ?_⟩
    simp only [hselect, if_true, hinterpretation, Except.ok_bind]
    cases confidence (Value.field fields (Text.of "confidence")) <;> rfl
  · refine .inl ⟨fun h => hselect (List.isPrefixOf_iff_prefix.mpr h), ?_⟩
    simp only [hselect, if_false, Bool.false_eq_true]

/-- An answer is read up to its fields, or it escapes. -/
theorem exists_fields_or_escapes (answer : Value) :
    (∃ ts fields, texts answer = .ok ts ∧ firstObject ts = .ok fields) ∨
      ∃ fault, Escapes answer fault ∧ read answer = .error fault := by
  cases hts : texts answer with
  | error fault =>
    obtain ⟨w, hw, hitems, rfl⟩ := texts_eq_error_iff.mp hts
    exact .inr ⟨_, .output hw hitems, by rw [read, hts]; rfl⟩
  | ok ts =>
    cases hfields : firstObject ts with
    | ok fields => exact .inl ⟨ts, fields, rfl, hfields⟩
    | error fault =>
      obtain ⟨count, rfl⟩ : Searches AreShowable (.error fault) := hfields ▸ searches_firstObject ts
      exact .inr ⟨_, .numeral hts hfields, by rw [read, hts, Except.ok_bind, hfields]; rfl⟩

/-- **What is read from an answer**: a statement without outer blanks that begins with `SELECT` in
upper case, and a confidence between zero and one. -/
theorem generation_of_read {g : Generation} (h : read answer = .ok g) :
    (∃ sql : Text, g.statement = sql.trim) ∧ Text.of "SELECT" <+: g.statement.upper ∧
      g.confidence.IsShare := by
  rcases exists_fields_or_escapes answer with ⟨ts, fields, hts, hfields⟩ | ⟨fault, -, hfault⟩
  · obtain ⟨sql, interpretation, -, ⟨-, hread⟩ | ⟨hselect, hread⟩⟩ := read_of_fields hts hfields
    · rw [hread] at h
      cases h
    · rw [hread] at h
      cases hc : confidence (Value.field fields (Text.of "confidence")) with
      | error fault =>
        rw [hc] at h
        cases h
      | ok c =>
        rw [hc] at h
        rw [← Except.ok.inj h]
        exact ⟨⟨sql, rfl⟩, hselect, isShare_of_confidence hc⟩
  · rw [hfault] at h
    cases h

/-- **What an answer that is not read comes to**: a refusal of its statement, or one of the faults
that escape. -/
theorem read_eq_error_iff (hfault : ∀ message, fault ≠ .generation message) :
    read answer = .error fault ↔ Escapes answer fault := by
  constructor
  · intro h
    rcases exists_fields_or_escapes answer with ⟨ts, fields, hts, hfields⟩ | ⟨fault', he, hread⟩
    · obtain ⟨sql, interpretation, hsql, ⟨-, hread⟩ | ⟨hselect, hread⟩⟩ := read_of_fields hts hfields
      · rw [hread] at h
        exact absurd (Except.error.inj h).symm (hfault _)
      · rw [hread] at h
        cases hc : confidence (Value.field fields (Text.of "confidence")) with
        | ok c =>
          rw [hc] at h
          cases h
        | error fault' =>
          obtain ⟨rfl, n, hn, hlarge⟩ := confidence_eq_error_iff.mp hc
          rw [hc] at h
          rw [← Except.error.inj h]
          exact .confidence hts hfields hsql hselect hn hlarge
    · rw [hread] at h
      exact Except.error.inj h ▸ he
  · intro h
    cases h with
    | output hw hitems =>
      rw [read, texts_eq_error_iff.mpr ⟨_, hw, hitems, rfl⟩]
      rfl
    | numeral hts hlong =>
      rw [read, hts, Except.ok_bind, hlong]
      rfl
    | confidence hts hfields hsql hselect hn hlarge =>
      obtain ⟨sql', interpretation, hsql', ⟨hnot, -⟩ | ⟨-, hread⟩⟩ := read_of_fields hts hfields
      · rw [hsql] at hsql'
        exact absurd hselect (Except.ok.inj hsql' ▸ hnot)
      · rw [hread, confidence_eq_error_iff.mpr ⟨rfl, _, hn, hlarge⟩]
        rfl

end Answer
end QueryDesk
