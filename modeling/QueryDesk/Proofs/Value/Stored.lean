import QueryDesk.Value.Order
import QueryDesk.Value.Reading

/-!
# Values that records hold

The fields of the business records are declared as texts, timestamps and whole numbers, some of
which may be missing.  On such values every operation that a statement asks for has a result, as
long as whole numbers are short enough to be written (`Value.IsStored`): a text that looks like a
day or a number and is none is read as neither, and timestamps are only compared once they are on
universal time.

Being at most another value is the one operation that wants more: two whole numbers
(`Value.IsCount`).
-/

set_option autoImplicit false

namespace QueryDesk

namespace Value

/-- Says that a value is of a kind that records are declared to hold, and can be written. -/
def IsStored : Value → Prop
  | null | text _ | timestamp _ => True
  | whole n => Number.isTooLong n = false
  | _ => False

/-- Says that a value is a whole number, if it is given. -/
def IsCount : Value → Prop
  | null | whole _ => True
  | _ => False

variable {v w : Value}

/-- An instant that a value denotes is on universal time. -/
theorem isSome_ahead_of_instant? {t : Timestamp} (h : v.instant? = some t) : t.ahead.isSome := by
  unfold instant? at h
  split at h
  · cases h
    rfl
  · cases h
    rfl
  · split at h
    · obtain ⟨u, -, rfl⟩ := Option.map_eq_some_iff.mp h
      rfl
    · cases h
  · cases h

/-- A value equals a text if it is that text. -/
theorem same_text (v : Value) (t : Text) : v.same (text t) = .ok (v.text? == some t) := by
  cases v <;> rfl

theorem IsStored.exists_number? (hv : v.IsStored) : ∃ d, v.number? = .ok d := by
  cases v with
  | null | timestamp => exact ⟨_, rfl⟩
  | text t =>
    cases h : Decimal.read t with
    | ok d => exact ⟨_, by rw [number?, h]⟩
    | error e => exact ⟨_, by rw [number?, h]⟩
  | whole n =>
    have hn : Number.isTooLong n = false := hv
    exact ⟨_, by rw [number?, hn, if_neg Bool.false_ne_true]⟩
  | _ => exact hv.elim

theorem IsStored.exists_written (hv : v.IsStored) : ∃ t, v.written = .ok t := by
  cases v with
  | null | text | timestamp => exact ⟨_, rfl⟩
  | whole n =>
    have hn : Number.isTooLong n = false := hv
    have hdigits : writeWhole n = .ok (Number.signedDigits n) := by
      rw [writeWhole, hn, if_neg Bool.false_ne_true]
    exact ⟨_, hdigits⟩
  | _ => exact hv.elim

/-- **Stored values stand in an order**, of whatever kinds they are. -/
theorem IsStored.exists_order (hv : v.IsStored) (hw : w.IsStored) : ∃ o, v.order w = .ok o := by
  obtain ⟨d, hd⟩ := hv.exists_number?
  obtain ⟨e, he⟩ := hw.exists_number?
  obtain ⟨s, hs⟩ := hv.exists_written
  obtain ⟨t, ht⟩ := hw.exists_written
  unfold order
  split
  · exact ⟨_, rfl⟩
  · rw [hd, he, hs, ht]
    rcases d with _ | d
    · exact ⟨_, rfl⟩
    · rcases e with _ | e
      · exact ⟨_, rfl⟩
      · exact ⟨_, rfl⟩

/-- **Counts that are given can be compared.** -/
theorem IsCount.exists_atMost (hv : v.IsCount) (hw : w.IsCount) (hv₀ : v ≠ null) (hw₀ : w ≠ null) :
    ∃ b, v.atMost w = .ok b := by
  cases v with
  | null => exact absurd rfl hv₀
  | whole m =>
    cases w with
    | null => exact absurd rfl hw₀
    | whole n =>
      show ∃ b, sizeAtMost false (.ofInt m) (.ofInt n) = .ok b
      unfold sizeAtMost
      split
      · exact ⟨_, rfl⟩
      · exact ⟨_, rfl⟩
    | _ => exact hw.elim
  | _ => exact hv.elim

end Value
end QueryDesk
