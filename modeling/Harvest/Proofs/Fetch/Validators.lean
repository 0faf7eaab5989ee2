import Harvest.Fetch.Outcome
import Harvest.Proofs.Time.HttpDate
import Mathlib
/-!
# Harvest.Proofs.Fetch.Validators

What a conditional fetch sends back, for every response header and every request header.

Setting a field replaces its values by the one given and leaves every other field as it was
(`Http.Header.values_set_self`, `Http.Header.values_set_of_ne`). Applying conditional fields sets
`If-None-Match` to a non-empty entity tag and `If-Modified-Since` to the HTTP date of a time that is
not the zero instant (`Conditional.values_apply_ifNoneMatch`,
`Conditional.values_apply_ifModifiedSince`), and touches no other field.

Main statement (`Outcome.validators_sent`): the validators of an outcome send the first `ETag` value
of its response when it is non-empty, and the time its `Last-Modified` value reads as, written as
an HTTP date that reads back as that time's whole second, unless it reads as the zero instant. A
`Last-Modified` of 0001-01-01 00:00:00 is not sent at all, and one with a fraction of a second is
sent without it (`Outcome.validators_drop_zero_and_fraction`).
-/

namespace Harvest

namespace Http

namespace Header

/-- Setting a name's value makes it the first entry under that name. -/
theorem find?_setValue_self (k v : String) (l : List (String × List String)) :
    (setValue k v l).find? (·.1 == k) = some (k, [v]) := by
  induction l with
  | nil => simp [setValue]
  | cons p rest ih =>
    obtain ⟨j, vs⟩ := p
    unfold setValue
    by_cases hj : j = k
    · subst hj
      simp
    · by_cases hlt : k < j
      · simp [hj, hlt]
      · simp [hj, hlt, ih]

/-- Setting a name's value leaves the entry found under any other name as it was. -/
theorem find?_setValue_of_ne {k k' : String} (hne : k ≠ k') (v : String)
    (l : List (String × List String)) :
    (setValue k v l).find? (·.1 == k') = l.find? (·.1 == k') := by
  induction l with
  | nil => simp [setValue, hne]
  | cons p rest ih =>
    obtain ⟨j, vs⟩ := p
    unfold setValue
    by_cases hj : j = k
    · subst hj
      simp [hne]
    · by_cases hlt : k < j
      · simp [hj, hlt, hne]
      · by_cases hj' : j = k'
        · subst hj'
          simp [hj, hlt]
        · simp [hj, hlt, hj', ih]

/-- After a field is set, its values are the one value set. -/
@[simp] theorem values_set_self (h : Header) (name value : String) :
    (h.set name value).values name = [value] := by
  simp [set, values, find?_setValue_self]

/-- Setting a field leaves the values of a field of another canonical name as they were. -/
theorem values_set_of_ne {name name' : String} (hne : canonicalName name ≠ canonicalName name')
    (h : Header) (value : String) : (h.set name value).values name' = h.values name' := by
  simp only [set, values, find?_setValue_of_ne hne]

end Header

end Http

/-! ## Applying conditional fields -/

namespace Conditional

theorem canonical_ifModifiedSince_ne :
    Http.canonicalName "If-Modified-Since" ≠ Http.canonicalName "If-None-Match" := by
  decide

/-- `If-None-Match` carries a non-empty entity tag, and is left alone otherwise. -/
theorem values_apply_ifNoneMatch (c : Conditional) (r : Http.Header) :
    (c.apply r).values "If-None-Match" =
      if c.etag = "" then r.values "If-None-Match" else [c.etag] := by
  have hims : ∀ h : Http.Header, (if c.ifModifiedSince.isZero then h
      else h.set "If-Modified-Since" c.ifModifiedSince.httpDate).values "If-None-Match" =
      h.values "If-None-Match" := by
    intro h
    split
    · rfl
    · exact Http.Header.values_set_of_ne canonical_ifModifiedSince_ne h _
  unfold apply
  by_cases he : c.etag = ""
  · simp [he, hims]
  · simp [he, Http.Header.values_set_self]

/-- `If-Modified-Since` carries the HTTP date of a time that is not the zero instant, and is left
alone otherwise. -/
theorem values_apply_ifModifiedSince (c : Conditional) (r : Http.Header) :
    (c.apply r).values "If-Modified-Since" =
      if c.ifModifiedSince = Instant.zero then r.values "If-Modified-Since"
      else [c.ifModifiedSince.httpDate] := by
  have hinm : ∀ h : Http.Header, (if c.etag.isEmpty then h else h.set "If-None-Match" c.etag).values
      "If-Modified-Since" = h.values "If-Modified-Since" := by
    intro h
    split
    · rfl
    · exact Http.Header.values_set_of_ne canonical_ifModifiedSince_ne.symm h _
  unfold apply
  rw [hinm]
  by_cases hz : c.ifModifiedSince = Instant.zero
  · simp [hz, Instant.isZero]
  · simp [hz, Instant.isZero]

/-- No other field is touched. -/
theorem values_apply_of_ne (c : Conditional) (r : Http.Header) {name : String}
    (hinm : Http.canonicalName "If-None-Match" ≠ Http.canonicalName name)
    (hims : Http.canonicalName "If-Modified-Since" ≠ Http.canonicalName name) :
    (c.apply r).values name = r.values name := by
  unfold apply
  dsimp only
  split
  · split
    · rfl
    · exact Http.Header.values_set_of_ne hims _ _
  · rw [Http.Header.values_set_of_ne hinm]
    split
    · rfl
    · exact Http.Header.values_set_of_ne hims _ _

end Conditional

namespace Outcome

theorem etag_eq (o : Outcome) : o.etag = (o.header.getD {}).get "ETag" := by
  unfold etag
  cases o.header <;> rfl

theorem lastModified_eq (o : Outcome) :
    o.lastModified =
      (Instant.parseHttpDate ((o.header.getD {}).get "Last-Modified")).getD Instant.zero := by
  unfold lastModified
  cases o.header with
  | some h => rfl
  | none =>
    have hnone : Instant.parseHttpDate (({} : Http.Header).get "Last-Modified") = none := by
      decide
    rw [Option.getD_none, hnone, Option.getD_none]

/-- For every outcome and every request header, with `H` the response header (empty when no
response came): a conditional fetch sends `If-None-Match` with the first `ETag` value of `H`
exactly when that is non-empty; it sends `If-Modified-Since` exactly when the `Last-Modified`
value of `H` reads as an HTTP date other than the zero instant, as the HTTP date of that time,
which reads back as the time's whole second; and otherwise it leaves those fields of the request
as they were. -/
theorem validators_sent (o : Outcome) (r : Http.Header) :
    (o.validators.apply r).values "If-None-Match" =
        (if (o.header.getD {}).get "ETag" = "" then r.values "If-None-Match"
          else [(o.header.getD {}).get "ETag"]) ∧
      match Instant.parseHttpDate ((o.header.getD {}).get "Last-Modified") with
      | some τ =>
        (o.validators.apply r).values "If-Modified-Since" =
            (if τ = Instant.zero then r.values "If-Modified-Since" else [τ.httpDate]) ∧
          Instant.parseHttpDate τ.httpDate = some ⟨τ.seconds, 0⟩
      | none => (o.validators.apply r).values "If-Modified-Since" = r.values "If-Modified-Since" := by
  have hetag : o.validators.etag = (o.header.getD {}).get "ETag" := etag_eq o
  refine ⟨by rw [Conditional.values_apply_ifNoneMatch, hetag], ?_⟩
  have htime := lastModified_eq o
  rw [Conditional.values_apply_ifModifiedSince]
  cases hread : Instant.parseHttpDate ((o.header.getD {}).get "Last-Modified") with
  | none =>
    have hzero : o.validators.ifModifiedSince = Instant.zero := by
      rw [hread, Option.getD_none] at htime
      exact htime
    simp [hzero]
  | some τ =>
    have hτ : o.validators.ifModifiedSince = τ := by
      rw [hread, Option.getD_some] at htime
      exact htime
    exact ⟨by rw [hτ], Instant.parseHttpDate_httpDate hread⟩

/-- The outcome of a response whose only field is `Last-Modified: <date>`. -/
def modifiedAt (date : String) : Outcome :=
  { header := some (Http.Header.empty.set "Last-Modified" date) }

/-- A `Last-Modified` of 0001-01-01 00:00:00 reads as the zero instant and is not sent back; one
with half a second is sent back as a date that reads as the whole second before it. -/
theorem validators_drop_zero_and_fraction :
    Instant.parseHttpDate "Mon, 01 Jan 0001 00:00:00 GMT" = some Instant.zero ∧
      ((modifiedAt "Mon, 01 Jan 0001 00:00:00 GMT").validators.apply {}).values
        "If-Modified-Since" = [] ∧
      Instant.parseHttpDate "Wed, 01 May 2024 10:00:00.5 GMT" = some ⟨1714557600, 500000000⟩ ∧
      ((modifiedAt "Wed, 01 May 2024 10:00:00.5 GMT").validators.apply {}).values
        "If-Modified-Since" = ["Wed, 01 May 2024 10:00:00 GMT"] ∧
      Instant.parseHttpDate "Wed, 01 May 2024 10:00:00 GMT" = some ⟨1714557600, 0⟩ := by
  decide +kernel

end Outcome

end Harvest
