import AppletPage.Service.Body

/-! Bodies that hold no overrides: which of them are answered, and which cannot be shown in an
answer. -/

namespace AppletPage.Body

open Text

variable {request : Request}

mutual

theorem depth_finite : (given : Json) → (finite given).depth = given.depth
  | .null => rfl
  | .bool _ => rfl
  | .integer _ => rfl
  | .real value => by
      rw [finite]
      split <;> rfl
  | .string _ => rfl
  | .array items => by
      rw [finite, Json.depth, Json.depth, depth_finiteItems items]
  | .object fields => by
      rw [finite, Json.depth, Json.depth, depth_finiteFields fields]

theorem depth_finiteItems :
    (items : List Json) → Json.depthOfItems (finiteItems items) = Json.depthOfItems items
  | [] => rfl
  | item :: rest => by
      rw [finiteItems, Json.depthOfItems, Json.depthOfItems, depth_finite item,
        depth_finiteItems rest]

theorem depth_finiteFields :
    (fields : List (String × Json)) →
      Json.depthOfFields (finiteFields fields) = Json.depthOfFields fields
  | [] => rfl
  | (name, field) :: rest => by
      rw [finiteFields, Json.depthOfFields, Json.depthOfFields, depth_finite field,
        depth_finiteFields rest]

end

namespace Issue

def shown : Issue → Json
  | missing => .null
  | malformed .. => .object []
  | noRecord input | noOverrides input => input

theorem depth_details (issue : Issue) :
    issue.details.depth ≤ Envelope.depthLimit ↔ issue.shown.depth ≤ 253 := by
  cases issue <;>
    simp only [details, toJson, type, location, message, input, context, shown, Json.ofNat,
      Json.depth, Json.depthOfItems, Json.depthOfFields, depth_finite, List.cons_append,
      List.nil_append, Envelope.depthLimit] <;>
    omega

theorem refusal_of_shallow {issue : Issue} (shallow : issue.shown.depth ≤ 253) :
    issue.refusal = .answer (.error 422 "Request validation failed" issue.details) := by
  rw [refusal, Envelope.writable, if_pos (issue.depth_details.mpr shallow)]

theorem refusal_of_deep {issue : Issue} (deep : 253 < issue.shown.depth) :
    issue.refusal = .failure .deepData := by
  have tooDeep : ¬ issue.details.depth ≤ Envelope.depthLimit := fun fits =>
    Nat.not_lt.mpr (issue.depth_details.mp fits) deep
  rw [refusal, Envelope.writable, if_neg tooDeep]

end Issue

/-- A body that cannot be shown where it is refused: bytes of another type that are no text, and
JSON without overrides that lies too deep. -/
inductive Unshown (request : Request) : Failure → Prop where
  | bytes {bytes : Bytes} {malformed : Utf8.Malformed}
      (other : payload request = .ok (.bytes bytes))
      (undecoded : Utf8.decode bytes = .error malformed) : Unshown request (.encoding malformed)
  | deep {given : Json} {issue : Issue} (read : payload request = .ok (.value given))
      (unfit : overridesOf given = .error issue) (deep : 253 < issue.shown.depth) :
      Unshown request .deepData

/-- A body is read, answered with an error of the client, or cannot be shown. -/
inductive Overridden (request : Request) : Except Refusal (List (String × Json)) → Prop where
  | read (fields : List (String × Json)) : Overridden request (.ok fields)
  | answered {status : Nat} (message : String) (details : Json)
      (client : status = 400 ∨ status = 422) :
      Overridden request (.error (.answer (.error status message details)))
  | unshown {failure : Failure} (unshown : Unshown request failure) :
      Overridden request (.error (.failure failure))

theorem overridden (request : Request) : Overridden request (overrides request) := by
  rw [overrides]
  split
  · next problem offset _ =>
    rw [Issue.refusal_of_shallow (by change 1 ≤ 253; decide)]
    exact .answered _ _ (.inr rfl)
  · exact .answered _ _ (.inl rfl)
  · rw [Issue.refusal_of_shallow (by decide)]
    exact .answered _ _ (.inr rfl)
  · next given read =>
    split
    · exact .read _
    · next issue unfit =>
      by_cases shallow : issue.shown.depth ≤ 253
      · rw [Issue.refusal_of_shallow shallow]
        exact .answered _ _ (.inr rfl)
      · rw [Issue.refusal_of_deep (Nat.not_le.mp shallow)]
        exact .unshown (.deep read unfit (Nat.not_le.mp shallow))
  · next bytes other =>
    split
    · rw [Issue.refusal_of_shallow (by change 1 ≤ 253; decide)]
      exact .answered _ _ (.inr rfl)
    · next malformed undecoded => exact .unshown (.bytes other undecoded)

/-- What cannot be shown is not read, and is the only thing that is not. -/
theorem Unshown.overrides_eq {failure : Failure} (unshown : Unshown request failure) :
    overrides request = .error (.failure failure) := by
  rw [overrides]
  cases unshown with
  | bytes other undecoded =>
      rw [other]
      dsimp only
      rw [undecoded]
  | deep read unfit deep =>
      rw [read]
      dsimp only
      rw [unfit]
      dsimp only
      rw [Issue.refusal_of_deep deep]

end AppletPage.Body
