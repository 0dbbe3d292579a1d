import CardLink.Proofs.Card.Bodies
import CardLink.Proofs.Envelope.Wire

/-!
# Failures survive the wire

A failure that one node puts into a body is taken for a failure by the node that reads the body, and
for the same one, whatever texts are in it. What a node puts into a body when all went well is not
taken for a failure.

* `RemoteException.reads`: the decoder reads what is written.
* **`RemoteException.ofBody?_toBody`**: a failure is found in its body.
* **`AnswerBody.isMarked`**: no answer is taken for a failure.
-/

namespace CardLink

open Json

namespace RemoteException

/-! ## 1. The members of a failure -/

/-- The members of the body. -/
def members (x : RemoteException) : List (String × Json) :=
  [("kind", .text x.kind), ("message", .text x.message),
    (marker, .list (x.stackTrace.map .text))]

theorem toJson_eq (x : RemoteException) : x.toJson = .object x.members := rfl

theorem exact (x : RemoteException) : x.toJson.Exact :=
  exact_object.2 (exact_cons trivial (exact_cons trivial
    (exact_cons (exact_list_map exact_text _) exact_nil)))

theorem kept_members (x : RemoteException) : ∀ m ∈ x.members, Kept 1 m.2 := by
  have htexts : ∀ v ∈ x.stackTrace.map Json.text, Kept 0 v := by
    intro v hv
    obtain ⟨s, -, rfl⟩ := List.mem_map.1 hv
    exact (plain_text s).kept
  intro m hm
  simp only [members, List.mem_cons, List.not_mem_nil, or_false] at hm
  rcases hm with rfl | rfl | rfl
  · exact (plain_text _).kept.mono
  · exact (plain_text _).kept.mono
  · exact kept_list htexts

/-! ## 2. A failure is found in its body -/

theorem reads : decoder.Reads toJson := by
  intro src x
  have hkind := reads_text src x.kind
  have hmessage := reads_text src x.message
  have htrace := reads_text.list src x.stackTrace
  unfold decoder toJson
  rw [bind_entries]
  · rw [required_ofValues rfl hkind, required_ofValues rfl hmessage,
      withDefault_ofValues rfl htrace]
    rfl
  · exact .cons rfl (check_needed hkind) (.cons rfl (check_needed hmessage)
      (.cons rfl (check_free htrace) fits_nil))
  · simp [marker]

/-- A failure is marked as one, also if it has no causes. -/
theorem isMarked_toBody (x : RemoteException) : isMarked x.toBody = true := by
  have hlookup : (gathered x.members []).lookup marker =
      some (.list (x.stackTrace.map .text)) := by
    rw [lookup_gathered (by simp [members, marker])]
    rfl
  unfold isMarked toBody
  rw [toJson_eq, parse?_members x.kept_members (by decide)]
  show ((gathered x.members []).lookup marker).isSome = true
  rw [hlookup]
  rfl

/-- **A failure is found in its body**, with its kind, its message and its causes. -/
theorem ofBody?_toBody (x : RemoteException) : ofBody? x.toBody = some x := by
  have hdecoded : decoder.ofText x.toBody = .ok x := reads.ofText x x.exact
  unfold ofBody?
  rw [isMarked_toBody, if_pos rfl, hdecoded]
  rfl

end RemoteException

/-! ## 3. Answers that are no failures -/

theorem ConnectResponse.isMarked_toText (r : ConnectResponse) :
    RemoteException.isMarked r.toJson.toText = false :=
  RemoteException.isMarked_toText r.exact rfl

theorem CardResponse.get?_marker (r : CardResponse) :
    r.toJson.get? RemoteException.marker = none := by
  cases h : r.selectionStatus <;>
    simp [CardResponse.toJson, Json.get?, RemoteException.marker, member?, List.lookup_cons, h]

/-- **What a node puts into the body of a response** when all went well. -/
inductive AnswerBody : String → Prop where
  | responses (rs : List (Option CardResponse)) :
      AnswerBody (CardResponse.listToJson rs).toText
  | response (r : Option CardResponse) :
      AnswerBody (Json.ofOption CardResponse.toJson r).toText
  | present (b : Bool) : AnswerBody (Json.bool b).toText
  | session (r : ConnectResponse) : AnswerBody r.toJson.toText
  | empty : AnswerBody ""

/-- **No answer is taken for a failure.** -/
theorem AnswerBody.isMarked {body : String} (h : AnswerBody body) :
    RemoteException.isMarked body = false := by
  cases h with
  | responses rs => exact RemoteException.isMarked_toText (CardResponse.exact_list rs) rfl
  | response r =>
    refine RemoteException.isMarked_toText (CardResponse.exact_optional r) ?_
    cases r with
    | none => rfl
    | some r => exact r.get?_marker
  | present b => exact RemoteException.isMarked_toText trivial rfl
  | session r => exact r.isMarked_toText
  | empty => exact RemoteException.isMarked_empty

theorem ConnectResponse.ofText_toText (r : ConnectResponse) :
    ConnectResponse.decoder.ofText r.toJson.toText = .ok r :=
  ConnectResponse.reads.ofText r r.exact

end CardLink
