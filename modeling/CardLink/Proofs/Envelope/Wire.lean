import CardLink.Envelope.Wire
import CardLink.Proofs.Json.Gather

/-!
# Envelopes survive the wire

The wire text of an envelope reads as the envelope, whatever texts are in it; an absent id or session
id stays absent. A body is taken for a failure only if it was written as an object with the key that
marks one.

* `Envelope.ofWire_toWire`: the round trip.
* `Envelope.get?_toWire`: the value of the wire text has the members that were written.
* **`Envelope.survives_wire`**: the round trip, with no two envelopes under one text, and with an absent
  id or session id told apart from an empty one in the text itself.
* `RemoteException.isMarked_toText`: bodies that are not taken for failures.
-/

namespace CardLink

open Json

namespace Envelope

/-! ## 1. The members of an envelope -/

/-- The members of the wire text. -/
def members (e : Envelope) : List (String × Json) :=
  [("action", .text e.action), ("body", .text e.body), ("isRequest", .bool e.isRequest)]
    ++ member? "sessionId" .text e.route.sessionId
    ++ [("nativeReaderName", .text e.route.nativeReader),
        ("virtualReaderName", .text e.route.virtualReader),
        ("requesterNodeId", .text e.route.requester),
        ("targetNodeId", .text e.route.target)]
    ++ member? "id" .text e.id

theorem toJson_eq (e : Envelope) : e.toJson = .object e.members := rfl

theorem plain_members (e : Envelope) : ∀ m ∈ e.members, Plain m.2 := by
  have hoptional : ∀ (name : String) (s : Option String), ∀ m ∈ member? name Json.text s,
      Plain m.2 := by
    intro name s m hm
    cases s with
    | none => exact absurd hm List.not_mem_nil
    | some s =>
      obtain rfl := List.mem_singleton.1 hm
      exact plain_text s
  intro m hm
  simp only [members, List.mem_append, List.mem_cons, List.not_mem_nil, or_false] at hm
  rcases hm with ((((rfl | rfl | rfl) | hm) | (rfl | rfl | rfl | rfl)) | hm)
  · exact plain_text _
  · exact plain_text _
  · exact plain_bool _
  · exact hoptional _ _ m hm
  · exact plain_text _
  · exact plain_text _
  · exact plain_text _
  · exact plain_text _
  · exact hoptional _ _ m hm

theorem nodup_members (e : Envelope) : (e.members.map (·.1)).Nodup := by
  cases hs : e.route.sessionId <;> cases hi : e.id <;> simp [members, member?, hs, hi]

/-- The members, listed by key as they are read, are fields of an envelope. -/
theorem fits_members (e : Envelope) : Fits .value fields (gathered e.members []) := by
  have hfits : Fits .value fields e.members := by
    refine .append (.append (.append ?_ ?_) ?_) ?_
    · exact .cons rfl (check_needed (reads_text .value e.action))
        (.cons rfl (check_free (reads_text .value e.body))
          (.cons rfl (check_needed (reads_bool .value e.isRequest)) fits_nil))
    · exact fits_member? rfl reads_text text_ne_null e.route.sessionId
    · exact .cons rfl (check_free (reads_text .value e.route.nativeReader))
        (.cons rfl (check_free (reads_text .value e.route.virtualReader))
          (.cons rfl (check_free (reads_text .value e.route.requester))
            (.cons rfl (check_free (reads_text .value e.route.target)) fits_nil)))
    · exact fits_member? rfl reads_text text_ne_null e.id
  intro m hm
  rcases mem_of_mem_gathered hm with hm | hm
  · exact hfits m hm
  · exact absurd hm List.not_mem_nil

theorem lookup_members (e : Envelope) (name : String) :
    (gathered e.members []).lookup name = e.members.lookup name := by
  rw [lookup_gathered e.nodup_members]
  exact Option.or_none

theorem decoder_members (e : Envelope) :
    decoder .value (Outline.ofValue (.object (gathered e.members []))) = .ok e := by
  unfold decoder
  rw [bind_entries e.fits_members nodup_gathered]
  rw [required_ofValues _ (reads_text .value e.action),
    withDefault_ofValues _ (reads_text .value e.body),
    required_ofValues _ (reads_bool .value e.isRequest),
    optional_ofValues (a := e.route.sessionId) reads_text text_ne_null,
    withDefault_ofValues _ (reads_text .value e.route.nativeReader),
    withDefault_ofValues _ (reads_text .value e.route.virtualReader),
    withDefault_ofValues _ (reads_text .value e.route.requester),
    withDefault_ofValues _ (reads_text .value e.route.target),
    optional_ofValues (a := e.id) reads_text text_ne_null]
  · rfl
  all_goals
    rw [lookup_members]
    simp [members, List.lookup_append, List.lookup_cons]

/-! ## 2. The round trip -/

theorem parse?_toWire (e : Envelope) : parse? e.toWire = some (.object (gathered e.members [])) := by
  unfold toWire
  rw [toJson_eq, parse?_object e.plain_members]

/-- The value of the wire text has the members that were written, and no others. -/
theorem get?_toWire (e : Envelope) (name : String) :
    (parse? e.toWire).bind (·.get? name) = e.members.lookup name := by
  rw [parse?_toWire]
  exact e.lookup_members name

theorem ofWire_toWire (e : Envelope) : ofWire e.toWire = .ok e := by
  unfold ofWire
  rw [parse?_toWire]
  show ofValue (.object (gathered e.members [])) = _
  have haction : (gathered e.members []).lookup "action" = some (.text e.action) := by
    rw [lookup_members]
    rfl
  have hget : (Json.object (gathered e.members [])).get? "action" = some (.text e.action) := haction
  unfold ofValue
  rw [hget]
  show (decoder .value (Outline.ofValue _)).mapError _ = _
  rw [decoder_members]
  rfl

/-- Nothing of the envelope is lost in its wire text, and nothing is added. -/
structure Survives (e : Envelope) : Prop where
  /-- the text reads as the envelope -/
  reads : ofWire e.toWire = .ok e
  /-- no other envelope is written so -/
  alone : ∀ e' : Envelope, e'.toWire = e.toWire → e' = e
  /-- the body is one text, whatever is in it -/
  body : (parse? e.toWire).bind (·.get? "body") = some (.text e.body)
  /-- an absent id is no member, an empty one is a member with the empty text -/
  id : (parse? e.toWire).bind (·.get? "id") = e.id.map .text
  /-- the same for the session id -/
  session : (parse? e.toWire).bind (·.get? "sessionId") = e.route.sessionId.map .text

/-- **An envelope survives the wire**, whatever texts are in its fields. -/
theorem survives_wire (e : Envelope) : Survives e where
  reads := e.ofWire_toWire
  alone := by
    intro e' hsame
    have hread : ofWire e'.toWire = .ok e := by rw [hsame, ofWire_toWire]
    rw [ofWire_toWire] at hread
    exact Except.ok.inj hread
  body := by rw [get?_toWire]; rfl
  id := by
    rw [get?_toWire]
    simp [members, List.lookup_append, List.lookup_cons]
  session := by
    rw [get?_toWire]
    simp [members, List.lookup_append, List.lookup_cons]

end Envelope

/-! ## 3. Bodies that describe no failure -/

namespace RemoteException

/-- **What was written without the key of a failure is taken for none.** -/
theorem isMarked_toText {v : Json} (hexact : v.Exact) (hv : v.get? marker = none) :
    isMarked v.toText = false := by
  unfold isMarked
  cases h : parse? v.toText with
  | none => rfl
  | some w =>
    show (w.get? marker).isSome = false
    rw [get?_parse? hexact hv h]
    rfl

theorem isMarked_empty : isMarked "" = false := by decide

end RemoteException

end CardLink
