import CardLink.Proofs.Json.Fields
import CardLink.Proofs.Json.Recognition
import CardLink.Proofs.Json.Rewording
import CardLink.Envelope.Wire

/-!
# Which wire texts are envelopes

A wire text is judged by its value alone. It is an envelope if the value is an object in which each
field has its type, where the action and the mark of a request have to be given, a missing text
counts as the empty one, and a missing id or session id counts as `null`. It lacks its action if the
value has no such member, whatever else is wrong; and it is malformed in all other cases.

* `Envelope.Describes`: a value that is an envelope.
* `Envelope.decoder_eq_ok_iff`, `ofValue_eq_ok_iff`: the decoder accepts these values.
* `Envelope.ofValue_congr`: it looks at the nine members with the names of fields, and no others.
* **`Envelope.texts_judged`**: texts, with the grammar of JSON and with other ways to write a text.
-/

namespace CardLink

open Json

namespace Envelope

/-! ## 1. Values that are envelopes -/

/-- **The value is this envelope.** A missing text counts as the empty text, and a missing id or
session id counts as `null`. -/
structure Describes (v : Json) (e : Envelope) : Prop where
  action : v.get? "action" = some (.text e.action)
  body : (v.get? "body").getD (.text "") = .text e.body
  isRequest : v.get? "isRequest" = some (.bool e.isRequest)
  sessionId : (v.get? "sessionId").getD .null = ofOption .text e.route.sessionId
  native : (v.get? "nativeReaderName").getD (.text "") = .text e.route.nativeReader
  virtual : (v.get? "virtualReaderName").getD (.text "") = .text e.route.virtualReader
  requester : (v.get? "requesterNodeId").getD (.text "") = .text e.route.requester
  target : (v.get? "targetNodeId").getD (.text "") = .text e.route.target
  id : (v.get? "id").getD .null = ofOption .text e.id

/-- The names of the fields. -/
def fieldNames : List String :=
  ["action", "body", "isRequest", "sessionId", "nativeReaderName", "virtualReaderName",
    "requesterNodeId", "targetNodeId", "id"]

theorem map_name_fields : fields.map (·.name) = fieldNames := rfl

section Values

variable {es fs : List (String × Json)} {e : Envelope} {v w : Json}

/-- What follows from a step that went well. -/
theorem bind_eq_ok_iff {ε α β : Type} {x : Except ε α} {f : α → Except ε β} {b : β} :
    x >>= f = .ok b ↔ ∃ a, x = .ok a ∧ f a = .ok b := by
  cases x with
  | error reason => exact ⟨fun h => (nomatch h), fun ⟨_, h, _⟩ => (nomatch h)⟩
  | ok a =>
    refine ⟨fun h => ⟨a, rfl, h⟩, fun hsome => ?_⟩
    obtain ⟨a', ha, h⟩ := hsome
    cases ha
    exact h

/-- A field of an envelope is found among the fields. -/
theorem lookup_field (es : List (String × Json)) {name : String} (h : name ∈ fieldNames) :
    (known fields es).lookup name = es.lookup name := by
  rw [← map_name_fields] at h
  exact lookup_known h

/-- The fields of an envelope are in order. -/
theorem Describes.fits (h : Describes (.object es) e) (hsorted : SortedEntries es) :
    Fits .value fields (known fields es) := by
  have hoptional := exactly_text.optional text_ne_null
  refine fits_of_lookup hsorted fun field hfield v hv => ?_
  simp only [fields, List.mem_cons, List.not_mem_nil, or_false] at hfield
  rcases hfield with rfl | rfl | rfl | rfl | rfl | rfl | rfl | rfl | rfl
  · exact check_of_lookup exactly_text hv h.action
  · exact check_of_getD exactly_text hv h.body
  · exact check_of_lookup exactly_bool hv h.isRequest
  · exact check_of_getD hoptional hv h.sessionId
  · exact check_of_getD exactly_text hv h.native
  · exact check_of_getD exactly_text hv h.virtual
  · exact check_of_getD exactly_text hv h.requester
  · exact check_of_getD exactly_text hv h.target
  · exact check_of_getD hoptional hv h.id

/-- **The decoder accepts the values that are envelopes.** -/
theorem decoder_eq_ok_iff (hsorted : SortedEntries es) :
    decoder .value (Outline.ofValue (.object es)) = .ok e ↔ Describes (.object es) e := by
  have hdistinct := nodup_of_sortedEntries hsorted
  unfold decoder
  simp only [bind_eq_ok_iff, entries_eq_ok_iff hdistinct, and_assoc, exists_and_left,
    exists_eq_left, required_eq_ok_iff exactly_text, required_eq_ok_iff exactly_bool,
    withDefault_eq_ok_iff exactly_text, optional_eq_ok_iff exactly_text text_ne_null]
  simp (disch := decide) only [lookup_field]
  constructor
  · rintro ⟨-, action, haction, body, hbody, isRequest, hrequest, sessionId, hsession, native,
      hnative, virtual, hvirtual, requester, hrequester, target, htarget, id, hid, heq⟩
    cases heq
    exact ⟨haction, hbody, hrequest, hsession, hnative, hvirtual, hrequester, htarget, hid⟩
  · intro h
    exact ⟨h.fits hsorted, e.action, h.action, e.body, h.body, e.isRequest, h.isRequest,
      e.route.sessionId, h.sessionId, e.route.nativeReader, h.native, e.route.virtualReader,
      h.virtual, e.route.requester, h.requester, e.route.target, h.target, e.id, h.id, rfl⟩

/-- A value with a member is an object. -/
theorem exists_object {name : String} (h : v.get? name = some w) : ∃ es, v = .object es := by
  cases v with
  | object es => exact ⟨es, rfl⟩
  | _ => cases h

/-- Objects of a value that was read list their members by key. -/
def Listed (v : Json) : Prop := ∀ es, v = .object es → SortedEntries es

theorem ofValue_eq_ok_iff (hv : Listed v) : ofValue v = .ok e ↔ Describes v e := by
  constructor
  · intro h
    unfold ofValue at h
    split at h
    · cases h
    · rename_i w haction
      obtain ⟨es, rfl⟩ := exists_object haction
      cases hdecoded : decoder.ofValue (.object es) with
      | error fault => rw [hdecoded] at h; cases h
      | ok e' =>
        rw [hdecoded] at h
        cases h
        exact (decoder_eq_ok_iff (hv es rfl)).1 hdecoded
  · intro h
    obtain ⟨es, rfl⟩ := exists_object h.action
    have hdecoded : decoder.ofValue (.object es) = .ok e := (decoder_eq_ok_iff (hv es rfl)).2 h
    unfold ofValue
    rw [h.action, hdecoded]
    rfl

/-- **An action is missed exactly if there is none**, whatever else is wrong. -/
theorem ofValue_eq_missing_iff {name : String} :
    ofValue v = .error (.missingField name) ↔ name = "action" ∧ v.get? "action" = none := by
  unfold ofValue
  cases haction : v.get? "action" with
  | none =>
    refine ⟨fun h => ?_, fun h => by rw [h.1]⟩
    cases h
    exact ⟨rfl, rfl⟩
  | some w =>
    refine ⟨fun h => ?_, fun h => nomatch h.2⟩
    cases hdecoded : decoder.ofValue v with
    | error fault => rw [hdecoded] at h; cases h
    | ok e => rw [hdecoded] at h; cases h

/-- **Only the members with the names of fields are looked at.** -/
theorem ofValue_congr (hes : SortedEntries es) (hfs : SortedEntries fs)
    (h : ∀ name ∈ fieldNames, es.lookup name = fs.lookup name) :
    ofValue (.object es) = ofValue (.object fs) := by
  have hget : (Json.object es).get? "action" = (Json.object fs).get? "action" :=
    h "action" (by decide)
  rw [← map_name_fields] at h
  have hdecoded : decoder.ofValue (.object es) = decoder.ofValue (.object fs) := by
    show decoder .value (Outline.ofValue (.object es)) =
      decoder .value (Outline.ofValue (.object fs))
    unfold decoder
    rw [entries_congr hes hfs h]
  unfold ofValue
  rw [hget, hdecoded]

theorem ofValue_of_agree (h : Agree fieldNames v w) : ofValue v = ofValue w := by
  cases h with
  | same => rfl
  | objects es fs hv hes hfs hlookup =>
    rw [hv]
    exact ofValue_congr hes hfs hlookup

end Values

/-! ## 2. Texts -/

section Texts

variable {s : String} {o p : Outline} {v : Json} {e : Envelope}

/-- A text spells one outline at most. -/
theorem spells_unique (ho : Spells o s.toList) (hp : Spells p s.toList) : o = p := by
  have hread := ofText_iff.2 ho
  rw [ofText_iff.2 hp] at hread
  exact (Prod.mk.inj hread).1.symm

/-- The value of a text that spells an outline. -/
theorem value?_of_spells (h : Spells o s.toList) (hv : parse? s = some v) : o.value? = some v := by
  obtain ⟨p, hp, hvalue⟩ := parse?_iff.1 hv
  rw [spells_unique h hp, hvalue]

theorem listed_of_parse? (hv : parse? s = some v) : Listed v := by
  rintro es rfl
  obtain ⟨o, -, hvalue⟩ := parse?_iff.1 hv
  obtain ⟨ms, rfl⟩ := exists_map hvalue
  obtain ⟨es', -, heq, hsorted⟩ := value?_map hvalue
  cases heq
  exact hsorted

theorem ofWire_of_parse? (hv : parse? s = some v) : ofWire s = ofValue v := by
  rw [ofWire, hv]

theorem ofWire_of_none (hv : parse? s = none) : ofWire s = .error (.malformed .malformed) := by
  rw [ofWire, hv]

/-- **The text is judged by its value.** -/
structure Judged (s : String) : Prop where
  /-- it has one if it spells an outline that has one -/
  value : ∀ v, parse? s = some v ↔ ∃ o, Spells o s.toList ∧ o.value? = some v
  /-- of the members of an object with one key the last one counts -/
  last : ∀ ms v, Spells (.map ms) s.toList → parse? s = some v → ∀ name,
    v.get? name = (ms.last? name).bind Outline.content?
  /-- it is an envelope if its value is -/
  accepted : ∀ e, ofWire s = .ok e ↔ ∃ v, parse? s = some v ∧ Describes v e
  /-- it lacks its action if its value has none -/
  missing : ∀ name, ofWire s = .error (.missingField name) ↔
    name = "action" ∧ ∃ v, parse? s = some v ∧ v.get? "action" = none
  /-- it is malformed in all other cases -/
  malformed : (∃ fault, ofWire s = .error (.malformed fault)) ↔
    ∀ v, parse? s = some v → v.get? "action" ≠ none ∧ ∀ e, ¬ Describes v e
  /-- another way to write it changes nothing, nor do members that are no fields -/
  reworded : ∀ s' o o', Spells o s.toList → Spells o' s'.toList → Reworded fieldNames o o' →
    (parse? s).isSome → (parse? s').isSome → ofWire s' = ofWire s

theorem last_of_parse? {ms : Members} (h : Spells (.map ms) s.toList) (hv : parse? s = some v)
    (name : String) : v.get? name = (ms.last? name).bind Outline.content? := by
  obtain ⟨es, hes, rfl, -⟩ := value?_map (value?_of_spells h hv)
  exact lookup_contents?_eq hes name

theorem ofWire_eq_ok_iff : ofWire s = .ok e ↔ ∃ v, parse? s = some v ∧ Describes v e := by
  cases hv : parse? s with
  | none =>
    rw [ofWire_of_none hv]
    exact ⟨fun h => (nomatch h), fun ⟨_, h, _⟩ => (nomatch h)⟩
  | some v =>
    rw [ofWire_of_parse? hv, ofValue_eq_ok_iff (listed_of_parse? hv)]
    simp only [Option.some.injEq, exists_eq_left']

theorem ofWire_eq_missing_iff {name : String} :
    ofWire s = .error (.missingField name) ↔
      name = "action" ∧ ∃ v, parse? s = some v ∧ v.get? "action" = none := by
  cases hv : parse? s with
  | none =>
    rw [ofWire_of_none hv]
    exact ⟨fun h => (nomatch h), fun ⟨_, _, h, _⟩ => (nomatch h)⟩
  | some v =>
    rw [ofWire_of_parse? hv, ofValue_eq_missing_iff]
    simp only [Option.some.injEq, exists_eq_left']

/-- Whatever is no envelope and does not lack its action is malformed. -/
theorem ofWire_eq_malformed_iff : (∃ fault, ofWire s = .error (.malformed fault)) ↔
    ∀ v, parse? s = some v → v.get? "action" ≠ none ∧ ∀ e, ¬ Describes v e := by
  constructor
  · rintro ⟨fault, h⟩ v hv
    refine ⟨fun haction => ?_, fun e he => ?_⟩
    · rw [ofWire_eq_missing_iff.2 ⟨rfl, v, hv, haction⟩] at h
      cases h
    · rw [ofWire_eq_ok_iff.2 ⟨v, hv, he⟩] at h
      cases h
  · intro hall
    cases h : ofWire s with
    | ok e =>
      obtain ⟨v, hv, he⟩ := ofWire_eq_ok_iff.1 h
      exact absurd he ((hall v hv).2 e)
    | error reason =>
      cases reason with
      | malformed fault => exact ⟨fault, rfl⟩
      | missingField name =>
        obtain ⟨-, v, hv, haction⟩ := ofWire_eq_missing_iff.1 h
        exact absurd haction (hall v hv).1

theorem ofWire_of_reworded {s' : String} (ho : Spells o s.toList) (hp : Spells p s'.toList)
    (h : Reworded fieldNames o p) (hs : (parse? s).isSome) (hs' : (parse? s').isSome) :
    ofWire s' = ofWire s := by
  obtain ⟨v, hv⟩ := Option.isSome_iff_exists.1 hs
  obtain ⟨w, hw⟩ := Option.isSome_iff_exists.1 hs'
  rw [ofWire_of_parse? hv, ofWire_of_parse? hw,
    ofValue_of_agree (h.agree (value?_of_spells ho hv) (value?_of_spells hp hw))]

/-- **Every text is judged by its value**: which texts are envelopes and what they say, which lack
their action, and which are malformed. -/
theorem texts_judged (s : String) : Judged s where
  value _ := parse?_iff
  last _ _ h hv := last_of_parse? h hv
  accepted _ := ofWire_eq_ok_iff
  missing _ := ofWire_eq_missing_iff
  malformed := ofWire_eq_malformed_iff
  reworded _ _ _ ho hp h hs hs' := ofWire_of_reworded ho hp h hs hs'

end Texts

/-- White space, the order of members, escapes and a further member make no difference. -/
example :
    (ofWire "\x7b\"action\":\"ping\",\"isRequest\":true\x7d").toOption =
      some ⟨"ping", "", true, .blank, none⟩ ∧
    (ofWire " \x7b\"isRequest\" : true, \"x\":[0],\"\\u0061ction\":\"p\\u0069ng\"\x7d").toOption =
      some ⟨"ping", "", true, .blank, none⟩ := by
  decide +kernel

end Envelope

end CardLink
