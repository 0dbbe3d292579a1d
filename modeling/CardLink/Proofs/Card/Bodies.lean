import CardLink.Card.Event
import CardLink.Card.Handshake
import CardLink.Proofs.Json.Gather

/-!
# The bodies that nodes send read back

For each kind of body: the decoder reads what is written (`reads`), and all numbers in it are kept
exactly (`exact`). Byte strings, absent values and empty places in a list are all told apart.
-/

namespace CardLink

open Json

/-! ## 1. Commands -/

theorem ApduResponse.reads : ApduResponse.decoder.Reads ApduResponse.toJson := by
  intro src r
  have hbytes := reads_bytes src r.bytes
  have hsuccessful := reads_bool src r.successful
  unfold ApduResponse.decoder ApduResponse.toJson
  rw [bind_entries]
  · rw [required_ofValues rfl hbytes, required_ofValues rfl hsuccessful]
    rfl
  · exact .cons rfl (check_needed hbytes) (.cons rfl (check_needed hsuccessful) fits_nil)
  · simp

theorem ApduRequest.reads : ApduRequest.decoder.Reads ApduRequest.toJson := by
  intro src r
  have hbytes := reads_bytes src r.bytes
  have hcase4 := reads_bool src r.case4
  have hcodes := reads_u16.list src r.successfulStatusCodes
  unfold ApduRequest.decoder ApduRequest.toJson
  rw [bind_entries]
  · rw [required_ofValues rfl hbytes, withDefault_ofValues rfl hcase4,
      optional_ofValues (a := r.name) reads_text text_ne_null]
    · by_cases hnone : r.successfulStatusCodes = []
      · rw [withDefault_missing]
        · rw [← hnone]
          rfl
        · simp [hnone, List.lookup_cons, -List.lookup_eq_none_iff]
      · rw [withDefault_ofValues _ hcodes]
        · rfl
        · simp [hnone, List.lookup_cons]
    · split <;> simp [List.lookup_cons]
  · refine .append (.append ?_ ?_) ?_
    · exact .cons rfl (check_needed hbytes) (.cons rfl (check_free hcase4) fits_nil)
    · split
      · exact fits_nil
      · exact .cons rfl (check_free hcodes) fits_nil
    · exact fits_member? rfl reads_text text_ne_null r.name
  · split <;> cases r.name <;> simp [member?]

/-! ## 2. Names -/

/-- A name is read back if the list of names leads back to it. -/
theorem variant_text {α : Type} {known : List (String × α)} {name : String} {a : α}
    (h : known.lookup name = some a) (src : Source) :
    Decoder.variant known src (Outline.ofValue (.text name)) = .ok a := by
  show Decoder.variant known src (.text (pieces name)) = .ok a
  simp only [Decoder.variant, wording?_pieces, Decoder.named, h]

theorem ChannelState.reads : ChannelState.decoder.Reads ChannelState.toJson := by
  intro src s
  cases s with
  | keepOpen => exact variant_text rfl src
  | closeAfter => exact variant_text rfl src

theorem TransmissionMode.reads : TransmissionMode.decoder.Reads TransmissionMode.toJson := by
  intro src m
  cases m with
  | contacts => exact variant_text rfl src
  | contactless => exact variant_text rfl src

theorem NotificationMode.reads : NotificationMode.decoder.Reads NotificationMode.toJson := by
  intro src m
  cases m with
  | always => exact variant_text rfl src
  | matchedOnly => exact variant_text rfl src

theorem PluginEventType.reads : PluginEventType.decoder.Reads PluginEventType.toJson := by
  intro src t
  cases t with
  | readerConnected => exact variant_text rfl src
  | readerDisconnected => exact variant_text rfl src

theorem ReaderEventType.reads : ReaderEventType.decoder.Reads ReaderEventType.toJson := by
  intro src t
  cases t with
  | inserted => exact variant_text rfl src
  | matched => exact variant_text rfl src
  | removed => exact variant_text rfl src
  | ioError => exact variant_text rfl src

/-! ## 3. Card requests and card responses -/

theorem CardSelector.reads : CardSelector.decoder.Reads CardSelector.toJson := by
  intro src s
  unfold CardSelector.decoder CardSelector.toJson
  rw [bind_entries]
  · rw [optional_ofValues (a := s.aid) reads_bytes fun _ => text_ne_null _,
      optional_ofValues (a := s.atrRegex) reads_text text_ne_null]
    · rfl
    · simp [List.lookup_append]
    · simp [List.lookup_append]
  · exact .append (fits_member? rfl reads_bytes (fun _ => text_ne_null _) s.aid)
      (fits_member? rfl reads_text text_ne_null s.atrRegex)
  · cases s.aid <;> cases s.atrRegex <;> simp [member?]

theorem CardRequest.reads : CardRequest.decoder.Reads CardRequest.toJson := by
  intro src r
  have hapdus := ApduRequest.reads.list src r.apduRequests
  have hstate := ChannelState.reads src r.channelState
  unfold CardRequest.decoder CardRequest.toJson
  rw [bind_entries]
  · rw [optional_ofValues (a := r.selector) CardSelector.reads fun _ => object_ne_null,
      withDefault_ofValues _ hapdus, withDefault_ofValues _ hstate]
    · rfl
    · simp [List.lookup_append, List.lookup_cons]
    · simp [List.lookup_append]
    · simp [List.lookup_append, List.lookup_cons]
  · refine .append ?_ (.cons rfl (check_free hapdus) (.cons rfl (check_free hstate) fits_nil))
    exact fits_member? rfl CardSelector.reads (fun _ => object_ne_null) r.selector
  · cases r.selector <;> simp [member?]

theorem SelectionStatus.reads : SelectionStatus.decoder.Reads SelectionStatus.toJson := by
  intro src s
  have hmatched := reads_bool src s.hasMatched
  unfold SelectionStatus.decoder SelectionStatus.toJson
  rw [bind_entries]
  · rw [optional_ofValues (a := s.atr) reads_bytes fun _ => text_ne_null _,
      optional_ofValues (a := s.fci) reads_bytes fun _ => text_ne_null _,
      required_ofValues _ hmatched]
    · rfl
    · simp [List.lookup_append]
    · simp [List.lookup_append, List.lookup_cons]
    · simp [List.lookup_append, List.lookup_cons]
  · refine .append (.append ?_ ?_) (.cons rfl (check_needed hmatched) fits_nil)
    · exact fits_member? rfl reads_bytes (fun _ => text_ne_null _) s.atr
    · exact fits_member? rfl reads_bytes (fun _ => text_ne_null _) s.fci
  · cases s.atr <;> cases s.fci <;> simp [member?]

theorem CardResponse.reads : CardResponse.decoder.Reads CardResponse.toJson := by
  intro src r
  have hopen := reads_bool src r.logicalChannelOpen
  have hpreviously := reads_bool src r.channelPreviouslyOpen
  have hapdus := ApduResponse.reads.list src r.apduResponses
  unfold CardResponse.decoder CardResponse.toJson
  rw [bind_entries]
  · rw [required_ofValues rfl hopen, withDefault_ofValues rfl hpreviously,
      optional_ofValues (a := r.selectionStatus) SelectionStatus.reads fun _ => object_ne_null,
      withDefault_ofValues _ hapdus]
    · rfl
    · simp [List.lookup_append, List.lookup_cons]
    · simp [List.lookup_append, List.lookup_cons]
  · refine .append (.append ?_ ?_) (.cons rfl (check_free hapdus) fits_nil)
    · exact .cons rfl (check_needed hopen) (.cons rfl (check_free hpreviously) fits_nil)
    · exact fits_member? rfl SelectionStatus.reads (fun _ => object_ne_null) r.selectionStatus
  · cases r.selectionStatus <;> simp [member?]

theorem CardResponse.reads_optional :
    CardResponse.decoder.optional.Reads (ofOption CardResponse.toJson) :=
  CardResponse.reads.optional fun _ => object_ne_null

theorem CardResponse.reads_list : CardResponse.listDecoder.Reads CardResponse.listToJson :=
  CardResponse.reads_optional.list

/-! ## 4. Events and the handshake -/

theorem ReaderEvent.reads : ReaderEvent.decoder.Reads ReaderEvent.toJson := by
  intro src e
  have hplugin := reads_text src e.pluginName
  have hreader := reads_text src e.readerName
  have htype := ReaderEventType.reads src e.eventType
  have hnull : ∀ rs, CardResponse.listToJson rs ≠ .null := fun _ heq => by cases heq
  unfold ReaderEvent.decoder ReaderEvent.toJson
  rw [bind_entries]
  · rw [required_ofValues rfl hplugin, required_ofValues rfl hreader, required_ofValues rfl htype,
      optional_ofValues (a := e.defaultSelectionResponses) CardResponse.reads_list hnull]
    · rfl
    · simp [List.lookup_cons]
  · refine .append ?_ ?_
    · exact .cons rfl (check_needed hplugin) (.cons rfl (check_needed hreader)
        (.cons rfl (check_needed htype) fits_nil))
    · exact fits_member? rfl CardResponse.reads_list hnull e.defaultSelectionResponses
  · cases e.defaultSelectionResponses <;> simp [member?]

theorem PluginEvent.reads : PluginEvent.decoder.Reads PluginEvent.toJson := by
  intro src e
  have hplugin := reads_text src e.pluginName
  have hreaders := reads_text.list src e.readerNames
  have htype := PluginEventType.reads src e.eventType
  unfold PluginEvent.decoder PluginEvent.toJson
  rw [bind_entries]
  · rw [required_ofValues rfl hplugin, required_ofValues rfl hreaders, required_ofValues rfl htype]
    rfl
  · exact .cons rfl (check_needed hplugin) (.cons rfl (check_needed hreaders)
      (.cons rfl (check_needed htype) fits_nil))
  · simp

theorem DefaultSelection.reads : DefaultSelection.decoder.Reads DefaultSelection.toJson := by
  intro src s
  have hrequests := CardRequest.reads.list src s.selectionRequests
  have hmode := NotificationMode.reads src s.notificationMode
  unfold DefaultSelection.decoder DefaultSelection.toJson
  rw [bind_entries]
  · rw [required_ofValues rfl hrequests, required_ofValues rfl hmode]
    rfl
  · exact .cons rfl (check_needed hrequests) (.cons rfl (check_needed hmode) fits_nil)
  · simp

theorem ConnectResponse.reads : ConnectResponse.decoder.Reads ConnectResponse.toJson := by
  intro src r
  have hsession := reads_text src r.sessionId
  unfold ConnectResponse.decoder ConnectResponse.toJson
  rw [bind_entries]
  · rw [required_ofValues rfl hsession]
    rfl
  · exact .cons rfl (check_needed hsession) fits_nil
  · simp

theorem entries_foldl_insert {α : Type} (es : List (String × α)) (t : Table α) :
    (es.foldl (fun t e => t.insert e.1 e.2) t).entries = gathered es t.entries := by
  induction es generalizing t with
  | nil => rfl
  | cons e es ih => exact ih _

/-- A table is rebuilt from its entries, in whatever order they are put in. -/
theorem foldl_insert_perm {α : Type} {es : List (String × α)} {t : Table α}
    (h : es.Perm t.entries) : es.foldl (fun t e => t.insert e.1 e.2) .empty = t := by
  have hdistinct : (es.map (·.1)).Nodup :=
    (h.map _).nodup_iff.2 (nodup_of_sortedEntries t.sorted)
  refine Table.ext_get? fun name => ?_
  unfold Table.get?
  rw [entries_foldl_insert, lookup_gathered hdistinct, lookup_of_perm h hdistinct]
  exact Option.or_none

theorem members_ofValues (src : Source) (es : List (String × String)) (sofar : Settings) :
    Decoder.members (Decoder.text src) sofar
      (Members.ofValues (es.map fun e => (e.1, .text e.2))) =
      .ok (es.foldl (fun t e => t.insert e.1 e.2) sofar) := by
  induction es generalizing sofar with
  | nil => rfl
  | cons e es ih =>
    have htext := reads_text src e.2
    show Decoder.members (Decoder.text src) sofar
      (.cons (pieces e.1) (Outline.ofValue (.text e.2)) _) = _
    simp only [Decoder.members, wording?_pieces, htext, ih]
    rfl

/-- Settings with their entries in this order. -/
def Settings.listing (es : List (String × String)) : Json :=
  .object (es.map fun e => (e.1, .text e.2))

/-- Settings are read whatever the order of their entries. -/
theorem Settings.reads_listing {s : Settings} {es : List (String × String)}
    (h : es.Perm s.entries) (src : Source) :
    Decoder.text.map src (Outline.ofValue (listing es)) = .ok s := by
  have hmembers := members_ofValues src es .empty
  rw [foldl_insert_perm h] at hmembers
  exact hmembers

/-- An announcement with its options in this order. -/
def ConnectRequest.listing (mode : TransmissionMode) (es : List (String × String)) : Json :=
  .object [("transmissionMode", mode.toJson), ("options", Settings.listing es)]

theorem ConnectRequest.reads_listing {r : ConnectRequest} {es : List (String × String)}
    (h : es.Perm r.options.entries) (src : Source) :
    decoder src (Outline.ofValue (listing r.transmissionMode es)) = .ok r := by
  have hmode := TransmissionMode.reads src r.transmissionMode
  have hoptions := Settings.reads_listing h src
  unfold ConnectRequest.decoder ConnectRequest.listing
  rw [bind_entries]
  · rw [withDefault_ofValues rfl hmode, withDefault_ofValues rfl hoptions]
    rfl
  · exact .cons rfl (check_free hmode) (.cons rfl (check_free hoptions) fits_nil)
  · simp

theorem ConnectRequest.reads : ConnectRequest.decoder.Reads ConnectRequest.toJson :=
  fun src _ => reads_listing (.refl _) src

/-! ## 5. All numbers are kept -/

theorem exact_list_map {α : Type} {f : α → Json} (h : ∀ a, (f a).Exact) (as : List α) :
    (Json.list (as.map f)).Exact := by
  refine exact_list.2 fun v hv => ?_
  obtain ⟨a, -, rfl⟩ := List.mem_map.1 hv
  exact h a

theorem exact_member? {α : Type} {f : α → Json} (h : ∀ a, (f a).Exact) (name : String)
    (a : Option α) : ∀ m ∈ member? name f a, m.2.Exact := by
  intro m hm
  cases a with
  | none => exact absurd hm List.not_mem_nil
  | some a =>
    obtain rfl := List.mem_singleton.1 hm
    exact h a

theorem exact_append {ms ms' : List (String × Json)} (h : ∀ m ∈ ms, m.2.Exact)
    (h' : ∀ m ∈ ms', m.2.Exact) : ∀ m ∈ ms ++ ms', m.2.Exact := by
  intro m hm
  rcases List.mem_append.1 hm with hm | hm
  · exact h m hm
  · exact h' m hm

theorem exact_cons {k : String} {v : Json} {ms : List (String × Json)} (hv : v.Exact)
    (h : ∀ m ∈ ms, m.2.Exact) : ∀ m ∈ (k, v) :: ms, m.2.Exact := by
  intro m hm
  rcases List.mem_cons.1 hm with rfl | hm
  · exact hv
  · exact h m hm

theorem exact_nil : ∀ m ∈ ([] : List (String × Json)), m.2.Exact :=
  fun _ hm => absurd hm List.not_mem_nil

theorem exact_text (s : String) : (Json.text s).Exact := trivial

theorem exact_bytes (bs : List UInt8) : (Json.bytes bs).Exact := trivial

theorem exact_u16 (c : UInt16) : (Json.nat c.toNat).Exact := by
  have hbound : c.toNat < 65536 := c.toNat_lt
  have hword : 65536 ≤ greatestU64 := by decide
  exact exact_nat (by omega)

theorem ApduRequest.exact (r : ApduRequest) : r.toJson.Exact := by
  refine exact_object.2 (exact_append (exact_append ?_ ?_) ?_)
  · exact exact_cons trivial (exact_cons trivial exact_nil)
  · split
    · exact exact_nil
    · exact exact_cons (exact_list_map exact_u16 _) exact_nil
  · exact exact_member? exact_text _ _

theorem ApduResponse.exact (r : ApduResponse) : r.toJson.Exact :=
  exact_object.2 (exact_cons trivial (exact_cons trivial exact_nil))

theorem CardSelector.exact (s : CardSelector) : s.toJson.Exact :=
  exact_object.2 (exact_append (exact_member? exact_bytes _ _) (exact_member? exact_text _ _))

theorem CardRequest.exact (r : CardRequest) : r.toJson.Exact :=
  exact_object.2 (exact_append (exact_member? CardSelector.exact _ _)
    (exact_cons (exact_list_map ApduRequest.exact _) (exact_cons trivial exact_nil)))

theorem SelectionStatus.exact (s : SelectionStatus) : s.toJson.Exact :=
  exact_object.2 (exact_append (exact_append (exact_member? exact_bytes _ _)
    (exact_member? exact_bytes _ _)) (exact_cons trivial exact_nil))

theorem CardResponse.exact (r : CardResponse) : r.toJson.Exact :=
  exact_object.2 (exact_append (exact_append (exact_cons trivial (exact_cons trivial exact_nil))
    (exact_member? SelectionStatus.exact _ _))
    (exact_cons (exact_list_map ApduResponse.exact _) exact_nil))

theorem CardResponse.exact_optional (r : Option CardResponse) :
    (ofOption CardResponse.toJson r).Exact := by
  cases r with
  | none => trivial
  | some r => exact r.exact

theorem CardResponse.exact_list (rs : List (Option CardResponse)) :
    (CardResponse.listToJson rs).Exact :=
  exact_list_map CardResponse.exact_optional rs

theorem ReaderEvent.exact (e : ReaderEvent) : e.toJson.Exact :=
  exact_object.2 (exact_append
    (exact_cons trivial (exact_cons trivial (exact_cons trivial exact_nil)))
    (exact_member? CardResponse.exact_list _ _))

theorem PluginEvent.exact (e : PluginEvent) : e.toJson.Exact :=
  exact_object.2 (exact_cons trivial (exact_cons (exact_list_map exact_text _)
    (exact_cons trivial exact_nil)))

theorem DefaultSelection.exact (s : DefaultSelection) : s.toJson.Exact :=
  exact_object.2 (exact_cons (exact_list_map CardRequest.exact _) (exact_cons trivial exact_nil))

theorem ConnectResponse.exact (r : ConnectResponse) : r.toJson.Exact :=
  exact_object.2 (exact_cons trivial exact_nil)

theorem Settings.exact_listing (es : List (String × String)) : (listing es).Exact := by
  refine exact_object.2 fun m hm => ?_
  obtain ⟨e, -, rfl⟩ := List.mem_map.1 hm
  trivial

theorem ConnectRequest.exact_listing (mode : TransmissionMode) (es : List (String × String)) :
    (listing mode es).Exact :=
  exact_object.2 (exact_cons trivial (exact_cons (Settings.exact_listing es) exact_nil))

theorem ConnectRequest.exact (r : ConnectRequest) : r.toJson.Exact :=
  exact_listing r.transmissionMode r.options.entries

/-- An announcement that was written is not blank. -/
theorem ConnectRequest.ofBody_toText (r : ConnectRequest) :
    ConnectRequest.ofBody r.toJson.toText = .ok r := by
  have hblank : Text.AllBlank r.toJson.toText = false := by
    have hbrace : Text.isBlank '\x7b' = false := by decide
    have hwrite : ∃ cs, write r.toJson = '\x7b' :: cs := by
      simp only [ConnectRequest.toJson, write, List.cons_append]
      exact ⟨_, rfl⟩
    obtain ⟨cs, hcs⟩ := hwrite
    rw [Text.AllBlank, toText, String.toList_ofList, hcs, List.all_cons, hbrace, Bool.false_and]
  unfold ConnectRequest.ofBody
  rw [hblank, if_neg Bool.false_ne_true]
  exact ConnectRequest.reads.ofText r r.exact

end CardLink
