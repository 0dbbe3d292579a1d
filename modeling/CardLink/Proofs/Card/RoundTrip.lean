import CardLink.Proofs.Envelope.Exception

/-!
# Every body comes back as it was sent

Each kind of body is decoded from its text to the value it was written from. So no two values are
written alike: an absent byte string is not an empty one, a missing list is not a list without
elements, and an empty place in a list of responses stays where it is.

* `ReadBack`: a way of writing that loses nothing.
* `Decoder.Reads.readBack`: it is enough that the decoder reads the outlines.
* `Bodies`: what holds of all the bodies that nodes send.
* **`bodies_read_back`**: it does.

NOT here: the texts that a node of another make may write. Which of them are read as well is said by
the decoders themselves.
-/

namespace CardLink

open Json

/-! ## 1. Ways of writing that lose nothing -/

/-- Every value is decoded from its own text, and no other value has that text. -/
structure ReadBack {α : Type} (d : Decoder α) (f : α → Json) : Prop where
  reads : ∀ a, d.ofText (f a).toText = .ok a
  apart : ∀ a b, (f a).toText = (f b).toText → a = b

theorem Json.Decoder.Reads.readBack {α : Type} {d : Decoder α} {f : α → Json} (h : d.Reads f)
    (hexact : ∀ a, (f a).Exact) : ReadBack d f where
  reads a := h.ofText a (hexact a)
  apart := by
    intro a b hsame
    have ha : d.ofText (f a).toText = .ok a := h.ofText a (hexact a)
    have hb : d.ofText (f b).toText = .ok b := h.ofText b (hexact b)
    rw [hsame, hb] at ha
    exact (Except.ok.inj ha).symm

/-! ## 2. The bodies -/

/-- A list of values, each written in the same way. -/
def listOf {α : Type} (f : α → Json) (as : List α) : Json := .list (as.map f)

/-- **All bodies come back**: each kind by the decoder that its reader uses. -/
structure Bodies : Prop where
  bytes : ReadBack Decoder.bytes Json.bytes
  apduRequest : ReadBack ApduRequest.decoder ApduRequest.toJson
  apduResponse : ReadBack ApduResponse.decoder ApduResponse.toJson
  cardSelector : ReadBack CardSelector.decoder CardSelector.toJson
  cardRequest : ReadBack CardRequest.decoder CardRequest.toJson
  cardRequests : ReadBack CardRequest.decoder.list (listOf CardRequest.toJson)
  selectionStatus : ReadBack SelectionStatus.decoder SelectionStatus.toJson
  cardResponse : ReadBack CardResponse.decoder CardResponse.toJson
  /-- one response, or `null` for none -/
  cardResponse? : ReadBack CardResponse.decoder.optional (ofOption CardResponse.toJson)
  /-- one place for each response, `null` where there is none -/
  cardResponses : ReadBack CardResponse.listDecoder CardResponse.listToJson
  readerEvent : ReadBack ReaderEvent.decoder ReaderEvent.toJson
  pluginEvent : ReadBack PluginEvent.decoder PluginEvent.toJson
  connectRequest : ReadBack ConnectRequest.decoder ConnectRequest.toJson
  /-- the options may be written in any order -/
  anyOrder : ∀ (r : ConnectRequest) (es : List (String × String)), es.Perm r.options.entries →
    ConnectRequest.decoder.ofText (ConnectRequest.listing r.transmissionMode es).toText = .ok r
  /-- an announcement that was written is never taken for the blank one -/
  announcement : ∀ r : ConnectRequest, ConnectRequest.ofBody r.toJson.toText = .ok r
  connectResponse : ReadBack ConnectResponse.decoder ConnectResponse.toJson
  defaultSelection : ReadBack DefaultSelection.decoder DefaultSelection.toJson
  remoteException : ReadBack RemoteException.decoder RemoteException.toJson
  /-- a failure is also recognised as one -/
  failure : ∀ x : RemoteException, RemoteException.ofBody? x.toBody = some x

/-- **Every body that a node writes is read as the value it was written from.** -/
theorem bodies_read_back : Bodies where
  bytes := reads_bytes.readBack exact_bytes
  apduRequest := ApduRequest.reads.readBack ApduRequest.exact
  apduResponse := ApduResponse.reads.readBack ApduResponse.exact
  cardSelector := CardSelector.reads.readBack CardSelector.exact
  cardRequest := CardRequest.reads.readBack CardRequest.exact
  cardRequests := CardRequest.reads.list.readBack (exact_list_map CardRequest.exact)
  selectionStatus := SelectionStatus.reads.readBack SelectionStatus.exact
  cardResponse := CardResponse.reads.readBack CardResponse.exact
  cardResponse? := CardResponse.reads_optional.readBack CardResponse.exact_optional
  cardResponses := CardResponse.reads_list.readBack CardResponse.exact_list
  readerEvent := ReaderEvent.reads.readBack ReaderEvent.exact
  pluginEvent := PluginEvent.reads.readBack PluginEvent.exact
  connectRequest := ConnectRequest.reads.readBack ConnectRequest.exact
  anyOrder := by
    intro r es horder
    have hread := ConnectRequest.reads_listing horder .text
    unfold Decoder.ofText
    rw [ofText_toText _ (ConnectRequest.exact_listing _ es)]
    simp only [hread, if_true]
  announcement := ConnectRequest.ofBody_toText
  connectResponse := ConnectResponse.reads.readBack ConnectResponse.exact
  defaultSelection := DefaultSelection.reads.readBack DefaultSelection.exact
  remoteException := RemoteException.reads.readBack RemoteException.exact
  failure := RemoteException.ofBody?_toBody

end CardLink
