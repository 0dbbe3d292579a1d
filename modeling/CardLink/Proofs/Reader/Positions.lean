import CardLink.Proofs.Card.RoundTrip
import CardLink.Reader.Operation

/-!
# What a transmission comes to

A transmission asks for one response to each request. What the application gets has a place for each
request: the responses of the reply come first, each in its own place, and the rest stays empty.

* `ReaderOperation.Verdict`: what a transmission comes to, by the result of its call.
* **`ReaderOperation.conclude_transmit_iff`**: this, and nothing else.
* `ReaderOperation.conclude_echo`: a reply that leaves places empty.
-/

namespace CardLink.ReaderOperation

open Json

variable {name body : String} {n : Nat} {requests : List CardRequest}
  {rs out : List (Option CardResponse)}

/-! ## 1. Places -/

/-- **The responses in their places**, one for each of `n` requests: none is moved, and the places
that have no response are at the end. -/
structure InPlace (n : Nat) (rs out : List (Option CardResponse)) : Prop where
  length : out.length = n
  given : ∀ i, i < rs.length → out[i]? = rs[i]?
  missing : ∀ i, rs.length ≤ i → i < n → out[i]? = some none

theorem inPlace_pad (h : rs.length ≤ n) : InPlace n rs (pad n rs) where
  length := length_pad h
  given i hi := List.getElem?_append_left hi
  missing i hi hn := by
    unfold pad
    rw [List.getElem?_append_right hi, List.getElem?_replicate, if_pos (by omega)]

/-- There is one way to put them in their places. -/
theorem InPlace.eq_pad (h : InPlace n rs out) (hlength : rs.length ≤ n) : out = pad n rs := by
  have hpad := inPlace_pad hlength
  refine List.ext_getElem? fun i => ?_
  by_cases hgiven : i < rs.length
  · rw [h.given i hgiven, hpad.given i hgiven]
  · have hlater : rs.length ≤ i := Nat.le_of_not_lt hgiven
    by_cases hi : i < n
    · rw [h.missing i hlater hi, hpad.missing i hlater hi]
    · have hbeyond : n ≤ i := Nat.le_of_not_lt hi
      have hout : out.length ≤ i := Nat.le_trans (Nat.le_of_eq h.length) hbeyond
      have hfilled : (pad n rs).length ≤ i := Nat.le_trans (Nat.le_of_eq hpad.length) hbeyond
      rw [List.getElem?_eq_none hout, List.getElem?_eq_none hfilled]

/-! ## 2. Verdicts -/

/-- **What a transmission comes to**, by the result of its call. -/
inductive Verdict (name : String) (requests : List CardRequest) :
    Except CallError String → Except ReaderError ReaderAnswer → Prop where
  /-- the call failed -/
  | failed (reason : CallError) :
      Verdict name requests (.error reason) (.error (.communication name reason))
  /-- the reply is no list of responses -/
  | unread (body : String) (fault : Fault)
      (hread : CardResponse.listDecoder.ofText body = .error fault) :
      Verdict name requests (.ok body) (.error (.serialization fault))
  /-- there are more responses than requests -/
  | tooMany (body : String) (rs : List (Option CardResponse))
      (hread : CardResponse.listDecoder.ofText body = .ok rs)
      (hmany : requests.length < rs.length) :
      Verdict name requests (.ok body) (.error (.unexpectedResponse name
        (toString rs.length ++ " responses for " ++ toString requests.length ++ " requests")))
  | answered (body : String) (rs out : List (Option CardResponse))
      (hread : CardResponse.listDecoder.ofText body = .ok rs)
      (hfew : rs.length ≤ requests.length) (hplaces : InPlace requests.length rs out) :
      Verdict name requests (.ok body) (.ok (.responses out))

/-- What becomes of a reply that is a list of responses. -/
theorem read_of_list (hread : CardResponse.listDecoder.ofText body = .ok rs) :
    (transmit requests).read name body =
      if requests.length < rs.length then
        .error (.unexpectedResponse name
          (toString rs.length ++ " responses for " ++ toString requests.length ++ " requests"))
      else .ok (.responses (pad requests.length rs)) := by
  unfold read
  dsimp only
  rw [hread]

/-- A transmission has come to this. -/
theorem verdict_conclude (name : String) (requests : List CardRequest)
    (result : Except CallError String) :
    Verdict name requests result ((transmit requests).conclude name result) := by
  cases result with
  | error reason => exact .failed reason
  | ok body =>
    show Verdict name requests (.ok body) ((transmit requests).read name body)
    cases hread : CardResponse.listDecoder.ofText body with
    | error fault =>
      have hunread : (transmit requests).read name body = .error (.serialization fault) := by
        unfold read
        dsimp only
        rw [hread]
      rw [hunread]
      exact .unread body fault hread
    | ok rs =>
      rw [read_of_list hread]
      by_cases hmany : requests.length < rs.length
      · rw [if_pos hmany]
        exact .tooMany body rs hread hmany
      · rw [if_neg hmany]
        have hfew : rs.length ≤ requests.length := Nat.le_of_not_lt hmany
        exact .answered body rs _ hread hfew (inPlace_pad hfew)

/-- **A transmission comes to this and to nothing else.** -/
theorem conclude_transmit_iff {result : Except CallError String}
    {verdict : Except ReaderError ReaderAnswer} :
    (transmit requests).conclude name result = verdict ↔ Verdict name requests result verdict := by
  constructor
  · intro h
    rw [← h]
    exact verdict_conclude name requests result
  · intro h
    cases h with
    | failed reason => rfl
    | unread body fault hread =>
      show (transmit requests).read name body = _
      unfold read
      dsimp only
      rw [hread]
    | tooMany body rs hread hmany => exact (read_of_list hread).trans (if_pos hmany)
    | answered body rs out hread hfew hplaces =>
      rw [hplaces.eq_pad hfew]
      exact (read_of_list hread).trans (if_neg (Nat.not_lt.2 hfew))

/-- **What a reply leaves empty stays empty, and in its place.** -/
theorem conclude_echo (name : String) (h : rs.length ≤ requests.length) :
    (transmit requests).conclude name (.ok (CardResponse.listToJson rs).toText) =
      .ok (.responses (pad requests.length rs)) := by
  have hread := bodies_read_back.cardResponses.reads rs
  exact conclude_transmit_iff.2 (.answered _ rs _ hread h (inPlace_pad h))

end CardLink.ReaderOperation
