import CardLink.Proofs.Envelope.Exception
import CardLink.Reader.Operation
import CardLink.Slave.Basic

/-!
# What a slave answers

A local reader is what a native reader would be on this node: a card or none, and a default selection
or none. The answer of a slave, read on the other side, is the answer of the local reader.

* `LocalReader`: the model; `answer` and `after` say what an operation comes to.
* `Slave.serve_operation`, `Slave.receive_operation`: what the slave does with the request.
* **`ReaderOperation.read_replyBody`**: the body of the response reads as the local answer.
* `LocalReader.result_response`: no response is taken for a failure.
-/

namespace CardLink

open Json

/-! ## 1. Local readers -/

/-- A reader without a network: at most one card and at most one default selection. -/
structure LocalReader where
  card : Option SimulatedCard
  selection : Option DefaultSelection
deriving DecidableEq, Repr

namespace LocalReader

def empty : LocalReader := ⟨none, none⟩

/-- The outcome of a request; there is none without a card. -/
def process (l : LocalReader) (q : CardRequest) : Option CardResponse :=
  l.card.bind fun card => card.process q

/-- What an operation is answered. -/
def answer (l : LocalReader) : ReaderOperation → ReaderAnswer
  | .transmit qs => .responses (qs.map l.process)
  | .transmitOne q => .response (l.process q)
  | .isPresent => .present l.card.isSome
  | .select _ => .selected

/-- The reader after an operation. -/
def after (l : LocalReader) : ReaderOperation → LocalReader
  | .select selection => { l with selection := some selection }
  | _ => l

/-- What a card that is put in answers to the default selection, if one is set. -/
def reaction (l : LocalReader) (card : SimulatedCard) : Option (List (Option CardResponse)) :=
  l.selection.map fun selection => selection.selectionRequests.map card.process

/-- The body of the response that carries an answer. -/
def replyBody (l : LocalReader) : ReaderOperation → String
  | .transmit qs => (CardResponse.listToJson (qs.map l.process)).toText
  | .transmitOne q => (Json.ofOption CardResponse.toJson (l.process q)).toText
  | .isPresent => (Json.bool l.card.isSome).toText
  | .select _ => ""

end LocalReader

/-- What is in a native reader. -/
def NativeReader.inside (r : NativeReader) : LocalReader := ⟨r.card, r.selection⟩

/-! ## 2. The slave -/

section Slave

variable {s : Slave} {r : NativeReader} {op : ReaderOperation}

/-- **The slave does what the local reader does.** -/
theorem Slave.serve_operation (r : NativeReader) (op : ReaderOperation) :
    Slave.serve r op.method op.body =
      .ok (r.inside.replyBody op, { r with selection := (r.inside.after op).selection }) := by
  cases op with
  | transmit qs =>
    have hread : CardRequest.decoder.list.ofText (Json.list (qs.map CardRequest.toJson)).toText =
        .ok qs :=
      CardRequest.reads.list.ofText qs (exact_list_map CardRequest.exact qs)
    simp only [Slave.serve, ReaderOperation.method, ReaderOperation.body, hread]
    rfl
  | transmitOne q =>
    have hread : CardRequest.decoder.ofText q.toJson.toText = .ok q :=
      CardRequest.reads.ofText q q.exact
    simp only [Slave.serve, ReaderOperation.method, ReaderOperation.body, hread]
    rfl
  | isPresent => rfl
  | select selection =>
    have hread : DefaultSelection.decoder.ofText selection.toJson.toText = .ok selection :=
      DefaultSelection.reads.ofText selection selection.exact
    simp only [Slave.serve, ReaderOperation.method, ReaderOperation.body, hread]
    rfl

theorem Slave.answer_operation (op : ReaderOperation) (route : Route)
    (hr : s.reader? route.nativeReader = some r) (id : String) :
    s.answer (.request op.method.name op.body route id) =
      (.response op.method.name (r.inside.replyBody op) route.reverse id,
        { s with
          readers := s.readers.insert route.nativeReader
            { r with selection := (r.inside.after op).selection } }) := by
  simp only [Slave.answer, Envelope.request, Method.ofName?_name, hr, Slave.serve_operation]
  rfl

/-- The slave after it answered an operation on one of its readers. -/
def Slave.served (s : Slave) (native : String) (r : NativeReader) (op : ReaderOperation) : Slave :=
  { s with
    seen := s.seen ++ [op.method.name]
    readers := s.readers.insert native { r with selection := (r.inside.after op).selection } }

/-- **The request for an operation is answered at once.** -/
theorem Slave.receive_operation (hsilent : s.silent = false) (route : Route)
    (hr : s.reader? route.nativeReader = some r) (id : String) :
    s.receive (.request op.method.name op.body route id) =
      (some (.response op.method.name (r.inside.replyBody op) route.reverse id),
        s.served route.nativeReader r op) := by
  have hanswer := Slave.answer_operation (s := { s with seen := s.seen ++ [op.method.name] }) op
    route hr id
  show (if (s.silent || false) = true then _ else
    (some (Slave.answer _ { s with seen := s.seen ++ [op.method.name] }).1,
      (Slave.answer _ { s with seen := s.seen ++ [op.method.name] }).2)) = _
  rw [hanswer, if_neg (by simp [hsilent])]
  rfl

end Slave

/-! ## 3. The answer on the other side -/

/-- **The body of the response reads as the local answer**, each place of it as it was. -/
theorem ReaderOperation.read_replyBody (reader : String) (l : LocalReader)
    (op : ReaderOperation) : op.read reader (l.replyBody op) = .ok (l.answer op) := by
  cases op with
  | transmit qs =>
    have hread : CardResponse.listDecoder.ofText
        (CardResponse.listToJson (qs.map l.process)).toText = .ok (qs.map l.process) :=
      CardResponse.reads_list.ofText _ (CardResponse.exact_list _)
    have hlength : ¬ qs.length < (qs.map l.process).length := by simp
    have hpad : pad qs.length (qs.map l.process) = qs.map l.process := by simp [pad]
    simp only [ReaderOperation.read, LocalReader.replyBody, hread, if_neg hlength, hpad,
      LocalReader.answer]
  | transmitOne q =>
    have hread : CardResponse.decoder.optional.ofText
        (Json.ofOption CardResponse.toJson (l.process q)).toText = .ok (l.process q) :=
      CardResponse.reads_optional.ofText _ (CardResponse.exact_optional _)
    simp only [ReaderOperation.read, LocalReader.replyBody, hread, LocalReader.answer]
  | isPresent =>
    have hread : Decoder.bool.ofText (Json.bool l.card.isSome).toText = .ok l.card.isSome :=
      Decoder.Reads.ofText reads_bool _ trivial
    simp only [ReaderOperation.read, LocalReader.replyBody, hread, LocalReader.answer]
  | select selection => rfl

namespace LocalReader

/-- The body of a response is an answer. -/
theorem answerBody_replyBody (l : LocalReader) (op : ReaderOperation) :
    AnswerBody (l.replyBody op) := by
  cases op with
  | transmit qs => exact .responses _
  | transmitOne q => exact .response _
  | isPresent => exact .present _
  | select selection => exact .empty

/-- The result of the call that carried the operation. -/
theorem result_response (l : LocalReader) (op : ReaderOperation) (route : Route) (id : String) :
    (Envelope.response op.method.name (l.replyBody op) route id).result =
      .ok (l.replyBody op) := by
  have hplain : (Envelope.response op.method.name (l.replyBody op) route id).containsException =
      false :=
    (l.answerBody_replyBody op).isMarked
  unfold Envelope.result
  rw [hplain]
  rfl

end LocalReader

end CardLink
