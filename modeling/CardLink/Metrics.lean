import CardLink.Duration

/-!
# Traffic and call metrics

Counters of 64 bits, which wrap around, and a histogram of round trips with one count for each range
between two bounds. `exportText` writes them as text, one family after the other, the histogram with
running totals and only if some call completed.
-/

namespace CardLink

/-- Round trips by range. -/
structure Histogram where
  /-- one count for each bound, and one for what lies beyond the last -/
  buckets : List UInt64
  /-- the round trips in whole milliseconds, added up -/
  sum : UInt64
  count : UInt64
deriving DecidableEq, Repr

namespace Histogram

/-- The bounds in milliseconds. -/
def bounds : List Nat := [10, 50, 100, 500, 1000]

def empty : Histogram := ⟨[0, 0, 0, 0, 0, 0], 0, 0⟩

/-- Counts a round trip in the first range whose bound is not exceeded. -/
def count1 (d : Duration) : List Nat → List UInt64 → List UInt64
  | b :: bs, n :: ns =>
    if d.nanos ≤ b * 1000000 then (n + 1) :: ns else n :: count1 d bs ns
  | [], n :: ns => (n + 1) :: ns
  | _, [] => []

def record (h : Histogram) (d : Duration) : Histogram :=
  ⟨count1 d bounds h.buckets, h.sum + UInt64.ofNat d.millis, h.count + 1⟩

/-- Running totals. -/
def cumulative (start : UInt64) : List UInt64 → List UInt64
  | [] => []
  | n :: ns => (start + n) :: cumulative (start + n) ns

end Histogram

/-- All counters of one node or engine. -/
structure Metrics where
  /-- what the name of every family begins with -/
  family : String
  envelopesSent : UInt64
  envelopesReceived : UInt64
  bytesSent : UInt64
  bytesReceived : UInt64
  sendFailures : UInt64
  callTimeouts : UInt64
  roundTrips : Histogram
deriving DecidableEq, Repr

namespace Metrics

/-- All counters at zero. -/
def new (family : String) : Metrics := ⟨family, 0, 0, 0, 0, 0, 0, .empty⟩

/-- The family name when none is given. -/
def defaultFamily : String := "rse"

def recordSend (m : Metrics) (bytes : Nat) : Metrics :=
  { m with envelopesSent := m.envelopesSent + 1, bytesSent := m.bytesSent + UInt64.ofNat bytes }

def recordReceive (m : Metrics) (bytes : Nat) : Metrics :=
  { m with
    envelopesReceived := m.envelopesReceived + 1,
    bytesReceived := m.bytesReceived + UInt64.ofNat bytes }

def recordSendFailure (m : Metrics) : Metrics := { m with sendFailures := m.sendFailures + 1 }

def recordTimeout (m : Metrics) : Metrics := { m with callTimeouts := m.callTimeouts + 1 }

def recordRoundTrip (m : Metrics) (d : Duration) : Metrics :=
  { m with roundTrips := m.roundTrips.record d }

/-- Back to zero, under the same name. -/
def reset (m : Metrics) : Metrics := new m.family

/-- Calls that received their response. -/
def callsCompleted (m : Metrics) : UInt64 := m.roundTrips.count

/-! ## Text form -/

def word (n : UInt64) : String := toString n.toNat

/-- A counter with its two header lines. -/
def counterText (family name help : String) (n : UInt64) : String :=
  "# HELP " ++ family ++ "_" ++ name ++ " " ++ help ++ "\n" ++
  "# TYPE " ++ family ++ "_" ++ name ++ " counter\n" ++
  family ++ "_" ++ name ++ " " ++ word n ++ "\n"

/-- One line of the histogram. -/
def bucketText (family bound : String) (n : UInt64) : String :=
  family ++ "_call_rtt_milliseconds_bucket\x7ble=\"" ++ bound ++ "\"\x7d " ++ word n ++ "\n"

def boundNames : List String := Histogram.bounds.map toString ++ ["+Inf"]

def histogramText (family : String) (h : Histogram) : String :=
  let name := family ++ "_call_rtt_milliseconds"
  "# HELP " ++ name ++ " Call round-trip time in milliseconds\n" ++
  "# TYPE " ++ name ++ " histogram\n" ++
  String.join ((boundNames.zip (Histogram.cumulative 0 h.buckets)).map
    fun p => bucketText family p.1 p.2) ++
  name ++ "_sum " ++ word h.sum ++ "\n" ++
  name ++ "_count " ++ word h.count ++ "\n"

/-- All counters, and the histogram if it holds anything. -/
def exportText (m : Metrics) : String :=
  counterText m.family "envelopes_sent_total" "Total envelopes sent" m.envelopesSent ++
  counterText m.family "envelopes_received_total" "Total envelopes received"
    m.envelopesReceived ++
  counterText m.family "bytes_sent_total" "Total encoded bytes sent" m.bytesSent ++
  counterText m.family "bytes_received_total" "Total encoded bytes received" m.bytesReceived ++
  counterText m.family "send_failures_total" "Total failed sends" m.sendFailures ++
  counterText m.family "call_timeouts_total" "Total calls without a response in time"
    m.callTimeouts ++
  (if m.roundTrips.count = 0 then "" else histogramText m.family m.roundTrips)

end Metrics

end CardLink
