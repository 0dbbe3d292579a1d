import Mathlib.Algebra.Order.BigOperators.Group.List
import Mathlib.Algebra.Order.Ring.Nat
import CardLink.Metrics

/-!
# What a histogram says

A histogram keeps one count for each range between two bounds, and running totals are made of them
only when it is written. So each of the totals is the number of round trips that are not longer than
its bound.

* `Histogram.totals`: these numbers, read off the round trips.
* `Histogram.cumulative_count1`: one round trip more.
* `Histogram.Holds`: the histogram of some round trips; `holds_empty`, `Holds.record`.
* `Metrics.histogramLines`: what is written about some round trips.
* **`Metrics.exportText_of_holds`**: the text of the counters and of the histogram.
-/

namespace CardLink

namespace Histogram

/-! ## 1. Running totals -/

/-- The duration is not longer than so many milliseconds. -/
def within (bound : Nat) (d : Duration) : Bool := decide (d.nanos ≤ bound * 1000000)

theorem within_mono {b b' : Nat} {d : Duration} (hle : b ≤ b') (h : within b d = true) :
    within b' d = true :=
  decide_eq_true (Nat.le_trans (of_decide_eq_true h) (Nat.mul_le_mul_right _ hle))

/-- **How many durations lie within each bound**, and how many there are. -/
def totals (bs : List Nat) (ds : List Duration) : List Nat :=
  bs.map (fun b => ds.countP (within b)) ++ [ds.length]

/-- The totals never decrease. -/
theorem totals_sorted {bs : List Nat} (h : bs.Pairwise (· ≤ ·)) (ds : List Duration) :
    (totals bs ds).Pairwise (· ≤ ·) := by
  refine List.pairwise_append.2 ⟨?_, List.pairwise_singleton _ _, fun n hn m hm => ?_⟩
  · refine List.pairwise_map.2 (h.imp fun {b b'} hle => ?_)
    exact List.countP_mono_left fun _ _ hwithin => within_mono hle hwithin
  · obtain ⟨b, -, rfl⟩ := List.mem_map.1 hn
    obtain rfl := List.mem_singleton.1 hm
    exact List.countP_le_length

/-- Where the counting starts is added to each total. -/
theorem cumulative_succ (start : UInt64) (ns : List UInt64) :
    cumulative (start + 1) ns = (cumulative start ns).map (· + 1) := by
  induction ns generalizing start with
  | nil => rfl
  | cons n ns ih =>
    have hnext : start + 1 + n = start + n + 1 := by
      rw [UInt64.add_assoc, UInt64.add_comm 1 n, UInt64.add_assoc]
    show (start + 1 + n) :: cumulative (start + 1 + n) ns = _
    rw [hnext, ih]
    rfl

/-- **One duration more** adds to the totals of all bounds that it does not exceed. -/
theorem cumulative_count1 {bs : List Nat} {ns : List UInt64} {start last : UInt64}
    {f : Nat → UInt64} (hsorted : bs.Pairwise (· ≤ ·)) (d : Duration)
    (h : cumulative start ns = bs.map f ++ [last]) :
    cumulative start (count1 d bs ns) =
      bs.map (fun b => if within b d then f b + 1 else f b) ++ [last + 1] := by
  induction bs generalizing start ns with
  | nil =>
    cases ns with
    | nil => cases h
    | cons n ns =>
      obtain ⟨hlast, hrest⟩ := List.cons.inj h
      show (start + (n + 1)) :: cumulative (start + (n + 1)) ns = [last + 1]
      rw [← UInt64.add_assoc, cumulative_succ, hrest, hlast]
      rfl
  | cons b bs ih =>
    obtain ⟨hb, hbs⟩ := List.pairwise_cons.1 hsorted
    cases ns with
    | nil => cases h
    | cons n ns =>
      obtain ⟨hfirst, hrest⟩ := List.cons.inj h
      by_cases hwithin : d.nanos ≤ b * 1000000
      · -- all greater bounds are not exceeded either, and their totals grow through this one
        have hall : ∀ b' ∈ bs, within b' d = true := fun b' hb' =>
          within_mono (hb b' hb') (decide_eq_true hwithin)
        have hgrown : bs.map (fun b => if within b d then f b + 1 else f b) =
            (bs.map f).map (· + 1) := by
          rw [List.map_map]
          exact List.map_congr_left fun b' hb' => if_pos (hall b' hb')
        have hself : within b d = true := decide_eq_true hwithin
        rw [count1, if_pos hwithin, List.map_cons, if_pos hself, hgrown]
        show (start + (n + 1)) :: cumulative (start + (n + 1)) ns = _
        rw [← UInt64.add_assoc, cumulative_succ, hrest, hfirst]
        exact congrArg _ List.map_append
      · have hself : ¬ within b d = true := fun hw => hwithin (of_decide_eq_true hw)
        rw [count1, if_neg hwithin, List.map_cons, if_neg hself, ← hfirst]
        exact congrArg _ (ih hbs hrest)

/-! ## 2. The histogram of some durations -/

/-- **The histogram of these durations**, with counters of 64 bits. -/
structure Holds (h : Histogram) (ds : List Duration) : Prop where
  buckets : cumulative 0 h.buckets = (totals bounds ds).map .ofNat
  sum : h.sum = .ofNat (ds.map Duration.millis).sum
  count : h.count = .ofNat ds.length

theorem holds_empty : Holds empty [] := ⟨rfl, rfl, rfl⟩

theorem sorted_bounds : bounds.Pairwise (· ≤ ·) := by decide

theorem Holds.record {h : Histogram} {ds : List Duration} (hds : Holds h ds) (d : Duration) :
    Holds (h.record d) (ds ++ [d]) where
  buckets := by
    have hbefore : cumulative 0 h.buckets =
        bounds.map (fun b => UInt64.ofNat (ds.countP (within b))) ++ [.ofNat ds.length] := by
      rw [hds.buckets, totals, List.map_append, List.map_map]
      rfl
    show cumulative 0 (count1 d bounds h.buckets) = _
    have htotal : ∀ b, (if within b d then UInt64.ofNat (ds.countP (within b)) + 1
        else .ofNat (ds.countP (within b))) = .ofNat ((ds ++ [d]).countP (within b)) := by
      intro b
      rw [List.countP_append, List.countP_singleton]
      split
      · exact (UInt64.ofNat_add _ 1).symm
      · rfl
    have hlast : UInt64.ofNat ds.length + 1 = .ofNat (ds ++ [d]).length := by
      rw [List.length_append]
      exact (UInt64.ofNat_add _ 1).symm
    rw [cumulative_count1 sorted_bounds d hbefore, totals, List.map_append, List.map_map]
    simp only [htotal, hlast]
    rfl
  sum := by
    show h.sum + .ofNat d.millis = _
    rw [hds.sum, ← UInt64.ofNat_add, List.map_append, List.sum_append]
    rfl
  count := by
    show h.count + 1 = _
    rw [hds.count, List.length_append]
    exact (UInt64.ofNat_add _ 1).symm

end Histogram

/-! ## 3. The text -/

namespace Metrics

open Histogram

/-- A line with a number. -/
def sampleLine (name : String) (n : Nat) : String := name ++ " " ++ toString n ++ "\n"

/-- What the histogram is called. -/
def tripsName (family : String) : String := family ++ "_call_rtt_milliseconds"

/-- What the total for one bound is called. -/
def bucketName (family bound : String) : String :=
  tripsName family ++ "_bucket\x7ble=\"" ++ bound ++ "\"\x7d"

/-- **What is written about these round trips**: how many lie within each bound, how many there are,
how long they are together, and once more how many there are. -/
def histogramLines (family : String) (ds : List Duration) : List String :=
  ["# HELP " ++ tripsName family ++ " Call round-trip time in milliseconds\n",
    "# TYPE " ++ tripsName family ++ " histogram\n"] ++
  bounds.map (fun b => sampleLine (bucketName family (toString b)) (ds.countP (within b))) ++
  [sampleLine (bucketName family "+Inf") ds.length,
    sampleLine (tripsName family ++ "_sum") ((ds.map Duration.millis).sum % UInt64.size),
    sampleLine (tripsName family ++ "_count") ds.length]

/-- The text of the counters alone. -/
def countersText (m : Metrics) : String :=
  counterText m.family "envelopes_sent_total" "Total envelopes sent" m.envelopesSent ++
  counterText m.family "envelopes_received_total" "Total envelopes received" m.envelopesReceived ++
  counterText m.family "bytes_sent_total" "Total encoded bytes sent" m.bytesSent ++
  counterText m.family "bytes_received_total" "Total encoded bytes received" m.bytesReceived ++
  counterText m.family "send_failures_total" "Total failed sends" m.sendFailures ++
  counterText m.family "call_timeouts_total" "Total calls without a response in time" m.callTimeouts

/-- The line of one total. -/
theorem bucketText_eq (family bound : String) (n : UInt64) :
    bucketText family bound n = sampleLine (bucketName family bound) n.toNat := by
  have hname : "_call_rtt_milliseconds_bucket\x7ble=\"" =
      "_call_rtt_milliseconds" ++ "_bucket\x7ble=\"" := rfl
  have hend : "\"\x7d " = "\"\x7d" ++ " " := rfl
  simp only [bucketText, sampleLine, bucketName, tripsName, word, hname, hend, String.append_assoc]

section Export

variable {m : Metrics} {h : Histogram} {ds : List Duration}

/-- **The text of the histogram.** -/
theorem histogramText_of_holds (family : String) (hds : Holds h ds)
    (hfew : ds.length < UInt64.size) :
    histogramText family h = String.join (histogramLines family ds) := by
  have htotal : ∀ b, (UInt64.ofNat (ds.countP (within b))).toNat = ds.countP (within b) :=
    fun b => UInt64.toNat_ofNat_of_lt' (Nat.lt_of_le_of_lt List.countP_le_length hfew)
  have hlength : (UInt64.ofNat ds.length).toNat = ds.length := UInt64.toNat_ofNat_of_lt' hfew
  have hsum : h.sum.toNat = (ds.map Duration.millis).sum % UInt64.size := by
    rw [hds.sum, UInt64.toNat_ofNat']
  have hnames : "_sum " = "_sum" ++ " " ∧ "_count " = "_count" ++ " " := ⟨rfl, rfl⟩
  unfold histogramText
  rw [hds.buckets, hds.count]
  simp only [histogramLines, totals, bounds, boundNames, bucketText_eq, htotal, hlength, word, hsum,
    hnames.1, hnames.2, sampleLine, tripsName, List.map_cons, List.map_nil, List.cons_append,
    List.nil_append, List.zip_cons_cons, List.zip_nil_right, String.join_cons, String.join_nil,
    String.append_assoc, String.append_empty]

/-- **What is exported**: the counters, and the histogram if there is anything in it. -/
theorem exportText_of_holds (hds : Holds m.roundTrips ds) (hfew : ds.length < UInt64.size) :
    m.exportText = m.countersText ++
      if ds = [] then "" else String.join (histogramLines m.family ds) := by
  have hzero : m.roundTrips.count = 0 ↔ ds = [] := by
    rw [hds.count, ← UInt64.toNat_inj, UInt64.toNat_ofNat_of_lt' hfew]
    exact List.length_eq_zero_iff
  rw [← histogramText_of_holds m.family hds hfew]
  simp only [exportText, countersText, hzero]

end Export

end Metrics

end CardLink
