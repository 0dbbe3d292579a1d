import Mathlib.Data.List.Nodup
import CardLink.Proofs.Engine.History

/-!
# What every engine keeps

The table of pending ids and the calls under way tell one story: an id leads to a key exactly when the
call with this key is under way under this id and its mailbox is empty. This holds after every run,
whatever ids the callers choose.

* `Engine.start_cases`, `accept_cases`, `release_of_mem`: what the operations do, each in full.
* `Engine.Sound`: the invariant; `sound_step` for one step, `Sound.trace` for a run.
-/

namespace CardLink.Engine

/-! ## 1. The operations -/

/-- The engine after a call was admitted. -/
def admitting (e : Engine) (id action : String) (patience now : Nat) : Engine :=
  { e with
    slots := e.slots + 1
    pending := e.pending.insert id e.nextKey
    calls := e.calls ++ [⟨e.nextKey, id, action, patience, now, .sending, .empty⟩]
    nextKey := e.nextKey + 1 }

/-- The engine after the call with this key took a response with this id. -/
def delivering (e : Engine) (id : String) (key : Nat) (r : Envelope) : Engine :=
  { e with pending := e.pending.erase id }.updateCall key fun c => { c with mailbox := .delivered r }

/-- What the end of a call makes of another one: its record goes if it has the same id. -/
def bereft (owner : Option Nat) (d : Call) : Call :=
  if some d.key = owner then { d with mailbox := .abandoned } else d

/-- The engine after a call was taken out of it. -/
def withdrawing (e : Engine) (c : Call) : Engine :=
  { e with
    slots := e.slots - 1
    pending := e.pending.erase c.id
    calls := (e.calls.filter (·.key != c.key)).map (bereft (e.pending.get? c.id)) }

theorem start_cases (e : Engine) (id action : String) (patience now : Nat) :
    (e.limit ≤ e.slots ∧ e.start id action patience now = (.error (.tooManyPending e.limit), e)) ∨
    (e.slots < e.limit ∧ (∃ key, e.pending.get? id = some key) ∧
      e.start id action patience now = (.error (.duplicateId id), e)) ∨
    (e.slots < e.limit ∧ e.pending.get? id = none ∧
      e.start id action patience now = (.ok e.nextKey, e.admitting id action patience now)) := by
  unfold start
  by_cases hfull : e.limit ≤ e.slots
  · exact .inl ⟨hfull, by rw [if_pos hfull]⟩
  · rw [if_neg hfull]
    have hroom : e.slots < e.limit := Nat.lt_of_not_le hfull
    cases hp : e.pending.get? id with
    | none =>
      have hfree : e.isPending id = false := by simp [isPending, Table.contains, hp]
      exact .inr (.inr ⟨hroom, rfl, by simp [hfree, admitting]⟩)
    | some key =>
      have htaken : e.isPending id = true := by simp [isPending, Table.contains, hp]
      exact .inr (.inl ⟨hroom, ⟨key, rfl⟩, by simp [htaken]⟩)

theorem accept_cases (e : Engine) (r : Envelope) :
    (∃ id key, r.id = some id ∧ e.pending.get? id = some key ∧
      e.accept r = (true, e.delivering id key r)) ∨
    ((∀ id, r.id = some id → e.pending.get? id = none) ∧ e.accept r = (false, e)) := by
  unfold accept
  cases hr : r.id with
  | none => exact .inr ⟨fun id h => by simp at h, rfl⟩
  | some id =>
    cases hp : e.pending.get? id with
    | none =>
      refine .inr ⟨fun id' h => ?_, by simp [hp]⟩
      obtain rfl : id = id' := by simpa using h
      exact hp
    | some key => exact .inl ⟨id, key, rfl, hp, by simp [hp, delivering]⟩

/-! ## 2. The invariant -/

/-- **The table of pending ids and the calls under way agree.** -/
structure Sound (e : Engine) : Prop where
  /-- every call under way holds one slot -/
  slots : e.slots = e.calls.length
  keys : (e.calls.map (·.key)).Nodup
  fresh : ∀ c ∈ e.calls, c.key < e.nextKey
  /-- a record stands for the one call under way with this id and an empty mailbox -/
  record : ∀ id key, e.pending.get? id = some key ↔
    ∃ c ∈ e.calls, c.key = key ∧ c.id = id ∧ c.mailbox = .empty

section Sound

variable {e e' : Engine} {ev : Event} {c d : Call}

theorem Sound.eq_of_key (h : Sound e) (hc : c ∈ e.calls) (hd : d ∈ e.calls) (hk : c.key = d.key) :
    c = d :=
  List.inj_on_of_nodup_map h.keys hc hd hk

/-- The key of a call under way leads to this call. -/
theorem Sound.call?_eq (h : Sound e) (hc : c ∈ e.calls) : e.call? c.key = some c := by
  unfold call?
  cases hf : e.calls.find? (·.key == c.key) with
  | none =>
    have hno := List.find?_eq_none.1 hf c hc
    simp at hno
  | some d =>
    have hk : d.key = c.key := by simpa using List.find?_some hf
    rw [h.eq_of_key (List.mem_of_find?_eq_some hf) hc hk]

theorem Sound.release_of_mem (h : Sound e) (hc : c ∈ e.calls) :
    e.release c.key = e.withdrawing c := by
  unfold release
  rw [h.call?_eq hc]
  rfl

theorem sound_new (patience limit : Nat) : Sound (new patience limit) where
  slots := rfl
  keys := List.nodup_nil
  fresh c hc := absurd hc List.not_mem_nil
  record id key := by simp [new]

theorem Sound.admitting (h : Sound e) {id : String} (hp : e.pending.get? id = none)
    (action : String) (patience now : Nat) : Sound (e.admitting id action patience now) where
  slots := by simp [Engine.admitting, h.slots]
  keys := by
    show ((e.calls ++ [_]).map Call.key).Nodup
    rw [List.map_append, List.nodup_append]
    refine ⟨h.keys, List.nodup_singleton _, fun a ha b hb hab => ?_⟩
    obtain ⟨c, hc, rfl⟩ := List.mem_map.1 ha
    obtain rfl : b = e.nextKey := by simpa using hb
    exact absurd (h.fresh c hc) (by omega)
  fresh c hc := by
    rcases List.mem_append.1 hc with hc | hc
    · exact Nat.lt_succ_of_lt (h.fresh c hc)
    · obtain rfl := List.mem_singleton.1 hc
      exact Nat.lt_succ_self _
  record id' key := by
    show (e.pending.insert id e.nextKey).get? id' = some key ↔ ∃ c ∈ e.calls ++ [_], _
    rw [Table.get?_insert]
    by_cases hid : id' = id
    · subst hid
      rw [if_pos rfl]
      constructor
      · intro hk
        obtain rfl : e.nextKey = key := by simpa using hk
        exact ⟨_, List.mem_append_right _ (List.mem_singleton_self _), rfl, rfl, rfl⟩
      · intro hsome
        obtain ⟨c, hc, rfl, hcid, hm⟩ := hsome
        rcases List.mem_append.1 hc with hc | hc
        · have hrec := (h.record id' c.key).2 ⟨c, hc, rfl, hcid, hm⟩
          rw [hp] at hrec
          cases hrec
        · rw [List.mem_singleton.1 hc]
    · rw [if_neg hid, h.record]
      constructor
      · intro hsome
        obtain ⟨c, hc, hrest⟩ := hsome
        exact ⟨c, List.mem_append_left _ hc, hrest⟩
      · intro hsome
        obtain ⟨c, hc, hk, hcid, hm⟩ := hsome
        rcases List.mem_append.1 hc with hc | hc
        · exact ⟨c, hc, hk, hcid, hm⟩
        · rw [List.mem_singleton.1 hc] at hcid
          exact absurd hcid.symm hid

/-- A change of one call that leaves its key alone leaves the keys alone. -/
theorem map_key_updateCall (e : Engine) (key : Nat) {f : Call → Call}
    (hf : ∀ c, (f c).key = c.key) :
    (e.updateCall key f).calls.map (·.key) = e.calls.map (·.key) := by
  show (e.calls.map fun c => if c.key = key then f c else c).map (·.key) = _
  rw [List.map_map]
  refine List.map_congr_left fun c _ => ?_
  show (if c.key = key then f c else c).key = c.key
  split
  · exact hf c
  · rfl

theorem mem_updateCall {key : Nat} {f : Call → Call} :
    d ∈ (e.updateCall key f).calls ↔ ∃ c ∈ e.calls, (if c.key = key then f c else c) = d :=
  List.mem_map

/-- What holds of the calls with one key holds after a change of a call that keeps it. -/
theorem forall_updateCall {Q : Call → Prop} {key k : Nat} {f : Call → Call}
    (h : ∀ c ∈ e.calls, c.key = key → Q c) (hkey : ∀ c, (f c).key = c.key)
    (hf : ∀ c, k = key → Q c → Q (f c)) : ∀ d ∈ (e.updateCall k f).calls, d.key = key → Q d := by
  intro d hd hk
  obtain ⟨c, hc, rfl⟩ := mem_updateCall.1 hd
  split at hk
  · rename_i hck
    rw [if_pos hck]
    have hck' : c.key = key := (hkey c).symm.trans hk
    exact hf c (hck.symm.trans hck') (h c hc hck')
  · rename_i hck
    rw [if_neg hck]
    exact h c hc hk

/-- A call whose key is in use was there before another one was admitted. -/
theorem mem_of_admitting {id action : String} {patience now : Nat}
    (hd : d ∈ (e.admitting id action patience now).calls) (hused : d.key < e.nextKey) :
    d ∈ e.calls := by
  rcases List.mem_append.1 hd with hd | hd
  · exact hd
  · rw [List.mem_singleton.1 hd] at hused
    exact absurd hused (Nat.lt_irrefl _)

theorem Sound.sent (h : Sound e) (key now : Nat) : Sound (e.sent key now) where
  slots := by
    show e.slots = (e.calls.map _).length
    rw [List.length_map, h.slots]
  keys := by
    unfold Engine.sent
    rw [map_key_updateCall]
    · exact h.keys
    · exact fun _ => rfl
  fresh d hd := by
    obtain ⟨c, hc, rfl⟩ := mem_updateCall.1 hd
    show (if c.key = key then _ else c).key < e.nextKey
    split
    · exact h.fresh c hc
    · exact h.fresh c hc
  record id k := by
    show e.pending.get? id = some k ↔ _
    rw [h.record]
    constructor
    · intro hsome
      obtain ⟨c, hc, rfl, hid, hm⟩ := hsome
      refine ⟨_, mem_updateCall.2 ⟨c, hc, rfl⟩, ?_⟩
      split
      · exact ⟨rfl, hid, hm⟩
      · exact ⟨rfl, hid, hm⟩
    · intro hsome
      obtain ⟨d, hd, hk, hid, hm⟩ := hsome
      obtain ⟨c, hc, rfl⟩ := mem_updateCall.1 hd
      refine ⟨c, hc, ?_⟩
      split at hk
      · rename_i hck
        rw [if_pos hck] at hid hm
        exact ⟨hk, hid, hm⟩
      · rename_i hck
        rw [if_neg hck] at hid hm
        exact ⟨hk, hid, hm⟩

theorem Sound.delivering (h : Sound e) {id : String} {key : Nat}
    (hp : e.pending.get? id = some key) (r : Envelope) : Sound (e.delivering id key r) where
  slots := by
    show e.slots = (e.calls.map _).length
    rw [List.length_map, h.slots]
  keys := by
    unfold Engine.delivering
    rw [map_key_updateCall]
    · exact h.keys
    · exact fun _ => rfl
  fresh d hd := by
    obtain ⟨c, hc, rfl⟩ := mem_updateCall.1 hd
    show (if c.key = key then _ else c).key < e.nextKey
    split
    · exact h.fresh c hc
    · exact h.fresh c hc
  record id' k := by
    show (e.pending.erase id).get? id' = some k ↔ _
    rw [Table.get?_erase]
    constructor
    · intro hk
      split at hk
      · cases hk
      · rename_i hne
        obtain ⟨c, hc, rfl, hid, hm⟩ := (h.record id' k).1 hk
        refine ⟨c, mem_updateCall.2 ⟨c, hc, if_neg fun hck => hne ?_⟩, rfl, hid, hm⟩
        obtain ⟨c', hc', hk', hid', -⟩ := (h.record id key).1 hp
        rw [← hid, ← hid', h.eq_of_key hc hc' (hck.trans hk'.symm)]
    · intro hsome
      obtain ⟨d, hd, hk, hid, hm⟩ := hsome
      obtain ⟨c, hc, rfl⟩ := mem_updateCall.1 hd
      split at hk
      · rename_i hck
        rw [if_pos hck] at hm
        cases hm
      · rename_i hck
        rw [if_neg hck] at hid hm
        have hrec := (h.record id' k).2 ⟨c, hc, hk, hid, hm⟩
        split
        · rename_i heq
          rw [heq, hp] at hrec
          exact absurd (hk.trans (by simpa using hrec.symm)) hck
        · exact hrec

/-! ### The end of a call -/

@[simp] theorem key_bereft (owner : Option Nat) (d : Call) : (bereft owner d).key = d.key := by
  unfold bereft
  split
  · rfl
  · rfl

@[simp] theorem id_bereft (owner : Option Nat) (d : Call) : (bereft owner d).id = d.id := by
  unfold bereft
  split
  · rfl
  · rfl

theorem bereft_of_ne {owner : Option Nat} (h : some d.key ≠ owner) : bereft owner d = d :=
  if_neg h

theorem mem_withdrawing : d ∈ (e.withdrawing c).calls ↔
    ∃ d' ∈ e.calls, d'.key ≠ c.key ∧ bereft (e.pending.get? c.id) d' = d := by
  simp [withdrawing, and_assoc]

/-- Only one call goes. -/
theorem Sound.length_filter (h : Sound e) (hc : c ∈ e.calls) :
    (e.calls.filter (·.key != c.key)).length = e.calls.length - 1 := by
  have herase : (e.calls.map (·.key)).erase c.key = (e.calls.map (·.key)).filter (· != c.key) :=
    h.keys.erase_eq_filter c.key
  have hmem : c.key ∈ e.calls.map (·.key) := List.mem_map_of_mem hc
  have hlen := congrArg List.length herase
  rw [List.length_erase_of_mem hmem, List.filter_map, List.length_map, List.length_map] at hlen
  exact hlen.symm

theorem Sound.withdrawing (h : Sound e) (hc : c ∈ e.calls) : Sound (e.withdrawing c) where
  slots := by
    show e.slots - 1 = ((e.calls.filter (·.key != c.key)).map _).length
    rw [List.length_map, h.length_filter hc, h.slots]
  keys := by
    show (((e.calls.filter (·.key != c.key)).map (bereft _)).map Call.key).Nodup
    have hkeep : Call.key ∘ bereft (e.pending.get? c.id) = Call.key :=
      funext (key_bereft _)
    rw [List.map_map, hkeep]
    exact h.keys.sublist (List.Sublist.map _ List.filter_sublist)
  fresh d hd := by
    obtain ⟨d', hd', -, rfl⟩ := mem_withdrawing.1 hd
    rw [key_bereft]
    exact h.fresh d' hd'
  record id key := by
    show (e.pending.erase c.id).get? id = some key ↔ _
    rw [Table.get?_erase]
    constructor
    · intro hk
      split at hk
      · cases hk
      · rename_i hne
        obtain ⟨d, hd, rfl, rfl, hm⟩ := (h.record id key).1 hk
        have hkey : d.key ≠ c.key := fun heq => hne (by rw [h.eq_of_key hd hc heq])
        -- the record of `d` is not the one that goes, since the ids differ
        have howner : some d.key ≠ e.pending.get? c.id := by
          intro heq
          obtain ⟨d', hd', hk', hid', -⟩ := (h.record c.id d.key).1 heq.symm
          exact hne (by rw [← hid', h.eq_of_key hd' hd hk'])
        exact ⟨d, mem_withdrawing.2 ⟨d, hd, hkey, bereft_of_ne howner⟩, rfl, rfl, hm⟩
    · intro hsome
      obtain ⟨d, hd, rfl, rfl, hm⟩ := hsome
      obtain ⟨d', hd', hkey, rfl⟩ := mem_withdrawing.1 hd
      by_cases howner : some d'.key = e.pending.get? c.id
      · rw [bereft, if_pos howner] at hm
        cases hm
      · rw [bereft_of_ne howner] at hm ⊢
        have hrec := (h.record d'.id d'.key).2 ⟨d', hd', rfl, rfl, hm⟩
        rw [if_neg fun heq => howner (by rw [← heq, hrec])]
        exact hrec

/-! ## 3. Steps and runs -/

/-- **One step keeps the invariant.** -/
theorem sound_step (h : Sound e) (hs : Step e ev e') : Sound e' := by
  cases hs with
  | start id action patience now =>
    rcases start_cases e id action patience now with ⟨-, heq⟩ | ⟨-, -, heq⟩ | ⟨-, hp, heq⟩
    · rw [heq]; exact h
    · rw [heq]; exact h
    · rw [heq]; exact h.admitting hp action patience now
  | sent c now _ _ => exact h.sent c.key now
  | unsent c _ hc _ => rw [h.release_of_mem hc]; exact h.withdrawing hc
  | receive r =>
    rcases accept_cases e r with ⟨id, key, -, hp, heq⟩ | ⟨-, heq⟩
    · rw [heq]; exact h.delivering hp r
    · rw [heq]; exact h
  | finish c now _ hc _ => rw [h.release_of_mem hc]; exact h.withdrawing hc
  | drop c hc => rw [h.release_of_mem hc]; exact h.withdrawing hc

/-- **The invariant is kept along every run.** -/
theorem Sound.trace {evs : List Event} (h : Sound e) (ht : Trace Step e evs e') : Sound e' :=
  ht.invariant (I := fun _ e => Sound e) h fun _ _ _ _ _ hI hs => sound_step hI hs

end Sound

end CardLink.Engine
