import Lmrs.Adapter.PublicCommands

/-!
# What the commands say about the queue

Source: `lmrs/adapter/registration.py`, `_QueueHolder`, `QueueStatusCommand`, `CancelCommand`,
`vram_payload`; `lmrs/adapter/info.py`, `build_info_payload`.

Three of the four readers ask the queue holder of the process. The self-description takes the snapshot of a
new `RequestQueue`, so it reports an empty queue whatever waits.

* `reports_agree_iff`: the four agree exactly when the queue is empty.
-/

namespace Lmrs

open Python Posix

/-- What is at the end of a path of keys. -/
def valueAt (value : Value) : List String → Value
  | [] => value
  | key :: keys =>
      match value with
      | .dict fields => valueAt (Value.item fields key) keys
      | _ => .none

/-- What a command reports at a path of its payload; nothing when it raises. -/
def PublicRun.reported (run : PublicRun) (path : List String) : Option Value :=
  match run.result with
  | .ok result => some (valueAt (.dict result.payload) path)
  | .error _ => none

/-- The bytes the rows of a reported queue require. -/
def requiredIn : Value → Int
  | .list rows =>
      (rows.map fun row => ((valueAt row ["required_dynamic_vram_bytes"]).asInt?).getD 0).sum
  | _ => 0

/-- All commands that describe the queue describe the one that `queue_status` reports: a cancellation of a
request that is not in it, the self-description, and the capacity, when its pools can be computed. -/
structure ReportsAgree (p : PublicReadings) (s : PublicState) (entries : Value) : Prop where
  queueStatus : ∀ params, (delegate p s .queueStatus params).reported ["entries"] = some entries
  cancel : ∀ params requestId, param params "request_id" = .ok requestId →
    (∀ e ∈ s.adapter.queue.entries, e.requestId ≠ requestId) →
      (delegate p s .cancel params).reported ["entries"] = some entries
  info : ∀ params,
    (delegate p s .info params).reported ["runtime_summary", "queue_state"] = some entries
  capacity : ∀ params reserved,
    (delegate p s .capacity params).reported ["active_reservation_bytes"] = some reserved →
      reserved = .int (requiredIn entries)

section reports

variable (p : PublicReadings) (s : PublicState)

/-- `queue_status` reports the queue of the process. -/
theorem queueStatus_reported (params : Dict Value) :
    (delegate p s .queueStatus params).reported ["entries"] = some (rowsValue s.adapter.queue.snapshot) := rfl

/-- The self-description reports an empty queue. -/
theorem info_reported (params : Dict Value) :
    (delegate p s .info params).reported ["runtime_summary", "queue_state"] = some (.list []) := rfl

/-- Cancelling what is not there leaves the queue. -/
theorem cancel_absent {queue : RequestQueue} {requestId : String}
    (h : ∀ e ∈ queue.entries, e.requestId ≠ requestId) : queue.cancel requestId = queue := by
  unfold RequestQueue.cancel
  rw [List.filter_eq_self.mpr fun e he => by simpa using h e he]

/-- A cancellation reports the queue it leaves. -/
theorem cancel_reported {params : Dict Value} {requestId : String}
    (h : param params "request_id" = .ok requestId) :
    (delegate p s .cancel params).reported ["entries"] =
      some (rowsValue (s.adapter.queue.cancel requestId).snapshot) := by
  unfold delegate PublicState.run CancelCommand.delegate
  dsimp only
  rw [h]
  rfl

/-- The rows of a queue require what its entries do. -/
theorem requiredIn_snapshot (queue : RequestQueue) :
    requiredIn (rowsValue queue.snapshot) = QueueHolder.reservedBytes queue := by
  have hrow (e : QueueEntry) (es : List QueueEntry) :
      requiredIn (rowsValue (RequestQueue.snapshot ⟨e :: es⟩)) =
        e.requiredDynamicVramBytes + requiredIn (rowsValue (RequestQueue.snapshot ⟨es⟩)) := by
    simp [requiredIn, rowsValue, RequestQueue.snapshot, valueAt, Value.item, Dict.get?_cons, Value.asInt?]
  obtain ⟨entries⟩ := queue
  induction entries with
  | nil => rfl
  | cons e es ih =>
      rw [hrow, ih]
      simp [QueueHolder.reservedBytes]

/-- The capacity reports what the queue of the process reserves. -/
theorem capacity_reported {params : Dict Value} {reserved : Value}
    (h : (delegate p s .capacity params).reported ["active_reservation_bytes"] = some reserved) :
    reserved = .int (requiredIn (rowsValue s.adapter.queue.snapshot)) := by
  unfold delegate PublicState.run CapacityCommand.delegate PublicRun.reported at h
  rw [requiredIn_snapshot]
  cases hpayload : vramPayload s.adapter (p.withStore s.store) with
  | error exc =>
      simp only [hpayload, Except.map] at h
      cases h
  | ok payload =>
      simp only [hpayload, Except.map, Option.some.injEq] at h
      rw [← h, ← vramPayload_activeReservation hpayload]
      rfl

end reports

/-- **The readers of the queue agree exactly when it is empty**: for every queue the process holds, the
self-description included they describe the queue that `queue_status` reports if and only if nothing
waits. -/
theorem reports_agree_iff (p : PublicReadings) (s : PublicState) :
    ReportsAgree p s (rowsValue s.adapter.queue.snapshot) ↔ s.adapter.queue.entries = [] := by
  constructor
  · intro h
    have hinfo := (info_reported p s []).symm.trans (h.info [])
    have hrows : s.adapter.queue.snapshot.map Value.dict = [] := by
      have hvalue := Option.some.inj hinfo
      unfold rowsValue at hvalue
      exact (Value.list.inj hvalue).symm
    exact List.map_eq_nil_iff.mp (List.map_eq_nil_iff.mp hrows)
  · intro hempty
    have hrows : rowsValue s.adapter.queue.snapshot = .list [] := by
      unfold rowsValue RequestQueue.snapshot
      rw [hempty]
      rfl
    refine ⟨queueStatus_reported p s, ?_, ?_, ?_⟩
    · intro params requestId hparam habsent
      rw [cancel_reported p s hparam, cancel_absent habsent]
    · intro params
      rw [info_reported, hrows]
    · intro params reserved hreserved
      exact capacity_reported p s hreserved

/-- A service on an empty disk. -/
def bareReadings : PublicReadings where
  readings := {}
  cache := { cacheRoot := "/models", floats := wholeFloats }
  host := { now := 0 }
  lmcache := {}
  metricTotals := none
  info := {}

/-- A process with one request in its queue. -/
def waitingState : PublicState where
  adapter := { queue := ⟨[noonEntry]⟩ }
  store :=
    { disk :=
        { tree := { entries := [], cwd := [], distinct := by decide, rooted := by decide, named := by decide }
          data := fun _ => {} } }

/-- **The self-description does not report a request that waits.** -/
theorem readers_disagree :
    ¬ ∀ (p : PublicReadings) (s : PublicState), ReportsAgree p s (rowsValue s.adapter.queue.snapshot) := by
  intro h
  have hinfo := (h bareReadings waitingState).info []
  rw [info_reported] at hinfo
  cases hinfo

end Lmrs
