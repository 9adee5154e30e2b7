import LedgerExport.Harvest

/-!
# Numbers of harvested events

Whether an event is emitted depends on that event alone, and only emitted events
are counted. So the numbers of an operation are 1, 2, 3 and so on without a gap,
a list of events may be harvested in parts, and events that are skipped can be
put in, taken out or exchanged without any effect on the others.

## Implementation notes

The counter has 32 bits. That it never wraps is a statement about lists as long
as the schema allows; the laws about parts of a list need no bound.
-/

namespace LedgerExport

namespace Harvested

/-- The outcome of an event behind `count` more emitted ones. -/
def raise (count : Nat) : Harvested → Harvested
  | .emitted id event assetEvent =>
      .emitted ⟨id.operation, UInt32.ofNat (id.order.toNat + count)⟩ event assetEvent
  | .skipped event reason => .skipped event reason

/-- The identifiers that were given out, in order. -/
def ids (outcomes : List Harvested) : List EventId :=
  outcomes.filterMap (·.id?)

@[simp] theorem ids_nil : ids [] = [] := rfl

@[simp] theorem ids_emitted (id : EventId) (event : Protocol.ContractEvent)
    (assetEvent : Option Record.AssetEvent) (outcomes : List Harvested) :
    ids (.emitted id event assetEvent :: outcomes) = id :: ids outcomes := rfl

@[simp] theorem ids_skipped (event : Protocol.ContractEvent) (reason : SkipReason)
    (outcomes : List Harvested) : ids (.skipped event reason :: outcomes) = ids outcomes := rfl

/-- The number of events that were emitted. -/
def emittedCount (outcomes : List Harvested) : Nat :=
  (ids outcomes).length

@[simp] theorem emittedCount_emitted (id : EventId) (event : Protocol.ContractEvent)
    (assetEvent : Option Record.AssetEvent) (outcomes : List Harvested) :
    emittedCount (.emitted id event assetEvent :: outcomes) = emittedCount outcomes + 1 := rfl

@[simp] theorem emittedCount_skipped (event : Protocol.ContractEvent) (reason : SkipReason)
    (outcomes : List Harvested) :
    emittedCount (.skipped event reason :: outcomes) = emittedCount outcomes := rfl

/-- Outcomes without identifiers have no numbers to raise. -/
theorem map_raise_of_ids_eq_nil (count : Nat) {outcomes : List Harvested}
    (h : ids outcomes = []) : outcomes.map (raise count) = outcomes := by
  induction outcomes with
  | nil => rfl
  | cons outcome outcomes ih =>
      cases outcome with
      | emitted id event assetEvent => simp at h
      | skipped event reason => rw [List.map_cons, raise, ih h]

end Harvested

namespace Harvest

open Harvested (raise ids emittedCount)

variable (place : Toid) (options : HarvestOptions)

/-- Whether an event is emitted. -/
def emits (source : SourceEvent) : Bool :=
  (verdict options source).isOk

variable {options} in
theorem operationFrom_cons_of_ok {source : SourceEvent} {assetEvent : Option Record.AssetEvent}
    (h : verdict options source = .ok assetEvent) (emitted : UInt32) (sources : List SourceEvent) :
    operationFrom place options emitted (source :: sources) =
      .emitted ⟨place, emitted + 1⟩ source.event assetEvent ::
        operationFrom place options (emitted + 1) sources := by
  simp only [operationFrom, h]

variable {options} in
theorem operationFrom_cons_of_error {source : SourceEvent} {reason : SkipReason}
    (h : verdict options source = .error reason) (emitted : UInt32) (sources : List SourceEvent) :
    operationFrom place options emitted (source :: sources) =
      .skipped source.event reason :: operationFrom place options emitted sources := by
  simp only [operationFrom, h]

/-- There is one outcome for each event, in the order of the events. -/
theorem map_event_operationFrom (emitted : UInt32) (sources : List SourceEvent) :
    (operationFrom place options emitted sources).map (·.event) = sources.map (·.event) := by
  induction sources generalizing emitted with
  | nil => rfl
  | cons source sources ih =>
      cases h : verdict options source with
      | ok assetEvent =>
          rw [operationFrom_cons_of_ok place h, List.map_cons, List.map_cons, ih]
          rfl
      | error reason =>
          rw [operationFrom_cons_of_error place h, List.map_cons, List.map_cons, ih]
          rfl

theorem length_operationFrom (emitted : UInt32) (sources : List SourceEvent) :
    (operationFrom place options emitted sources).length = sources.length := by
  have h := congrArg List.length (map_event_operationFrom place options emitted sources)
  simpa only [List.length_map] using h

/-- An outcome has an identifier if its event is emitted. -/
theorem map_isSome_operationFrom (emitted : UInt32) (sources : List SourceEvent) :
    (operationFrom place options emitted sources).map (·.id?.isSome) =
      sources.map (emits options) := by
  induction sources generalizing emitted with
  | nil => rfl
  | cons source sources ih =>
      cases h : verdict options source with
      | ok assetEvent =>
          rw [operationFrom_cons_of_ok place h, List.map_cons, List.map_cons, ih, emits, h]
          rfl
      | error reason =>
          rw [operationFrom_cons_of_error place h, List.map_cons, List.map_cons, ih, emits, h]
          rfl

theorem emittedCount_le (emitted : UInt32) (sources : List SourceEvent) :
    emittedCount (operationFrom place options emitted sources) ≤ sources.length := by
  calc
    emittedCount (operationFrom place options emitted sources)
      ≤ (operationFrom place options emitted sources).length := List.length_filterMap_le _ _
    _ = sources.length := length_operationFrom place options emitted sources

/-- The identifiers of a harvest count on from the events emitted before it. -/
theorem ids_operationFrom (emitted : UInt32) (sources : List SourceEvent) :
    ids (operationFrom place options emitted sources) =
      (List.range (emittedCount (operationFrom place options emitted sources))).map
        fun j => ⟨place, emitted + UInt32.ofNat (j + 1)⟩ := by
  induction sources generalizing emitted with
  | nil => rfl
  | cons source sources ih =>
      cases h : verdict options source with
      | ok assetEvent =>
          have hnext (j : Nat) : emitted + 1 + UInt32.ofNat (j + 1) =
              emitted + UInt32.ofNat (j + 1 + 1) := by
            rw [UInt32.ofNat_add (j + 1) 1, UInt32.add_assoc,
              UInt32.add_comm 1 (UInt32.ofNat (j + 1))]
            rfl
          rw [operationFrom_cons_of_ok place h, Harvested.emittedCount_emitted,
            Harvested.ids_emitted, List.range_succ_eq_map, List.map_cons, List.map_map, ih]
          simp only [Function.comp_def, hnext]
          rfl
      | error reason =>
          rw [operationFrom_cons_of_error place h, Harvested.emittedCount_skipped,
            Harvested.ids_skipped]
          exact ih emitted

/-- As long as a list of the schema may be, the counter does not wrap. -/
theorem order_of_getElem?_ids {sources : List SourceEvent} (hs : sources.length ≤ Xdr.unlimited)
    {j : Nat} {id : EventId} (h : (ids (operation place options sources))[j]? = some id) :
    id.operation = place ∧ id.order.toNat = j + 1 := by
  have hle := emittedCount_le place options 0 sources
  rw [operation, ids_operationFrom, List.getElem?_map, Option.map_eq_some_iff] at h
  obtain ⟨k, hk, rfl⟩ := h
  obtain ⟨hj, rfl⟩ := List.getElem?_eq_some_iff.mp hk
  rw [List.length_range] at hj
  rw [List.getElem_range]
  refine ⟨rfl, ?_⟩
  have hbound : j + 1 < UInt32.size := by
    simp only [Xdr.unlimited] at hs
    simp only [UInt32.size]
    omega
  show (0 + UInt32.ofNat (j + 1)).toNat = j + 1
  rw [UInt32.zero_add, UInt32.toNat_ofNat_of_lt' hbound]

/-! ## Harvesting in parts -/

/-- Events that come after others have their numbers raised. -/
theorem operationFrom_add (count : Nat) (emitted : UInt32) (sources : List SourceEvent) :
    operationFrom place options (emitted + UInt32.ofNat count) sources =
      (operationFrom place options emitted sources).map (raise count) := by
  induction sources generalizing emitted with
  | nil => rfl
  | cons source sources ih =>
      cases h : verdict options source with
      | ok assetEvent =>
          have hnext : emitted + UInt32.ofNat count + 1 = emitted + 1 + UInt32.ofNat count := by
            rw [UInt32.add_assoc, UInt32.add_assoc, UInt32.add_comm 1]
          have horder : UInt32.ofNat ((emitted + 1).toNat + count) =
              emitted + 1 + UInt32.ofNat count := by
            rw [UInt32.ofNat_add, UInt32.ofNat_toNat]
          rw [operationFrom_cons_of_ok place h, operationFrom_cons_of_ok place h, List.map_cons,
            hnext, ih, raise, horder]
      | error reason =>
          rw [operationFrom_cons_of_error place h, operationFrom_cons_of_error place h,
            List.map_cons, ih, raise]

theorem operationFrom_append (emitted : UInt32) (xs ys : List SourceEvent) :
    operationFrom place options emitted (xs ++ ys) =
      operationFrom place options emitted xs ++
        operationFrom place options
          (emitted + UInt32.ofNat (emittedCount (operationFrom place options emitted xs))) ys := by
  induction xs generalizing emitted with
  | nil => simp [operationFrom, emittedCount]
  | cons source xs ih =>
      cases h : verdict options source with
      | ok assetEvent =>
          rw [List.cons_append, operationFrom_cons_of_ok place h, operationFrom_cons_of_ok place h,
            ih, List.cons_append, Harvested.emittedCount_emitted, UInt32.ofNat_add,
            UInt32.add_comm _ (UInt32.ofNat 1), ← UInt32.add_assoc]
          rfl
      | error reason =>
          rw [List.cons_append, operationFrom_cons_of_error place h,
            operationFrom_cons_of_error place h, ih, List.cons_append]
          rfl

/-- Harvesting a list is harvesting its first part, and then the second behind it. -/
theorem operation_append (xs ys : List SourceEvent) :
    operation place options (xs ++ ys) =
      operation place options xs ++
        (operation place options ys).map
          (raise (emittedCount (operation place options xs))) := by
  rw [operation, operationFrom_append, operationFrom_add]
  rfl

/-! ## Skipped events -/

/-- Events that are skipped give out no identifier. -/
theorem ids_of_skipped {sources : List SourceEvent}
    (h : ∀ source ∈ sources, emits options source = false) (emitted : UInt32) :
    ids (operationFrom place options emitted sources) = [] := by
  induction sources with
  | nil => rfl
  | cons source sources ih =>
      have hsource := h source List.mem_cons_self
      cases hv : verdict options source with
      | ok assetEvent => simp [emits, hv, Except.isOk, Except.toBool] at hsource
      | error reason =>
          rw [operationFrom_cons_of_error place hv, Harvested.ids_skipped]
          exact ih fun s hs => h s (List.mem_cons_of_mem _ hs)

/-- What stands around skipped events is harvested as if they were not there. -/
theorem operation_insert_skipped (xs ys : List SourceEvent) {between : List SourceEvent}
    (h : ∀ source ∈ between, emits options source = false) :
    operation place options (xs ++ between ++ ys) =
      operation place options xs ++ operation place options between ++
        (operation place options ys).map
          (raise (emittedCount (operation place options xs))) := by
  have hids : ids (operation place options between) = [] := ids_of_skipped place options h 0
  have hfirst : operation place options (xs ++ between) =
      operation place options xs ++ operation place options between := by
    rw [operation_append, Harvested.map_raise_of_ids_eq_nil _ hids]
  have hcount : emittedCount (operation place options (xs ++ between)) =
      emittedCount (operation place options xs) := by
    rw [hfirst, emittedCount, ids, List.filterMap_append, ← ids, ← ids, hids, List.append_nil]
    rfl
  rw [operation_append, hcount, hfirst]

/-- The emitted outcomes are those of the emitted events alone. -/
theorem filter_operationFrom (emitted : UInt32) (sources : List SourceEvent) :
    (operationFrom place options emitted sources).filter (·.id?.isSome) =
      operationFrom place options emitted (sources.filter (emits options)) := by
  induction sources generalizing emitted with
  | nil => rfl
  | cons source sources ih =>
      cases h : verdict options source with
      | ok assetEvent =>
          have hok : emits options source = true := by rw [emits, h]; rfl
          rw [operationFrom_cons_of_ok place h, List.filter_cons_of_pos rfl,
            List.filter_cons_of_pos hok, operationFrom_cons_of_ok place h, ih]
      | error reason =>
          have hok : ¬emits options source = true := by
            rw [emits, h]
            exact Bool.false_ne_true
          rw [operationFrom_cons_of_error place h, List.filter_cons_of_neg hok,
            List.filter_cons_of_neg Bool.false_ne_true, ih]

/-- A harvest has one outcome for each event, numbers the emitted ones from 1 without ever
wrapping, and may be done in parts. The outcomes before and after skipped events are the same
whatever these events are, and lists with the same emitted events have the same emitted
outcomes. -/
theorem harvest_numbered_and_compositional :
    (∀ sources : List SourceEvent,
      (operation place options sources).map (·.event) = sources.map (·.event) ∧
        (operation place options sources).map (·.id?.isSome) = sources.map (emits options) ∧
        (sources.length ≤ Xdr.unlimited →
          ∀ (j : Nat) (id : EventId), (ids (operation place options sources))[j]? = some id →
            id.operation = place ∧ id.order.toNat = j + 1)) ∧
    (∀ xs ys : List SourceEvent,
      operation place options (xs ++ ys) =
        operation place options xs ++
          (operation place options ys).map
            (raise (emittedCount (operation place options xs)))) ∧
    (∀ xs ys : List SourceEvent, ∃ before after : List Harvested,
      before.length = xs.length ∧ after.length = ys.length ∧
        ∀ between : List SourceEvent, (∀ source ∈ between, emits options source = false) →
          operation place options (xs ++ between ++ ys) =
            before ++ operation place options between ++ after) ∧
    (∀ sources sources' : List SourceEvent,
      sources.filter (emits options) = sources'.filter (emits options) →
        (operation place options sources).filter (·.id?.isSome) =
          (operation place options sources').filter (·.id?.isSome)) := by
  refine ⟨fun sources => ⟨?_, ?_, ?_⟩, operation_append place options, fun xs ys => ?_, ?_⟩
  · exact map_event_operationFrom place options 0 sources
  · exact map_isSome_operationFrom place options 0 sources
  · intro hs j id h
    exact order_of_getElem?_ids place options hs h
  · refine ⟨operation place options xs,
      (operation place options ys).map (raise (emittedCount (operation place options xs))),
      length_operationFrom place options 0 xs, ?_, ?_⟩
    · rw [List.length_map]
      exact length_operationFrom place options 0 ys
    · intro between h
      exact operation_insert_skipped place options xs ys h
  · intro sources sources' h
    rw [operation, operation, filter_operationFrom, filter_operationFrom, h]

/-- A transfer that lacks a topic stands between two events and leaves no gap in their numbers. -/
theorem harvest_around_malformed_transfer :
    let options : HarvestOptions := ⟨true, none⟩
    let plain : SourceEvent := ⟨⟨none, .contract, [], .void⟩, true⟩
    let transfer : SourceEvent :=
      ⟨⟨some ⟨.zero 32⟩, .contract, [.symbol (Utf8.bytes "transfer"), .void, .void], .void⟩, true⟩
    let sources := [plain] ++ [transfer] ++ [plain]
    sources.length ≤ Xdr.unlimited ∧ emits options transfer = false ∧
      (ids (operation .zero options sources))[1]? = some ⟨.zero, 2⟩ ∧
      (2 : UInt32).toNat = 1 + 1 ∧
      (∃ before after : List Harvested, before.length = 1 ∧ after.length = 1 ∧
        operation .zero options sources = before ++ operation .zero options [transfer] ++ after) ∧
      (operation .zero options sources).filter (·.id?.isSome) =
        (operation .zero options [plain, plain]).filter (·.id?.isSome) := by
  intro options plain transfer sources
  have hlength : sources.length ≤ Xdr.unlimited := by decide
  have hplain : emits options plain = true := by decide +kernel
  have htransfer : emits options transfer = false := by decide +kernel
  have hid : (ids (operation .zero options sources))[1]? = some ⟨.zero, 2⟩ := by decide +kernel
  obtain ⟨hnumbers, -, hinsert, hfilter⟩ := harvest_numbered_and_compositional .zero options
  refine ⟨hlength, htransfer, hid, ((hnumbers sources).2.2 hlength 1 _ hid).2, ?_, ?_⟩
  · obtain ⟨before, after, hbefore, hafter, hbetween⟩ := hinsert [plain] [plain]
    refine ⟨before, after, hbefore, hafter, hbetween [transfer] ?_⟩
    intro source hsource
    rw [List.mem_singleton.mp hsource]
    exact htransfer
  · apply hfilter
    simp only [sources, List.cons_append, List.nil_append, List.filter_cons, hplain, htransfer,
      Bool.false_eq_true, if_false]

end Harvest

end LedgerExport
