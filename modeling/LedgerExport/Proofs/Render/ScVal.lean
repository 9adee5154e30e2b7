import LedgerExport.Proofs.Render.Asset
import LedgerExport.Render.ScVal

/-!
# Contract values are known by what is shown of them

A value is shown part by part, so two values that are shown alike have the same
parts at every depth: what is absent stays apart from what is empty, entries
keep their order, and no word of a wide integer is lost. Only bytes that are no
text may be shown like others, so strings and symbols are to be well formed.
-/

namespace LedgerExport.Protocol

theorem HostErrorCode.name_injective : Function.Injective HostErrorCode.name := by
  intro code code' h
  revert h
  cases code <;> cases code' <;> decide

theorem HostErrorKind.render_injective : Function.Injective HostErrorKind.render := by
  intro kind kind' h
  cases kind <;> cases kind' <;> first | rfl | cases h

theorem Executable.render_injective : Function.Injective Executable.render := by
  intro executable executable' h
  cases executable with
  | wasm hash =>
      cases executable' with
      | wasm hash' => rw [Record.Executable.wasm.inj h]
      | stellarAsset => cases h
  | stellarAsset =>
      cases executable' with
      | wasm hash' => cases h
      | stellarAsset => rfl

theorem ScError.render_injective : Function.Injective ScError.render := by
  intro error error' h
  cases error with
  | contract code =>
      cases error' with
      | contract code' => rw [Record.ScError.contract.inj h]
      | host kind' code' => cases h
  | host kind code =>
      cases error' with
      | contract code' => cases h
      | host kind' code' =>
          obtain ⟨hkind, hcode⟩ := Record.ScError.host.inj h
          rw [HostErrorKind.render_injective hkind, HostErrorCode.name_injective hcode]

namespace ScVal

mutual

/-- Every string and every symbol of a value, at any depth, is well-formed text. -/
def Legible : ScVal → Prop
  | .string text => Utf8.WellFormed text
  | .symbol text => Utf8.WellFormed text
  | .vec (some items) => LegibleAll items
  | .map (some entries) => LegiblePairs entries
  | .contractInstance _ (some storage) => LegiblePairs storage
  | _ => True

/-- So are those of each of some values. -/
def LegibleAll : List ScVal → Prop
  | [] => True
  | value :: values => value.Legible ∧ LegibleAll values

/-- So are those of each key and each value of a map. -/
def LegiblePairs : List (ScVal × ScVal) → Prop
  | [] => True
  | (key, value) :: entries => key.Legible ∧ value.Legible ∧ LegiblePairs entries

end

/-- A value is shown as a value of its own kind. -/
theorem ctorIdx_render (value : ScVal) : value.render.ctorIdx = value.ctorIdx := by
  cases value with
  | vec items => cases items <;> rfl
  | map entries => cases entries <;> rfl
  | contractInstance executable storage => cases storage <;> rfl
  | _ => rfl

theorem ctorIdx_eq_of_render_eq {a b : ScVal} (h : a.render = b.render) :
    a.ctorIdx = b.ctorIdx := by
  rw [← ctorIdx_render a, ← ctorIdx_render b, h]

mutual

theorem eq_of_render_eq (a b : ScVal) (ha : a.Legible) (hb : b.Legible)
    (h : a.render = b.render) : a = b := by
  have hkind := ctorIdx_eq_of_render_eq h
  cases a with
  | error e =>
      cases b with
      | error e' => rw [ScError.render_injective (Record.ScVal.error.inj h)]
      | _ => cases hkind
  | bytes content =>
      cases b with
      | bytes content' => rw [Hex.text_injective (Record.ScVal.bytes.inj h)]
      | _ => cases hkind
  | string text =>
      cases b with
      | string text' => rw [Utf8.lossy_injOn ha hb (Record.ScVal.string.inj h)]
      | _ => cases hkind
  | symbol text =>
      cases b with
      | symbol text' => rw [Utf8.lossy_injOn ha hb (Record.ScVal.symbol.inj h)]
      | _ => cases hkind
  | vec items =>
      cases b with
      | vec items' =>
          match items, items' with
          | none, none => rfl
          | none, some _ => cases h
          | some _, none => cases h
          | some items, some items' =>
              have hitems := Option.some.inj (Record.ScVal.vec.inj h)
              rw [eq_of_renderAll_eq items items' ha hb hitems]
      | _ => cases hkind
  | map entries =>
      cases b with
      | map entries' =>
          match entries, entries' with
          | none, none => rfl
          | none, some _ => cases h
          | some _, none => cases h
          | some entries, some entries' =>
              have hentries := Option.some.inj (Record.ScVal.map.inj h)
              rw [eq_of_renderPairs_eq entries entries' ha hb hentries]
      | _ => cases hkind
  | address a =>
      cases b with
      | address a' => rw [ScAddress.render_injective (Record.ScVal.address.inj h)]
      | _ => cases hkind
  | contractInstance executable storage =>
      cases b with
      | contractInstance executable' storage' =>
          match storage, storage' with
          | none, none =>
              rw [Executable.render_injective (Record.ScVal.contractInstance.inj h).1]
          | none, some _ => cases (Record.ScVal.contractInstance.inj h).2
          | some _, none => cases (Record.ScVal.contractInstance.inj h).2
          | some storage, some storage' =>
              obtain ⟨hexecutable, hstorage⟩ := Record.ScVal.contractInstance.inj h
              rw [Executable.render_injective hexecutable,
                eq_of_renderPairs_eq storage storage' ha hb (Option.some.inj hstorage)]
      | _ => cases hkind
  | _ =>
      -- The other kinds are shown as they are.
      cases b <;> first | (cases h; rfl) | cases hkind

theorem eq_of_renderAll_eq (values values' : List ScVal) (hv : LegibleAll values)
    (hv' : LegibleAll values') (h : renderAll values = renderAll values') : values = values' := by
  match values, values' with
  | [], [] => rfl
  | [], _ :: _ => cases h
  | _ :: _, [] => cases h
  | value :: values, value' :: values' =>
      obtain ⟨hvalue, hvalues⟩ := List.cons.inj h
      rw [eq_of_render_eq value value' hv.1 hv'.1 hvalue,
        eq_of_renderAll_eq values values' hv.2 hv'.2 hvalues]

theorem eq_of_renderPairs_eq (entries entries' : List (ScVal × ScVal))
    (he : LegiblePairs entries) (he' : LegiblePairs entries')
    (h : renderPairs entries = renderPairs entries') : entries = entries' := by
  match entries, entries' with
  | [], [] => rfl
  | [], _ :: _ => cases h
  | _ :: _, [] => cases h
  | (key, value) :: entries, (key', value') :: entries' =>
      obtain ⟨hentry, hentries⟩ := List.cons.inj h
      obtain ⟨hkey, hvalue⟩ := Prod.mk.inj hentry
      rw [eq_of_render_eq key key' he.1 he'.1 hkey,
        eq_of_render_eq value value' he.2.1 he'.2.1 hvalue,
        eq_of_renderPairs_eq entries entries' he.2.2 he'.2.2 hentries]

end

theorem render_injOn : Set.InjOn render {value | value.Legible} :=
  fun a ha b hb h => eq_of_render_eq a b ha hb h

/-- Two values whose strings and symbols are well-formed text at every depth are shown alike
only if they are the same. -/
theorem render_eq_render_iff_of_legible (a b : ScVal) (ha : a.Legible) (hb : b.Legible) :
    a.render = b.render ↔ a = b :=
  render_injOn.eq_iff ha hb

/-- A map that is absent and one that is empty are shown apart, inside a vector as well. -/
theorem render_of_absent_and_empty_map :
    let text := Utf8.bytes "é"
    let absent := ScVal.vec (some [.symbol text, .map none])
    let empty := ScVal.vec (some [.symbol text, .map (some [])])
    absent.Legible ∧ empty.Legible ∧ absent.render ≠ empty.render := by
  intro text absent empty
  have htext : Utf8.WellFormed text := ⟨"é", rfl⟩
  have habsent : absent.Legible := ⟨htext, trivial, trivial⟩
  have hempty : empty.Legible := ⟨htext, trivial, trivial⟩
  refine ⟨habsent, hempty, fun h => ?_⟩
  have heq := (render_eq_render_iff_of_legible absent empty habsent hempty).mp h
  simp [absent, empty] at heq

end ScVal

end LedgerExport.Protocol
