import LedgerExport.AssetEvent.Decoding
import LedgerExport.Proofs.Except
import LedgerExport.Proofs.Text.Utf8

/-!
# The shape of asset events

An event names a kind by its contract, the number of its topics and the bytes of
the first one, and describes a move by the form of its topics and data. Both are
said here without the order in which the fields are looked at; classification
and decoding find exactly these events.
-/

namespace LedgerExport.AssetEvent

open Protocol (Asset ContractEvent ScVal)
open Record (AssetMove)

/-- The bytes of the symbol of a kind. -/
def Kind.symbol : Kind → Octets
  | .transfer => Utf8.bytes "transfer"
  | .mint => Utf8.bytes "mint"
  | .clawback => Utf8.bytes "clawback"
  | .burn => Utf8.bytes "burn"

/-- An event names a kind if it has a contract, more than two topics, and the symbol of the
kind, byte for byte, as its first topic. -/
structure Names (event : ContractEvent) (kind : Kind) : Prop where
  contract : event.contract.isSome = true
  topics : 2 < event.topics.length
  symbol : event.topics.head? = some (.symbol kind.symbol)

/-- The topics and the data of an event of a kind, and the move that they describe. -/
inductive Describes : Kind → List ScVal → ScVal → AssetMove → Prop
  | transfer {name asset source target amount} :
      Describes .transfer [name, .address source, .address target, asset] (.i128 amount)
        (.transfer source.text target.text amount)
  | mint {name asset admin target amount} :
      Describes .mint [name, .address admin, .address target, asset] (.i128 amount)
        (.mint admin.text target.text amount)
  | clawback {name asset admin source amount} :
      Describes .clawback [name, .address admin, .address source, asset] (.i128 amount)
        (.clawback admin.text source.text amount)
  | burn {name asset source amount} :
      Describes .burn [name, .address source, asset] (.i128 amount) (.burn source.text amount)

/-- What an event of a kind reports in a network: the move, the asset if the last topic names
one, and whether the event comes from the contract of that asset. -/
structure Reports (network : Option NetworkId) (kind : Kind) (event : ContractEvent)
    (payload : Record.AssetEvent) : Prop where
  move : Describes kind event.topics event.data payload.move
  asset (name : String) : payload.asset = some name ↔
    ∃ content asset, event.topics.getLast? = some (.string content) ∧
      Utf8.string? content = some name ∧ Asset.parse name = .ok asset
  assetContract : payload.assetContract = true ↔
    ∃ id name asset, network = some id ∧ payload.asset = some name ∧
      Asset.parse name = .ok asset ∧ event.contract = some (asset.contractId id)

/-! ## Classification -/

namespace Kind

theorem symbol_eq (kind : Kind) : kind.symbol = Utf8.bytes kind.name := by
  cases kind <;> rfl

theorem replacement_notMem_name (kind : Kind) : '\ufffd' ∉ kind.name.toList := by
  cases kind <;> decide +kernel

theorem lossy_symbol (kind : Kind) : Utf8.lossy kind.symbol = kind.name := by
  cases kind <;> decide +kernel

theorem ofName?_name (kind : Kind) : ofName? kind.name = some kind := by
  cases kind <;> decide +kernel

/-- The kind of a shown symbol is that of its bytes: no other bytes are shown as a name. -/
theorem ofName?_lossy {content : Octets} {kind : Kind} :
    ofName? (Utf8.lossy content) = some kind ↔ content = kind.symbol := by
  constructor
  · intro h
    have hname : kind.name = Utf8.lossy content := by
      simpa using List.find?_some h
    have hmark : '\ufffd' ∉ (Utf8.lossy content).toList := by
      rw [← hname]
      exact replacement_notMem_name kind
    rw [symbol_eq, hname, Utf8.bytes_lossy hmark]
  · rintro rfl
    rw [lossy_symbol, ofName?_name]

end Kind

theorem classify_eq_recognized_iff {event : ContractEvent} {kind : Kind} :
    classify event = .recognized kind ↔ event.type = .contract ∧ Names event kind := by
  constructor
  · intro h
    unfold classify at h
    split at h
    · cases h
    · next htype =>
        split at h
        · cases h
        · next hcontract =>
            split at h
            · cases h
            · next htopics =>
                split at h
                · next content hhead =>
                    split at h
                    · next found hfound =>
                        cases h
                        refine ⟨Decidable.not_not.mp htype,
                          ⟨?_, Nat.lt_of_not_le htopics, ?_⟩⟩
                        · rw [Option.isNone_iff_eq_none] at hcontract
                          exact Option.isSome_iff_ne_none.mpr hcontract
                        · rw [hhead, Kind.ofName?_lossy.mp hfound]
                    · cases h
                · cases h
  · rintro ⟨htype, hcontract, htopics, hsymbol⟩
    have hnone : event.contract.isNone = false := by simpa using hcontract
    have hfound := Kind.ofName?_lossy.mpr (rfl : kind.symbol = kind.symbol)
    simp only [classify, htype, hnone, hsymbol, hfound, ne_eq, not_true_eq_false, if_false,
      Bool.false_eq_true, if_neg (Nat.not_le.mpr htopics)]

/-! ## Decoding -/

theorem party_eq_ok_iff {topics : List ScVal} {index : Nat} {text : String} :
    party topics index = .ok text ↔
      ∃ address, topics[index]? = some (.address address) ∧ address.text = text := by
  unfold party
  split
  · next address h => simp [h]
  · next other hother h =>
      simp only [h, reduceCtorEq, Option.some.injEq, false_iff, not_exists, not_and]
      rintro address rfl
      exact absurd rfl (hother address)
  · next h => simp [h]

theorem amount_eq_ok_iff {data : ScVal} {n : Int128} : amount data = .ok n ↔ data = .i128 n := by
  unfold amount
  split
  · simp
  · next other hother =>
      simp only [reduceCtorEq, false_iff]
      exact hother n

/-- A kind of four topics is described by two parties and an amount. -/
theorem describes_of_two_parties {kind : Kind} {build : String → String → Int128 → AssetMove}
    (hbuild : ∀ {name asset a b amount}, Describes kind [name, .address a, .address b, asset]
      (.i128 amount) (build a.text b.text amount))
    {topics : List ScVal} {first second : String} (h : topics.length = 4)
    (hfirst : party topics 1 = .ok first) (hsecond : party topics 2 = .ok second)
    (amount : Int128) : Describes kind topics (.i128 amount) (build first second amount) := by
  obtain ⟨a, ha, rfl⟩ := party_eq_ok_iff.mp hfirst
  obtain ⟨b, hb, rfl⟩ := party_eq_ok_iff.mp hsecond
  match topics, h with
  | [name, _, _, asset], _ =>
      obtain rfl := Option.some.inj ha
      obtain rfl := Option.some.inj hb
      exact hbuild

theorem describes_of_one_party {topics : List ScVal} {first : String} (h : topics.length = 3)
    (hfirst : party topics 1 = .ok first) (amount : Int128) :
    Describes .burn topics (.i128 amount) (.burn first amount) := by
  obtain ⟨a, ha, rfl⟩ := party_eq_ok_iff.mp hfirst
  match topics, h with
  | [name, _, asset], _ =>
      obtain rfl := Option.some.inj ha
      exact .burn

/-- An event of a kind is read exactly as the move that its topics and data describe. -/
theorem readMove_eq_ok_iff {kind : Kind} {event : ContractEvent} {move : AssetMove} :
    readMove kind event = .ok move ↔ Describes kind event.topics event.data move := by
  constructor
  · intro h
    unfold readMove at h
    split at h
    · cases h
    · next hcount =>
        have hcount := Decidable.not_not.mp hcount
        simp only [bind_eq_ok_iff, amount_eq_ok_iff] at h
        obtain ⟨amount, hdata, first, hfirst, h⟩ := h
        rw [hdata]
        -- The parties are read behind the kind, so each kind reads its second one by itself.
        cases kind with
        | transfer =>
            obtain ⟨second, hsecond, hmove⟩ := bind_eq_ok_iff.mp h
            rw [← pure_eq_ok_iff.mp hmove]
            exact describes_of_two_parties .transfer hcount hfirst hsecond amount
        | mint =>
            obtain ⟨second, hsecond, hmove⟩ := bind_eq_ok_iff.mp h
            rw [← pure_eq_ok_iff.mp hmove]
            exact describes_of_two_parties .mint hcount hfirst hsecond amount
        | clawback =>
            obtain ⟨second, hsecond, hmove⟩ := bind_eq_ok_iff.mp h
            rw [← pure_eq_ok_iff.mp hmove]
            exact describes_of_two_parties .clawback hcount hfirst hsecond amount
        | burn =>
            rw [← pure_eq_ok_iff.mp h]
            exact describes_of_one_party hcount hfirst amount
  · intro h
    obtain ⟨contract, type, topics, data⟩ := event
    cases h <;> rfl

theorem namedAsset?_eq_some_iff {event : ContractEvent} {name : String} {asset : Asset} :
    namedAsset? event = some (name, asset) ↔
      ∃ content, event.topics.getLast? = some (.string content) ∧
        Utf8.string? content = some name ∧ Asset.parse name = .ok asset := by
  unfold namedAsset?
  split
  · next content h =>
      rw [h]
      simp only [Option.bind_eq_bind, Option.bind_eq_some_iff, Option.pure_def,
        Option.some.injEq, Prod.mk.injEq, ScVal.string.injEq, exists_eq_left',
        toOption_eq_some_iff]
      constructor
      · rintro ⟨_, hname, _, hasset, rfl, rfl⟩
        exact ⟨hname, hasset⟩
      · rintro ⟨hname, hasset⟩
        exact ⟨name, hname, asset, hasset, rfl, rfl⟩
  · next h =>
      simp only [reduceCtorEq, false_iff]
      rintro ⟨content, hlast, _⟩
      exact h content hlast

theorem fromAssetContract_eq_true_iff {network : Option NetworkId} {event : ContractEvent} :
    fromAssetContract network event = true ↔
      ∃ id name asset, network = some id ∧ namedAsset? event = some (name, asset) ∧
        event.contract = some (asset.contractId id) := by
  unfold fromAssetContract
  split
  · next id name asset contract hnamed hcontract =>
      rw [hnamed, hcontract, beq_iff_eq]
      constructor
      · rintro rfl
        exact ⟨id, name, asset, rfl, rfl, rfl⟩
      · rintro ⟨_, _, _, hid, hasset, h⟩
        cases hid
        cases hasset
        exact (Option.some.inj h).symm
  · next h =>
      simp only [Bool.false_eq_true, false_iff]
      rintro ⟨id, name, asset, hnetwork, hnamed, hcontract⟩
      exact h id name asset _ hnetwork hnamed hcontract

theorem assetName_eq_some_iff {event : ContractEvent} {name : String} :
    (namedAsset? event).map (·.1) = some name ↔
      ∃ content asset, event.topics.getLast? = some (.string content) ∧
        Utf8.string? content = some name ∧ Asset.parse name = .ok asset := by
  rw [Option.map_eq_some_iff]
  constructor
  · rintro ⟨⟨_, asset⟩, hnamed, rfl⟩
    obtain ⟨content, hcontent⟩ := namedAsset?_eq_some_iff.mp hnamed
    exact ⟨content, asset, hcontent⟩
  · rintro ⟨content, asset, hcontent⟩
    exact ⟨(name, asset), namedAsset?_eq_some_iff.mpr ⟨content, hcontent⟩, rfl⟩

theorem namedAsset?_eq_some_iff_parse {event : ContractEvent} {name : String} {asset : Asset} :
    namedAsset? event = some (name, asset) ↔
      (namedAsset? event).map (·.1) = some name ∧ Asset.parse name = .ok asset := by
  rw [assetName_eq_some_iff, namedAsset?_eq_some_iff]
  constructor
  · rintro ⟨content, hlast, hname, hasset⟩
    exact ⟨⟨content, asset, hlast, hname, hasset⟩, hasset⟩
  · rintro ⟨⟨content, _, hlast, hname, _⟩, hasset⟩
    exact ⟨content, hlast, hname, hasset⟩

/-- What is decoded of a move is what the event reports besides it. -/
theorem reports_iff {network : Option NetworkId} {kind : Kind} {event : ContractEvent}
    {payload : Record.AssetEvent} :
    Reports network kind event payload ↔
      Describes kind event.topics event.data payload.move ∧
        (namedAsset? event).map (·.1) = payload.asset ∧
        fromAssetContract network event = payload.assetContract := by
  constructor
  · rintro ⟨hmove, hasset, hcontract⟩
    have hname : (namedAsset? event).map (·.1) = payload.asset := by
      apply Option.ext
      intro name
      rw [assetName_eq_some_iff, hasset]
    refine ⟨hmove, hname, ?_⟩
    rw [Bool.eq_iff_iff, fromAssetContract_eq_true_iff, hcontract, ← hname]
    simp only [namedAsset?_eq_some_iff_parse, and_assoc]
  · rintro ⟨hmove, hname, hcontract⟩
    refine ⟨hmove, fun name => ?_, ?_⟩
    · rw [← hname, assetName_eq_some_iff]
    · rw [← hcontract, fromAssetContract_eq_true_iff, ← hname]
      simp only [namedAsset?_eq_some_iff_parse, and_assoc]

theorem exists_reports_iff {network : Option NetworkId} {kind : Kind} {event : ContractEvent} :
    (∃ payload, Reports network kind event payload) ↔
      ∃ move, Describes kind event.topics event.data move := by
  constructor
  · rintro ⟨payload, hreports⟩
    exact ⟨payload.move, hreports.move⟩
  · rintro ⟨move, hmove⟩
    exact ⟨⟨move, (namedAsset? event).map (·.1), fromAssetContract network event⟩,
      reports_iff.mpr ⟨hmove, rfl, rfl⟩⟩

/-- An event of a kind is decoded exactly as what it reports. -/
theorem decode_eq_ok_iff {kind : Kind} {event : ContractEvent} {network : Option NetworkId}
    {payload : Record.AssetEvent} :
    decode kind event network = .ok payload ↔ Reports network kind event payload := by
  have hmove (move : AssetMove) :
      decodeMove kind event = .ok move ↔ Describes kind event.topics event.data move := by
    rw [decodeMove, mapError_eq_ok_iff, readMove_eq_ok_iff]
  simp only [decode, bind_eq_ok_iff, pure_eq_ok_iff, hmove, reports_iff]
  constructor
  · rintro ⟨move, hdescribes, rfl⟩
    exact ⟨hdescribes, rfl, rfl⟩
  · rintro ⟨hdescribes, hasset, hcontract⟩
    refine ⟨payload.move, hdescribes, ?_⟩
    rw [hasset, hcontract]

/-- An event of a kind that describes no move is malformed, as one of that kind. -/
theorem decode_eq_error_of_not_describes {kind : Kind} {event : ContractEvent}
    (network : Option NetworkId) (h : ∀ move, ¬Describes kind event.topics event.data move) :
    ∃ fault, decode kind event network = .error ⟨kind, fault⟩ := by
  cases hread : readMove kind event with
  | ok move => exact absurd (readMove_eq_ok_iff.mp hread) (h move)
  | error fault =>
      refine ⟨fault, ?_⟩
      simp only [decode, decodeMove, hread]
      rfl

end LedgerExport.AssetEvent
