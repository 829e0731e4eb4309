import ChainGateway.Model.Atom

/-!
# Search results and coins
-/

namespace ChainGateway.Model

open Json Binary

/-- A search hit: what kind of thing it is and its identifier. -/
structure Entity where
  name : String
  value : String
  deriving DecidableEq, Inhabited, Repr

def Entity.codec : Codec Entity :=
  .record
    (.field (.named "name" Codec.text) <|
    .field (.named "value" Codec.text) .done)
    (fun m => (m.name, m.value, ()))
    (fun (name, value, ()) => ⟨name, value⟩)

/-- Amounts of coins over the whole ledger. -/
structure CoinTotals where
  burnt : String
  minted : String
  totalBalance : String
  totalStake : String
  deriving DecidableEq, Inhabited, Repr

def CoinTotals.codec : Codec CoinTotals :=
  .record
    (.field (.named "burnt" Codec.text) <|
    .field (.named "minted" Codec.text) <|
    .field (.named "totalBalance" Codec.text) <|
    .field (.named "totalStake" Codec.text) .done)
    (fun m => (m.burnt, m.minted, m.totalBalance, m.totalStake, ()))
    (fun (burnt, minted, totalBalance, totalStake, ()) => ⟨burnt, minted, totalBalance, totalStake⟩)

end ChainGateway.Model
