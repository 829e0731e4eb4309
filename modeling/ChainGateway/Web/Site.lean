import ChainGateway.Text.Lowercase
import ChainGateway.Web.Route

/-!
# The site

All routes of the gateway. Where two of them match one path, the one with more literal
segments stands first and is taken. Health and metrics stand outside `/api`, whose
routes are the ones that need admission.
-/

namespace ChainGateway.Web

open Text

/-! ## Fields of queries -/

def statesField : QueryField := ⟨"states", none, .text⟩

def previousStatesField : QueryField := ⟨"prevStates", some "prevstates", .text⟩

def sortField : QueryField := ⟨"sortBy", some "sortby", .text⟩

def oracleField : QueryField := ⟨"oracle", none, .text⟩

def authorField : QueryField := ⟨"author", none, .text⟩

/-- A page and where it starts. -/
def paged : List QueryArgument := [.pageSize, .pageToken]

/-! ## Shapes of routes -/

def plain (literals : List String) (op : Operation) (query : List QueryArgument) : Route :=
  ⟨literals.map .literal, .read op query, []⟩

/-- A route below a resource that has a number. -/
def ofNumber (resource : String) (below : List String) (op : Operation)
    (query : List QueryArgument) : Route :=
  ⟨[.literal resource, .number resource] ++ below.map .literal, .read op query, []⟩

/-- A route below a resource that has a name. -/
def ofName (resource name : String) (below : List String) (op : Operation)
    (query : List QueryArgument) : Route :=
  ⟨[.literal resource, .text name] ++ below.map .literal, .read op query, []⟩

/-! ## Routes -/

def chainRoutes : List Route := [
  plain ["search"] .search [.required ⟨"value", none, .text⟩],
  plain ["coins"] .coins [],
  plain ["circulatingsupply"] .circulatingSupply [.values ⟨"exclude", none, .text⟩],
  ⟨[.literal "activeaddresses", .literal "count"], .activeAddresses, []⟩,
  plain ["balances", "count"] .balancesCount [],
  plain ["balances"] .balances (.optional sortField :: paged),
  plain ["upgrades"] .upgrades paged,
  ofNumber "upgrade" [] .upgrade [],
  ofName "contract" "address" [] .contract [],
  plain ["oraclevotingcontracts"] .oracleVotingContracts
    ([.optional authorField, .optional oracleField, .values statesField,
      .switch ⟨"all", none, .flag⟩, .optional sortField] ++ paged),
  plain ["oraclevotingcontracts", "estimatedreward"] .estimatedOracleRewards
    [.requiredNumber ⟨"committeeSize", some "committeesize", .number⟩],
  ofName "oraclevotingcontract" "address" [] .oracleVotingContract [.optional oracleField],
  ofName "token" "address" [] .token [],
  ofName "token" "address" ["holders"] .tokenHolders paged]

def identityFilters : List QueryArgument := [.values previousStatesField, .values statesField]

def epochRoutes : List Route := [
  plain ["epochs", "count"] .epochsCount [],
  plain ["epochs"] .epochs paged,
  plain ["epoch", "last"] .lastEpoch [],
  ofNumber "epoch" [] .epoch [],
  ofNumber "epoch" ["blocks", "count"] .epochBlocksCount [],
  ofNumber "epoch" ["blocks"] .epochBlocks paged,
  ofNumber "epoch" ["flips", "count"] .epochFlipsCount [],
  ofNumber "epoch" ["flips"] .epochFlips paged,
  ofNumber "epoch" ["flipstatessummary"] .epochFlipStatesSummary [],
  { ofNumber "epoch" ["identities", "count"] .epochIdentitiesCount identityFilters with
    unused := [QueryArgument.limitField, QueryArgument.tokenField] },
  ofNumber "epoch" ["identities"] .epochIdentities (identityFilters ++ paged),
  ofNumber "epoch" ["identitystatessummary"] .epochIdentityStatesSummary [],
  ofNumber "epoch" ["identitystatesinterimsummary"] .epochIdentityStatesInterimSummary [],
  ofNumber "epoch" ["invitessummary"] .epochInvitesSummary [],
  ofNumber "epoch" ["txs", "count"] .epochTxsCount [],
  ofNumber "epoch" ["txs"] .epochTxs paged,
  ofNumber "epoch" ["rewardssummary"] .epochRewardsSummary [],
  ofNumber "epoch" ["authors", "bad", "count"] .epochBadAuthorsCount [],
  ofNumber "epoch" ["authors", "bad"] .epochBadAuthors paged,
  ofNumber "epoch" ["identityrewards"] .epochIdentitiesRewards paged,
  ofNumber "epoch" ["fundpayments"] .epochFundPayments [],
  ofNumber "epoch" ["rewardbounds"] .epochRewardBounds [],
  ⟨[.literal "epoch", .number "epoch", .literal "identity", .text "address"],
    .read .epochIdentity [], []⟩,
  ⟨[.literal "epoch", .number "epoch", .literal "identity", .text "address", .literal "rewards"],
    .read .epochIdentityRewards [], []⟩]

def blockRoutes : List Route := [
  plain ["block", "last"] .lastBlock [],
  ⟨[.literal "block", .text "id"], .block, []⟩,
  ofName "block" "id" ["txs"] .blockTxs paged]

def transactionRoutes : List Route := [
  ofName "transaction" "hash" [] .transaction [],
  ofName "transaction" "hash" ["raw"] .transactionRaw [],
  ofName "transaction" "hash" ["events"] .transactionEvents paged,
  ⟨[.literal "mempool", .literal "txs"], .pending .all, []⟩,
  ⟨[.literal "mempool", .literal "transaction", .text "hash"], .pending .transaction, []⟩,
  ⟨[.literal "mempool", .literal "transaction", .text "hash", .literal "raw"], .pending .raw, []⟩,
  ⟨[.literal "address", .text "address", .literal "mempool", .literal "txs"],
    .pending .ofAddress, []⟩]

def identityRoutes : List Route := [
  ofName "identity" "address" [] .identity [],
  ofName "identity" "address" ["epochs"] .identityEpochs paged,
  ofName "identity" "address" ["flips"] .identityFlips paged,
  ofName "address" "address" [] .address [],
  ofName "address" "address" ["txs"] .addressTxs paged,
  ofName "address" "address" ["tokens"] .addressTokens paged,
  ⟨[.literal "address", .text "address", .literal "contract", .text "contract",
    .literal "balanceupdates"], .read .addressContractTxBalanceUpdates paged, []⟩]

def flipRoutes : List Route := [
  ofName "flip" "hash" [] .flip [],
  ofName "flip" "hash" ["epoch", "adjacentflips"] .flipEpochAdjacentFlips [],
  ofName "flip" "hash" ["address", "adjacentflips"] .flipAddressAdjacentFlips [],
  ofName "flip" "hash" ["epochidentity", "adjacentflips"] .flipEpochIdentityAdjacentFlips []]

def apiRoutes : List Route :=
  chainRoutes ++ epochRoutes ++ blockRoutes ++ transactionRoutes ++ identityRoutes ++ flipRoutes

/-- A matched path below `/api`. -/
structure ApiMatch where
  route : Route
  /-- The segments of the parameters, still encoded. -/
  values : List (List Char)
  /-- The path behind `/api`. -/
  path : String
  deriving DecidableEq, Repr

inductive Destination
  | api (m : ApiMatch)
  | health
  | metrics
  deriving DecidableEq, Repr

/-- Where a path leads. -/
def Destination.find? (path : String) : Option Destination :=
  match pathSegments? path with
  | some [segment] =>
    if segment = "health".toList then some .health
    else if segment = "metrics".toList then some .metrics
    else none
  | some (segment :: segments) =>
    if segment = "api".toList then
      apiRoutes.findSome? fun r =>
        (matchParts r.parts segments).map fun values =>
          .api ⟨r, values, .ofList (path.toList.drop "/api".length)⟩
    else none
  | _ => none

/-- The text by which a request is classified. -/
def ApiMatch.lanePath (m : ApiMatch) : String := lowercase m.path

end ChainGateway.Web
