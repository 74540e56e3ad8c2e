import Mathlib.Data.List.DropRight
import Keyring.Proofs.Tron.Inquiry
import Keyring.Proofs.Tron.Message
import Keyring.TronGrid

/-! What is sent over the web for an order. The body is read as the request that was built, whatever texts it holds;
the address is that of the chosen network, however many slashes it was configured with; and the key goes to the main
network only. A network is asked in the same way whatever is configured for the other one. -/
namespace Keyring.TronGrid

open Tron

/-! ### Base URLs -/

def slashes (k : Nat) : String := String.ofList (List.replicate k '/')

theorem trimSlashes_append (url : String) (k : Nat) : trimSlashes (url ++ slashes k) = trimSlashes url := by
  have hslashes : ∀ c ∈ (List.replicate k '/').reverse, (c == '/') = true := by
    intro c hc
    rw [List.eq_of_mem_replicate (List.mem_reverse.1 hc)]
    rfl
  rw [trimSlashes, slashes, String.toList_append, String.toList_ofList, List.reverse_append,
    List.dropWhile_append_of_pos hslashes]
  rfl

theorem toList_trimSlashes (url : String) : (trimSlashes url).toList = url.toList.rdropWhile (· == '/') := by
  rw [trimSlashes, String.toList_ofList]
  rfl

/-- The slashes at the end, and only these, are dropped. -/
theorem trimSlashes_spec (url : String) :
    (∃ k, url = trimSlashes url ++ slashes k) ∧ (trimSlashes url).toList.getLast? ≠ some '/' := by
  constructor
  · refine ⟨(url.toList.rtakeWhile (· == '/')).length, ?_⟩
    have hrun : url.toList.rtakeWhile (· == '/') =
        List.replicate (url.toList.rtakeWhile (· == '/')).length '/' :=
      List.eq_replicate_of_mem fun c hc => by simpa using List.mem_rtakeWhile_imp hc
    rw [← String.toList_inj, String.toList_append, toList_trimSlashes, slashes, String.toList_ofList, ← hrun,
      List.rdropWhile_append_rtakeWhile]
  · intro hlast
    rw [toList_trimSlashes] at hlast
    have hne : url.toList.rdropWhile (· == '/') ≠ [] := by
      intro hnil
      rw [hnil] at hlast
      cases hlast
    rw [List.getLast?_eq_some_getLast hne, Option.some.injEq] at hlast
    have hnot := List.rdropWhile_last_not _ _ hne
    rw [hlast] at hnot
    exact hnot rfl

/-! ### Bodies -/

/-- The members of a request by name: one for each field. -/
def members : Request → List (String × Json)
  | .transfer r =>
    [("owner_address", .string r.owner), ("to_address", .string r.recipient), ("amount", .int r.amount.toNat),
      ("visible", .bool r.visible)]
  | .contractCall r =>
    [("owner_address", .string r.owner), ("contract_address", .string r.contract),
      ("function_selector", .string r.selector), ("parameter", .string r.parameter),
      ("fee_limit", .int r.feeLimit.toNat), ("call_value", .int r.callValue.toNat), ("visible", .bool r.visible)]

theorem body_eq (r : Request) : body r = .object (members r) := by
  cases r <;> rfl

theorem plain_body (r : Request) : (body r).Plain := by
  cases r with
  | transfer r => exact r.plain_toJson
  | contractCall r => exact r.plain_toJson

/-- A text is that of a request: it holds just the members of the request, and is read as the request. -/
structure Tells (r : Request) (text : String) : Prop where
  members : Json.parse? text = some (.object (members r))
  transfer : ∀ t, r = .transfer t → (Json.parse? text).bind TransferRequest.ofJson? = some t
  contractCall : ∀ c, r = .contractCall c → (Json.parse? text).bind ContractCallRequest.ofJson? = some c

theorem tells_compact (r : Request) : Tells r (body r).compact where
  members := by rw [Json.parse?_compact (plain_body r), body_eq]
  transfer := by
    rintro t rfl
    rw [Json.parse?_compact (plain_body _), Option.bind_some]
    exact t.ofJson?_toJson
  contractCall := by
    rintro c rfl
    rw [Json.parse?_compact (plain_body _), Option.bind_some]
    exact c.ofJson?_toJson

/-! ### Requests over the web -/

/-- The base URL that is configured for a network. -/
def Config.baseUrl (config : Config) (isTest : Bool) : String :=
  if isTest then config.testnetUrl else config.mainnetUrl

/-- A URL is that of a path below a base URL, which loses the slashes at its end. -/
def Reaches (base path url : String) : Prop :=
  ∃ front k, base = front ++ slashes k ∧ front.toList.getLast? ≠ some '/' ∧ url = front ++ path

theorem reaches_trimSlashes (base path : String) : Reaches base path (trimSlashes base ++ path) := by
  obtain ⟨⟨k, hk⟩, hlast⟩ := trimSlashes_spec base
  exact ⟨_, k, hk, hlast, rfl⟩

/-- What is sent for a query: its request, to the network it is for, under the path for requests of its kind, and with
the key on the main network. -/
structure Carries (config : Config) (query : Query) (http : HttpRequest) : Prop where
  body : Tells query.request http.body
  transfer : ∀ r, query.request = .transfer r →
    Reaches (config.baseUrl query.isTest) "/wallet/createtransaction" http.url
  contractCall : ∀ r, query.request = .contractCall r →
    Reaches (config.baseUrl query.isTest) "/wallet/triggersmartcontract" http.url
  apiKey : ∀ key, http.apiKey = some key ↔ query.isTest = false ∧ config.apiKey = some key

theorem carries_request (config : Config) (query : Query) : Carries config query (request config query) where
  body := tells_compact query.request
  transfer := by
    intro r hr
    rw [request, hr]
    exact reaches_trimSlashes _ _
  contractCall := by
    intro r hr
    rw [request, hr]
    exact reaches_trimSlashes _ _
  apiKey := by
    intro key
    rw [request]
    cases query.isTest <;> simp

/-- Further slashes at the end of a base URL do not change what is sent. -/
theorem request_slashed (config : Config) (query : Query) (j k : Nat) :
    request { config with mainnetUrl := config.mainnetUrl ++ slashes j, testnetUrl := config.testnetUrl ++ slashes k }
      query = request config query := by
  rw [request, request]
  cases query.isTest <;> simp [trimSlashes_append]

theorem request_of_testnet {config config' : Config} {query : Query} (hurl : config.testnetUrl = config'.testnetUrl)
    (htest : query.isTest = true) : request config query = request config' query := by
  rw [request, request, htest, hurl]
  rfl

theorem request_of_mainnet {config config' : Config} {query : Query} (hurl : config.mainnetUrl = config'.mainnetUrl)
    (hkey : config.apiKey = config'.apiKey) (hmain : query.isTest = false) :
    request config query = request config' query := by
  rw [request, request, hmain, hurl, hkey]
  rfl

/-! ### Orders -/

variable {wallet : Wallet} {order : Order} {schedule : List Poll}

theorem prepare_of_mem_queries {node : Node} {query : Query} (h : query ∈ (transact node schedule wallet order).queries) :
    ∃ key, prepare wallet order = .ok (query, key) := by
  rw [transact] at h
  split at h
  · cases h
  · next query' key hprepare =>
    split at h
    · rw [List.mem_singleton.1 h]
      exact ⟨key, hprepare⟩
    · cases h

/-- What is asked for an order is for its network, and is the request that it stands for. -/
theorem requests_of_mem_queries {node : Node} {query : Query}
    (h : query ∈ (transact node schedule wallet order).queries) :
    query.isTest = order.isTest ∧ Requests wallet order query.request := by
  obtain ⟨key, hprepare⟩ := prepare_of_mem_queries h
  obtain ⟨-, t, ht, -, rfl⟩ := prepare_eq_ok_iff.1 hprepare
  exact ⟨rfl, requests_of_check ht⟩

variable (send : HttpRequest → HttpOutcome)

/-- The requests that go over the web for an order, and what becomes of it. -/
def exchange (config : Config) (schedule : List Poll) (wallet : Wallet) (order : Order) :
    List HttpRequest × Option (Except Error Transaction) :=
  let e := transact (node config send) schedule wallet order
  (e.queries.map (request config), e.result)

/-- An order that is accepted, with a key that can be read, is sent at the first look unless it is cancelled by then. -/
theorem exists_sent (config : Config) {t : Transfer} {key : PrivateKey} (hchain : wallet.chain = .tron)
    (hcheck : order.check = .ok t) (hkey : PrivateKey.parse wallet.privateKey = .ok key)
    (hasks : asks schedule = true) : ∃ http, (exchange send config schedule wallet order).1 = [http] := by
  have hprepare := prepare_eq_ok_iff.2 ⟨hchain, t, hcheck, hkey, rfl⟩
  refine ⟨request config ⟨Tron.request wallet order t, order.isTest⟩, ?_⟩
  rw [exchange, transact, hprepare]
  simp only [hasks, if_true, List.map_cons, List.map_nil]

theorem exchange_congr {config config' : Config}
    (h : ∀ query : Query, query.isTest = order.isTest → request config query = request config' query) :
    exchange send config schedule wallet order = exchange send config' schedule wallet order := by
  have htransact : transact (node config send) schedule wallet order =
      transact (node config' send) schedule wallet order := by
    cases schedule with
    | nil => rw [transact, transact, settle]
    | cons p rest =>
      refine transact_congr fun query hquery => ?_
      rw [node, node, h query (requests_of_mem_queries hquery).1]
  have hsent : (transact (node config' send) schedule wallet order).queries.map (request config) =
      (transact (node config' send) schedule wallet order).queries.map (request config') :=
    List.map_congr_left fun query hquery => h query (requests_of_mem_queries hquery).1
  rw [exchange, exchange, htransact, hsent]

/-- An order that is accepted is sent. What goes over the web carries just the request that the order stands for, to
the network of the order, and the key on the main network only. The slashes at the end of base URLs have no part in
it; an exchange on one network is the same whatever is configured for the other. -/
theorem exchange_faithful (config : Config) (schedule : List Poll) (wallet : Wallet) (order : Order) :
    (∀ t key, wallet.chain = .tron → order.check = .ok t → PrivateKey.parse wallet.privateKey = .ok key →
        asks schedule = true → ∃ http, (exchange send config schedule wallet order).1 = [http])
    ∧ (∀ http ∈ (exchange send config schedule wallet order).1, ∃ query : Query, query.isTest = order.isTest
        ∧ Requests wallet order query.request ∧ Carries config query http)
    ∧ (∀ j k, exchange send
        { config with mainnetUrl := config.mainnetUrl ++ slashes j, testnetUrl := config.testnetUrl ++ slashes k }
        schedule wallet order = exchange send config schedule wallet order)
    ∧ (∀ config' : Config, order.isTest = true → config.testnetUrl = config'.testnetUrl →
        exchange send config schedule wallet order = exchange send config' schedule wallet order)
    ∧ ∀ config' : Config, order.isTest = false → config.mainnetUrl = config'.mainnetUrl →
        config.apiKey = config'.apiKey →
        exchange send config schedule wallet order = exchange send config' schedule wallet order := by
  refine ⟨fun t key => exists_sent send config, ?_,
    fun j k => exchange_congr send fun query _ => request_slashed config query j k,
    fun config' htest hurl => exchange_congr send fun query hquery => ?_,
    fun config' hmain hurl hkey => exchange_congr send fun query hquery => ?_⟩
  · intro http hhttp
    obtain ⟨query, hquery, rfl⟩ := List.mem_map.1 hhttp
    obtain ⟨hnetwork, hrequests⟩ := requests_of_mem_queries hquery
    exact ⟨query, hnetwork, hrequests, carries_request config query⟩
  · exact request_of_testnet hurl (hquery.trans htest)
  · exact request_of_mainnet hurl hkey (hquery.trans hmain)

/-- A wallet whose address would close its string and name another amount. -/
def forgedWallet : Wallet where
  id := .nil
  address := "T\",\"amount\":9,\"x\":\"\\\n"
  publicKey := "0x04ab"
  privateKey := "0x0101010101010101010101010101010101010101010101010101010101010101"
  createdAt := .epoch
  deletedAt := none
  chain := .tron

def coinOrder : Order := ⟨.coin, "TCNkawTmcQgYSU8nP8cHswT1QPjharxJr7", "7", none, 0, false⟩

def slashedConfig : Config := ⟨"https://node.example/v1///", "https://test.example", some "key", 5⟩

/-- The exchange for the order, with a node that cannot be reached. -/
def forgedExchange (config : Config) : List HttpRequest × Option (Except Error Transaction) :=
  exchange (fun _ => .failed "") config [⟨false, true⟩] forgedWallet coinOrder

/-- The address stays within its string, and the request goes to the main network with the key. -/
theorem exchange_faithful_forged :
    (∃ http query, (forgedExchange slashedConfig).1 = [http] ∧ query.isTest = false
      ∧ Requests forgedWallet coinOrder query.request ∧ Carries slashedConfig query http)
    ∧ (forgedExchange slashedConfig).1 = [⟨"https://node.example/v1/wallet/createtransaction", some "key",
        "\x7b\"owner_address\":\"T\\\",\\\"amount\\\":9,\\\"x\\\":\\\"\\\\\\n\","
          ++ "\"to_address\":\"TCNkawTmcQgYSU8nP8cHswT1QPjharxJr7\",\"amount\":7,\"visible\":true\x7d"⟩]
    ∧ forgedExchange { slashedConfig with testnetUrl := "https://other.example/" } = forgedExchange slashedConfig := by
  obtain ⟨hsent, hcarries, -, -, hmain⟩ :=
    exchange_faithful (fun _ => .failed "") slashedConfig [⟨false, true⟩] forgedWallet coinOrder
  let key : PrivateKey :=
    ⟨0x0101010101010101010101010101010101010101010101010101010101010101, by decide, by decide⟩
  obtain ⟨http, hhttp⟩ := hsent (.coin 7) key rfl (by decide +kernel) (by decide +kernel) rfl
  obtain ⟨query, hnetwork, hrequests, hquery⟩ := hcarries http (by rw [hhttp]; exact List.mem_singleton_self _)
  refine ⟨⟨http, query, hhttp, hnetwork, hrequests, hquery⟩, by decide +kernel, Eq.symm ?_⟩
  exact hmain { slashedConfig with testnetUrl := "https://other.example/" } rfl rfl rfl

end Keyring.TronGrid
