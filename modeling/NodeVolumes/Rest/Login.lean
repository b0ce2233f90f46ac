import NodeVolumes.Json.Decoder
import NodeVolumes.Rest.Certificates
import NodeVolumes.Rest.Request
import NodeVolumes.Settings.Cloud

/-!
# Logging in

A login posts user, password and project to the identity service.  The answer carries a token and
the catalogue of services, of which the endpoints for compute and block storage are chosen.

Main statement: `mem_offers_iff` says which endpoints are candidates; the one that is chosen is
the first of them.
-/

namespace NodeVolumes.Rest

open Text

def computeTypes : List String := ["compute"]

def volumeTypes : List String := ["volumev3", "block-storage", "volumev2"]

/-- A session: the token and the endpoints of its requests. -/
structure Session where
  token : String
  computeUrl : String
  volumeUrl : String
  deriving DecidableEq, Repr

/-! ## The catalogue -/

structure Endpoint where
  interface : String := ""
  region : Option String := none
  regionId : Option String := none
  url : String := ""
  deriving DecidableEq, Repr

structure Service where
  kind : String := ""
  endpoints : List Endpoint := []
  deriving DecidableEq, Repr

def Endpoint.record : Json.Record Endpoint where
  name := "Endpoint"
  initial := {}
  fields :=
    [ .optional "interface" .text fun v e => { e with interface := v },
      .optional "region" (.optional .text) fun v e => { e with region := v },
      .optional "region_id" (.optional .text) fun v e => { e with regionId := v },
      .mandatory "url" .text fun v e => { e with url := v } ]

def Service.record : Json.Record Service where
  name := "CatalogEntry"
  initial := {}
  fields :=
    [ .mandatory "type" .text fun v s => { s with kind := v },
      .optional "endpoints" (.list Endpoint.record.decoder) fun v s => { s with endpoints := v } ]

def catalogRecord : Json.Record (List Service) where
  name := "Token"
  initial := []
  fields := [ .optional "catalog" (.list Service.record.decoder) fun v _ => v ]

def loginRecord : Json.Record (List Service) where
  name := "TokenBody"
  initial := []
  fields := [ .mandatory "token" catalogRecord.decoder fun v _ => v ]

/-- Whether an endpoint is in a region, where one is wanted. -/
def Endpoint.isIn (e : Endpoint) : Option String → Bool
  | none => true
  | some wanted => e.region == some wanted || e.regionId == some wanted

def Endpoint.suits (e : Endpoint) (interface : String) (region : Option String) : Bool :=
  e.interface == interface && e.isIn region

/-- The endpoints that suit, of services of the types, by type and then as the catalogue has them. -/
def offers (catalog : List Service) (types : List String) (interface : String)
    (region : Option String) : List Endpoint :=
  types.flatMap fun type =>
    (catalog.filter fun s => s.kind == type).flatMap fun s =>
      s.endpoints.filter fun e => e.suits interface region

theorem mem_offers_iff {catalog : List Service} {types : List String} {interface : String}
    {region : Option String} {e : Endpoint} :
    e ∈ offers catalog types interface region ↔
      ∃ s ∈ catalog, s.kind ∈ types ∧ e ∈ s.endpoints ∧ e.suits interface region = true := by
  simp only [offers, List.mem_flatMap, List.mem_filter, beq_iff_eq]
  constructor
  · rintro ⟨type, htype, s, ⟨hs, rfl⟩, he, hsuits⟩
    exact ⟨s, hs, htype, he, hsuits⟩
  · rintro ⟨s, hs, htype, he, hsuits⟩
    exact ⟨s.kind, htype, s, ⟨hs, rfl⟩, he, hsuits⟩

def withoutSlashes (url : String) : String :=
  dropLastWhile (· == '/') url

def selectEndpoint (catalog : List Service) (types : List String) (interface : String)
    (region : Option String) : Except Cloud.Error String :=
  match offers catalog types interface region with
  | e :: _ => .ok (withoutSlashes e.url)
  | [] => .error (.missingEndpoint ("/".intercalate types))

/-! ## The login -/

/-- The URL that logins are posted to, for an identity URL with or without its version. -/
def tokensUrl (authUrl : String) : String :=
  let base := withoutSlashes (trim authUrl)
  match dropEnding? base "/v3" with
  | some _ => base ++ "/auth/tokens"
  | none => base ++ "/v3/auth/tokens"

def projectBody (s : Settings.Cloud) : Json :=
  match s.project? with
  | some id => .object [("id", .string id)]
  | none =>
      .object
        [("domain", .object [("name", .string s.projectDomain)]),
          ("name", .string (trim (s.projectName.getD "")))]

def loginBody (s : Settings.Cloud) : Json :=
  let user : Json :=
    .object
      [("domain", .object [("name", .string s.userDomain)]),
        ("name", .string (trim (s.username.getD ""))),
        ("password", .string (s.password.getD ""))]
  let identity : Json :=
    .object
      [("methods", .array [.string "password"]), ("password", .object [("user", user)])]
  .object
    [("auth", .object
      [("identity", identity), ("scope", .object [("project", projectBody s)])])]

def tokenHeader : String := "X-Subject-Token"

/-- The token of an answer, if it is there and readable. -/
def tokenOf (r : Http.Response) : Except Cloud.Error String :=
  match r.header? tokenHeader with
  | some value =>
      if Http.isReadable value then .ok value
      else .error (.authentication ("response carried no " ++ tokenHeader ++ " header"))
  | none => .error (.authentication ("response carried no " ++ tokenHeader ++ " header"))

def decodeBody {α : Type} (decoder : Json.Decoder α) (resource : String) (r : Http.Response) :
    Except Cloud.Error α :=
  (Json.decode decoder r.text).mapError fun fault => .parse resource fault.message

def sessionOf (s : Settings.Cloud) (r : Http.Response) : Except Cloud.Error Session := do
  if r.isSuccess then
    let token ← tokenOf r
    let catalog ← decodeBody loginRecord.decoder "token" r
    let interface := trim s.endpointInterface
    let computeUrl ← selectEndpoint catalog computeTypes interface s.region?
    let volumeUrl ← selectEndpoint catalog volumeTypes interface s.region?
    return ⟨token, computeUrl, volumeUrl⟩
  else
    .error (.authentication (Decimal.digitText r.status ++ " " ++ trim r.text))

/-- The error of an exchange that brought no response. -/
def transportError (e : Http.TransportError) : Cloud.Error :=
  .provider e.message

def exchange (r : Http.Request) : Action Cloud.Error Http.Response :=
  ExceptT.mk do
    return (← ask (.exchange r)).mapError transportError

def login (s : Settings.Cloud) : Action Cloud.Error Session :=
  match Http.Url.parse (tokensUrl (s.authUrl.getD "")) with
  | .error e => throw (transportError (.badUrl e))
  | .ok url => do
      let response ← exchange { method := .post, url, body := some (loginBody s) }
      ExceptT.mk (pure (sessionOf s response))

/-- Opens a session: the settings are checked, then certificates read, then the login is made. -/
def connect (s : Settings.Cloud) : Action Cloud.Error Session := do
  match s.checked with
  | .error e => throw (.config e.message)
  | .ok () =>
      let _ ← onHost (trusted s)
      login s

end NodeVolumes.Rest
