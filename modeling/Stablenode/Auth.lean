import Stablenode.HandlerChain
import Stablenode.Table
import Stablenode.Text

/-! The authentication middleware: `DynamicAuthMiddleware`, `OnlySenderMiddleware` and
`OnlyProviderMiddleware`. -/
namespace Stablenode

inductive Role where
  | sender
  | provider
  deriving DecidableEq

structure Profile where
  id : ℕ
  user : ℕ
  deriving DecidableEq

structure APIKey where
  id : ℕ
  secret : String
  senderProfile : Option Profile
  providerProfile : Option Profile
  deriving DecidableEq

def APIKey.profile (key : APIKey) : Role → Option Profile
  | .sender => key.senderProfile
  | .provider => key.providerProfile

structure Claims where
  sub : Option String
  scope : Option String
  deriving DecidableEq

inductive Number where
  | finite (q : ℚ)
  | infinite (negative : Bool)
  | notANumber
  deriving DecidableEq

inductive Json where
  | null
  | str (s : String)
  | num (x : Number)
  | other (text : String)
  deriving DecidableEq

abbrev Payload := List (String × Json)

structure Response where
  code : ℕ
  message : String
  data : Option String
  deriving DecidableEq

structure HTTPRequest where
  method : String
  path : String
  authorization : String
  clientType : String
  apiKey : String
  query : List (String × List String)
  body : Except String String

structure Values where
  userID : Option String
  sender : Option (Option Profile)
  provider : Option (Option Profile)
  body : Except String String
  responses : List Response

namespace Values

def initial (r : HTTPRequest) : Values := ⟨none, none, none, r.body, []⟩

def profile (v : Values) : Role → Option (Option Profile)
  | .sender => v.sender
  | .provider => v.provider

def setProfile (v : Values) (role : Role) (p : Option Profile) : Values :=
  match role with
  | .sender => { v with sender := some p }
  | .provider => { v with provider := some p }

def respond (v : Values) (response : Response) : Values :=
  { v with responses := v.responses ++ [response] }

end Values

inductive LookupError where
  | notFound
  | other (text : String)
  deriving DecidableEq

structure AccountStore where
  apiKeys : Table APIKey.id
  senderProfiles : List Profile
  providerProfiles : List Profile
  keysDown : Option String
  profilesDown : Role → Option String

namespace AccountStore

def profiles (db : AccountStore) : Role → List Profile
  | .sender => db.senderProfiles
  | .provider => db.providerProfiles

def queryProfile (db : AccountStore) (role : Role) (user : ℕ) : Except LookupError Profile :=
  match db.profilesDown role with
  | some text => .error (.other text)
  | none =>
    match only ((db.profiles role).filter fun p => p.user = user) with
    | .ok p => .ok p
    | .error .notFound => .error .notFound
    | .error .notSingular => .error (.other "not singular")

def queryAPIKey (db : AccountStore) (id : ℕ) : Except LookupError APIKey :=
  match db.keysDown with
  | some text => .error (.other text)
  | none =>
    match db.apiKeys.get id with
    | none => .error .notFound
    | some key => .ok key

end AccountStore

structure AuthEnvironment where
  validateJWT : String → Except String Claims
  parseUUID : String → ℕ × Bool
  unmarshal : String → Except String Payload
  marshal : Payload → Except String String
  parseFloat : String → Option Number
  toInt64 : Number → ℤ
  decodeBase64 : String → Except String (List UInt8)
  gcm : Except String (List UInt8 → List UInt8 → Except String (List UInt8))
  generateHMACSignature : Payload → List UInt8 → String
  now : ℤ
  hmacTimestampAge : ℤ

inductive AuthFailure where
  | reject (response : Response)
  | panic
  deriving DecidableEq

def rejectWith (response : Response) : Handler Values :=
  .update (·.respond response) (.abort .ret)

def AuthFailure.handler : AuthFailure → Handler Values
  | .reject response => rejectWith response
  | .panic => .panic

section Middleware

variable (x : AuthEnvironment) (db : AccountStore) (r : HTTPRequest)

def verifyToken : Except AuthFailure (String × String) :=
  if r.authorization = "" then
    .error (.reject ⟨401, "Authorization header is missing", some "Expected: Bearer <token>"⟩)
  else
    match splitOnce ' ' r.authorization with
    | none =>
      .error (.reject ⟨401, "Invalid Authorization header format", some "Expected: Bearer <token>"⟩)
    | some (scheme, token) =>
      if scheme ≠ "Bearer" then
        .error (.reject ⟨401, "Invalid Authorization header format", some "Expected: Bearer <token>"⟩)
      else
        match x.validateJWT token with
        | .error e => .error (.reject ⟨401, "Invalid or expired token", some e⟩)
        | .ok claims =>
          match claims.sub, claims.scope with
          -- the response formats an error that is nil
          | none, _ => .error .panic
          | some _, none =>
            .error (.reject ⟨401, "Invalid or expired token", some "Invalid scope in token"⟩)
          | some userID, some scope => .ok (userID, scope)

def Role.text : Role → String
  | .sender => "sender"
  | .provider => "provider"

def scopeGrants (scope : String) (role : Role) : Bool :=
  scope = role.text || (containsText scope "sender" && containsText scope "provider")

def setScopeProfile (scope : String) (user : ℕ) (role : Role) (v : Values) : Values :=
  if scopeGrants scope role then v.setProfile role (db.queryProfile role user).toOption else v

def jwtMiddleware : Handler Values :=
  match verifyToken x r with
  | .error failure => failure.handler
  | .ok (userID, scope) =>
    let userUUID := (x.parseUUID userID).1
    .update (fun v => { v with userID := some userID }) <|
      .update (setScopeProfile db scope userUUID .sender) <|
        .update (setScopeProfile db scope userUUID .provider) <|
          .next .ret

def fetchAPIKey (keyID : String) : Except AuthFailure APIKey :=
  if (x.parseUUID keyID).2 = false then
    .error (.reject ⟨400, "Invalid API key ID", none⟩)
  else
    match db.queryAPIKey (x.parseUUID keyID).1 with
    | .error .notFound => .error (.reject ⟨404, "API key not found", none⟩)
    | .error (.other e) => .error (.reject ⟨500, "Failed to fetch API key", some e⟩)
    | .ok key => .ok key

def setKeyProfile (key : APIKey) (role : Role) (v : Values) : Values :=
  match key.profile role with
  | none => v
  | some p => v.setProfile role (some p)

def withKeyProfiles (key : APIKey) (k : Handler Values) : Handler Values :=
  .update (setKeyProfile key .sender) <|
    .update (setKeyProfile key .provider) <|
      if key.senderProfile = none ∧ key.providerProfile = none then
        rejectWith ⟨401, "Invalid API key or token", none⟩
      else k

def apiKeyMiddleware : Handler Values :=
  if r.apiKey = "" then rejectWith ⟨401, "Missing API-Key header", none⟩
  else
    match fetchAPIKey x db r.apiKey with
    | .error failure => failure.handler
    | .ok key => withKeyProfiles key (.next .ret)

def parseHMACHeader : Except AuthFailure (String × String) :=
  if r.authorization = "" then .error (.reject ⟨401, "Missing Authorization header", none⟩)
  else
    match splitOnce ' ' r.authorization with
    | none =>
      .error (.reject ⟨401, "Invalid Authorization header",
        some "Expected: HMAC <public_key>:<signature>"⟩)
    | some (scheme, credentials) =>
      if scheme ≠ "HMAC" then
        .error (.reject ⟨401, "Invalid Authorization header",
          some "Expected: HMAC <public_key>:<signature>"⟩)
      else
        match splitOnce ':' credentials with
        | none =>
          .error (.reject ⟨401, "Invalid Authorization header format",
            some "Expected: HMAC <public_key>:<signature>"⟩)
        | some (publicKey, signature) =>
          if credentials.utf8ByteSize < 4 ∨ publicKey = "" ∨ signature = "" then
            .error (.reject ⟨401, "Invalid Authorization header format",
              some "Expected: HMAC <public_key>:<signature>"⟩)
          else .ok (publicKey, signature)

def HTTPRequest.signsQuery : Bool := r.method = "GET" || r.method = "DELETE"

def readPayload : Except AuthFailure Payload :=
  if r.signsQuery then
    .ok (r.query.filterMap fun entry => entry.2.head?.map fun value => (entry.1, .str value))
  else
    match r.body with
    | .error e => .error (.reject ⟨500, "Failed to read request payload", some e⟩)
    | .ok body =>
      match x.unmarshal body with
      | .error e => .error (.reject ⟨400, "Invalid payload format", some e⟩)
      | .ok payload => .ok payload

def Payload.setTimestamp (payload : Payload) (t : Number) : Payload :=
  payload.map fun entry => if entry.1 = "timestamp" then ("timestamp", .num t) else entry

def checkTimestamp (payload : Payload) (t : Number) : Except AuthFailure Payload :=
  if t = .finite 0 then .error (.reject ⟨401, "Missing or invalid timestamp in payload", none⟩)
  else if x.now - x.toInt64 t > x.hmacTimestampAge then
    .error (.reject ⟨401, "Invalid timestamp", none⟩)
  else .ok payload

def readTimestamp (payload : Payload) : Except AuthFailure Payload :=
  match payload.lookup "timestamp" with
  | some (.str s) =>
    match x.parseFloat s with
    | none => .error (.reject ⟨401, "Missing or invalid timestamp in payload", none⟩)
    | some t => checkTimestamp x (payload.setTimestamp t) t
  | some (.num t) => checkTimestamp x payload t
  | _ => .error (.reject ⟨401, "Missing or invalid timestamp in payload", none⟩)

structure SignedRequest where
  publicKey : String
  signature : String
  payload : Payload

def signedRequest : Except AuthFailure SignedRequest := do
  let (publicKey, signature) ← parseHMACHeader r
  let payload ← readPayload x r
  let payload ← readTimestamp x payload
  return ⟨publicKey, signature, payload⟩

def AuthEnvironment.decryptPlain (ciphertext : List UInt8) :
    Option (Except String (List UInt8)) :=
  match x.gcm with
  | .error e => some (.error e)
  | .ok openText =>
    if ciphertext.length < 12 then none
    else some (openText (ciphertext.take 12) (ciphertext.drop 12))

def AuthEnvironment.verifyHMACSignature (payload : Payload) (privateKey : List UInt8)
    (signature : String) : Bool :=
  x.generateHMACSignature payload privateKey = signature

def verifySignature (request : SignedRequest) (key : APIKey) : Handler Values :=
  match x.decodeBase64 key.secret with
  | .error e => .update (·.respond ⟨500, "Failed to decode API key", some e⟩) .ret
  | .ok decoded =>
    match x.decryptPlain decoded with
    | none => .panic
    | some (.error e) => .update (·.respond ⟨500, "Failed to decrypt API key", some e⟩) .ret
    | some (.ok secret) =>
      if x.verifyHMACSignature request.payload secret request.signature = false then
        rejectWith ⟨401, "Invalid HMAC signature", none⟩
      else
        match x.marshal (request.payload.filter fun entry => entry.1 ≠ "timestamp") with
        | .error e => rejectWith ⟨500, "Failed to modify payload", some e⟩
        | .ok body => .update (fun v => { v with body := .ok body }) (.next .ret)

def hmacVerificationMiddleware : Handler Values :=
  match signedRequest x r with
  | .error failure => failure.handler
  | .ok request =>
    .update (fun v => if r.signsQuery then v else { v with body := .ok "" }) <|
      match fetchAPIKey x db request.publicKey with
      | .error failure => failure.handler
      | .ok key => withKeyProfiles key (verifySignature x request key)

inductive AuthMethod where
  | jwt
  | apiKey
  | hmac
  deriving DecidableEq

def HTTPRequest.authMethod : AuthMethod :=
  if r.clientType = "web" then .jwt
  else if containsText r.path "/sender/" ∧ r.apiKey ≠ "" then .apiKey
  else .hmac

def dynamicAuthMiddleware : Handler Values :=
  let selected :=
    match r.authMethod with
    | .jwt => jwtMiddleware x db r
    | .apiKey => apiKeyMiddleware x db r
    | .hmac => hmacVerificationMiddleware x db r
  selected.andThen (.next .ret)

def onlyMiddleware (role : Role) : Handler Values :=
  .read fun v =>
    if v.profile role = none then rejectWith ⟨401, "Invalid API key or token", none⟩
    else .next .ret

def onlySenderMiddleware : Handler Values := onlyMiddleware .sender

def onlyProviderMiddleware : Handler Values := onlyMiddleware .provider

end Middleware

end Stablenode
