import PowerMaxCsi.Lib.GoMap
import PowerMaxCsi.Lib.Strings
import PowerMaxCsi.Lib.World
import PowerMaxCsi.Proxy.Locks

/-!
# The configuration of the reverse proxy

`csireverseproxy/pkg/config/config.go`, in ConfigMap mode.  Reading a secret is a call, since it may
change between two reads; so is the order in which `range` visits proxy secrets.  `url.Parse` is a
parameter, and `useSecret` stands for an environment variable.
-/

namespace PowerMaxCsi.Proxy

open Prog Strings

structure URL where
  (scheme host path : String)
deriving DecidableEq, Repr

def URL.zero : URL := ⟨"", "", ""⟩

structure Credentials where
  (userName password : String)
deriving DecidableEq, Repr

structure StorageArrayConfig where
  (storageArrayID primaryEndpoint backupEndpoint : String)
  proxyCredentialSecrets : List String
deriving DecidableEq, Repr

/-- `config.ManagementServerConfig`, without the credentials of the secret mode. -/
structure ManagementServerConfig where
  (endpoint arrayCredentialSecret : String)
  skipCertificateValidation : Bool
  certSecret : String
  limits : Limits
deriving DecidableEq, Repr

structure Config where
  storageArrayConfig : List StorageArrayConfig
  managementServerConfig : List ManagementServerConfig
deriving DecidableEq, Repr

/-- `config.ProxyConfigMap`, without what is only logged. -/
structure ProxyConfigMap where
  port : String
  config : Option Config
deriving DecidableEq, Repr

structure ProxyCredentialSecret where
  credentials : Credentials
  credentialSecret : String
deriving DecidableEq, Repr

structure StorageArray where
  storageArrayIdentifier : String
  (primaryEndpoint secondaryEndpoint : URL)
  proxyCredentialSecrets : GoMap String ProxyCredentialSecret

structure ManagementServer where
  endpoint : URL
  storageArrayIdentifiers : List String
  credentials : Credentials
  credentialSecret : String
  skipCertificateValidation : Bool
  (certFile certSecret : String)
  limits : Limits
  (username password : String)
deriving DecidableEq, Repr

structure ProxyUser where
  storageArrayIdentifiers : List String
  proxyCredential : Credentials
deriving DecidableEq, Repr

structure ProxyConfig where
  port : String
  managedArrays : GoMap String StorageArray
  managementServers : GoMap URL ManagementServer
  proxyCredentials : GoMap String ProxyUser

/-- `array.ProxyCredentialSecrets[secretName]`, the zero value where there is none. -/
def StorageArray.proxySecret (array : StorageArray) (secretName : String) :
    ProxyCredentialSecret :=
  (array.proxyCredentialSecrets.lookup secretName).getD ⟨⟨"", ""⟩, ""⟩

def sanitizeURLPath (path : String) : String :=
  let path := trimSpace path
  if hasSuffix path "/" then trimRight path '/' else path

def appendIfMissingStringSlice (slice : List String) (str : String) : List String :=
  if str ∈ slice then slice else slice ++ [str]

namespace ProxyConfig

def getManagementServerCredentials (pc : ProxyConfig) (useSecret : Bool) (mgmtEndpoint : URL) :
    Except String Credentials :=
  match pc.managementServers.lookup mgmtEndpoint with
  | some mgmtServer =>
    .ok (if useSecret then ⟨mgmtServer.username, mgmtServer.password⟩ else mgmtServer.credentials)
  | none => .error "endpoint not configured"

/-- `IsUserAuthorized`; the source returns false with every error. -/
def isUserAuthorized (pc : ProxyConfig) (username password storageArrayID : String) :
    Except String Bool :=
  match pc.proxyCredentials.lookup username with
  | some creds =>
    if storageArrayID ∈ creds.storageArrayIdentifiers then
      if creds.proxyCredential.password = password then .ok true
      else .error "incorrect password"
    else .error "unauthorized for this array"
  | none => .error "unknown credentials"

def getStorageArray (pc : ProxyConfig) (storageArrayID : String) : List StorageArray :=
  if storageArrayID ≠ "" then (pc.managedArrays.lookup storageArrayID).toList
  else pc.managedArrays.entries.map (·.2)

def isSecretConfiguredForCerts (pc : ProxyConfig) (secretName : String) : Bool :=
  pc.managementServers.entries.any fun e => e.2.certSecret = secretName

def isSecretConfiguredForArrays (pc : ProxyConfig) (useSecret : Bool) (secretName : String) :
    Bool :=
  !useSecret && pc.managedArrays.entries.any fun e =>
    (e.2.proxySecret secretName).credentialSecret = secretName

end ProxyConfig

inductive Crash where
  | nilDereference
deriving DecidableEq, Repr

namespace ProxyConfig

/-- `UpdateCerts`, and whether a server has the secret. -/
def updateCerts (pc : ProxyConfig) (secretName certFileName : String) : ProxyConfig × Bool :=
  ({ pc with managementServers := pc.managementServers.mapValues fun server =>
      if server.certSecret = secretName then { server with certFile := certFileName } else server },
    pc.managementServers.entries.any fun e => e.2.certSecret = secretName)

def updateServerCreds (useSecret : Bool) (secretName : String) (credentials : Credentials)
    (server : ManagementServer) : ManagementServer :=
  if useSecret then
    { server with username := credentials.userName, password := credentials.password }
  else if server.credentialSecret = secretName then { server with credentials := credentials }
  else server

def updateArrayCreds (secretName : String) (credentials : Credentials) (arrayID : String) :
    ProxyConfig × Bool → Except Crash (ProxyConfig × Bool)
  | (pc, isUpdated) =>
    match pc.managedArrays.lookup arrayID with
    | none => .ok (pc, isUpdated)
    | some array =>
      let old := array.proxySecret secretName
      if old.credentialSecret = secretName then
        if old.credentials ≠ credentials then
          match pc.proxyCredentials.lookup old.credentials.userName with
          | none => .error .nilDereference
          | some proxyUser =>
            let secrets := array.proxyCredentialSecrets.insert secretName ⟨credentials, secretName⟩
            .ok ({ pc with
              managedArrays := pc.managedArrays.insert arrayID
                { array with proxyCredentialSecrets := secrets }
              proxyCredentials :=
                (pc.proxyCredentials.erase old.credentials.userName).insert
                  credentials.userName ⟨proxyUser.storageArrayIdentifiers, credentials⟩ },
              true)
        else .ok (pc, isUpdated)
      else .ok (pc, isUpdated)

def updateArraysCreds (secretName : String) (credentials : Credentials) :
    List String → ProxyConfig × Bool → Except Crash (ProxyConfig × Bool)
  | [], s => .ok s
  | arrayID :: order, s =>
    match updateArrayCreds secretName credentials arrayID s with
    | .error crash => .error crash
    | .ok s => updateArraysCreds secretName credentials order s

def updateCreds (pc : ProxyConfig) (useSecret : Bool) (secretName : String)
    (credentials : Credentials) (order : List String) : Except Crash (ProxyConfig × Bool) :=
  updateArraysCreds secretName credentials order
    ({ pc with managementServers :=
        pc.managementServers.mapValues (updateServerCreds useSecret secretName credentials) },
      pc.managementServers.entries.any fun e =>
        useSecret || (e.2.credentialSecret = secretName && e.2.credentials ≠ credentials))

def updateProxyCredentials (pc : ProxyConfig) (creds : Credentials)
    (storageArrayIdentifier : String) : ProxyConfig :=
  match pc.proxyCredentials.lookup creds.userName with
  | some proxyUser =>
    if creds.password = proxyUser.proxyCredential.password then
      let ids := appendIfMissingStringSlice proxyUser.storageArrayIdentifiers storageArrayIdentifier
      { pc with proxyCredentials :=
        (pc.proxyCredentials.insert creds.userName ⟨ids, proxyUser.proxyCredential⟩) }
    else pc
  | none =>
    { pc with proxyCredentials :=
      (pc.proxyCredentials.insert creds.userName ⟨[storageArrayIdentifier], creds⟩) }

end ProxyConfig

inductive ConfigCall where
  | getCredentialsFromSecretName (secretName : String)
  | getCertFileFromSecretName (secretName : String)
  | range (keys : List String)
deriving DecidableEq, Repr

abbrev ConfigAnswer : ConfigCall → Type
  | .getCredentialsFromSecretName _ => Except String Credentials
  | .getCertFileFromSecretName _ => Except String String
  | .range _ => List String

abbrev ConfigProg := Prog ConfigCall ConfigAnswer

def getCredentialsFromSecretName (secretName : String) :
    ConfigProg (Except String Credentials) :=
  ask (ConfigCall.getCredentialsFromSecretName secretName)

def getCertFileFromSecretName (secretName : String) : ConfigProg (Except String String) :=
  ask (ConfigCall.getCertFileFromSecretName secretName)

def rangeKeys (keys : List String) : ConfigProg (List String) :=
  ask (ConfigCall.range keys)

def configAnswers (_ : Unit) : (c : ConfigCall) → ConfigAnswer c → Unit → Prop
  | .range keys, order, _ => order.Perm keys
  | .getCredentialsFromSecretName _, _, _ => True
  | .getCertFileFromSecretName _, _, _ => True

section

variable (parseURL : String → Except String URL)

def validateStorageArrayConfig (array : StorageArrayConfig) (ipAddresses : List String) :
    Except String StorageArray :=
  if array.primaryEndpoint = "" then
    .error ("primary endpoint not configured for array: " ++ array.storageArrayID)
  else if array.primaryEndpoint ∉ ipAddresses then
    .error ("primary endpoint: " ++ array.primaryEndpoint ++ " for array: " ++
      array.storageArrayID ++ " not present among management server addresses")
  else
    match parseURL array.primaryEndpoint with
    | .error err =>
      .error ("invalid primary endpoint for array " ++ array.storageArrayID ++ ": " ++ err)
    | .ok primaryURL =>
      match if array.backupEndpoint ≠ "" then parseURL array.backupEndpoint else .ok .zero with
      | .error err =>
        .error ("invalid backup endpoint for array " ++ array.storageArrayID ++ ": " ++ err)
      | .ok backupURL =>
        .ok ⟨array.storageArrayID, primaryURL, backupURL, ∅⟩

def readProxyCredentialSecrets (arrayID : String) :
    List String → GoMap String ProxyCredentialSecret →
      ConfigProg (Except String (GoMap String ProxyCredentialSecret))
  | [], secrets => pure (.ok secrets)
  | secret :: rest, secrets => do
    match ← getCredentialsFromSecretName secret with
    | .error err =>
      pure (.error ("failed to read credential secret " ++ secret ++ " for array " ++
        arrayID ++ ": " ++ err))
    | .ok proxyCredentials =>
      readProxyCredentialSecrets arrayID rest (secrets.insert secret ⟨proxyCredentials, secret⟩)

def buildStorageArray (array : StorageArrayConfig) (ipAddresses : List String) :
    ConfigProg (Except String StorageArray) :=
  match validateStorageArrayConfig parseURL array ipAddresses with
  | .error err => pure (.error err)
  | .ok sa => do
    match ← readProxyCredentialSecrets array.storageArrayID array.proxyCredentialSecrets ∅ with
    | .error err => pure (.error err)
    | .ok secrets => pure (.ok { sa with proxyCredentialSecrets := secrets })

abbrev EndpointArrays := GoMap URL (List String)

/-- `storageArrayIdentifiers[url] = append(storageArrayIdentifiers[url], arrayID)`. -/
def EndpointArrays.add (ids : EndpointArrays) (url : URL) (arrayID : String) : EndpointArrays :=
  ids.insert url ((ids.lookup url).getD [] ++ [arrayID])

/-- The loop of `ParseConfig` over the arrays; an array that is rejected is skipped. -/
def parseStorageArrays (ipAddresses : List String) :
    List StorageArrayConfig → ProxyConfig × EndpointArrays →
      ConfigProg (ProxyConfig × EndpointArrays)
  | [], s => pure s
  | array :: rest, (pc, ids) => do
    match ← buildStorageArray parseURL array ipAddresses with
    | .error _ => parseStorageArrays ipAddresses rest (pc, ids)
    | .ok sa =>
      let order ← rangeKeys sa.proxyCredentialSecrets.keys
      let pc := { pc with managedArrays := pc.managedArrays.insert array.storageArrayID sa }
      let pc := order.foldl (fun pc secret =>
        pc.updateProxyCredentials (sa.proxySecret secret).credentials array.storageArrayID) pc
      parseStorageArrays ipAddresses rest (pc, (ids.add sa.primaryEndpoint
        array.storageArrayID).add sa.secondaryEndpoint array.storageArrayID)

def readArrayCredentials (managementServer : ManagementServerConfig) :
    ConfigProg (Except String Credentials) :=
  if managementServer.arrayCredentialSecret ≠ "" then
    getCredentialsFromSecretName managementServer.arrayCredentialSecret
  else pure (.ok ⟨"", ""⟩)

def readCertFile (managementServer : ManagementServerConfig) : ConfigProg (Except String String) :=
  if managementServer.certSecret ≠ "" ∧ managementServer.skipCertificateValidation = false then
    getCertFileFromSecretName managementServer.certSecret
  else pure (.ok "")

def parseManagementServers (ids : EndpointArrays) :
    List ManagementServerConfig → ProxyConfig → ConfigProg (Except String ProxyConfig)
  | [], pc => pure (.ok pc)
  | managementServer :: rest, pc => do
    match ← readArrayCredentials managementServer with
    | .error err => pure (.error err)
    | .ok arrayCredentials =>
      match parseURL managementServer.endpoint with
      | .error err => pure (.error err)
      | .ok mgmtURL =>
        match ← readCertFile managementServer with
        | .error err => pure (.error err)
        | .ok certFile =>
          let server : ManagementServer :=
            { endpoint := mgmtURL
              storageArrayIdentifiers := (ids.lookup mgmtURL).getD []
              skipCertificateValidation := managementServer.skipCertificateValidation
              certFile := certFile
              certSecret := managementServer.certSecret
              credentials := arrayCredentials
              credentialSecret := managementServer.arrayCredentialSecret
              limits := managementServer.limits
              username := ""
              password := "" }
          parseManagementServers ids rest { pc with
            managementServers := pc.managementServers.insert mgmtURL server }

def parseConfig (proxyConfigMap : ProxyConfigMap) : ConfigProg (Except String ProxyConfig) :=
  match proxyConfigMap.config with
  | none => pure (.error "config is empty")
  | some config => do
    let servers := config.managementServerConfig.map fun server =>
      { server with endpoint := sanitizeURLPath server.endpoint }
    let arrays := config.storageArrayConfig.map fun array =>
      { array with
        primaryEndpoint := sanitizeURLPath array.primaryEndpoint
        backupEndpoint := sanitizeURLPath array.backupEndpoint }
    let (pc, ids) ← parseStorageArrays parseURL (servers.map (·.endpoint)) arrays
      (⟨proxyConfigMap.port, ∅, ∅, ∅⟩, ∅)
    if pc.managedArrays.entries = [] ∧ arrays ≠ [] then
      pure (.error ("no valid storage arrays configured: all " ++ toString arrays.length ++
        " configured array(s) failed validation"))
    else parseManagementServers parseURL ids servers pc

end

end PowerMaxCsi.Proxy
