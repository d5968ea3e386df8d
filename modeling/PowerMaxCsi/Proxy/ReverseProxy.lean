import PowerMaxCsi.Proxy.Config

/-!
# The reverse proxy

`csireverseproxy/pkg/proxy/proxy.go`: the envoys, the router with its middleware, and
`ServeReverseProxy`.  Path templates are split at the slashes.  A path that the router would clean
is redirected.  Whether `Lock()` succeeds is an argument.  A certificate file that was written is
readable.
-/

namespace PowerMaxCsi.Proxy

open Strings

/-- `common.Proxy` with the TLS configuration of its transport. -/
structure UnisphereProxy where
  url : URL
  limits : Limits
  skipCertificateValidation : Bool
  certFile : String
deriving DecidableEq, Repr

/-- `common.Envoy`; the HTTP clients are built from the same servers as the proxies. -/
structure Envoy where
  primary : UnisphereProxy
  backup : Option UnisphereProxy
  /-- The backup is used, if there is one. -/
  onBackup : Bool
deriving DecidableEq, Repr

def newReverseProxy (mgmtServer : ManagementServer) : UnisphereProxy :=
  ⟨mgmtServer.endpoint, mgmtServer.limits, mgmtServer.skipCertificateValidation,
    mgmtServer.certFile⟩

def Envoy.getActiveProxy (envoy : Envoy) : UnisphereProxy :=
  match envoy.onBackup, envoy.backup with
  | true, some backup => backup
  | _, _ => envoy.primary

structure StorageArrayServer where
  array : StorageArray
  primaryServer : ManagementServer
  backupServer : Option ManagementServer

def ManagementServer.zero : ManagementServer :=
  ⟨.zero, [], ⟨"", ""⟩, "", false, "", "", ⟨0, 0, 0, 0⟩, "", ""⟩

def StorageArrayServer.add (arrayServer : StorageArrayServer) (server : ManagementServer) :
    StorageArrayServer :=
  if server.endpoint = arrayServer.array.primaryEndpoint then
    { arrayServer with primaryServer := server }
  else if server.endpoint = arrayServer.array.secondaryEndpoint then
    { arrayServer with backupServer := some server }
  else arrayServer

namespace ProxyConfig

/-- The inner loop of `GetManagedArraysAndServers`, over the arrays of a server. -/
def addServer (pc : ProxyConfig) (server : ManagementServer) :
    List String → GoMap String StorageArrayServer → Except Crash (GoMap String StorageArrayServer)
  | [], arrayServers => .ok arrayServers
  | arrayID :: rest, arrayServers =>
    match arrayServers.lookup arrayID with
    | some arrayServer =>
      addServer pc server rest (arrayServers.insert arrayID (arrayServer.add server))
    | none =>
      match pc.managedArrays.lookup arrayID with
      | none => .error .nilDereference
      | some array =>
        addServer pc server rest (arrayServers.insert arrayID
          (StorageArrayServer.add ⟨array, .zero, none⟩ server))

def addServers (pc : ProxyConfig) :
    List ManagementServer → GoMap String StorageArrayServer →
      Except Crash (GoMap String StorageArrayServer)
  | [], arrayServers => .ok arrayServers
  | server :: rest, arrayServers =>
    match pc.addServer server server.storageArrayIdentifiers arrayServers with
    | .error crash => .error crash
    | .ok arrayServers => addServers pc rest arrayServers

/-- `GetManagedArraysAndServers`.  Endpoints are distinct, so their order does not matter. -/
def getManagedArraysAndServers (pc : ProxyConfig) :
    Except Crash (GoMap String StorageArrayServer) :=
  pc.addServers (pc.managementServers.entries.map (·.2)) ∅

end ProxyConfig

def hasServerChanged (oldServer newServer : ManagementServer) : Bool :=
  oldServer.endpoint ≠ newServer.endpoint || oldServer.certFile ≠ newServer.certFile ||
    oldServer.credentialSecret ≠ newServer.credentialSecret ||
    oldServer.limits ≠ newServer.limits ||
    oldServer.skipCertificateValidation ≠ newServer.skipCertificateValidation ||
    oldServer.username ≠ newServer.username || oldServer.password ≠ newServer.password

def newEnvoyClient (serverArray : StorageArrayServer) : Envoy :=
  ⟨newReverseProxy serverArray.primaryServer, serverArray.backupServer.map newReverseProxy, false⟩

/-- What `UpdateConfig` does with the envoy of an array that was there before. -/
def Envoy.follow (envoy : Envoy) (old new : StorageArrayServer) : Envoy where
  primary :=
    if hasServerChanged old.primaryServer new.primaryServer then newReverseProxy new.primaryServer
    else envoy.primary
  backup :=
    match old.backupServer, new.backupServer with
    | some _, none => none
    | none, some server => some (newReverseProxy server)
    | some oldServer, some server =>
      if hasServerChanged oldServer server then some (newReverseProxy server) else envoy.backup
    | none, none => envoy.backup
  onBackup := envoy.onBackup

/-- `proxy.Proxy`.  `useSecret` is the mode that the environment asks for. -/
structure ReverseProxy where
  useSecret : Bool
  config : ProxyConfig
  envoyMap : GoMap String Envoy
  authToken : String

namespace ReverseProxy

def updateArray (old : GoMap String StorageArrayServer) (envoyMap : GoMap String Envoy)
    (arrayID : String) (serverArray : StorageArrayServer) : GoMap String Envoy :=
  match old.lookup arrayID with
  | none => envoyMap.insert arrayID (newEnvoyClient serverArray)
  | some oldServerArray =>
    match envoyMap.lookup arrayID with
    | none => envoyMap
    | some envoy => envoyMap.insert arrayID (envoy.follow oldServerArray serverArray)

/-- `UpdateConfig`.  Nothing changes if the configurations are equal. -/
def updateConfig (p : ReverseProxy) (proxyConfig : ProxyConfig) : Except Crash ReverseProxy :=
  match p.config.getManagedArraysAndServers with
  | .error crash => .error crash
  | .ok old =>
    match proxyConfig.getManagedArraysAndServers with
    | .error crash => .error crash
    | .ok new =>
      let envoyMap := new.entries.foldl (fun m e => updateArray old m e.1 e.2) p.envoyMap
      let envoyMap := old.keys.foldl (fun m arrayID =>
        if arrayID ∈ new.keys then m else m.erase arrayID) envoyMap
      .ok { p with config := proxyConfig, envoyMap := envoyMap }

def getProxyBySymmID (p : ReverseProxy) (storageArrayID : String) : Except String UnisphereProxy :=
  match p.config.getStorageArray storageArrayID with
  | [] => .error "failed to find array id in the configuration"
  | _ :: _ =>
    match p.envoyMap.lookup storageArrayID with
    | some envoy => .ok envoy.getActiveProxy
    | none => .error "failed to find reverseproxy for the array id"

end ReverseProxy

/-- An HTTP request.  `basicAuth` is what `BasicAuth()` reads off the headers. -/
structure HttpRequest where
  (method path : String)
  (query header : List (String × String))
  basicAuth : Option (String × String)
deriving DecidableEq, Repr

def HttpRequest.getHeader (req : HttpRequest) (name : String) : String :=
  ((req.header.find? fun e => equalFold e.1 name).map (·.2)).getD ""

inductive Segment where
  | lit (text : String)
  | var (name : String)
deriving DecidableEq, Repr

inductive CommonHandler where
  | serveSymmetrix
  | serveVersions
  | servePerformance
  | serveVolumePerformance
  | serveFSPerformance
  | serveReplicationCapabilities
deriving DecidableEq, Repr

inductive RouteHandler where
  | serveReverseProxy
  | serveVolume
  | getVolumes
  | getPortGroups
  | serveIterator
  | ifNoSymIDInvoke (customHandler : CommonHandler)
deriving DecidableEq, Repr

inductive RouteKind where
  | path
  | pathPrefix
deriving DecidableEq, Repr

structure Route where
  kind : RouteKind
  template : List Segment
  queries : List String
  handler : RouteHandler
deriving DecidableEq, Repr

/-- The prefixes of `utils`, split at the slashes. -/
def restapi : List Segment := [.lit "", .lit "univmax", .lit "restapi"]
@[inherit_doc restapi]
def restV1 : List Segment := [.lit "", .lit "univmax", .lit "rest", .lit "v1"]
@[inherit_doc restapi]
def restapiPrivate : List Segment := restapi ++ [.lit "private"]
@[inherit_doc restapi]
def restPrivateV1 : List Segment :=
  [.lit "", .lit "univmax", .lit "rest", .lit "private", .lit "v1"]
@[inherit_doc restapi]
def restapiInternal : List Segment := restapi ++ [.lit "internal"]

def symmetrixRoute (base : List Segment) (category : String) : Route :=
  ⟨.pathPrefix, base ++ [.var "version", .lit category, .lit "symmetrix", .var "symid"], [],
    .serveReverseProxy⟩

def commonRoute (path : List Segment) (customHandler : CommonHandler) : Route :=
  ⟨.path, restapi ++ path, [], .ifNoSymIDInvoke customHandler⟩

def routes : List Route :=
  [⟨.path, restV1 ++ [.lit "systems", .var "symid", .lit "volumes"], ["limit"], .serveReverseProxy⟩,
    ⟨.path, restV1 ++ [.lit "systems", .var "symid", .lit "volumes"], [], .getVolumes⟩,
    ⟨.path, restV1 ++ [.lit "systems", .var "symid", .lit "port-groups"], [], .getPortGroups⟩,
    ⟨.path, restV1 ++ [.lit "systems", .var "symid", .lit "storage-groups"], [],
      .serveReverseProxy⟩,
    ⟨.path, restapi ++ [.var "version", .lit "sloprovisioning", .lit "symmetrix", .var "symid",
      .lit "volume"], [], .serveVolume⟩,
    symmetrixRoute restapi "sloprovisioning",
    symmetrixRoute restapi "system",
    symmetrixRoute restapi "sloprovisioning",
    symmetrixRoute restapiPrivate "replication",
    symmetrixRoute restapiPrivate "sloprovisioning",
    ⟨.pathPrefix, restPrivateV1 ++ [.lit "systems", .var "symid"], [], .serveReverseProxy⟩,
    symmetrixRoute restapi "replication",
    commonRoute [.var "version", .lit "sloprovisioning", .lit "symmetrix"] .serveSymmetrix,
    ⟨.path, restapi ++ [.lit "common", .lit "Iterator", .var "iterId", .lit "page"], [],
      .serveIterator⟩,
    commonRoute [.var "version", .lit "system", .lit "symmetrix"] .serveSymmetrix,
    commonRoute [.var "version", .lit "system", .lit "version"] .serveVersions,
    commonRoute [.lit "version"] .serveVersions,
    commonRoute [.lit "performance", .lit "Array", .lit "keys"] .servePerformance,
    commonRoute [.lit "performance", .lit "Volume", .lit "metrics"] .serveVolumePerformance,
    commonRoute [.lit "performance", .lit "file", .lit "filesystem", .lit "metrics"]
      .serveFSPerformance,
    commonRoute [.var "version", .lit "replication", .lit "capabilities", .lit "symmetrix"]
      .serveReplicationCapabilities,
    symmetrixRoute restapiInternal "file",
    symmetrixRoute restapi "file",
    symmetrixRoute restapi "migration"]

abbrev Vars := List (String × String)

/-- Match the parts of a path with a template: the variables, and the parts that are left. -/
def matchSegments : List Segment → List String → Option (Vars × List String)
  | [], parts => some ([], parts)
  | .lit text :: template, part :: parts =>
    if part = text then matchSegments template parts else none
  | .var name :: template, part :: parts =>
    if part ≠ "" then
      (matchSegments template parts).map fun (vars, rest) => ((name, part) :: vars, rest)
    else none
  | _ :: _, [] => none

def Route.vars (route : Route) (parts : List String) (query : List (String × String)) :
    Option Vars :=
  match matchSegments route.template parts with
  | none => none
  | some (vars, rest) =>
    if (route.kind = .pathPrefix ∨ rest = []) ∧ ∀ key ∈ route.queries, key ∈ query.map (·.1) then
      some vars
    else none

def matchRoute (path : String) (query : List (String × String)) : Option (Route × Vars) :=
  routes.findSome? fun route => (route.vars (split path '/') query).map fun vars => (route, vars)

def isClean (path : String) : Bool :=
  hasPrefix path "/" &&
    ((split path '/').drop 1).dropLast.all (fun part => part ≠ "" && part ≠ "." && part ≠ "..") &&
    ((split path '/').getLast?.all fun part => part ≠ "." && part ≠ "..")

structure HttpError where
  status : Nat
  message : String
deriving DecidableEq, Repr

/-- `authorization` is `none` if the header of the client is left in place. -/
structure Forwarded where
  url : URL
  path : String
  authorization : Option Credentials
deriving DecidableEq, Repr

structure Reply where
  written : List HttpError
  forwarded : Option Forwarded
deriving DecidableEq, Repr

def Reply.error (status : Nat) (message : String) : Reply := ⟨[⟨status, message⟩], none⟩

inductive Served where
  | reply (reply : Reply)
  | redirected
  | passed (handler : RouteHandler)
deriving DecidableEq, Repr

def ProxyConfig.isCredentialValidForAnyServer (pc : ProxyConfig) (username password : String) :
    Bool :=
  username ≠ "" && password ≠ "" && pc.managementServers.entries.any fun e =>
    e.2.username ≠ "" && e.2.password ≠ "" && e.2.username = username && e.2.password = password

namespace ReverseProxy

/-- `authenticateSecretMode`: what is written, and whether the request is authentic. -/
def authenticateSecretMode (p : ReverseProxy) (req : HttpRequest) : List HttpError × Bool :=
  match req.basicAuth with
  | none => ([⟨401, "no authorization provided"⟩], false)
  | some (username, password) =>
    if p.config.isCredentialValidForAnyServer username password then ([], true)
    else ([⟨401, "invalid credentials"⟩], false)

/-- What is written, and whether the request is authorized.  In ConfigMap mode missing credentials
are looked up as empty ones. -/
def isAuthorized (p : ReverseProxy) (req : HttpRequest) (storageArrayID : String) :
    List HttpError × Bool :=
  if p.useSecret then
    match p.authenticateSecretMode req with
    | (written, false) => (written, false)
    | (written, true) =>
      match p.config.getStorageArray storageArrayID with
      | [] => (written ++ [⟨401, "unknown storage array"⟩], false)
      | _ :: _ => (written, true)
  else
    let written := if req.basicAuth.isNone then [⟨401, "no authorization provided"⟩] else []
    let (username, password) := req.basicAuth.getD ("", "")
    match p.config.isUserAuthorized username password storageArrayID with
    | .error err => (written ++ [⟨401, err⟩], false)
    | .ok _ => (written, true)

def modifyRequest (p : ReverseProxy) (targetURL : URL) : List HttpError × Option Credentials :=
  match p.config.getManagementServerCredentials p.useSecret targetURL with
  | .error err => ([⟨401, err⟩], none)
  | .ok creds => ([], some creds)

def clientSymID : String := "proxyClientSymID"

def symIDMiddleware (req : HttpRequest) (vars : Vars) : Vars :=
  if req.getHeader "symid" ≠ "" then (clientSymID, req.getHeader "symid") :: vars else vars

def getSymID (vars : Vars) : Option String :=
  match vars.lookup clientSymID with
  | some symID => some symID
  | none => vars.lookup "symid"

def serveReverseProxy (p : ReverseProxy) (req : HttpRequest) (vars : Vars) (locked : Bool) :
    Reply :=
  match getSymID vars with
  | none => .error 400 "symmetrix id missing"
  | some symID =>
    match p.isAuthorized req symID with
    | (written, false) => ⟨written, none⟩
    | (written, true) =>
      match p.getProxyBySymmID symID with
      | .error err => ⟨written ++ [⟨500, err⟩], none⟩
      | .ok proxy =>
        let (modified, authorization) := p.modifyRequest proxy.url
        let written := written ++ modified
        if locked = false then ⟨written ++ [⟨504, "server busy"⟩], none⟩
        else if proxy.url.scheme ≠ "http" ∧ proxy.url.scheme ≠ "https" then
          ⟨written ++ [⟨500, "unsupported URL scheme: " ++ proxy.url.scheme⟩], none⟩
        else ⟨written, some ⟨proxy.url, req.path, authorization⟩⟩

def route (p : ReverseProxy) (req : HttpRequest) (locked : Bool) : Served :=
  if isClean req.path = false then .redirected
  else
    match matchRoute req.path req.query with
    | none => .reply (.error 404 "404 page not found")
    | some (r, vars) =>
      let vars := symIDMiddleware req vars
      match r.handler with
      | .serveReverseProxy => .reply (p.serveReverseProxy req vars locked)
      | .ifNoSymIDInvoke customHandler =>
        if (getSymID vars).isSome then .reply (p.serveReverseProxy req vars locked)
        else .passed (.ifNoSymIDInvoke customHandler)
      | handler => .passed handler

/-- `loggingMiddleware`, as far as it changes the request. -/
def loggingMiddleware (req : HttpRequest) : HttpRequest :=
  { req with path := trimSuffix req.path "/" }

/-- The handler that `GetRouter` returns: `tokenAuthMiddleware`, `loggingMiddleware`, router. -/
def serveHTTP (p : ReverseProxy) (req : HttpRequest) (locked : Bool) : Served :=
  let provided := req.getHeader "X-Proxy-Auth-Token"
  if p.authToken ≠ "" ∧ provided = "" then .reply (.error 401 "missing proxy auth token")
  else if p.authToken ≠ "" ∧ provided ≠ p.authToken then
    .reply (.error 401 "invalid proxy auth token")
  else p.route (loggingMiddleware req) locked

end ReverseProxy

end PowerMaxCsi.Proxy
