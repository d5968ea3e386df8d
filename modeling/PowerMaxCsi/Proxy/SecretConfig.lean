import PowerMaxCsi.Proxy.ConfigInvariant

/-!
# The configuration of the reverse proxy in secret mode

`ParseConfigFromSecret` of `csireverseproxy/pkg/config/config.go`.  The users of the servers behind
an array get access to it.  The port is a parameter; labels and parameters of the arrays are left
out.  `ProxyConfig.OnlyUsers` says what the passes leave alone.
-/

namespace PowerMaxCsi.Proxy

structure SecretServerConfig extends ManagementServerConfig where
  (username password : String)
deriving DecidableEq, Repr

structure ProxySecret where
  storageArrayConfig : List StorageArrayConfig
  managementServerConfig : List SecretServerConfig
deriving DecidableEq, Repr

def ProxyConfig.updateProxyCredentialsFromSecret (pc : ProxyConfig)
    (username password storageArrayIdentifier : String) : ProxyConfig :=
  pc.updateProxyCredentials ⟨username, password⟩ storageArrayIdentifier

def readServerCredentials (servers : List SecretServerConfig) (array : StorageArrayConfig)
    (pc : ProxyConfig) : ProxyConfig :=
  if array.proxyCredentialSecrets ≠ [] then
    servers.foldl (fun pc mgmtServer =>
      if array.primaryEndpoint = mgmtServer.endpoint ∨ array.backupEndpoint = mgmtServer.endpoint then
        pc.updateProxyCredentialsFromSecret mgmtServer.username mgmtServer.password
          array.storageArrayID
      else pc) pc
  else pc

def ProxyConfig.addServerUser (pc : ProxyConfig) (endpoint : URL) (array : StorageArray) :
    ProxyConfig :=
  match pc.managementServers.lookup endpoint with
  | some server =>
    pc.updateProxyCredentialsFromSecret server.username server.password array.storageArrayIdentifier
  | none => pc

def ProxyConfig.addServerUsers (pc : ProxyConfig) (arrayID : String) : ProxyConfig :=
  match pc.managedArrays.lookup arrayID with
  | some array =>
    (pc.addServerUser array.primaryEndpoint array).addServerUser array.secondaryEndpoint array
  | none => pc

section

variable (parseURL : String → Except String URL)

/-- The loop of `ParseConfigFromSecret` over the arrays; an array that is rejected is skipped. -/
def parseSecretArrays (servers : List SecretServerConfig) :
    List StorageArrayConfig → ProxyConfig × EndpointArrays → ProxyConfig × EndpointArrays
  | [], s => s
  | array :: rest, (pc, ids) =>
    match validateStorageArrayConfig parseURL array (servers.map (·.endpoint)) with
    | .error _ => parseSecretArrays servers rest (pc, ids)
    | .ok sa =>
      let pc := { pc with managedArrays := pc.managedArrays.insert array.storageArrayID sa }
      parseSecretArrays servers rest (readServerCredentials servers array pc,
        (ids.add sa.primaryEndpoint array.storageArrayID).add sa.secondaryEndpoint
          array.storageArrayID)

def parseSecretServers (ids : EndpointArrays) :
    List SecretServerConfig → ProxyConfig → ConfigProg (Except String ProxyConfig)
  | [], pc => pure (.ok pc)
  | managementServer :: rest, pc =>
    match parseURL managementServer.endpoint with
    | .error err => pure (.error err)
    | .ok mgmtEndpoint => do
      match ← readCertFile managementServer.toManagementServerConfig with
      | .error err => pure (.error err)
      | .ok certFile =>
        let server : ManagementServer :=
          { endpoint := mgmtEndpoint
            storageArrayIdentifiers := (ids.lookup mgmtEndpoint).getD []
            skipCertificateValidation := managementServer.skipCertificateValidation
            certFile := certFile
            certSecret := managementServer.certSecret
            credentials := ⟨"", ""⟩
            credentialSecret := managementServer.arrayCredentialSecret
            limits := managementServer.limits
            username := managementServer.username
            password := managementServer.password }
        parseSecretServers ids rest { pc with
          managementServers := pc.managementServers.insert mgmtEndpoint server }

def secretModeServers (servers : List SecretServerConfig) (parsed : ProxyConfig × EndpointArrays) :
    ConfigProg (Except String ProxyConfig) := do
  match ← parseSecretServers parseURL parsed.2 servers parsed.1 with
  | .error err => pure (.error err)
  | .ok pc => do
    let order ← rangeKeys pc.managedArrays.keys
    pure (.ok (order.foldl ProxyConfig.addServerUsers pc))

def parseConfigFromSecret (port : String) (proxySecret : ProxySecret) :
    ConfigProg (Except String ProxyConfig) :=
  let arrays := proxySecret.storageArrayConfig
  let servers := proxySecret.managementServerConfig
  let parsed := parseSecretArrays parseURL servers arrays (⟨port, ∅, ∅, ∅⟩, ∅)
  if parsed.1.managedArrays.entries = [] ∧ arrays ≠ [] then
    pure (.error ("no valid storage arrays configured: all " ++ toString arrays.length ++
      " configured array(s) failed validation"))
  else secretModeServers parseURL servers parsed

end

/-- Arrays and management servers are the same, so only the users may differ. -/
def ProxyConfig.OnlyUsers (pc pc' : ProxyConfig) : Prop :=
  pc'.managedArrays = pc.managedArrays ∧ pc'.managementServers = pc.managementServers

namespace ProxyConfig.OnlyUsers

variable {pc pc' pc'' : ProxyConfig}

theorem refl (pc : ProxyConfig) : pc.OnlyUsers pc := ⟨rfl, rfl⟩

theorem trans (h : pc.OnlyUsers pc') (h' : pc'.OnlyUsers pc'') : pc.OnlyUsers pc'' :=
  ⟨h'.1.trans h.1, h'.2.trans h.2⟩

theorem foldl {α : Type} {f : ProxyConfig → α → ProxyConfig}
    (hf : ∀ (pc : ProxyConfig) x, pc.OnlyUsers (f pc x)) (xs : List α) (pc : ProxyConfig) :
    pc.OnlyUsers (xs.foldl f pc) := by
  induction xs generalizing pc with
  | nil => exact refl pc
  | cons x xs ih => exact (hf pc x).trans (ih (f pc x))

end ProxyConfig.OnlyUsers

open ProxyConfig (OnlyUsers)

section

variable (pc : ProxyConfig)

theorem onlyUsers_updateProxyCredentialsFromSecret (username password arrayID : String) :
    pc.OnlyUsers (pc.updateProxyCredentialsFromSecret username password arrayID) :=
  ⟨managedArrays_updateProxyCredentials, managementServers_updateProxyCredentials⟩

theorem onlyUsers_readServerCredentials (servers : List SecretServerConfig)
    (array : StorageArrayConfig) : pc.OnlyUsers (readServerCredentials servers array pc) := by
  unfold readServerCredentials
  split
  · refine OnlyUsers.foldl (fun pc server => ?_) servers pc
    split
    · exact onlyUsers_updateProxyCredentialsFromSecret pc _ _ _
    · exact .refl pc
  · exact .refl pc

theorem onlyUsers_addServerUser (endpoint : URL) (array : StorageArray) :
    pc.OnlyUsers (pc.addServerUser endpoint array) := by
  unfold ProxyConfig.addServerUser
  split
  · exact onlyUsers_updateProxyCredentialsFromSecret pc _ _ _
  · exact .refl pc

theorem onlyUsers_addServerUsers (arrayID : String) : pc.OnlyUsers (pc.addServerUsers arrayID) := by
  unfold ProxyConfig.addServerUsers
  split
  · exact (onlyUsers_addServerUser pc _ _).trans (onlyUsers_addServerUser _ _ _)
  · exact .refl pc

end

end PowerMaxCsi.Proxy
