import PowerMaxCsi.Proxy.ConfigInvariant

/-!
# Secrets that change

`Server.EventHandler` of `csireverseproxy/main.go`, in ConfigMap mode.  `UpdateCreds` writes the
credentials of servers as well, but it is called only for the proxy secret of an array.
-/

namespace PowerMaxCsi.Proxy

open Prog List Option AList ProxyConfig

/-- A Kubernetes secret.  The name of an object is not empty. -/
structure Secret where
  name : String
  data : GoMap String String
  named : name ≠ ""

def getCredentialFromSecret (secret : Secret) : Except String Credentials :=
  match secret.data.lookup "username" with
  | some username => .ok ⟨username, (secret.data.lookup "password").getD ""⟩
  | none => .error "username not found in secret data"

structure Server where
  config : ProxyConfig
  proxy : ReverseProxy

/-- The certificates in `EventHandler`; `none` if the event is ignored. -/
def handleCerts (conf : ProxyConfig) (secret : Secret) (certFile : Except String String) :
    Option (ProxyConfig × Bool) :=
  if conf.isSecretConfiguredForCerts secret.name then
    match certFile with
    | .error _ => none
    | .ok certFileName => some (conf.updateCerts secret.name certFileName)
  else some (conf, false)

/-- The credentials in `EventHandler`; `none` if the event is ignored. -/
def handleCreds (conf : ProxyConfig) (useSecret : Bool) (secret : Secret) (order : List String) :
    Except Crash (Option (ProxyConfig × Bool)) :=
  if conf.isSecretConfiguredForArrays useSecret secret.name then
    match getCredentialFromSecret secret with
    | .error _ => .ok none
    | .ok creds =>
      match conf.updateCreds useSecret secret.name creds order with
      | .error crash => .error crash
      | .ok updated => .ok (some updated)
  else .ok (some (conf, false))

def Server.eventHandler (s : Server) (secret : Secret) (certFile : Except String String)
    (order : List String) : Except Crash Server :=
  if s.proxy.useSecret then .ok s
  else
    match handleCerts s.config secret certFile with
    | none => .ok s
    | some (conf, certsUpdated) =>
      match handleCreds conf s.proxy.useSecret secret order with
      | .error crash => .error crash
      | .ok none => .ok s
      | .ok (some (conf, credsUpdated)) =>
        if certsUpdated || credsUpdated then
          match s.proxy.updateConfig conf with
          | .error crash => .error crash
          | .ok proxy => .ok ⟨conf, proxy⟩
        else .ok s

/-! ## The arrays in `UpdateCreds` -/

namespace ProxyConfig

variable {pc : ProxyConfig} {secretName : String} {creds : Credentials} {isUpdated : Bool}

/-- The array has the secret with other credentials than `creds`, for the user. -/
def Stale (pc : ProxyConfig) (secretName : String) (creds : Credentials) (arrayID user : String) :
    Prop :=
  ∃ array, pc.managedArrays.lookup arrayID = some array ∧
    (array.proxySecret secretName).credentialSecret = secretName ∧
    (array.proxySecret secretName).credentials ≠ creds ∧
    (array.proxySecret secretName).credentials.userName = user

variable {user : String} {order : List String}

theorem Stale.user_eq {arrayID user' : String} (h : pc.Stale secretName creds arrayID user)
    (h' : pc.Stale secretName creds arrayID user') : user = user' := by
  obtain ⟨array, hl, -, -, rfl⟩ := h
  obtain ⟨array', hl', -, -, rfl⟩ := h'
  rw [hl] at hl'
  cases hl'
  rfl

structure Follows (pc pc' : ProxyConfig) (arrayID : String) : Prop where
  servers : pc'.managementServers = pc.managementServers
  others : ∀ id, id ≠ arrayID → pc'.managedArrays.lookup id = pc.managedArrays.lookup id
  managed : ∀ id ∈ pc.managedArrays, id ∈ pc'.managedArrays

theorem Follows.stale_iff {pc' : ProxyConfig} {arrayID id : String}
    (h : pc.Follows pc' arrayID) (hid : id ≠ arrayID) :
    pc'.Stale secretName creds id user ↔ pc.Stale secretName creds id user := by
  unfold Stale
  rw [h.others id hid]

theorem updateArrayCreds_cases (pc : ProxyConfig) (secretName : String) (creds : Credentials)
    (arrayID : String) (isUpdated : Bool) :
    ((∀ user, ¬ pc.Stale secretName creds arrayID user) ∧
      updateArrayCreds secretName creds arrayID (pc, isUpdated) = .ok (pc, isUpdated)) ∨
    ∃ user, pc.Stale secretName creds arrayID user ∧
      (user ∉ pc.proxyCredentials ∧
        updateArrayCreds secretName creds arrayID (pc, isUpdated) = .error .nilDereference ∨
      user ∈ pc.proxyCredentials ∧ ∃ pc',
        updateArrayCreds secretName creds arrayID (pc, isUpdated) = .ok (pc', true) ∧
        pc.Follows pc' arrayID ∧
        ∀ user', user' ∈ pc'.proxyCredentials ↔
          user' = creds.userName ∨ user' ≠ user ∧ user' ∈ pc.proxyCredentials) := by
  by_cases hs : ∃ user, pc.Stale secretName creds arrayID user
  · obtain ⟨user, hs⟩ := hs
    refine .inr ⟨user, hs, ?_⟩
    obtain ⟨array, hl, hse, hne, rfl⟩ := hs
    simp only [updateArrayCreds, hl]
    rw [if_pos hse, if_pos hne]
    by_cases hk : (array.proxySecret secretName).credentials.userName ∈ pc.proxyCredentials
    · obtain ⟨proxyUser, hp⟩ :=
        isSome_iff_exists.mp (lookup_isSome.mpr hk)
      rw [hp]
      refine .inr ⟨hk, _, rfl, ⟨rfl, ?_, ?_⟩, ?_⟩
      · exact fun id hid => lookup_insert_ne hid
      · exact fun id hid => (mem_insert _).mpr (.inr hid)
      · intro user'
        rw [mem_insert, mem_erase]
    · rw [lookup_eq_none.mpr hk]
      exact .inl ⟨hk, rfl⟩
  · refine .inl ⟨not_exists.mp hs, ?_⟩
    simp only [updateArrayCreds]
    split
    · rfl
    case h_2 array hl =>
      split
      case isTrue hse =>
        rw [if_neg]
        intro hne
        exact hs ⟨_, array, hl, hse, hne, rfl⟩
      case isFalse => rfl

/-- Two arrays that are visited are stale for the same user, who is not the new one. -/
def Clash (pc : ProxyConfig) (secretName : String) (creds : Credentials) (order : List String) :
    Prop :=
  ∃ id ∈ order, ∃ id' ∈ order, id ≠ id' ∧ ∃ user, user ≠ creds.userName ∧
    pc.Stale secretName creds id user ∧ pc.Stale secretName creds id' user

theorem updateArraysCreds_crashes {id : String} (hn : order.Nodup) (hid : id ∈ order)
    (hs : pc.Stale secretName creds id user) (hus : user ≠ creds.userName)
    (hu : user ∉ pc.proxyCredentials ∨
      ∃ id' ∈ order, id ≠ id' ∧ pc.Stale secretName creds id' user) :
    updateArraysCreds secretName creds order (pc, isUpdated) = .error .nilDereference := by
  induction order generalizing pc isUpdated id with
  | nil => cases hid
  | cons arrayID order ih =>
    obtain ⟨hnew, hr⟩ := nodup_cons.mp hn
    have hl : ∀ {id}, id ∈ arrayID :: order → id ≠ arrayID → id ∈ order := fun hid hne =>
      (mem_cons.mp hid).resolve_left hne
    unfold updateArraysCreds
    rcases updateArrayCreds_cases pc secretName creds arrayID isUpdated with
      ⟨hfr, hst⟩ | ⟨user₀, hs₀, ⟨-, hst⟩ | ⟨hk, pc', hst, hf, hmem⟩⟩
    · have hne : ∀ {id}, pc.Stale secretName creds id user → id ≠ arrayID := by
        rintro _ hs rfl
        exact hfr user hs
      rw [hst]
      refine ih hr (hl hid (hne hs)) hs (hu.imp_right ?_)
      exact fun ⟨id', hid', hd, hs'⟩ => ⟨id', hl hid' (hne hs'), hd, hs'⟩
    · rw [hst]
    rw [hst]
    by_cases heq : user₀ = user
    · -- the user is gone, and one of the arrays that have it is left
      subst heq
      have hg : user₀ ∉ pc'.proxyCredentials := by simp [hmem, hus]
      by_cases hia : id = arrayID
      · rcases hu with hu | ⟨id', hid', hd, hs'⟩
        · exact absurd hk hu
        · have hne : id' ≠ arrayID := fun he => hd (hia.trans he.symm)
          exact ih hr (hl hid' hne) ((hf.stale_iff hne).mpr hs') (.inl hg)
      · exact ih hr (hl hid hia) ((hf.stale_iff hia).mpr hs) (.inl hg)
    · have hne : ∀ {id}, pc.Stale secretName creds id user → id ≠ arrayID := by
        rintro _ hs rfl
        exact heq (hs₀.user_eq hs)
      refine ih hr (hl hid (hne hs)) ((hf.stale_iff (hne hs)).mpr hs) (hu.imp ?_ ?_)
      · exact fun hu => by simp [hmem, hus, hu]
      · exact fun ⟨id', hid', hd, hs'⟩ =>
          ⟨id', hl hid' (hne hs'), hd, (hf.stale_iff (hne hs')).mpr hs'⟩

theorem updateArraysCreds_ok (hn : order.Nodup) (hc : ¬ pc.Clash secretName creds order)
    (hk : ∀ id ∈ order, ∀ user, pc.Stale secretName creds id user →
      user ∈ pc.proxyCredentials) :
    ∃ pc' isUpdated', updateArraysCreds secretName creds order (pc, isUpdated) =
        .ok (pc', isUpdated') ∧
      pc'.managementServers = pc.managementServers ∧
      (∀ id ∈ pc.managedArrays, id ∈ pc'.managedArrays) ∧
      (isUpdated = true → isUpdated' = true) := by
  induction order generalizing pc isUpdated with
  | nil => exact ⟨pc, isUpdated, rfl, rfl, fun _ => id, id⟩
  | cons arrayID order ih =>
    obtain ⟨hnew, hr⟩ := nodup_cons.mp hn
    have ho : ∀ later ∈ order, later ≠ arrayID := fun later hl heq =>
      hnew (heq ▸ hl)
    unfold updateArraysCreds
    rcases updateArrayCreds_cases pc secretName creds arrayID isUpdated with
      ⟨-, hst⟩ | ⟨user, hs, ⟨hu, -⟩ | ⟨-, pc', hst, hf, hmem⟩⟩
    · rw [hst]
      refine ih hr ?_ fun id hid => hk id (mem_cons_of_mem _ hid)
      rintro ⟨id, hid, id', hid', hr⟩
      exact hc ⟨id, mem_cons_of_mem _ hid, id', mem_cons_of_mem _ hid', hr⟩
    · exact absurd (hk arrayID mem_cons_self user hs) hu
    · have hc' : ¬ pc'.Clash secretName creds order := by
        rintro ⟨id, hid, id', hid', hne, user', hu', hs₁, hs₂⟩
        exact hc ⟨id, mem_cons_of_mem _ hid, id', mem_cons_of_mem _ hid', hne,
          user', hu', (hf.stale_iff (ho id hid)).mp hs₁,
          (hf.stale_iff (ho id' hid')).mp hs₂⟩
      have hk' : ∀ id ∈ order, ∀ user', pc'.Stale secretName creds id user' →
          user' ∈ pc'.proxyCredentials := by
        intro id hid user' hs'
        have hs₀ := (hf.stale_iff (ho id hid)).mp hs'
        rw [hmem]
        by_cases heq : user' = user
        · left
          by_contra hne
          exact hc ⟨arrayID, mem_cons_self, id, mem_cons_of_mem _ hid,
            (ho id hid).symm, user, heq ▸ hne, hs, heq ▸ hs₀⟩
        · exact .inr ⟨heq, hk id (mem_cons_of_mem _ hid) user' hs₀⟩
      obtain ⟨pc'', isUpdated', hlo, hse, hm, hfl⟩ := ih hr hc' hk'
      rw [hst]
      exact ⟨pc'', isUpdated', hlo, hse.trans hf.servers,
        fun id hid => hm id (hf.managed id hid), fun _ => hfl rfl⟩

end ProxyConfig

section

variable {pc conf : ProxyConfig} {secret : Secret} {creds : Credentials}
  {certFile : Except String String} {order : List String} {s : Server}

def CertWritten (pc : ProxyConfig) (secret : Secret) (certFile : Except String String) : Prop :=
  pc.isSecretConfiguredForCerts secret.name = true → ∃ certFileName, certFile = .ok certFileName

def ProxyConfig.HasSecret (pc : ProxyConfig) (secretName arrayID user : String) : Prop :=
  ∃ array stored, pc.managedArrays.lookup arrayID = some array ∧
    array.proxyCredentialSecrets.lookup secretName = some stored ∧
    stored.credentials.userName = user

/-- Two arrays have the secret for the same user, and the secret now is for another one. -/
def ProxyConfig.SharesOldUser (pc : ProxyConfig) (secretName : String) (creds : Credentials) :
    Prop :=
  ∃ id id' user, id ≠ id' ∧ user ≠ creds.userName ∧ pc.HasSecret secretName id user ∧
    pc.HasSecret secretName id' user

/-- The credentials that the server and its proxy have for an endpoint. -/
def Server.Gives (s : Server) (endpoint : URL) (creds : Credentials) : Prop :=
  s.config.getManagementServerCredentials s.proxy.useSecret endpoint = .ok creds ∧
    s.proxy.config.getManagementServerCredentials s.proxy.useSecret endpoint = .ok creds

structure SameButCerts (pc conf : ProxyConfig) : Prop where
  arrays : conf.managedArrays = pc.managedArrays
  users : conf.proxyCredentials = pc.proxyCredentials
  servers : ∀ url, conf.managementServers.lookup url = pc.managementServers.lookup url ∨
    ∃ server certFile, pc.managementServers.lookup url = some server ∧
      conf.managementServers.lookup url = some { server with certFile := certFile }

variable (h : SameButCerts pc conf)

include h

theorem SameButCerts.lookup_exists {url : URL} {server : ManagementServer}
    (hs : pc.managementServers.lookup url = some server) :
    ∃ certFile, conf.managementServers.lookup url = some { server with certFile := certFile } := by
  rcases h.servers url with hsa | ⟨server', certFile, hs', hc⟩
  · exact ⟨server.certFile, hsa.trans hs⟩
  · rw [hs] at hs'
    cases hs'
    exact ⟨certFile, hc⟩

theorem SameButCerts.of_lookup {url : URL} {server : ManagementServer}
    (hs : conf.managementServers.lookup url = some server) :
    ∃ server', pc.managementServers.lookup url = some server' ∧
      server.storageArrayIdentifiers = server'.storageArrayIdentifiers := by
  rcases h.servers url with hsa | ⟨server', certFile, hs', hc⟩
  · exact ⟨server, hsa.symm.trans hs, rfl⟩
  · rw [hs] at hc
    cases hc
    exact ⟨server', hs', rfl⟩

theorem SameButCerts.arraysManaged (hpc : pc.ArraysManaged) : conf.ArraysManaged := by
  intro url server hs arrayID hmem
  obtain ⟨server', hs', hi⟩ := h.of_lookup hs
  rw [h.arrays]
  exact hpc url server' hs' arrayID (hi ▸ hmem)

omit h

theorem handleCerts_cases (pc : ProxyConfig) (secret : Secret) (certFile : Except String String) :
    (¬ CertWritten pc secret certFile ∧ handleCerts pc secret certFile = none) ∨
    (CertWritten pc secret certFile ∧ ∃ conf certsUpdated,
      handleCerts pc secret certFile = some (conf, certsUpdated) ∧ SameButCerts pc conf) := by
  unfold handleCerts CertWritten
  split
  case isTrue hc =>
    cases certFile with
    | error err => exact .inl ⟨by simp [hc], rfl⟩
    | ok certFileName =>
      refine .inr ⟨fun _ => ⟨certFileName, rfl⟩, _, _, rfl, rfl, rfl, fun url => ?_⟩
      simp only [GoMap.lookup_mapValues]
      cases hs : pc.managementServers.lookup url with
      | none => exact .inl rfl
      | some server =>
        by_cases hce : server.certSecret = secret.name
        · exact .inr ⟨server, certFileName, rfl, by simp [hce]⟩
        · exact .inl (by simp [hce])
  case isFalse hc =>
    exact .inr ⟨fun h => absurd h hc, pc, false, rfl, rfl, rfl, fun url => .inl rfl⟩

theorem proxySecret_eq {array : StorageArray} {stored : ProxyCredentialSecret} {secretName : String}
    (hs : array.proxyCredentialSecrets.lookup secretName = some stored) :
    array.proxySecret secretName = stored := by
  rw [StorageArray.proxySecret, hs, getD_some]

theorem lookup_of_credentialSecret {array : StorageArray}
    (h : (array.proxySecret secret.name).credentialSecret = secret.name) :
    array.proxyCredentialSecrets.lookup secret.name = some (array.proxySecret secret.name) := by
  cases hs : array.proxyCredentialSecrets.lookup secret.name with
  | none =>
    rw [StorageArray.proxySecret, hs] at h
    exact absurd h.symm secret.named
  | some stored => rw [proxySecret_eq hs]

theorem isSecretConfiguredForArrays_iff (hpc : pc.WellFormed) :
    pc.isSecretConfiguredForArrays false secret.name = true ↔
      ∃ id user, pc.HasSecret secret.name id user := by
  simp only [isSecretConfiguredForArrays, Bool.not_false, Bool.true_and,
    List.any_eq_true, decide_eq_true_eq]
  constructor
  · rintro ⟨⟨id, array⟩, he, hse⟩
    exact ⟨id, _, array, _, mem_lookup_iff.mpr he, lookup_of_credentialSecret hse, rfl⟩
  · rintro ⟨id, user, array, stored, ha, hs, -⟩
    refine ⟨⟨id, array⟩, AList.mem_lookup_iff.mp ha, ?_⟩
    rw [proxySecret_eq hs]
    exact hpc.secretsNamed id array ha _ stored hs

variable {id user : String}

theorem hasSecret_of_stale (h : pc.Stale secret.name creds id user) :
    pc.HasSecret secret.name id user := by
  obtain ⟨array, ha, hs, -, hu⟩ := h
  exact ⟨array, _, ha, lookup_of_credentialSecret hs, hu⟩

theorem stale_of_hasSecret (hpc : pc.WellFormed)
    (h : pc.HasSecret secret.name id user) (hu : user ≠ creds.userName) :
    pc.Stale secret.name creds id user := by
  obtain ⟨array, stored, ha, hs, rfl⟩ := h
  refine ⟨array, ha, ?_⟩
  rw [proxySecret_eq hs]
  refine ⟨hpc.secretsNamed id array ha _ stored hs, ?_, rfl⟩
  rintro rfl
  exact hu rfl

theorem clash_iff (hpc : pc.WellFormed) (ho : pc.managedArrays.Range order) :
    pc.Clash secret.name creds order ↔ pc.SharesOldUser secret.name creds := by
  constructor
  · rintro ⟨id, -, id', -, hne, user, hu, hs, hs'⟩
    exact ⟨id, id', user, hne, hu, hasSecret_of_stale hs, hasSecret_of_stale hs'⟩
  · rintro ⟨id, id', user, hne, hu, hh, hh'⟩
    have hmem : ∀ id, pc.HasSecret secret.name id user → id ∈ order := by
      rintro id ⟨array, stored, ha, -⟩
      exact ho.mem_iff.mpr ⟨array, ha⟩
    exact ⟨id, hmem id hh, id', hmem id' hh', hne, user, hu,
      stale_of_hasSecret hpc hh hu, stale_of_hasSecret hpc hh' hu⟩

theorem mem_proxyCredentials_of_stale (hpc : pc.WellFormed)
    (h : pc.Stale secret.name creds id user) : user ∈ pc.proxyCredentials := by
  obtain ⟨array, stored, ha, hs, rfl⟩ := hasSecret_of_stale h
  exact hpc.usersKnown id array ha _ stored hs

theorem getManagementServerCredentials_iff {endpoint : URL} :
    pc.getManagementServerCredentials false endpoint = .ok creds ↔
      ∃ server, pc.managementServers.lookup endpoint = some server ∧
        server.credentials = creds := by
  unfold getManagementServerCredentials
  cases pc.managementServers.lookup endpoint with
  | none => simp
  | some server => simp

/-- **`UpdateCreds`** crashes if arrays share the secret for an old user; else the servers are
updated. -/
theorem updateCreds_spec (secret : Secret) (creds : Credentials) (hpc : pc.WellFormed)
    (hc : SameButCerts pc conf) (ho : pc.managedArrays.Range order) :
    (pc.SharesOldUser secret.name creds ∧
      conf.updateCreds false secret.name creds order = .error .nilDereference) ∨
    (¬ pc.SharesOldUser secret.name creds ∧ ∃ conf' credsUpdated,
      conf.updateCreds false secret.name creds order = .ok (conf', credsUpdated) ∧
      conf'.ArraysManaged ∧
      ∀ endpoint server, pc.managementServers.lookup endpoint = some server →
        server.credentialSecret = secret.name →
          conf'.getManagementServerCredentials false endpoint = .ok creds ∧
          (server.credentials ≠ creds → credsUpdated = true)) := by
  -- the loop over the arrays starts where the servers are updated
  let servers := conf.managementServers.mapValues (updateServerCreds false secret.name creds)
  let start : ProxyConfig := { conf with managementServers := servers }
  have ha : start.managedArrays = pc.managedArrays := hc.arrays
  have hu : start.proxyCredentials = pc.proxyCredentials := hc.users
  have hst : ∀ id user, start.Stale secret.name creds id user ↔
      pc.Stale secret.name creds id user := by
    intro id user
    unfold Stale
    rw [ha]
  have hcl : start.Clash secret.name creds order ↔ pc.SharesOldUser secret.name creds := by
    rw [← clash_iff hpc ho]
    unfold Clash
    simp [hst]
  by_cases hsh : pc.SharesOldUser secret.name creds
  · obtain ⟨id, hid, id', hid', hne, user, hus, hs, hs'⟩ := hcl.mpr hsh
    exact .inl ⟨hsh, updateArraysCreds_crashes ho.nodup hid hs hus (.inr ⟨id', hid', hne, hs'⟩)⟩
  · have hk : ∀ id ∈ order, ∀ user, start.Stale secret.name creds id user →
        user ∈ start.proxyCredentials := by
      intro id _ user h
      rw [hu]
      exact mem_proxyCredentials_of_stale hpc ((hst id user).mp h)
    obtain ⟨conf', credsUpdated, hlo, hse, hm, hf⟩ :=
      updateArraysCreds_ok ho.nodup (fun h => hsh (hcl.mp h)) hk
    refine .inr ⟨hsh, conf', credsUpdated, hlo, ?_, fun endpoint server hs hsec => ?_⟩
    · intro url server hs arrayID hmem
      rw [hse, GoMap.lookup_mapValues] at hs
      obtain ⟨server', hs', rfl⟩ := map_eq_some_iff.mp hs
      refine hm arrayID (hc.arraysManaged hpc.arraysManaged url server' hs' arrayID ?_)
      unfold updateServerCreds at hmem
      split at hmem
      · exact hmem
      · split at hmem
        · exact hmem
        · exact hmem
    · obtain ⟨certFile, hl⟩ := hc.lookup_exists hs
      constructor
      · rw [getManagementServerCredentials_iff, hse]
        simp only [start, servers, GoMap.lookup_mapValues, hl]
        simp [updateServerCreds, hsec]
      · intro hne
        refine hf ?_
        rw [List.any_eq_true]
        exact ⟨_, mem_lookup_iff.mp hl, by simp [hsec, hne]⟩

structure Server.Runs (s : Server) (pc : ProxyConfig) : Prop where
  mode : s.proxy.useSecret = false
  config : s.config = pc
  proxy : s.proxy.config = pc

theorem Server.Runs.gives_iff (hs : s.Runs pc) {endpoint : URL} :
    s.Gives endpoint creds ↔ ∃ server, pc.managementServers.lookup endpoint = some server ∧
      server.credentials = creds := by
  rw [Server.Gives, hs.mode, hs.config, hs.proxy, and_self, getManagementServerCredentials_iff]

theorem updateServer_ok (hs : s.Runs pc) (hpc : pc.ArraysManaged) (hco : conf.ArraysManaged) :
    ∃ proxy, s.proxy.updateConfig conf = .ok proxy ∧ Server.Runs ⟨conf, proxy⟩ conf := by
  rw [← hs.proxy] at hpc
  obtain ⟨proxy, hu, hc, hm⟩ := updateConfig_ok hpc hco
  exact ⟨proxy, hu, hm.trans hs.mode, rfl, hc⟩

/-- **`EventHandler`.**  It crashes, or it writes the credentials, or it leaves them alone. -/
theorem eventHandler_cases (certFile : Except String String) (hpc : pc.WellFormed) (hs : s.Runs pc)
    (hcr : getCredentialFromSecret secret = .ok creds) (ho : pc.managedArrays.Range order) :
    (CertWritten pc secret certFile ∧ pc.SharesOldUser secret.name creds ∧
      s.eventHandler secret certFile order = .error .nilDereference) ∨
    (CertWritten pc secret certFile ∧ (∃ id user, pc.HasSecret secret.name id user) ∧
      ¬ pc.SharesOldUser secret.name creds ∧
      ∃ s', s.eventHandler secret certFile order = .ok s' ∧
        ∀ endpoint server, pc.managementServers.lookup endpoint = some server →
          server.credentialSecret = secret.name → s'.Gives endpoint creds) ∨
    (¬ (CertWritten pc secret certFile ∧ ∃ id user, pc.HasSecret secret.name id user) ∧
      ∃ s', s.eventHandler secret certFile order = .ok s' ∧
        ∀ endpoint server, pc.managementServers.lookup endpoint = some server →
          s'.Gives endpoint server.credentials) := by
  have hsa : ∀ endpoint server, pc.managementServers.lookup endpoint = some server →
      s.Gives endpoint server.credentials := fun endpoint server hse =>
    hs.gives_iff.mpr ⟨server, hse, rfl⟩
  unfold Server.eventHandler
  rw [hs.mode, hs.config, if_neg Bool.false_ne_true]
  rcases handleCerts_cases pc secret certFile with
    ⟨hc, hh⟩ | ⟨hc, conf, certsUpdated, hh, hco⟩
  · rw [hh]
    exact .inr (.inr ⟨fun h => hc h.1, s, rfl, hsa⟩)
  simp only [hh]
  have hm := hco.arraysManaged hpc.arraysManaged
  have hsha : conf.isSecretConfiguredForArrays false secret.name = true ↔
      ∃ id user, pc.HasSecret secret.name id user := by
    rw [← isSecretConfiguredForArrays_iff hpc, isSecretConfiguredForArrays,
      hco.arrays, isSecretConfiguredForArrays]
  unfold handleCreds
  by_cases hha : ∃ id user, pc.HasSecret secret.name id user
  · rw [if_pos (hsha.mpr hha), hcr]
    rcases updateCreds_spec secret creds hpc hco ho with
      ⟨hsh, hu⟩ | ⟨hsh, conf', credsUpdated, hu, hm', hg⟩
    · simp only [hu]
      exact .inl ⟨hc, hsh, trivial⟩
    · simp only [hu]
      refine .inr (.inl ⟨hc, hha, hsh, ?_⟩)
      split
      case isTrue =>
        obtain ⟨proxy, hp, hr⟩ := updateServer_ok hs hpc.arraysManaged hm'
        rw [hp]
        refine ⟨_, rfl, fun endpoint server hse hsec => hr.gives_iff.mpr ?_⟩
        exact getManagementServerCredentials_iff.mp (hg endpoint server hse hsec).1
      case isFalse hun =>
        refine ⟨s, rfl, fun endpoint server hse hsec => ?_⟩
        -- nothing was updated, so the server has the credentials already
        have hsam : server.credentials = creds := by
          by_contra hne
          refine hun ?_
          rw [(hg endpoint server hse hsec).2 hne, Bool.or_true]
        exact hsam ▸ hsa endpoint server hse
  · rw [if_neg fun h => hha (hsha.mp h)]
    refine .inr (.inr ⟨fun h => hha h.2, ?_⟩)
    simp only [Bool.or_false]
    split
    case isTrue =>
      obtain ⟨proxy, hp, hr⟩ := updateServer_ok hs hpc.arraysManaged hm
      rw [hp]
      refine ⟨_, rfl, fun endpoint server hse => hr.gives_iff.mpr ?_⟩
      obtain ⟨certFile', hl⟩ := hco.lookup_exists hse
      exact ⟨_, hl, rfl⟩
    case isFalse => exact ⟨s, rfl, hsa⟩

/-- After the event, every management server that has the secret has its credentials. -/
def ServersUpdated (s : Server) (pc : ProxyConfig) (secret : Secret) (creds : Credentials)
    (certFile : Except String String) (order : List String) : Prop :=
  ∀ endpoint server, pc.managementServers.lookup endpoint = some server →
    server.credentialSecret = secret.name →
      ∃ s', s.eventHandler secret certFile order = .ok s' ∧ s'.Gives endpoint creds

/-- **Secret events.**  The management servers have the credentials of the secret afterwards if and
only if none has the secret; or an array has it, no two for the same old user, and a certificate can
be written; or they have them already, without a crash. -/
theorem serversUpdated_iff (parseURL : String → Except String URL) (configMap : ProxyConfigMap)
    (pc : ProxyConfig)
    (hp : CanReturn configAnswers () (parseConfig parseURL configMap) () (.ok pc))
    (s : Server) (hs : s.Runs pc) (secret : Secret) (creds : Credentials)
    (hcr : getCredentialFromSecret secret = .ok creds) (certFile : Except String String)
    (order : List String) (ho : pc.managedArrays.Range order) :
    ServersUpdated s pc secret creds certFile order ↔
      (∀ endpoint server, pc.managementServers.lookup endpoint = some server →
        server.credentialSecret ≠ secret.name) ∨
      ((∃ id user, pc.HasSecret secret.name id user) ∧ ¬ pc.SharesOldUser secret.name creds ∧
        CertWritten pc secret certFile) ∨
      ((∀ endpoint server, pc.managementServers.lookup endpoint = some server →
        server.credentialSecret = secret.name → server.credentials = creds) ∧
        ¬ (pc.SharesOldUser secret.name creds ∧ CertWritten pc secret certFile)) := by
  have hpc : pc.WellFormed := ((parseConfig_spec configMap).canReturn hp pc rfl).1
  rcases eventHandler_cases certFile hpc hs hcr ho with
    ⟨hc, hsh, hcra⟩ | ⟨hc, hh, hsh, s', hok, hg⟩ | ⟨hl, s', hok, hsa⟩
  · constructor
    · intro hu
      left
      intro endpoint server hse hsec
      obtain ⟨s', hok, -⟩ := hu endpoint server hse hsec
      rw [hcra] at hok
      cases hok
    · rintro (hn | ⟨-, hno, -⟩ | ⟨-, hno⟩)
      · exact fun endpoint server hse hsec => absurd hsec (hn endpoint server hse)
      · exact absurd hsh hno
      · exact absurd ⟨hsh, hc⟩ hno
  · refine iff_of_true (fun endpoint server hse hsec => ?_) (.inr (.inl ⟨hh, hsh, hc⟩))
    exact ⟨s', hok, hg endpoint server hse hsec⟩
  · constructor
    · intro hu
      right
      right
      refine ⟨fun endpoint server hse hsec => ?_, fun ⟨hsh, hc⟩ => ?_⟩
      · obtain ⟨s'', hok', hg⟩ := hu endpoint server hse hsec
        rw [hok] at hok'
        cases hok'
        exact Except.ok.inj ((hsa endpoint server hse).1.symm.trans hg.1)
      · obtain ⟨id, -, user, -, -, hh, -⟩ := hsh
        exact hl ⟨hc, id, user, hh⟩
    · rintro (hn | ⟨hh, -, hc⟩ | ⟨ha, -⟩)
      · exact fun endpoint server hse hsec => absurd hsec (hn endpoint server hse)
      · exact absurd ⟨hc, hh⟩ hl
      · intro endpoint server hse hsec
        refine ⟨s', hok, ?_⟩
        rw [← ha endpoint server hse hsec]
        exact hsa endpoint server hse

end

/-! ## A secret of a server only -/

namespace ServerSecret

def endpoint : URL := ⟨"https", "primary-1.unisphe.re:8443", ""⟩

def parseURL (_ : String) : Except String URL := .ok endpoint

def configMap (proxySecret : String) : ProxyConfigMap where
  port := "2222"
  config := some
    { storageArrayConfig :=
        [⟨"000120000548", "https://primary-1.unisphe.re:8443", "", [proxySecret]⟩]
      managementServerConfig :=
        [⟨"https://primary-1.unisphe.re:8443", "unisphere-secret-1", true, "", ⟨0, 0, 0, 0⟩⟩] }

def config (proxySecret : String) : ProxyConfig where
  port := "2222"
  managedArrays := AList.singleton "000120000548"
    ⟨"000120000548", endpoint, .zero, AList.singleton proxySecret ⟨⟨"test", "test"⟩, proxySecret⟩⟩
  managementServers := AList.singleton endpoint
    ⟨endpoint, ["000120000548"], ⟨"test", "test"⟩, "unisphere-secret-1", true, "", "",
      ⟨0, 0, 0, 0⟩, "", ""⟩
  proxyCredentials := AList.singleton "test" ⟨["000120000548"], ⟨"test", "test"⟩⟩

theorem credentials_read (secretName : String) (creds : Credentials) :
    configAnswers () (.getCredentialsFromSecretName secretName) (.ok creds) () := trivial

theorem keys_visited (keys : List String) : configAnswers () (.range keys) keys () := .refl keys

theorem configMap_parses (proxySecret : String) :
    CanReturn configAnswers () (parseConfig parseURL (configMap proxySecret)) ()
      (.ok (config proxySecret)) := by
  simp only [parseConfig, configMap, map_cons, map_nil, parseStorageArrays, pure_eq, bind_eq,
    ask_bind, rangeKeys]
  refine canReturn_call (credentials_read _ ⟨"test", "test"⟩) ?_
  refine canReturn_call (keys_visited _) ?_
  refine canReturn_call (credentials_read _ ⟨"test", "test"⟩) ?_
  simp only [insert_empty, keys_singleton, foldl_cons, StorageArray.proxySecret,
    GoMap.lookup_singleton]
  exact canReturn_ret _

def secret : Secret where
  name := "unisphere-secret-1"
  data := (AList.singleton "username" "test").insert "password" "changed"
  named := by decide

def server (proxySecret : String) : Server :=
  ⟨config proxySecret, ⟨false, config proxySecret, ∅, ""⟩⟩

theorem server_runs (proxySecret : String) : (server proxySecret).Runs (config proxySecret) :=
  ⟨rfl, rfl, rfl⟩

theorem config_range (proxySecret : String) :
    (config proxySecret).managedArrays.Range ["000120000548"] := .refl _

/-- The management server keeps the old password if only it has the secret. -/
theorem unshared_not_updated :
    CanReturn configAnswers () (parseConfig parseURL (configMap "proxy-secret-1")) ()
        (.ok (config "proxy-secret-1")) ∧
      getCredentialFromSecret secret = .ok ⟨"test", "changed"⟩ ∧
      ¬ ServersUpdated (server "proxy-secret-1") (config "proxy-secret-1") secret
        ⟨"test", "changed"⟩ (.ok "") ["000120000548"] := by
  refine ⟨configMap_parses _, rfl, fun hu => ?_⟩
  obtain ⟨s', hok, hg, -⟩ := hu endpoint _ (GoMap.lookup_singleton _ _) rfl
  cases hok
  revert hg
  decide

/-- It gets the new password if the array has the secret as well. -/
theorem shared_updated :
    CanReturn configAnswers () (parseConfig parseURL (configMap "unisphere-secret-1")) ()
        (.ok (config "unisphere-secret-1")) ∧
      ServersUpdated (server "unisphere-secret-1") (config "unisphere-secret-1") secret
        ⟨"test", "changed"⟩ (.ok "") ["000120000548"] := by
  have hp := configMap_parses "unisphere-secret-1"
  have hr := config_range "unisphere-secret-1"
  refine ⟨hp, (serversUpdated_iff parseURL _ _ hp _ (server_runs _) secret _ rfl _ _
    hr).mpr (.inr (.inl ⟨⟨"000120000548", "test", ?_⟩, ?_, fun _ => ⟨"", rfl⟩⟩))⟩
  · exact ⟨_, _, GoMap.lookup_singleton _ _, GoMap.lookup_singleton _ _, rfl⟩
  · rintro ⟨id, id', user, hne, -, ⟨_, _, hid, -⟩, ⟨_, _, hid', -⟩⟩
    have hmem := hr.mem_iff.mpr ⟨_, hid⟩
    have hmem' := hr.mem_iff.mpr ⟨_, hid'⟩
    rw [mem_singleton] at hmem hmem'
    exact hne (hmem.trans hmem'.symm)

end ServerSecret

end PowerMaxCsi.Proxy
