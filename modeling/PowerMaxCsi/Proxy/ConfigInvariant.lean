import PowerMaxCsi.Proxy.ReverseProxy

/-!
# What holds of a parsed configuration

In a configuration that `ParseConfig` returns the proxy secrets of an array are stored under their
names, their users are in `proxyCredentials`, and the arrays of the servers are managed.
-/

namespace PowerMaxCsi.Proxy

open Prog List AList ProxyConfig

def StorageArray.SecretsNamed (array : StorageArray) : Prop :=
  ∀ secretName stored, array.proxyCredentialSecrets.lookup secretName = some stored →
    stored.credentialSecret = secretName

def ProxyConfig.UsersKnown (pc : ProxyConfig) (array : StorageArray) : Prop :=
  ∀ secretName stored, array.proxyCredentialSecrets.lookup secretName = some stored →
    stored.credentials.userName ∈ pc.proxyCredentials

def ProxyConfig.ArraysManaged (pc : ProxyConfig) : Prop :=
  ∀ url server, pc.managementServers.lookup url = some server →
    ∀ arrayID ∈ server.storageArrayIdentifiers, arrayID ∈ pc.managedArrays

structure ProxyConfig.WellFormed (pc : ProxyConfig) : Prop where
  secretsNamed : ∀ arrayID array, pc.managedArrays.lookup arrayID = some array → array.SecretsNamed
  usersKnown : ∀ arrayID array, pc.managedArrays.lookup arrayID = some array → pc.UsersKnown array
  arraysManaged : pc.ArraysManaged

section

variable {pc : ProxyConfig} {creds : Credentials} {arrayID user : String}

theorem mem_updateProxyCredentials :
    user ∈ (pc.updateProxyCredentials creds arrayID).proxyCredentials ↔
      user = creds.userName ∨ user ∈ pc.proxyCredentials := by
  unfold updateProxyCredentials
  split
  case h_1 proxyUser hl =>
    have hmem : creds.userName ∈ pc.proxyCredentials := by
      rw [← lookup_isSome, hl]
      rfl
    split
    · exact mem_insert _
    · constructor
      · exact .inr
      · rintro (rfl | hmem')
        · exact hmem
        · exact hmem'
  case h_2 => exact mem_insert _

@[simp] theorem managedArrays_updateProxyCredentials :
    (pc.updateProxyCredentials creds arrayID).managedArrays = pc.managedArrays := by
  unfold updateProxyCredentials
  split
  · split <;> rfl
  · rfl

@[simp] theorem managementServers_updateProxyCredentials :
    (pc.updateProxyCredentials creds arrayID).managementServers = pc.managementServers := by
  unfold updateProxyCredentials
  split
  · split <;> rfl
  · rfl

variable (credentials : String → Credentials)

theorem mem_foldl_updateProxyCredentials (order : List String) :
    user ∈ (order.foldl (fun pc secret =>
        pc.updateProxyCredentials (credentials secret) arrayID) pc).proxyCredentials ↔
      (∃ secret ∈ order, user = (credentials secret).userName) ∨ user ∈ pc.proxyCredentials := by
  induction order generalizing pc with
  | nil => simp
  | cons secret order ih =>
    rw [foldl_cons, ih, mem_updateProxyCredentials]
    simp only [mem_cons, exists_eq_or_imp]
    exact or_left_comm.trans or_assoc.symm

theorem managedArrays_foldl (order : List String) : (order.foldl (fun pc secret =>
        pc.updateProxyCredentials (credentials secret) arrayID) pc).managedArrays =
      pc.managedArrays := by
  induction order generalizing pc with
  | nil => rfl
  | cons secret order ih => rw [foldl_cons, ih, managedArrays_updateProxyCredentials]

theorem managementServers_foldl (order : List String) : (order.foldl (fun pc secret =>
        pc.updateProxyCredentials (credentials secret) arrayID) pc).managementServers =
      pc.managementServers := by
  induction order generalizing pc with
  | nil => rfl
  | cons secret order ih => rw [foldl_cons, ih, managementServers_updateProxyCredentials]

end

section

variable {parseURL : String → Except String URL} {arrayID : String}

theorem readProxyCredentialSecrets_spec {names : List String}
    {secrets : GoMap String ProxyCredentialSecret}
    (hs : ∀ name stored, secrets.lookup name = some stored → stored.credentialSecret = name) :
    Yields configAnswers
      (fun _ r => ∀ secrets', r = .ok secrets' → ∀ name stored, secrets'.lookup name = some stored →
        stored.credentialSecret = name) ()
      (readProxyCredentialSecrets arrayID names secrets) := by
  induction names generalizing secrets with
  | nil =>
    intro secrets' heq
    cases heq
    exact hs
  | cons secret rest ih =>
    refine ⟨trivial, ?_⟩
    rintro (err | credentials) _ -
    · intro secrets' heq
      cases heq
    · exact ih (GoMap.forall_lookup_insert rfl hs)

theorem buildStorageArray_spec {array : StorageArrayConfig} {ipAddresses : List String} :
    Yields configAnswers (fun _ r => ∀ sa, r = .ok sa → sa.SecretsNamed) ()
      (buildStorageArray parseURL array ipAddresses) := by
  unfold buildStorageArray
  split
  · intro sa heq
    cases heq
  · refine (readProxyCredentialSecrets_spec (by simp)).bind ?_
    rintro _ (err | secrets) hs
    · intro sa heq
      cases heq
    · intro sa heq
      cases heq
      exact hs secrets rfl

def EndpointArrays.Managed (ids : EndpointArrays) (arrays : GoMap String StorageArray) : Prop :=
  ∀ url arrayIDs, ids.lookup url = some arrayIDs → ∀ arrayID ∈ arrayIDs, arrayID ∈ arrays

variable {ids : EndpointArrays}

theorem EndpointArrays.Managed.insert {arrays : GoMap String StorageArray} (h : ids.Managed arrays)
    (arrayID : String) (sa : StorageArray) : ids.Managed (arrays.insert arrayID sa) := by
  intro url arrayIDs hl id hid
  rw [mem_insert]
  exact .inr (h url arrayIDs hl id hid)

theorem EndpointArrays.Managed.add {arrays : GoMap String StorageArray} (h : ids.Managed arrays)
    (hm : arrayID ∈ arrays) (url : URL) : (ids.add url arrayID).Managed arrays := by
  refine GoMap.forall_lookup_insert (forall_mem_append.mpr ⟨?_, forall_mem_singleton.mpr hm⟩) h
  cases hi : ids.lookup url with
  | none => exact fun _ hid => absurd hid not_mem_nil
  | some arrayIDs => exact h url arrayIDs hi

structure ArraysParsed (pc : ProxyConfig) (ids : EndpointArrays) : Prop where
  secretsNamed : ∀ arrayID array, pc.managedArrays.lookup arrayID = some array → array.SecretsNamed
  usersKnown : ∀ arrayID array, pc.managedArrays.lookup arrayID = some array → pc.UsersKnown array
  arraysManaged : ∀ url arrayIDs, ids.lookup url = some arrayIDs →
    ∀ arrayID ∈ arrayIDs, arrayID ∈ pc.managedArrays

variable {pc : ProxyConfig}

theorem ArraysParsed.insert {pc' : ProxyConfig} (h : ArraysParsed pc ids) {sa : StorageArray}
    (ha : pc'.managedArrays = pc.managedArrays.insert arrayID sa)
    (hu : ∀ user ∈ pc.proxyCredentials, user ∈ pc'.proxyCredentials) (hn : sa.SecretsNamed)
    (hk : pc'.UsersKnown sa) : ArraysParsed pc' ids where
  secretsNamed := by
    rw [ha]
    exact GoMap.forall_lookup_insert hn h.secretsNamed
  usersKnown := by
    rw [ha]
    exact GoMap.forall_lookup_insert hk fun id array hl secretName stored hs =>
      hu _ (h.usersKnown id array hl secretName stored hs)
  arraysManaged := by
    rw [ha]
    exact EndpointArrays.Managed.insert h.arraysManaged arrayID sa

theorem ArraysParsed.add (h : ArraysParsed pc ids) (hm : arrayID ∈ pc.managedArrays) (url : URL) :
    ArraysParsed pc (ids.add url arrayID) where
  secretsNamed := h.secretsNamed
  usersKnown := h.usersKnown
  arraysManaged := EndpointArrays.Managed.add h.arraysManaged hm url

theorem parseStorageArrays_spec {ipAddresses : List String} {arrays : List StorageArrayConfig}
    (h : ArraysParsed pc ids) :
    Yields configAnswers
      (fun _ s => ArraysParsed s.1 s.2 ∧ s.1.managementServers = pc.managementServers) ()
      (parseStorageArrays parseURL ipAddresses arrays (pc, ids)) := by
  induction arrays generalizing pc ids with
  | nil => exact ⟨h, rfl⟩
  | cons array rest ih =>
    refine buildStorageArray_spec.bind ?_
    rintro _ (err | sa) hsa
    · exact ih h
    · refine ⟨trivial, fun order _ (ho : order.Perm _) => ?_⟩
      refine (ih ?_).mono ?_
      · refine ArraysParsed.add (ArraysParsed.add
          (h.insert (managedArrays_foldl _ _) ?_ (hsa sa rfl) ?_) ?_ _) ?_ _
        · exact fun user hu => (mem_foldl_updateProxyCredentials _ _).mpr (.inr hu)
        · intro secretName stored hs
          refine (mem_foldl_updateProxyCredentials _ _).mpr (.inl ⟨secretName, ?_, ?_⟩)
          · rw [ho.mem_iff, ← AList.mem_keys, ← AList.lookup_isSome, hs]
            rfl
          · rw [StorageArray.proxySecret, hs, Option.getD_some]
        all_goals
          rw [managedArrays_foldl, mem_insert]
          exact .inl rfl
      · rintro _ s ⟨hp, hse⟩
        exact ⟨hp, hse.trans (managementServers_foldl _ _)⟩

theorem ProxyConfig.ArraysManaged.insert (hpc : pc.ArraysManaged)
    (hi : ids.Managed pc.managedArrays) {mgmtURL : URL} {server : ManagementServer}
    (hs : server.storageArrayIdentifiers = (ids.lookup mgmtURL).getD []) :
    { pc with managementServers := pc.managementServers.insert mgmtURL server }.ArraysManaged := by
  refine GoMap.forall_lookup_insert ?_ hpc
  rw [hs]
  cases hli : ids.lookup mgmtURL with
  | none => simp
  | some arrayIDs => exact hi mgmtURL arrayIDs hli

def ProxyConfig.ServersKeyed (pc : ProxyConfig) : Prop :=
  ∀ url server, pc.managementServers.lookup url = some server → server.endpoint = url

theorem ProxyConfig.ServersKeyed.insert (hpc : pc.ServersKeyed) {mgmtURL : URL}
    {server : ManagementServer} (he : server.endpoint = mgmtURL) :
    { pc with managementServers := pc.managementServers.insert mgmtURL server }.ServersKeyed :=
  GoMap.forall_lookup_insert he hpc

theorem parseManagementServers_spec {servers : List ManagementServerConfig}
    (h : ArraysParsed pc ids) (hpc : pc.WellFormed) (hk : pc.ServersKeyed) :
    Yields configAnswers (fun _ r => ∀ pc', r = .ok pc' → pc'.WellFormed ∧ pc'.ServersKeyed) ()
      (parseManagementServers parseURL ids servers pc) := by
  induction servers generalizing pc with
  | nil =>
    intro pc' heq
    cases heq
    exact ⟨hpc, hk⟩
  | cons server rest ih =>
    refine (safeIn_true _).bind ?_
    rintro _ (err | credentials) -
    · intro pc' heq
      cases heq
    · simp only
      split
      · intro pc' heq
        cases heq
      refine (safeIn_true _).bind ?_
      rintro _ (err | certFile) -
      · intro pc' heq
        cases heq
      exact ih ⟨h.secretsNamed, h.usersKnown, h.arraysManaged⟩
        ⟨hpc.secretsNamed, hpc.usersKnown, hpc.arraysManaged.insert h.arraysManaged rfl⟩
        (hk.insert rfl)

/-- **The parser** returns well-formed configurations, with servers under their endpoints. -/
theorem parseConfig_spec (proxyConfigMap : ProxyConfigMap) :
    Yields configAnswers (fun _ r => ∀ pc, r = .ok pc → pc.WellFormed ∧ pc.ServersKeyed) ()
      (parseConfig parseURL proxyConfigMap) := by
  unfold parseConfig
  split
  · intro pc heq
    cases heq
  · refine (parseStorageArrays_spec ⟨by simp, by simp, by simp⟩).bind ?_
    rintro _ ⟨pc, ids⟩ ⟨hp, hs⟩
    dsimp only
    split
    · intro pc heq
      cases heq
    · refine parseManagementServers_spec hp ⟨hp.secretsNamed, hp.usersKnown, ?_⟩ ?_
      all_goals
        intro url server hl
        rw [show pc.managementServers = ∅ from hs] at hl
        cases hl

end

section

variable {pc : ProxyConfig}

theorem addServer_ok {server : ManagementServer} {arrayIDs : List String}
    (hm : ∀ arrayID ∈ arrayIDs, arrayID ∈ pc.managedArrays)
    (arrayServers : GoMap String StorageArrayServer) :
    ∃ arrayServers', pc.addServer server arrayIDs arrayServers = .ok arrayServers' := by
  induction arrayIDs generalizing arrayServers with
  | nil => exact ⟨arrayServers, rfl⟩
  | cons arrayID rest ih =>
    have hr := ih fun id hid => hm id (mem_cons_of_mem _ hid)
    unfold addServer
    split
    · exact hr _
    · have ha := lookup_isSome.mpr (hm arrayID mem_cons_self)
      split
      case h_1 hn =>
        rw [hn] at ha
        cases ha
      case h_2 => exact hr _

theorem addServers_ok {servers : List ManagementServer}
    (hm : ∀ server ∈ servers, ∀ arrayID ∈ server.storageArrayIdentifiers,
      arrayID ∈ pc.managedArrays)
    (arrayServers : GoMap String StorageArrayServer) :
    ∃ arrayServers', pc.addServers servers arrayServers = .ok arrayServers' := by
  induction servers generalizing arrayServers with
  | nil => exact ⟨arrayServers, rfl⟩
  | cons server rest ih =>
    obtain ⟨arrayServers', ha⟩ := addServer_ok (hm server mem_cons_self) arrayServers
    unfold addServers
    rw [ha]
    exact ih (fun server' hs' => hm server' (mem_cons_of_mem _ hs')) _

theorem getManagedArraysAndServers_ok (hm : pc.ArraysManaged) :
    ∃ arrayServers, pc.getManagedArraysAndServers = .ok arrayServers := by
  refine addServers_ok (fun server hs => ?_) ∅
  obtain ⟨⟨url, _⟩, he, rfl⟩ := mem_map.mp hs
  exact hm url _ (mem_lookup_iff.mpr he)

theorem updateConfig_ok {p : ReverseProxy} (hold : p.config.ArraysManaged)
    (hne : pc.ArraysManaged) :
    ∃ p', p.updateConfig pc = .ok p' ∧ p'.config = pc ∧ p'.useSecret = p.useSecret := by
  obtain ⟨old, ho⟩ := getManagedArraysAndServers_ok hold
  obtain ⟨new, hn⟩ := getManagedArraysAndServers_ok hne
  unfold ReverseProxy.updateConfig
  rw [ho, hn]
  exact ⟨_, rfl, rfl, rfl⟩

end

end PowerMaxCsi.Proxy
