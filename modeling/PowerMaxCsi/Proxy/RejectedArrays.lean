import PowerMaxCsi.Lib.Outcomes
import PowerMaxCsi.Proxy.SecretConfig

/-!
# Arrays that the parser rejects

An array that `ParseConfig` or `ParseConfigFromSecret` rejects does not matter, unless no array is
left: the error then counts them.
-/

namespace PowerMaxCsi.Proxy

open Prog List

structure SecretStore where
  getCredentialsFromSecretName : String → Except String Credentials
  getCertFileFromSecretName : String → Except String String

def SecretStore.answers (store : SecretStore) : (c : ConfigCall) → Set (ConfigAnswer c)
  | .getCredentialsFromSecretName secretName => {store.getCredentialsFromSecretName secretName}
  | .getCertFileFromSecretName secretName => {store.getCertFileFromSecretName secretName}
  | .range keys => {order | order.Perm keys}

/-- `ParseConfig` before it looks at the arrays: the endpoints are trimmed. -/
def StorageArrayConfig.sanitize (array : StorageArrayConfig) : StorageArrayConfig :=
  { array with
    primaryEndpoint := sanitizeURLPath array.primaryEndpoint
    backupEndpoint := sanitizeURLPath array.backupEndpoint }

@[inherit_doc StorageArrayConfig.sanitize]
def ManagementServerConfig.sanitize (server : ManagementServerConfig) : ManagementServerConfig :=
  { server with endpoint := sanitizeURLPath server.endpoint }

def ReadsSecret : ConfigCall → Prop
  | .range _ => False
  | _ => True

section

variable {parseURL : String → Except String URL}

theorem readsSecret_readProxyCredentialSecrets (arrayID : String) (names : List String)
    (secrets : GoMap String ProxyCredentialSecret) :
    Calls ReadsSecret (readProxyCredentialSecrets arrayID names secrets) := by
  induction names generalizing secrets with
  | nil => trivial
  | cons secret rest ih =>
    refine ⟨trivial, ?_⟩
    rintro (err | credentials)
    · trivial
    · exact ih _

theorem readsSecret_buildStorageArray (array : StorageArrayConfig) (ipAddresses : List String) :
    Calls ReadsSecret (buildStorageArray parseURL array ipAddresses) := by
  unfold buildStorageArray
  split
  · trivial
  · refine (readsSecret_readProxyCredentialSecrets _ _ _).bind ?_
    rintro (err | secrets) <;> trivial

variable (store : SecretStore)

theorem SecretStore.answers_of_readsSecret {c : ConfigCall} (hc : ReadsSecret c) :
    ∃ r, store.answers c = {r} := by
  cases c with
  | getCredentialsFromSecretName secretName => exact ⟨_, rfl⟩
  | getCertFileFromSecretName secretName => exact ⟨_, rfl⟩
  | range keys => exact hc.elim

variable (parseURL) in
def Rejects (ipAddresses : List String) (array : StorageArrayConfig) : Prop :=
  ∃ err, .error err ∈ outcomes store.answers (buildStorageArray parseURL array ipAddresses)

variable (parseURL) in
def Accepts (ipAddresses : List String) (array : StorageArrayConfig) : Prop :=
  ∃ sa, .ok sa ∈ outcomes store.answers (buildStorageArray parseURL array ipAddresses)

variable {store} {ipAddresses : List String} {array : StorageArrayConfig}

theorem Rejects.not_accepts (hre : Rejects parseURL store ipAddresses array) :
    ¬ Accepts parseURL store ipAddresses array := by
  rintro ⟨sa, hsa⟩
  obtain ⟨err, he⟩ := hre
  obtain ⟨r, hr⟩ := outcomes_eq_singleton (readsSecret_buildStorageArray array ipAddresses)
    fun _ => store.answers_of_readsSecret
  rw [hr] at hsa he
  cases hsa.trans he.symm

theorem rejects_of_validate {err : String}
    (he : validateStorageArrayConfig parseURL array ipAddresses = .error err) :
    Rejects parseURL store ipAddresses array := by
  refine ⟨err, ?_⟩
  unfold buildStorageArray
  rw [he]
  exact rfl

theorem outcomes_parseStorageArrays_skip (hre : Rejects parseURL store ipAddresses array)
    (before after : List StorageArrayConfig) (s : ProxyConfig × EndpointArrays) :
    outcomes store.answers (parseStorageArrays parseURL ipAddresses (before ++ array :: after) s) =
      outcomes store.answers (parseStorageArrays parseURL ipAddresses (before ++ after) s) := by
  obtain ⟨pc, ids⟩ := s
  induction before generalizing pc ids with
  | nil =>
    ext s
    refine mem_outcomes_bind.trans ⟨?_, fun hs => ?_⟩
    · rintro ⟨err | sa, hr, hs⟩
      · exact hs
      · exact absurd ⟨sa, hr⟩ hre.not_accepts
    · obtain ⟨err, he⟩ := hre
      exact ⟨.error err, he, hs⟩
  | cons first rest ih =>
    refine outcomes_bind_congr ?_
    rintro (err | sa) -
    · exact ih pc ids
    · ext s
      refine exists_congr fun order => and_congr_right fun _ => ?_
      exact Set.ext_iff.mp (ih _ _) s

variable {arrays : List StorageArrayConfig}

theorem parseStorageArrays_managed {pc : ProxyConfig} {ids : EndpointArrays}
    {s : ProxyConfig × EndpointArrays}
    (hso : pc.managedArrays.entries ≠ [] ∨ ∃ array ∈ arrays, Accepts parseURL store ipAddresses array)
    (hs : s ∈ outcomes store.answers (parseStorageArrays parseURL ipAddresses arrays (pc, ids))) :
    s.1.managedArrays.entries ≠ [] := by
  induction arrays generalizing pc ids with
  | nil =>
    obtain rfl : s = (pc, ids) := hs
    rcases hso with hpc | ⟨_, ha, _⟩
    · exact hpc
    · cases ha
  | cons first rest ih =>
    obtain ⟨err | sa, hr, hs⟩ := mem_outcomes_bind.mp hs
    · refine ih (hso.imp_right ?_) hs
      rintro ⟨array, ha, hac⟩
      rcases mem_cons.mp ha with rfl | ha
      · exact absurd hac (Rejects.not_accepts ⟨err, hr⟩)
      · exact ⟨array, ha, hac⟩
    · obtain ⟨order, _, hs⟩ := hs
      refine ih (.inl ?_) hs
      rw [managedArrays_foldl]
      exact cons_ne_nil _ _

theorem outcomes_parseConfig {servers : List ManagementServerConfig} (ha : ∃ array ∈ arrays,
      Accepts parseURL store (servers.map (·.sanitize.endpoint)) array.sanitize) (port : String) :
    outcomes store.answers (parseConfig parseURL ⟨port, some ⟨arrays, servers⟩⟩) =
      outcomes store.answers ((parseStorageArrays parseURL (servers.map (·.sanitize.endpoint))
        (arrays.map (·.sanitize)) (⟨port, ∅, ∅, ∅⟩, ∅)).bind fun s =>
          parseManagementServers parseURL s.2 (servers.map (·.sanitize)) s.1) := by
  have ha' : ∃ array ∈ arrays.map (·.sanitize),
      Accepts parseURL store (servers.map (·.sanitize.endpoint)) array := by
    obtain ⟨array, har, ha⟩ := ha
    exact ⟨array.sanitize, mem_map_of_mem har, ha⟩
  unfold parseConfig
  simp only [map_map]
  refine outcomes_bind_congr ?_
  rintro ⟨pc, ids⟩ hs
  rw [if_neg fun hn => parseStorageArrays_managed (.inr ha') hs hn.1]
  rfl

variable {servers : List SecretServerConfig}

theorem parseSecretArrays_skip {err : String}
    (he : validateStorageArrayConfig parseURL array (servers.map (·.endpoint)) = .error err)
    (before after : List StorageArrayConfig) (s : ProxyConfig × EndpointArrays) :
    parseSecretArrays parseURL servers (before ++ array :: after) s =
      parseSecretArrays parseURL servers (before ++ after) s := by
  obtain ⟨pc, ids⟩ := s
  induction before generalizing pc ids with
  | nil =>
    rw [nil_append, nil_append, parseSecretArrays, he]
  | cons first rest ih =>
    simp only [cons_append, parseSecretArrays]
    split
    · exact ih pc ids
    · exact ih _ _

theorem parseSecretArrays_managed {pc : ProxyConfig} {ids : EndpointArrays}
    (hs : pc.managedArrays.entries ≠ [] ∨ ∃ array ∈ arrays, ∃ sa,
      validateStorageArrayConfig parseURL array (servers.map (·.endpoint)) = .ok sa) :
    (parseSecretArrays parseURL servers arrays (pc, ids)).1.managedArrays.entries ≠ [] := by
  induction arrays generalizing pc ids with
  | nil =>
    rcases hs with hpc | ⟨_, ha, _⟩
    · exact hpc
    · cases ha
  | cons first rest ih =>
    rw [parseSecretArrays]
    split
    case h_1 err he =>
      refine ih (hs.imp_right ?_)
      rintro ⟨array, ha, sa, hsa⟩
      rcases mem_cons.mp ha with rfl | ha
      · cases hsa.symm.trans he
      · exact ⟨array, ha, sa, hsa⟩
    case h_2 sa hsa =>
      refine ih (.inl ?_)
      rw [(onlyUsers_readServerCredentials _ _ _).1]
      exact cons_ne_nil _ _

theorem parseConfigFromSecret_eq (ha : ∃ array ∈ arrays, ∃ sa,
      validateStorageArrayConfig parseURL array (servers.map (·.endpoint)) = .ok sa) (port : String) :
    parseConfigFromSecret parseURL port ⟨arrays, servers⟩ =
      secretModeServers parseURL servers
        (parseSecretArrays parseURL servers arrays (⟨port, ∅, ∅, ∅⟩, ∅)) := by
  exact if_neg fun hn => parseSecretArrays_managed (.inr ha) hn.1

end

/-- **Rejected arrays do not matter** to the outcomes of both parsers, if another one is
accepted. -/
theorem outcomes_of_rejected (parseURL : String → Except String URL) (store : SecretStore)
    (port : String) (before after : List StorageArrayConfig) (array : StorageArrayConfig) :
    (∀ servers : List ManagementServerConfig,
      let ipAddresses := servers.map (·.sanitize.endpoint)
      Rejects parseURL store ipAddresses array.sanitize →
      (∃ other ∈ before ++ after, Accepts parseURL store ipAddresses other.sanitize) →
      outcomes store.answers
          (parseConfig parseURL ⟨port, some ⟨before ++ array :: after, servers⟩⟩) =
        outcomes store.answers (parseConfig parseURL ⟨port, some ⟨before ++ after, servers⟩⟩)) ∧
    (∀ servers : List SecretServerConfig,
      let ipAddresses := servers.map (·.endpoint)
      (∃ err, validateStorageArrayConfig parseURL array ipAddresses = .error err) →
      (∃ other ∈ before ++ after, ∃ sa,
        validateStorageArrayConfig parseURL other ipAddresses = .ok sa) →
      outcomes store.answers
          (parseConfigFromSecret parseURL port ⟨before ++ array :: after, servers⟩) =
        outcomes store.answers
          (parseConfigFromSecret parseURL port ⟨before ++ after, servers⟩)) := by
  have hmem {other : StorageArrayConfig} (ho : other ∈ before ++ after) :
      other ∈ before ++ array :: after :=
    ((sublist_cons_self array after).append_left before).subset ho
  constructor
  · intro servers ipAddresses hr ha
    have ha' : ∃ other ∈ before ++ array :: after,
        Accepts parseURL store ipAddresses other.sanitize := by
      obtain ⟨other, ho, ha⟩ := ha
      exact ⟨other, hmem ho, ha⟩
    rw [outcomes_parseConfig ha', outcomes_parseConfig ha]
    ext r
    rw [mem_outcomes_bind, mem_outcomes_bind, map_append, map_cons,
      outcomes_parseStorageArrays_skip hr, map_append]
  · rintro servers ipAddresses ⟨err, he⟩ ha
    have ha' : ∃ other ∈ before ++ array :: after, ∃ sa,
        validateStorageArrayConfig parseURL other ipAddresses = .ok sa := by
      obtain ⟨other, ho, ha⟩ := ha
      exact ⟨other, hmem ho, ha⟩
    rw [parseConfigFromSecret_eq ha', parseConfigFromSecret_eq ha, parseSecretArrays_skip he]

namespace StrayArray

def hostOnly (endpoint : String) : Except String URL := .ok ⟨"https", endpoint, ""⟩

def store : SecretStore where
  getCredentialsFromSecretName secretName :=
    if secretName = "csi-creds" then .ok ⟨"smc", "smc"⟩ else .error "not found"
  getCertFileFromSecretName _ := .error "not found"

def unisphere : SecretServerConfig :=
  ⟨⟨"unisphere-1", "csi-creds", true, "", ⟨4, 4, 4, 4⟩⟩, "smc", "smc"⟩

def valid : StorageArrayConfig := ⟨"000197900046", "unisphere-1", "", ["csi-creds"]⟩

def stray : StorageArrayConfig := ⟨"000197900047", "unisphere-2", "", ["csi-creds"]⟩

theorem stray_rejected : ∃ err,
    validateStorageArrayConfig hostOnly stray ["unisphere-1"] = .error err := ⟨_, rfl⟩

theorem valid_accepted : Accepts hostOnly store ["unisphere-1"] valid :=
  ⟨_, .ok ⟨"smc", "smc"⟩, rfl, rfl⟩

theorem sanitize_valid : valid.sanitize = valid := by decide +kernel

theorem sanitize_unisphere : unisphere.toManagementServerConfig.sanitize.endpoint = "unisphere-1" := by
  decide +kernel

end StrayArray

open StrayArray
theorem outcomes_of_rejected_stray :
    outcomes store.answers (parseConfig hostOnly
        ⟨"2222", some ⟨[valid, stray], [unisphere.toManagementServerConfig]⟩⟩) =
      outcomes store.answers (parseConfig hostOnly
        ⟨"2222", some ⟨[valid], [unisphere.toManagementServerConfig]⟩⟩) ∧
    outcomes store.answers (parseConfigFromSecret hostOnly "2222" ⟨[valid, stray], [unisphere]⟩) =
      outcomes store.answers (parseConfigFromSecret hostOnly "2222" ⟨[valid], [unisphere]⟩) := by
  obtain ⟨hc, hs⟩ := outcomes_of_rejected hostOnly store "2222" [valid] [] stray
  obtain ⟨err, he⟩ := stray_rejected
  constructor
  · refine hc [unisphere.toManagementServerConfig] ?_ ⟨valid, mem_cons_self, ?_⟩
    · rw [map_singleton, sanitize_unisphere]
      exact rejects_of_validate he
    · rw [sanitize_valid, map_singleton, sanitize_unisphere]
      exact valid_accepted
  · exact hs [unisphere] ⟨err, he⟩ ⟨valid, mem_cons_self, _, rfl⟩

end PowerMaxCsi.Proxy
