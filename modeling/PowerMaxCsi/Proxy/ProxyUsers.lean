import PowerMaxCsi.Proxy.RejectedArrays

/-!
# The users of the proxy

`proxyCredentials` has an entry for every proxy secret of an array, under its user name: `UsersOf`.
Of two entries for one array the later one replaces the array, but not its users.
-/

namespace PowerMaxCsi.Proxy

open Prog ProxyConfig

/-- Different secrets of the kind have different user names. -/
def DistinctUsers (latest : String → Credentials) (P : String → Prop) : Prop :=
  ∀ secret secret', P secret → P secret' →
    (latest secret).userName = (latest secret').userName → secret = secret'

/-- The users of the secrets: `latest` are the credentials of a secret, and `has` its arrays. -/
structure UsersOf (users : GoMap String ProxyUser) (latest : String → Credentials)
    (has : String → String → Prop) : Prop where
  known : ∀ id secret, has id secret → (latest secret).userName ∈ users
  granted : ∀ user proxyUser, users.lookup user = some proxyUser →
    ∃ secret, (∃ id, has id secret) ∧ proxyUser.proxyCredential = latest secret ∧
      (latest secret).userName = user ∧
      ∀ id, id ∈ proxyUser.storageArrayIdentifiers ↔ has id secret

theorem mem_appendIfMissingStringSlice {slice : List String} {str x : String} :
    x ∈ appendIfMissingStringSlice slice str ↔ x ∈ slice ∨ x = str := by
  unfold appendIfMissingStringSlice
  split
  case isTrue hmem =>
    refine (or_iff_left_of_imp ?_).symm
    rintro rfl
    exact hmem
  case isFalse => rw [List.mem_append, List.mem_singleton]

namespace UsersOf

variable {users : GoMap String ProxyUser} {latest : String → Credentials}
  {has : String → String → Prop}

theorem empty (latest : String → Credentials) : UsersOf ∅ latest fun _ _ => False where
  known _ _ h := h.elim
  granted user proxyUser hl := by
    rw [AList.lookup_empty] at hl
    cases hl

theorem congr (h : UsersOf users latest has) {latest' : String → Credentials}
    {has' : String → String → Prop} (hh : ∀ id secret, has id secret ↔ has' id secret)
    (hl : ∀ id secret, has id secret → latest secret = latest' secret) :
    UsersOf users latest' has' where
  known id secret hid := by
    have hid' := (hh id secret).mpr hid
    rw [← hl id secret hid']
    exact h.known id secret hid'
  granted user proxyUser hlo := by
    obtain ⟨secret, ⟨id, hid⟩, hc, hu, hi⟩ := h.granted user proxyUser hlo
    rw [hl id secret hid] at hc hu
    exact ⟨secret, ⟨id, (hh id secret).mp hid⟩, hc, hu, fun id =>
      (hi id).trans (hh id secret)⟩

theorem lookup (h : UsersOf users latest has)
    (hd : DistinctUsers latest fun secret => ∃ id, has id secret) {id secret : String}
    (hid : has id secret) :
    ∃ proxyUser, users.lookup (latest secret).userName = some proxyUser ∧
      proxyUser.proxyCredential = latest secret ∧
      ∀ id, id ∈ proxyUser.storageArrayIdentifiers ↔ has id secret := by
  obtain ⟨proxyUser, hl⟩ :=
    Option.isSome_iff_exists.mp (AList.lookup_isSome.mpr (h.known id secret hid))
  obtain ⟨secret', hid', hc, hu, hi⟩ := h.granted _ proxyUser hl
  obtain rfl := hd secret' secret hid' ⟨id, hid⟩ hu
  exact ⟨proxyUser, hl, hc, hi⟩

variable {pc : ProxyConfig} (h : UsersOf pc.proxyCredentials latest has)

include h

/-- **`IsUserAuthorized`** accepts the credentials of the secrets of an array. -/
theorem isUserAuthorized_iff (hd : DistinctUsers latest fun secret => ∃ id, has id secret)
    {username password storageArrayID : String} :
    pc.isUserAuthorized username password storageArrayID = .ok true ↔
      ∃ secret, has storageArrayID secret ∧ latest secret = ⟨username, password⟩ := by
  unfold isUserAuthorized
  constructor
  · intro hok
    split at hok
    case h_2 => cases hok
    case h_1 proxyUser hl =>
      obtain ⟨secret, -, hc, hu, hi⟩ := h.granted username proxyUser hl
      split at hok
      case isFalse => cases hok
      case isTrue hid =>
        split at hok
        case isFalse => cases hok
        case isTrue hp =>
          refine ⟨secret, (hi _).mp hid, ?_⟩
          rw [← hp, ← hu, hc]
  · rintro ⟨secret, hid, hla⟩
    obtain ⟨proxyUser, hl, hc, hi⟩ := h.lookup hd hid
    rw [hla] at hl hc
    rw [hl]
    simp only
    rw [if_pos ((hi _).mpr hid), hc, if_pos rfl]

theorem grant (secret arrayID : String)
    (hd : DistinctUsers latest fun s => s = secret ∨ ∃ id, has id s) :
    UsersOf (pc.updateProxyCredentials (latest secret) arrayID).proxyCredentials latest
      fun id s => has id s ∨ id = arrayID ∧ s = secret where
  known id s hid := by
    rw [mem_updateProxyCredentials]
    rcases hid with hid | ⟨-, rfl⟩
    · exact .inr (h.known id s hid)
    · exact .inl rfl
  granted user proxyUser hl := by
    have ho {s : String} (hs : (latest s).userName ≠ (latest secret).userName) {id : String} :
        has id s ↔ has id s ∨ id = arrayID ∧ s = secret := by
      refine (or_iff_left ?_).symm
      rintro ⟨-, rfl⟩
      exact hs rfl
    by_cases hu : user = (latest secret).userName
    · subst hu
      unfold updateProxyCredentials at hl
      refine ⟨secret, ⟨arrayID, .inr ⟨rfl, rfl⟩⟩, ?_⟩
      cases hold : pc.proxyCredentials.lookup (latest secret).userName with
      | none =>
        simp only [hold, AList.lookup_insert, Option.some.injEq] at hl
        subst hl
        refine ⟨rfl, rfl, fun id => List.mem_singleton.trans ?_⟩
        -- the user is new, so no array had the secret
        have hnew : ¬ has id secret := fun hid => by
          have hk := AList.lookup_isSome.mpr (h.known id secret hid)
          rw [hold] at hk
          cases hk
        exact ⟨fun heq => .inr ⟨heq, rfl⟩, fun hid => (hid.resolve_left hnew).1⟩
      | some oldUser =>
        obtain ⟨s, hs, hc, hn, hi⟩ := h.granted _ oldUser hold
        obtain rfl := hd s secret (.inr hs) (.inl rfl) hn
        simp only [hold, hc, if_true, AList.lookup_insert, Option.some.injEq] at hl
        subst hl
        refine ⟨rfl, rfl, fun id => ?_⟩
        rw [mem_appendIfMissingStringSlice, hi]
        simp
    · have hsa : pc.proxyCredentials.lookup user = some proxyUser := by
        rw [← hl]
        unfold updateProxyCredentials
        split
        · split
          · exact (AList.lookup_insert_ne hu).symm
          · rfl
        · exact (AList.lookup_insert_ne hu).symm
      obtain ⟨s, ⟨id, hs⟩, hc, hn, hi⟩ := h.granted user proxyUser hsa
      have hne : (latest s).userName ≠ (latest secret).userName := hn ▸ hu
      exact ⟨s, ⟨id, .inl hs⟩, hc, hn, fun id => (hi id).trans (ho hne)⟩

theorem grantAll (arrayID : String) (order : List String)
    (hd : DistinctUsers latest fun s => s ∈ order ∨ ∃ id, has id s) :
    UsersOf (order.foldl (fun pc secret =>
        pc.updateProxyCredentials (latest secret) arrayID) pc).proxyCredentials latest
      fun id s => has id s ∨ id = arrayID ∧ s ∈ order := by
  induction order generalizing pc has with
  | nil => exact h.congr (fun id s => by simp) fun _ _ _ => rfl
  | cons secret order ih =>
    have hf (s : String) (hs : s = secret ∨ ∃ id, has id s) :
        s ∈ secret :: order ∨ ∃ id, has id s :=
      hs.imp_left fun heq => List.mem_cons.mpr (.inl heq)
    have hg := h.grant secret arrayID fun s s' hs hs' =>
      hd s s' (hf s hs) (hf s' hs')
    have hk (s : String)
        (hs : s ∈ order ∨ ∃ id, has id s ∨ id = arrayID ∧ s = secret) :
        s ∈ secret :: order ∨ ∃ id, has id s := by
      rcases hs with hs | ⟨id, hs | ⟨-, rfl⟩⟩
      · exact .inl (List.mem_cons_of_mem _ hs)
      · exact .inr ⟨id, hs⟩
      · exact .inl List.mem_cons_self
    refine (ih hg fun s s' hs hs' => hd s s' (hk s hs) (hk s' hs')).congr ?_ fun _ _ _ => rfl
    intro id s
    rw [List.mem_cons, or_assoc, ← and_or_left]

omit h

end UsersOf

namespace ProxyConfig

def secretOf (pc : ProxyConfig) (arrayID secretName : String) : Option ProxyCredentialSecret :=
  (pc.managedArrays.lookup arrayID).bind (·.proxyCredentialSecrets.lookup secretName)

def Has (pc : ProxyConfig) (arrayID secretName : String) : Prop :=
  (pc.secretOf arrayID secretName).isSome

instance (pc : ProxyConfig) (arrayID secretName : String) : Decidable (pc.Has arrayID secretName) :=
  inferInstanceAs (Decidable (_ = true))

/-- Arrays and users have the latest credentials of the secrets. -/
structure Current (pc : ProxyConfig) (latest : String → Credentials) : Prop where
  stored : ∀ id secret stored, pc.secretOf id secret = some stored →
    stored = ⟨latest secret, secret⟩
  users : UsersOf pc.proxyCredentials latest pc.Has
  distinct : DistinctUsers latest fun secret => ∃ id, pc.Has id secret

variable {pc pc' : ProxyConfig}

theorem secretOf_congr (ha : pc'.managedArrays = pc.managedArrays) :
    pc'.secretOf = pc.secretOf := by
  unfold secretOf
  rw [ha]

theorem has_congr (hs : pc'.secretOf = pc.secretOf) : pc'.Has = pc.Has := by
  unfold Has
  rw [hs]

theorem Current.congr {latest : String → Credentials} (h : pc.Current latest)
    (ha : pc'.managedArrays = pc.managedArrays)
    (hu : pc'.proxyCredentials = pc.proxyCredentials) : pc'.Current latest := by
  have hs := secretOf_congr ha
  have hh := has_congr hs
  constructor
  · rw [hs]
    exact h.stored
  · rw [hu, hh]
    exact h.users
  · rw [hh]
    exact h.distinct

end ProxyConfig

section

variable {parseURL : String → Except String URL} {store : SecretStore}

/-- The credentials of a secret; what cannot be read is not used. -/
def SecretStore.credentials (store : SecretStore) (secretName : String) : Credentials :=
  (store.getCredentialsFromSecretName secretName).toOption.getD ⟨"", ""⟩

theorem readProxyCredentialSecrets_lookup {arrayID : String} {names : List String}
    {secrets secrets' : GoMap String ProxyCredentialSecret}
    (h : .ok secrets' ∈ outcomes store.answers (readProxyCredentialSecrets arrayID names secrets))
    (secret : String) :
    secrets'.lookup secret =
      if secret ∈ names then some ⟨store.credentials secret, secret⟩
      else secrets.lookup secret := by
  induction names generalizing secrets with
  | nil =>
    cases h
    rfl
  | cons first rest ih =>
    obtain ⟨r, hr, h⟩ := h
    cases r with
    | error err => cases h
    | ok credentials =>
      have hf : store.credentials first = credentials := by
        rw [SecretStore.credentials, ← Set.mem_singleton_iff.mp hr]
        rfl
      rw [ih h]
      by_cases heq : secret = first
      · subst heq
        rw [AList.lookup_insert, hf, ite_self, if_pos List.mem_cons_self]
      · simp [heq]

theorem buildStorageArray_lookup {array : StorageArrayConfig} {ipAddresses : List String}
    {sa : StorageArray}
    (h : .ok sa ∈ outcomes store.answers (buildStorageArray parseURL array ipAddresses))
    (secret : String) :
    sa.proxyCredentialSecrets.lookup secret =
      if secret ∈ array.proxyCredentialSecrets then some ⟨store.credentials secret, secret⟩
      else none := by
  unfold buildStorageArray at h
  split at h
  case h_1 => cases h
  case h_2 =>
    obtain ⟨err | secrets, hs, h⟩ := mem_outcomes_bind.mp h
    · cases h
    · cases h
      have hl := readProxyCredentialSecrets_lookup hs secret
      rwa [AList.lookup_empty] at hl

variable (parseURL store) in
/-- Entries that are accepted and name the same array list the same proxy secrets. -/
def SameSecrets (ipAddresses : List String) (arrays : List StorageArrayConfig) : Prop :=
  ∀ array ∈ arrays, ∀ array' ∈ arrays, Accepts parseURL store ipAddresses array →
    Accepts parseURL store ipAddresses array' → array.storageArrayID = array'.storageArrayID →
    ∀ secret, secret ∈ array.proxyCredentialSecrets ↔ secret ∈ array'.proxyCredentialSecrets

variable (parseURL store) in
def Configured (ipAddresses : List String) (arrays : List StorageArrayConfig) (secret : String) :
    Prop :=
  ∃ array ∈ arrays, Accepts parseURL store ipAddresses array ∧ secret ∈ array.proxyCredentialSecrets

variable (parseURL store) in
/-- Users and arrays have the credentials of the secrets, and arrays the secrets of their entry. -/
structure ArraysCurrent (ipAddresses : List String) (arrays : List StorageArrayConfig)
    (pc : ProxyConfig) : Prop where
  stored : ∀ id secret stored, pc.secretOf id secret = some stored →
    stored = ⟨store.credentials secret, secret⟩
  users : UsersOf pc.proxyCredentials store.credentials pc.Has
  entries : ∀ id ∈ pc.managedArrays, ∃ array ∈ arrays, Accepts parseURL store ipAddresses array ∧
    array.storageArrayID = id ∧ ∀ secret, pc.Has id secret ↔ secret ∈ array.proxyCredentialSecrets

theorem ProxyConfig.Has.managed {pc : ProxyConfig} {id secret : String} (h : pc.Has id secret) :
    id ∈ pc.managedArrays := by
  unfold Has secretOf at h
  rw [← AList.lookup_isSome]
  cases hl : pc.managedArrays.lookup id with
  | none =>
    rw [hl] at h
    cases h
  | some array => rfl

variable {ipAddresses : List String} {arrays : List StorageArrayConfig} {pc : ProxyConfig}
  (h : ArraysCurrent parseURL store ipAddresses arrays pc)

include h

theorem ArraysCurrent.configured {id secret : String} (hid : pc.Has id secret) :
    Configured parseURL store ipAddresses arrays secret := by
  obtain ⟨array, har, ha, -, hs⟩ := h.entries id hid.managed
  exact ⟨array, har, ha, (hs secret).mp hid⟩

variable (hsam : SameSecrets parseURL store ipAddresses arrays)
  (hd : DistinctUsers store.credentials (Configured parseURL store ipAddresses arrays))

include hsam hd

theorem ArraysCurrent.insert {array : StorageArrayConfig} (har : array ∈ arrays) {sa : StorageArray}
    (hsa : .ok sa ∈ outcomes store.answers (buildStorageArray parseURL array ipAddresses))
    {order : List String} (hord : sa.proxyCredentialSecrets.Range order) :
    ArraysCurrent parseURL store ipAddresses arrays (order.foldl (fun pc secret =>
      pc.updateProxyCredentials (sa.proxySecret secret).credentials array.storageArrayID)
      { pc with managedArrays := pc.managedArrays.insert array.storageArrayID sa }) := by
  have hl := buildStorageArray_lookup hsa
  have ha : Accepts parseURL store ipAddresses array := ⟨sa, hsa⟩
  have hmem (secret : String) : secret ∈ order ↔ secret ∈ array.proxyCredentialSecrets := by
    rw [hord.mem_iff, hl]
    split
    case isTrue hin => exact iff_of_true ⟨_, rfl⟩ hin
    case isFalse hou =>
      refine iff_of_false ?_ hou
      rintro ⟨_, hn⟩
      cases hn
  have hc : ∀ pc' : ProxyConfig, ∀ secret ∈ order,
      pc'.updateProxyCredentials (sa.proxySecret secret).credentials array.storageArrayID =
        pc'.updateProxyCredentials (store.credentials secret) array.storageArrayID := by
    intro pc' secret hsec
    rw [StorageArray.proxySecret, hl, if_pos ((hmem secret).mp hsec), Option.getD_some]
  rw [List.foldl_ext _ _ _ hc]
  set start : ProxyConfig :=
    { pc with managedArrays := pc.managedArrays.insert array.storageArrayID sa } with hstart
  set final := order.foldl (fun pc secret =>
    pc.updateProxyCredentials (store.credentials secret) array.storageArrayID) start with hf
  have harr : final.managedArrays = pc.managedArrays.insert array.storageArrayID sa :=
    managedArrays_foldl _ _
  have hown (secret : String) :
      final.secretOf array.storageArrayID secret = sa.proxyCredentialSecrets.lookup secret := by
    unfold secretOf
    rw [harr, AList.lookup_insert]
    rfl
  have ho (id secret : String) (hid : id ≠ array.storageArrayID) :
      final.secretOf id secret = pc.secretOf id secret := by
    unfold secretOf
    rw [harr, AList.lookup_insert_ne hid]
  have how (secret : String) :
      final.Has array.storageArrayID secret ↔ secret ∈ array.proxyCredentialSecrets := by
    rw [Has, hown, ← hmem, hord.mem_iff, Option.isSome_iff_exists]
  -- the entry that was there before, if any, has the same secrets
  have hb (secret : String) (hid : pc.Has array.storageArrayID secret) :
      secret ∈ array.proxyCredentialSecrets := by
    obtain ⟨array', har', ha', heq, hse⟩ := h.entries _ hid.managed
    exact (hsam array' har' array har ha' ha heq secret).mp ((hse secret).mp hid)
  have hh (id secret : String) :
      (pc.Has id secret ∨ id = array.storageArrayID ∧ secret ∈ order) ↔ final.Has id secret := by
    by_cases hid : id = array.storageArrayID
    · subst hid
      rw [how, hmem]
      exact ⟨fun hor => hor.elim (hb secret) And.right, fun hin => .inr ⟨rfl, hin⟩⟩
    · rw [Has, Has, ho id secret hid]
      simp [hid]
  refine ⟨fun id secret stored hst => ?_, ?_, fun id hid => ?_⟩
  · by_cases hid : id = array.storageArrayID
    · subst hid
      rw [hown, hl] at hst
      split at hst
      · exact (Option.some.inj hst).symm
      · cases hst
    · rw [ho id secret hid] at hst
      exact h.stored id secret stored hst
  · have hk (secret : String) (hs : secret ∈ order ∨ ∃ id, pc.Has id secret) :
        Configured parseURL store ipAddresses arrays secret := by
      rcases hs with hs | ⟨id, hid⟩
      · exact ⟨array, har, ha, (hmem secret).mp hs⟩
      · exact h.configured hid
    have hsta : UsersOf start.proxyCredentials store.credentials pc.Has := h.users
    exact (hsta.grantAll array.storageArrayID order fun s s' hs hs' =>
      hd s s' (hk s hs) (hk s' hs')).congr hh fun _ _ _ => rfl
  · by_cases heq : id = array.storageArrayID
    · subst heq
      exact ⟨array, har, ha, rfl, how⟩
    · rw [harr, AList.mem_insert] at hid
      obtain ⟨array', har', ha', hid', hse⟩ := h.entries id (hid.resolve_left heq)
      refine ⟨array', har', ha', hid', fun secret => ?_⟩
      rw [Has, ho id secret heq]
      exact hse secret

theorem parseStorageArrays_current {rest : List StorageArrayConfig} (hr : rest ⊆ arrays)
    {ids : EndpointArrays} {s : ProxyConfig × EndpointArrays}
    (hs : s ∈ outcomes store.answers (parseStorageArrays parseURL ipAddresses rest (pc, ids))) :
    ArraysCurrent parseURL store ipAddresses arrays s.1 := by
  induction rest generalizing pc ids with
  | nil =>
    obtain rfl : s = (pc, ids) := hs
    exact h
  | cons array rest ih =>
    obtain ⟨ha, hr⟩ := List.cons_subset.mp hr
    obtain ⟨err | sa, hsa, hs⟩ := mem_outcomes_bind.mp hs
    · exact ih h hr hs
    · obtain ⟨order, ho, hs⟩ := hs
      exact ih (h.insert hsam hd ha hsa ho) hr hs

omit hsam hd

omit h

theorem parseManagementServers_fields {ids : EndpointArrays}
    {servers : List ManagementServerConfig} {pc' : ProxyConfig}
    (h : .ok pc' ∈ outcomes store.answers (parseManagementServers parseURL ids servers pc)) :
    pc'.managedArrays = pc.managedArrays ∧ pc'.proxyCredentials = pc.proxyCredentials := by
  induction servers generalizing pc with
  | nil =>
    cases h
    exact ⟨rfl, rfl⟩
  | cons server rest ih =>
    obtain ⟨err | credentials, -, h⟩ := mem_outcomes_bind.mp h
    · cases h
    · simp only at h
      split at h
      · cases h
      · obtain ⟨err | certFile, -, h⟩ := mem_outcomes_bind.mp h
        · cases h
        · obtain ⟨ha, hu⟩ := ih (by exact h)
          exact ⟨ha, hu⟩

/-- **`ParseConfig`.**  Arrays and users have the credentials of the secrets. -/
theorem parseConfig_current {port : String} {arrays : List StorageArrayConfig}
    {servers : List ManagementServerConfig}
    (hsa : SameSecrets parseURL store (servers.map (·.sanitize.endpoint))
      (arrays.map (·.sanitize))) (hd : DistinctUsers store.credentials
      (Configured parseURL store (servers.map (·.sanitize.endpoint)) (arrays.map (·.sanitize))))
    (h : .ok pc ∈ outcomes store.answers (parseConfig parseURL ⟨port, some ⟨arrays, servers⟩⟩)) :
    pc.Current store.credentials ∧ ∀ id secret, pc.Has id secret → Configured parseURL store
      (servers.map (·.sanitize.endpoint)) (arrays.map (·.sanitize)) secret := by
  have he : ArraysCurrent parseURL store (servers.map (·.sanitize.endpoint))
      (arrays.map (·.sanitize)) ⟨port, ∅, ∅, ∅⟩ := by
    refine ⟨fun id secret stored hs => ?_, ?_, fun id hid => ?_⟩
    · cases hs
    · exact (UsersOf.empty store.credentials).congr
        (fun id secret => ⟨False.elim, fun hh => by cases hh⟩) fun _ _ _ => rfl
    · exact absurd hid (AList.notMem_empty id)
  unfold parseConfig at h
  simp only [List.map_map] at h
  obtain ⟨⟨pc₀, ids⟩, hp, h⟩ := mem_outcomes_bind.mp h
  have hc := parseStorageArrays_current he hsa hd (List.Subset.refl _) hp
  split at h
  · cases h
  · obtain ⟨ha, hu⟩ := parseManagementServers_fields h
    constructor
    · refine Current.congr ⟨hc.stored, hc.users, ?_⟩ ha hu
      rintro s s' ⟨id, hid⟩ ⟨id', hid'⟩
      exact hd s s' (hc.configured hid) (hc.configured hid')
    · rw [has_congr (secretOf_congr ha)]
      exact fun id secret hid => hc.configured hid

end

end PowerMaxCsi.Proxy
