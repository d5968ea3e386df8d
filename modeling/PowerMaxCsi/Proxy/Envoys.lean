import PowerMaxCsi.Proxy.SecretConfig

/-!
# The envoys follow the configuration

`NewProxy` and `UpdateConfig` visit the arrays in any order, so here they are relations.  `Synced`:
the envoys are the ones of `ProxyConfig.arrayServer`.
-/

namespace PowerMaxCsi.Proxy

open Prog List Option AList StorageArrayServer ProxyConfig

namespace ProxyConfig

def serverFor (pc : ProxyConfig) (arrayID : String) (endpoint : URL) : Option ManagementServer :=
  (pc.managementServers.lookup endpoint).filter (arrayID ∈ ·.storageArrayIdentifiers)

def arrayServer (pc : ProxyConfig) (arrayID : String) : Option StorageArrayServer :=
  if ∃ server ∈ pc.managementServers.entries.map (·.2),
      arrayID ∈ server.storageArrayIdentifiers then
    (pc.managedArrays.lookup arrayID).map fun array =>
      ⟨array, (pc.serverFor arrayID array.primaryEndpoint).getD .zero,
        if array.secondaryEndpoint = array.primaryEndpoint then none
        else pc.serverFor arrayID array.secondaryEndpoint⟩
  else none

def ArraysAndServers (pc : ProxyConfig) (arrayServers : GoMap String StorageArrayServer) : Prop :=
  ∃ servers, servers.Perm (pc.managementServers.entries.map (·.2)) ∧
    pc.addServers servers ∅ = .ok arrayServers

/-- The servers are stored under their endpoints and list managed arrays. -/
structure Routed (pc : ProxyConfig) : Prop where
  keyed : pc.ServersKeyed
  arraysManaged : pc.ArraysManaged

def fresh (pc : ProxyConfig) (arrayID : String) : Option StorageArrayServer :=
  (pc.managedArrays.lookup arrayID).map (⟨·, .zero, none⟩)

end ProxyConfig

namespace StorageArrayServer

variable (arrayServer : StorageArrayServer)

@[simp] theorem array_add (server : ManagementServer) :
    (arrayServer.add server).array = arrayServer.array := by
  unfold add
  split
  · rfl
  · split <;> rfl

theorem add_add (server : ManagementServer) :
    (arrayServer.add server).add server = arrayServer.add server := by
  unfold add
  split
  · rfl
  · split <;> rfl

@[simp] theorem array_foldl_add (servers : List ManagementServer) :
    (servers.foldl add arrayServer).array = arrayServer.array := by
  induction servers generalizing arrayServer with
  | nil => rfl
  | cons server rest ih => rw [foldl_cons, ih, array_add]

/-- What is taken from an endpoint is taken from the server that was visited, if any. -/
theorem foldl_add_cases {β : Type} {f : StorageArrayServer → β} {g : ManagementServer → β} {url : URL}
    (ha : ∀ a server, a.array = arrayServer.array →
      f (add a server) = if server.endpoint = url then g server else f a)
    (servers : List ManagementServer) :
    (∃ server ∈ servers, server.endpoint = url ∧ f (servers.foldl add arrayServer) = g server) ∨
      (∀ server ∈ servers, server.endpoint ≠ url) ∧
        f (servers.foldl add arrayServer) = f arrayServer := by
  induction servers generalizing arrayServer with
  | nil => exact .inr ⟨fun _ h => absurd h not_mem_nil, rfl⟩
  | cons first rest ih =>
    rcases ih (arrayServer.add first) fun a server h => ha a server (h.trans (array_add ..)) with
      ⟨server, hs, he, heq⟩ | ⟨hn, heq⟩
    · exact .inl ⟨server, mem_cons_of_mem _ hs, he, heq⟩
    · rw [ha _ first rfl] at heq
      split at heq
      case isTrue hf => exact .inl ⟨first, mem_cons_self, hf, heq⟩
      case isFalse hf => exact .inr ⟨forall_mem_cons.mpr ⟨hf, hn⟩, heq⟩

theorem backupServer_foldl_add_same (servers : List ManagementServer)
    (heq : arrayServer.array.secondaryEndpoint = arrayServer.array.primaryEndpoint) :
    (servers.foldl add arrayServer).backupServer = arrayServer.backupServer := by
  induction servers generalizing arrayServer with
  | nil => rfl
  | cons first rest ih =>
    rw [foldl_cons, ih _ (by rw [array_add]; exact heq), add, heq]
    split
    · rfl
    · rfl

end StorageArrayServer

section

variable {pc : ProxyConfig} {arrayID : String}

theorem addServer_cons (server : ManagementServer) (first : String) (rest : List String)
    (m : GoMap String StorageArrayServer) :
    pc.addServer server (first :: rest) m =
      match (m.lookup first).or (pc.fresh first) with
      | none => .error .nilDereference
      | some arrayServer => pc.addServer server rest (m.insert first (arrayServer.add server)) := by
  rw [addServer]
  unfold fresh
  cases m.lookup first with
  | some arrayServer => rfl
  | none => cases pc.managedArrays.lookup first <;> rfl

variable {server : ManagementServer} {m : GoMap String StorageArrayServer}

theorem lookup_addServer {arrayIDs : List String} {m' : GoMap String StorageArrayServer}
    (h : pc.addServer server arrayIDs m = .ok m') :
    m'.lookup arrayID =
      if arrayID ∈ arrayIDs then ((m.lookup arrayID).or (pc.fresh arrayID)).map (·.add server)
      else m.lookup arrayID := by
  induction arrayIDs generalizing m with
  | nil =>
    cases h
    rfl
  | cons first rest ih =>
    rw [addServer_cons] at h
    split at h
    case h_1 => cases h
    case h_2 arrayServer hf =>
      rw [ih h]
      by_cases hid : arrayID = first
      · subst hid
        rw [lookup_insert, if_pos mem_cons_self, hf]
        split
        · exact congrArg some (arrayServer.add_add server)
        · rfl
      · simp [hid]

variable {servers : List ManagementServer}

theorem lookup_addServers {m' : GoMap String StorageArrayServer}
    (h : pc.addServers servers m = .ok m') :
    m'.lookup arrayID =
      if ∃ server ∈ servers, arrayID ∈ server.storageArrayIdentifiers then
        ((m.lookup arrayID).or (pc.fresh arrayID)).map
          ((servers.filter (arrayID ∈ ·.storageArrayIdentifiers)).foldl add ·)
      else m.lookup arrayID := by
  induction servers generalizing m with
  | nil =>
    cases h
    simp
  | cons first rest ih =>
    unfold addServers at h
    split at h
    case h_1 => cases h
    case h_2 m₁ hf =>
      rw [ih h, lookup_addServer hf]
      by_cases hmem : arrayID ∈ first.storageArrayIdentifiers
      · cases hst : (m.lookup arrayID).or (pc.fresh arrayID) with
        | none =>
          obtain ⟨-, hfr⟩ := or_eq_none_iff.mp hst
          simp [hmem, hfr]
        | some arrayServer =>
          simp only [hmem, mem_cons, exists_eq_or_imp, decide_true, filter_cons_of_pos]
          split
          · rfl
          case isFalse hr =>
            rw [filter_eq_nil_iff.mpr fun server hs hid =>
              hr ⟨server, hs, of_decide_eq_true hid⟩]
            rfl
      · simp [hmem]

theorem mem_servers_iff (hk : pc.ServersKeyed) :
    server ∈ pc.managementServers.entries.map (·.2) ↔
      pc.managementServers.lookup server.endpoint = some server := by
  constructor
  · intro hs
    obtain ⟨⟨url, _⟩, he, rfl⟩ := List.mem_map.mp hs
    have hl := mem_lookup_iff.mpr he
    rwa [← hk url _ hl] at hl
  · intro hl
    exact List.mem_map.mpr ⟨_, mem_lookup_iff.mp hl, rfl⟩

theorem serverFor_eq_some (hpc : pc.Routed)
    (hs : servers.Perm (pc.managementServers.entries.map (·.2))) {url : URL} :
    pc.serverFor arrayID url = some server ↔
      server ∈ servers.filter (arrayID ∈ ·.storageArrayIdentifiers) ∧ server.endpoint = url := by
  rw [serverFor, filter_eq_some_iff, mem_filter, hs.mem_iff, mem_servers_iff hpc.keyed]
  constructor
  · rintro ⟨hl, hid⟩
    obtain rfl := hpc.keyed url server hl
    exact ⟨⟨hl, hid⟩, rfl⟩
  · rintro ⟨⟨hl, hid⟩, rfl⟩
    exact ⟨hl, hid⟩

/-- **`GetManagedArraysAndServers`.**  Whatever the order, every array has its servers. -/
theorem lookup_arraysAndServers (hpc : pc.Routed)
    (hm : pc.ArraysAndServers m) : m.lookup arrayID = pc.arrayServer arrayID := by
  obtain ⟨servers, hse, ha⟩ := hm
  have hs (url : URL) (server : ManagementServer) : pc.serverFor arrayID url = some server ↔ _ :=
    serverFor_eq_some hpc hse
  have hn (url : URL)
      (h : ∀ server ∈ servers.filter (arrayID ∈ ·.storageArrayIdentifiers), server.endpoint ≠ url) :
      pc.serverFor arrayID url = none := by
    rw [eq_none_iff_forall_ne_some]
    intro server hso
    obtain ⟨hmem, hu⟩ := (hs url server).mp hso
    exact h server hmem hu
  rw [lookup_addServers ha]
  unfold arrayServer
  simp only [hse.mem_iff]
  split
  case isFalse => rfl
  rw [AList.lookup_empty, Option.none_or, fresh, Option.map_map]
  refine congrArg (Option.map · _) (funext fun array => ?_)
  set visited := servers.filter (arrayID ∈ ·.storageArrayIdentifiers)
  set start : StorageArrayServer := ⟨array, .zero, none⟩
  have hf {β : Type} {f : StorageArrayServer → β} {g : ManagementServer → β} (url : URL)
      (ha : ∀ a server, a.array = array →
        f (a.add server) = if server.endpoint = url then g server else f a) :
      f (visited.foldl add start) =
        (pc.serverFor arrayID url).elim (f start) g := by
    rcases start.foldl_add_cases ha visited with ⟨server, hmem, hu, heq⟩ | ⟨hno, heq⟩
    · rw [(hs _ server).mpr ⟨hmem, hu⟩]
      exact heq
    · rw [hn _ hno]
      exact heq
  have hp : (visited.foldl add start).primaryServer =
      (pc.serverFor arrayID array.primaryEndpoint).getD .zero := by
    rw [hf (f := primaryServer) (g := id) _ fun a server ha => ?_]
    · cases pc.serverFor arrayID array.primaryEndpoint <;> rfl
    · rw [add, ha]
      split
      · rfl
      · split <;> rfl
  have hb : (visited.foldl add start).backupServer =
      if array.secondaryEndpoint = array.primaryEndpoint then none
      else pc.serverFor arrayID array.secondaryEndpoint := by
    split
    case isTrue hsa => exact start.backupServer_foldl_add_same visited hsa
    case isFalse hne =>
      rw [hf (f := backupServer) (g := some) _ fun a server ha => ?_]
      · cases pc.serverFor arrayID array.secondaryEndpoint <;> rfl
      · rw [add, ha]
        split
        case isTrue hpr => rw [if_neg fun hse => hne (hse.symm.trans hpr)]
        case isFalse => split <;> rfl
  rw [← hp, ← hb]
  exact congrArg (StorageArrayServer.mk · _ _) (start.array_foldl_add visited)

theorem addServers_total (hpc : pc.Routed)
    (hs : servers.Perm (pc.managementServers.entries.map (·.2))) :
    ∃ m, pc.addServers servers ∅ = .ok m := by
  refine addServers_ok (fun server hse => ?_) ∅
  exact hpc.arraysManaged _ server ((mem_servers_iff hpc.keyed).mp (hs.mem_iff.mp hse))

end

/-- An envoy without the server that is active. -/
def Envoy.proxies (envoy : Envoy) : UnisphereProxy × Option UnisphereProxy :=
  (envoy.primary, envoy.backup)

def StorageArrayServer.proxies (serverArray : StorageArrayServer) :
    UnisphereProxy × Option UnisphereProxy :=
  (newReverseProxy serverArray.primaryServer, serverArray.backupServer.map newReverseProxy)

def ProxyConfig.envoys (pc : ProxyConfig) (arrayID : String) :
    Option (UnisphereProxy × Option UnisphereProxy) :=
  (pc.arrayServer arrayID).map (·.proxies)

def addEnvoy (arrayServers : GoMap String StorageArrayServer) (envoyMap : GoMap String Envoy)
    (arrayID : String) : GoMap String Envoy :=
  match arrayServers.lookup arrayID with
  | some serverArray => envoyMap.insert arrayID (newEnvoyClient serverArray)
  | none => envoyMap

def buildEnvoys (arrayServers : GoMap String StorageArrayServer) (order : List String) :
    GoMap String Envoy :=
  order.foldl (addEnvoy arrayServers) ∅

def NewProxy (proxyConfig : ProxyConfig) (p : ReverseProxy) : Prop :=
  p.config = proxyConfig ∧ ∃ arrayServers order, proxyConfig.ArraysAndServers arrayServers ∧
    arrayServers.Range order ∧ p.envoyMap = buildEnvoys arrayServers order

/-- `reflect.DeepEqual`, which does not see the order of the entries of a map. -/
def StorageArray.DeepEqual (array array' : StorageArray) : Prop :=
  array.storageArrayIdentifier = array'.storageArrayIdentifier ∧
    array.primaryEndpoint = array'.primaryEndpoint ∧
    array.secondaryEndpoint = array'.secondaryEndpoint ∧
    ∀ secretName, array.proxyCredentialSecrets.lookup secretName =
      array'.proxyCredentialSecrets.lookup secretName

@[inherit_doc StorageArray.DeepEqual]
structure ProxyConfig.DeepEqual (pc pc' : ProxyConfig) : Prop where
  port : pc.port = pc'.port
  managedArrays : ∀ arrayID, Option.Rel StorageArray.DeepEqual (pc.managedArrays.lookup arrayID)
    (pc'.managedArrays.lookup arrayID)
  managementServers : ∀ url, pc.managementServers.lookup url = pc'.managementServers.lookup url
  proxyCredentials : ∀ user, pc.proxyCredentials.lookup user = pc'.proxyCredentials.lookup user

namespace ReverseProxy

def addOrUpdate (old new : GoMap String StorageArrayServer) (envoyMap : GoMap String Envoy)
    (arrayID : String) : GoMap String Envoy :=
  match new.lookup arrayID with
  | some serverArray => updateArray old envoyMap arrayID serverArray
  | none => envoyMap

def updateArrays (old new : GoMap String StorageArrayServer) (order : List String)
    (envoyMap : GoMap String Envoy) : GoMap String Envoy :=
  order.foldl (addOrUpdate old new) envoyMap

def removeArray (new : GoMap String StorageArrayServer) (envoyMap : GoMap String Envoy)
    (arrayID : String) : GoMap String Envoy :=
  if arrayID ∈ new.keys then envoyMap else envoyMap.erase arrayID

def removeArrays (new : GoMap String StorageArrayServer) (order : List String)
    (envoyMap : GoMap String Envoy) : GoMap String Envoy :=
  order.foldl (removeArray new) envoyMap

/-- `UpdateConfig`, with the maps in any order.  Equal configurations need not be found equal. -/
inductive UpdateConfig (p : ReverseProxy) (proxyConfig : ProxyConfig) : ReverseProxy → Prop where
  | unchanged (hequal : p.config.DeepEqual proxyConfig) : UpdateConfig p proxyConfig p
  | changed {old new : GoMap String StorageArrayServer} {arrays removed : List String}
      (hold : p.config.ArraysAndServers old) (hnew : proxyConfig.ArraysAndServers new)
      (harrays : new.Range arrays) (hremoved : old.Range removed) :
      UpdateConfig p proxyConfig { p with
        config := proxyConfig
        envoyMap := removeArrays new removed (updateArrays old new arrays p.envoyMap) }

theorem updateConfig_of_eq_ok {p p' : ReverseProxy} {proxyConfig : ProxyConfig}
    (h : p.updateConfig proxyConfig = .ok p') : p.UpdateConfig proxyConfig p' := by
  unfold updateConfig at h
  split at h
  case h_1 => cases h
  case h_2 old hold =>
  split at h
  case h_1 => cases h
  case h_2 new hn =>
  cases h
  have ha : new.entries.foldl (fun m e => updateArray old m e.1 e.2) p.envoyMap =
      updateArrays old new new.keys p.envoyMap := by
    unfold updateArrays
    rw [show new.keys = new.entries.map (·.1) from rfl, foldl_map]
    refine foldl_ext _ _ _ fun m e he => ?_
    unfold addOrUpdate
    rw [mem_lookup_iff.mpr he]
  rw [ha]
  exact .changed ⟨_, .refl _, hold⟩ ⟨_, .refl _, hn⟩ (.refl _) (.refl _)

end ReverseProxy

section

open ReverseProxy

variable {old new : GoMap String StorageArrayServer} {order : List String} {arrayID : String}

theorem lookup_buildEnvoys (ho : new.Range order) :
    (buildEnvoys new order).lookup arrayID = (new.lookup arrayID).map newEnvoyClient := by
  refine (GoMap.lookup_foldl_range (g := fun serverArray _ => some (newEnvoyClient serverArray))
    (fun m arrayID arrayID' hne => ?_) ∅ ho fun serverArray m hl => ?_).trans ?_
  · unfold addEnvoy
    split
    · exact lookup_insert_ne hne
    · rfl
  · unfold addEnvoy
    rw [hl]
    exact lookup_insert _
  · cases new.lookup arrayID <;> rfl

def keepEnvoy (old : Option StorageArrayServer) (serverArray : StorageArrayServer)
    (envoy : Option Envoy) : Option Envoy :=
  match old with
  | none => some (newEnvoyClient serverArray)
  | some oldServerArray => envoy.map (·.follow oldServerArray serverArray)

theorem lookup_updateArray (m : GoMap String Envoy) (serverArray : StorageArrayServer) :
    (updateArray old m arrayID serverArray).lookup arrayID =
      keepEnvoy (old.lookup arrayID) serverArray (m.lookup arrayID) := by
  unfold updateArray keepEnvoy
  cases old.lookup arrayID with
  | none => exact lookup_insert _
  | some oldServerArray =>
    cases he : m.lookup arrayID with
    | none => exact he
    | some envoy => exact lookup_insert _

theorem lookup_updateArray_ne (m : GoMap String Envoy) (serverArray : StorageArrayServer)
    {arrayID' : String} (hne : arrayID' ≠ arrayID) :
    (updateArray old m arrayID serverArray).lookup arrayID' = m.lookup arrayID' := by
  unfold updateArray
  cases old.lookup arrayID with
  | none => exact lookup_insert_ne hne
  | some oldServerArray =>
    cases m.lookup arrayID with
    | none => rfl
    | some envoy => exact lookup_insert_ne hne

theorem lookup_updateArrays (ho : new.Range order) (m : GoMap String Envoy) :
    (updateArrays old new order m).lookup arrayID =
      (new.lookup arrayID).elim (m.lookup arrayID) fun serverArray =>
        keepEnvoy (old.lookup arrayID) serverArray (m.lookup arrayID) := by
  refine GoMap.lookup_foldl_range (g := fun serverArray => keepEnvoy (old.lookup arrayID) serverArray)
    (fun m arrayID arrayID' hne => ?_) m ho fun serverArray m hl => ?_
  · unfold addOrUpdate
    split
    · exact lookup_updateArray_ne m _ hne
    · rfl
  · unfold addOrUpdate
    rw [hl]
    exact lookup_updateArray m serverArray

theorem lookup_removeArrays (ho : old.Range order) (m : GoMap String Envoy) :
    (removeArrays new order m).lookup arrayID =
      if (old.lookup arrayID).isSome ∧ new.lookup arrayID = none then none
      else m.lookup arrayID := by
  have hk : arrayID ∈ new.keys ↔ new.lookup arrayID ≠ none := by
    rw [← AList.mem_keys, ← AList.lookup_isSome, Option.isSome_iff_ne_none]
  refine (GoMap.lookup_foldl_range
    (g := fun _ envoy => if new.lookup arrayID = none then none else envoy)
    (fun m arrayID arrayID' hne => ?_) m ho fun _ m _ => ?_).trans ?_
  · unfold removeArray
    split
    · rfl
    · exact lookup_erase_ne hne
  · unfold removeArray
    split
    case isTrue hmem => rw [if_neg (hk.mp hmem)]
    case isFalse hmem =>
      rw [if_pos (not_not.mp (mt hk.mpr hmem))]
      exact lookup_erase _ _
  · cases old.lookup arrayID <;> simp

end

/-! ## The envoys stay in step -/

theorem newReverseProxy_eq {oldServer newServer : ManagementServer}
    (h : hasServerChanged oldServer newServer = false) :
    newReverseProxy oldServer = newReverseProxy newServer := by
  simp only [hasServerChanged, Bool.or_eq_false_iff, decide_eq_false_iff_not,
    Decidable.not_not] at h
  obtain ⟨⟨⟨⟨⟨⟨he, hc⟩, -⟩, hl⟩, hs⟩, -⟩, -⟩ := h
  unfold newReverseProxy
  rw [he, hc, hl, hs]

theorem proxies_follow {envoy : Envoy} {old new : StorageArrayServer}
    (h : envoy.proxies = old.proxies) : (envoy.follow old new).proxies = new.proxies := by
  obtain ⟨hp, hb⟩ := Prod.mk.inj h
  refine Prod.ext ?_ ?_
  · show (if _ then _ else _) = _
    split
    · rfl
    · rename_i hc
      exact hp.trans (newReverseProxy_eq (eq_false_of_ne_true hc))
  · show (envoy.follow old new).backup = new.backupServer.map newReverseProxy
    unfold Envoy.follow
    rw [hb]
    cases old.backupServer with
    | none => cases new.backupServer <;> rfl
    | some oldServer =>
      cases new.backupServer with
      | none => rfl
      | some server =>
        simp only [map_some]
        split
        · rfl
        · rename_i hc
          rw [newReverseProxy_eq (eq_false_of_ne_true hc)]

/-- The envoys of the proxy are the ones that the configuration asks for. -/
def Synced (pc : ProxyConfig) (envoyMap : GoMap String Envoy) : Prop :=
  ∀ arrayID, (envoyMap.lookup arrayID).map Envoy.proxies = pc.envoys arrayID

variable {pc : ProxyConfig} {p : ReverseProxy} {configs : List ProxyConfig}

theorem synced_newProxy (hpc : pc.Routed) (hp : NewProxy pc p) : Synced pc p.envoyMap := by
  obtain ⟨-, arrayServers, order, hs, ho, he⟩ := hp
  intro arrayID
  rw [he, lookup_buildEnvoys ho, lookup_arraysAndServers hpc hs, Option.map_map]
  rfl

/-- **One update.**  Arrays that are new, gone or changed are brought up to date. -/
theorem Synced.update {pc' : ProxyConfig} (hpc : pc.Routed) (hpc' : pc'.Routed)
    {envoyMap : GoMap String Envoy} (h : Synced pc envoyMap)
    {old new : GoMap String StorageArrayServer} {arrays removed : List String}
    (hold : pc.ArraysAndServers old) (hne : pc'.ArraysAndServers new) (ha : new.Range arrays)
    (hr : old.Range removed) :
    Synced pc' (ReverseProxy.removeArrays new removed
      (ReverseProxy.updateArrays old new arrays envoyMap)) := by
  intro arrayID
  have he := h arrayID
  unfold envoys at he ⊢
  rw [← lookup_arraysAndServers hpc hold] at he
  rw [lookup_removeArrays hr, lookup_updateArrays ha, ← lookup_arraysAndServers hpc' hne]
  cases hn : new.lookup arrayID with
  | none =>
    cases ho : old.lookup arrayID with
    | none =>
      rw [ho] at he
      exact he
    | some oldServerArray => rfl
  | some serverArray =>
    cases ho : old.lookup arrayID with
    | none => rfl
    | some oldServerArray =>
      rw [ho] at he
      obtain ⟨envoy, hl, hp⟩ := map_eq_some_iff.mp he
      rw [hl]
      exact congrArg some (proxies_follow hp)

theorem ProxyConfig.DeepEqual.envoys_eq {pc' : ProxyConfig} (h : pc.DeepEqual pc')
    (arrayID : String) : pc.envoys arrayID = pc'.envoys arrayID := by
  have hse : pc.managementServers.entries.Perm pc'.managementServers.entries :=
    lookup_ext pc.managementServers.nodupKeys pc'.managementServers.nodupKeys
      fun url server => by rw [← AList.lookup, ← AList.lookup, h.managementServers url]
  have hser (endpoint : URL) : pc.serverFor arrayID endpoint = pc'.serverFor arrayID endpoint := by
    unfold serverFor
    rw [h.managementServers]
  unfold envoys arrayServer
  simp only [(hse.map _).mem_iff, hser]
  split
  case isFalse => rfl
  have ha := h.managedArrays arrayID
  cases hl : pc.managedArrays.lookup arrayID with
  | none =>
    rw [hl] at ha
    cases hl' : pc'.managedArrays.lookup arrayID with
    | none => rfl
    | some array' =>
      rw [hl'] at ha
      cases ha
  | some array =>
    rw [hl] at ha
    cases hl' : pc'.managedArrays.lookup arrayID with
    | none =>
      rw [hl'] at ha
      cases ha
    | some array' =>
      rw [hl'] at ha
      cases ha with
      | some he =>
        obtain ⟨-, hp, hs, -⟩ := he
        simp [proxies, hp, hs]

section

variable {parseURL : String → Except String URL} {ids : EndpointArrays} {pc : ProxyConfig}

theorem ProxyConfig.Routed.insert (hpc : pc.Routed)
    (hi : ids.Managed pc.managedArrays) {mgmtURL : URL} {server : ManagementServer}
    (he : server.endpoint = mgmtURL)
    (hs : server.storageArrayIdentifiers = (ids.lookup mgmtURL).getD []) :
    { pc with managementServers := pc.managementServers.insert mgmtURL server }.Routed :=
  ⟨hpc.keyed.insert he, hpc.arraysManaged.insert hi hs⟩

variable (parseURL) in
theorem parseSecretArrays_managed_ids (servers : List SecretServerConfig)
    (arrays : List StorageArrayConfig) (pc : ProxyConfig) (hi : ids.Managed pc.managedArrays) :
    (parseSecretArrays parseURL servers arrays (pc, ids)).2.Managed
        (parseSecretArrays parseURL servers arrays (pc, ids)).1.managedArrays ∧
      (parseSecretArrays parseURL servers arrays (pc, ids)).1.managementServers =
        pc.managementServers := by
  induction arrays generalizing pc ids with
  | nil => exact ⟨hi, rfl⟩
  | cons array rest ih =>
    rw [parseSecretArrays]
    split
    · exact ih pc hi
    case h_2 sa _ =>
      obtain ⟨ha, hs⟩ := onlyUsers_readServerCredentials
        { pc with managedArrays := pc.managedArrays.insert array.storageArrayID sa } servers array
      have hm : array.storageArrayID ∈ pc.managedArrays.insert array.storageArrayID sa :=
        (mem_insert _).mpr (.inl rfl)
      have hi' := ((hi.insert array.storageArrayID sa).add hm sa.primaryEndpoint).add
        hm sa.secondaryEndpoint
      obtain ⟨hp, hsa⟩ := ih _ (by rw [ha]; exact hi')
      exact ⟨hp, hsa.trans hs⟩

theorem parseSecretServers_routed {servers : List SecretServerConfig}
    (hpc : pc.Routed) (hi : ids.Managed pc.managedArrays) :
    Yields configAnswers (fun _ r => ∀ pc', r = .ok pc' → pc'.Routed) ()
      (parseSecretServers parseURL ids servers pc) := by
  induction servers generalizing pc with
  | nil =>
    intro pc' heq
    cases heq
    exact hpc
  | cons server rest ih =>
    unfold parseSecretServers
    split
    · intro pc' heq
      cases heq
    · refine (safeIn_true _).bind ?_
      rintro _ (err | certFile) -
      · intro pc' heq
        cases heq
      · exact ih (hpc.insert hi rfl rfl) hi

theorem parseConfigFromSecret_routed (port : String) (proxySecret : ProxySecret) :
    Yields configAnswers (fun _ r => ∀ pc, r = .ok pc → pc.Routed) ()
      (parseConfigFromSecret parseURL port proxySecret) := by
  have he : EndpointArrays.Managed ∅ (∅ : GoMap String StorageArray) := by
    simp [EndpointArrays.Managed]
  obtain ⟨hi, hs⟩ := parseSecretArrays_managed_ids parseURL
    proxySecret.managementServerConfig proxySecret.storageArrayConfig ⟨port, ∅, ∅, ∅⟩ he
  refine .ite (fun _ => ?_) fun _ => ?_
  · intro pc heq
    cases heq
  · refine (parseSecretServers_routed ⟨?_, ?_⟩ hi).bind ?_
    · intro url server hl
      rw [hs] at hl
      cases hl
    · intro url server hl
      rw [hs] at hl
      cases hl
    · rintro _ (err | pc) hpc
      · intro pc heq
        cases heq
      · refine ⟨trivial, fun order _ _ pc' heq => ?_⟩
        cases heq
        obtain ⟨ha, hs⟩ := OnlyUsers.foldl onlyUsers_addServerUsers order pc
        obtain ⟨hk, hm⟩ := hpc pc rfl
        constructor
        · unfold ServersKeyed
          rw [hs]
          exact hk
        · unfold ArraysManaged
          rw [hs, ha]
          exact hm

variable (parseURL) in
/-- The configuration was produced by the parser. -/
inductive Parsed (pc : ProxyConfig) : Prop where
  | fromConfigMap {proxyConfigMap : ProxyConfigMap}
      (h : CanReturn configAnswers () (parseConfig parseURL proxyConfigMap) () (.ok pc))
  | fromSecret {port : String} {proxySecret : ProxySecret}
      (h : CanReturn configAnswers () (parseConfigFromSecret parseURL port proxySecret) () (.ok pc))

theorem Parsed.routed (h : Parsed parseURL pc) : pc.Routed := by
  cases h with
  | fromConfigMap h =>
    obtain ⟨hw, hk⟩ := (parseConfig_spec _).canReturn h pc rfl
    exact ⟨hk, hw.arraysManaged⟩
  | fromSecret h => exact (parseConfigFromSecret_routed _ _).canReturn h pc rfl

end

/-- `NewProxy` on the first configuration and `UpdateConfig` on the others; `healthHandler` may
change the active server in between. -/
inductive FollowsConfigs : List ProxyConfig → ReverseProxy → Prop where
  | newProxy {pc : ProxyConfig} {p : ReverseProxy} (hp : NewProxy pc p) : FollowsConfigs [pc] p
  | updateConfig {configs : List ProxyConfig} {p p' : ReverseProxy} {pc : ProxyConfig}
      (hp : FollowsConfigs configs p) (hp' : p.UpdateConfig pc p') :
      FollowsConfigs (configs ++ [pc]) p'
  | healthHandler {configs : List ProxyConfig} {p : ReverseProxy} {arrayID : String} {envoy : Envoy}
      (hp : FollowsConfigs configs p) (henvoy : p.envoyMap.lookup arrayID = some envoy) :
      FollowsConfigs configs { p with
        envoyMap := p.envoyMap.insert arrayID { envoy with onBackup := !envoy.onBackup } }

theorem Synced.healthHandler {envoyMap : GoMap String Envoy}
    (h : Synced pc envoyMap) {arrayID : String} {envoy : Envoy}
    (he : envoyMap.lookup arrayID = some envoy) :
    Synced pc (envoyMap.insert arrayID { envoy with onBackup := !envoy.onBackup }) := by
  intro id
  by_cases hid : id = arrayID
  · subst hid
    rw [lookup_insert, ← h id, he]
    rfl
  · rw [lookup_insert_ne hid]
    exact h id

/-- **Runs.**  The envoys are those of the last configuration. -/
theorem FollowsConfigs.synced (h : FollowsConfigs configs p) (hc : ∀ pc ∈ configs, pc.Routed) :
    p.config.Routed ∧ Synced p.config p.envoyMap ∧
      ∃ pc, configs.getLast? = some pc ∧ ∀ arrayID, p.config.envoys arrayID = pc.envoys arrayID := by
  induction h with
  | newProxy hp =>
    have hpc := hc _ mem_cons_self
    rw [hp.1]
    exact ⟨hpc, synced_newProxy hpc hp, _, rfl, fun _ => rfl⟩
  | @updateConfig configs p p' pc hp hp' ih =>
    obtain ⟨hco, hs, -⟩ := ih fun pc hpc => hc pc (mem_append_left _ hpc)
    have hpc := hc pc (mem_append_right _ mem_cons_self)
    cases hp' with
    | unchanged he =>
      exact ⟨hco, hs, pc, List.getLast?_concat, he.envoys_eq⟩
    | changed hold hn ha hr =>
      exact ⟨hpc, hs.update hco hpc hold hn ha hr, pc, List.getLast?_concat, fun _ => rfl⟩
  | healthHandler hp hen ih =>
    obtain ⟨hco, hs, hl⟩ := ih hc
    exact ⟨hco, hs.healthHandler hen, hl⟩

theorem exists_newProxy (hpc : pc.Routed) : ∃ p, NewProxy pc p := by
  obtain ⟨m, hm⟩ := addServers_total hpc (.refl _)
  exact ⟨⟨false, pc, buildEnvoys m m.keys, ""⟩, rfl, m, m.keys, ⟨_, .refl _, hm⟩, .refl _, rfl⟩

theorem FollowsConfigs.exists_updateConfig
    (h : FollowsConfigs configs p) (hc : ∀ pc ∈ configs, pc.Routed)
    (hpc : pc.Routed) : ∃ p', FollowsConfigs (configs ++ [pc]) p' := by
  obtain ⟨hco, -⟩ := h.synced hc
  obtain ⟨p', hp', -⟩ := updateConfig_ok hco.arraysManaged hpc.arraysManaged
  exact ⟨p', h.updateConfig (ReverseProxy.updateConfig_of_eq_ok hp')⟩

/-- **The envoys follow the configuration.**  They are the ones that `NewProxy` builds from the last
one, up to which server is active. -/
theorem FollowsConfigs.envoys_eq_newProxy (parseURL : String → Except String URL)
    (h : FollowsConfigs configs p) (hp : ∀ pc ∈ configs, Parsed parseURL pc) :
    ∃ pc, configs.getLast? = some pc ∧ (∃ q, NewProxy pc q) ∧ ∀ q, NewProxy pc q →
      ∀ arrayID, (p.envoyMap.lookup arrayID).map Envoy.proxies =
        (q.envoyMap.lookup arrayID).map Envoy.proxies := by
  obtain ⟨-, hs, pc, hl, he⟩ := h.synced fun pc hpc => (hp pc hpc).routed
  have hpc := (hp pc (mem_of_getLast? hl)).routed
  refine ⟨pc, hl, exists_newProxy hpc, fun q hq arrayID => ?_⟩
  rw [hs arrayID, he arrayID, synced_newProxy hpc hq arrayID]

/-! An array moves to another Unisphere. -/

namespace MovedArray

def asHost (endpoint : String) : Except String URL := .ok ⟨"https", endpoint, ""⟩

def configAt (endpoint : String) : ProxyConfigMap :=
  ⟨"2222", some ⟨[⟨"000197900046", endpoint, "", []⟩], [⟨endpoint, "", true, "", ⟨4, 4, 4, 4⟩⟩]⟩⟩

def run : History ConfigCall ConfigAnswer := [⟨.range [], []⟩]

def parsedAt (endpoint : String) : Option ProxyConfig :=
  (((parseConfig asHost (configAt endpoint)).follow run).bind result).bind Except.toOption

theorem parsed_of_parsedAt {endpoint : String} (h : parsedAt endpoint = some pc) :
    Parsed asHost pc := by
  obtain ⟨r, hr, hok⟩ := bind_eq_some_iff.mp h
  obtain rfl : r = .ok pc := by
    cases r with
    | error err => cases hok
    | ok pc' => exact congrArg Except.ok (some.inj hok)
  exact .fromConfigMap ⟨run, .cons (.refl _) .nil, exec_of_follow hr⟩

theorem parsedAt_envoys : (parsedAt "unisphere-1").any (fun pc =>
      pc.envoys "000197900046" =
        some (⟨⟨"https", "unisphere-1", ""⟩, ⟨4, 4, 4, 4⟩, true, ""⟩, none)) = true ∧
    (parsedAt "unisphere-2").any (fun pc =>
      pc.envoys "000197900046" =
        some (⟨⟨"https", "unisphere-2", ""⟩, ⟨4, 4, 4, 4⟩, true, ""⟩, none)) = true := by
  decide +kernel

end MovedArray

open MovedArray
theorem FollowsConfigs.envoys_eq_newProxy_moved : ∃ first last p,
    parsedAt "unisphere-1" = some first ∧ parsedAt "unisphere-2" = some last ∧
      FollowsConfigs [first, last] p ∧ (∃ q, NewProxy last q) ∧ ∀ q, NewProxy last q →
        ∀ arrayID, (p.envoyMap.lookup arrayID).map Envoy.proxies =
          (q.envoyMap.lookup arrayID).map Envoy.proxies := by
  obtain ⟨first, hf, -⟩ := (any_eq_true _ _).mp parsedAt_envoys.1
  obtain ⟨last, hl, -⟩ := (any_eq_true _ _).mp parsedAt_envoys.2
  have hpa : ∀ pc ∈ [first, last], Parsed asHost pc := by
    intro pc hpc
    rcases mem_pair.mp hpc with rfl | rfl
    · exact parsed_of_parsedAt hf
    · exact parsed_of_parsedAt hl
  obtain ⟨p₀, hp₀⟩ := exists_newProxy (hpa first mem_cons_self).routed
  obtain ⟨p, hp⟩ := (FollowsConfigs.newProxy hp₀).exists_updateConfig
    (fun pc hpc => (hpa pc (mem_cons.mpr (.inl (mem_singleton.mp hpc)))).routed)
    (hpa last (mem_cons_of_mem _ mem_cons_self)).routed
  obtain ⟨pc, hpc, he⟩ := FollowsConfigs.envoys_eq_newProxy asHost hp hpa
  cases hpc
  exact ⟨first, last, p, hf, hl, hp, he⟩

end PowerMaxCsi.Proxy
