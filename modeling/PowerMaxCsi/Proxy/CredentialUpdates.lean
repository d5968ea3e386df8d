import PowerMaxCsi.Proxy.ProxyUsers
import PowerMaxCsi.Proxy.SecretEvents

/-!
# Updates of the credentials

At each array that has the secret, `UpdateCreds` and `UpdateCertsAndCredentials` move the entry in
`proxyCredentials` to the new user name; a second array finds it gone.  `Moving` is the invariant of
the loop.
-/

namespace PowerMaxCsi.Proxy

open Prog Function List Option AList ProxyConfig

namespace ProxyConfig

/-- The loop of `UpdateCertsAndCredentials` over the servers; the error that ends it, if any.
`certFile` is that of `GetCertFileFromSecret`. -/
def updateServersFromSecret (secret : Secret) (certFile : URL → Except String String) :
    List URL → ProxyConfig × Bool → ProxyConfig × Bool × Option String
  | [], (pc, hasChanged) => (pc, hasChanged, none)
  | url :: order, (pc, hasChanged) =>
    match pc.managementServers.lookup url with
    | none => updateServersFromSecret secret certFile order (pc, hasChanged)
    | some server =>
      if server.credentialSecret = secret.name then
        match getCredentialFromSecret secret with
        | .error err => (pc, hasChanged, some err)
        | .ok credentials =>
          if server.credentials ≠ credentials then
            updateServersFromSecret secret certFile order
              ({ pc with managementServers :=
                  pc.managementServers.insert url { server with credentials := credentials } },
                true)
          else updateServersFromSecret secret certFile order (pc, hasChanged)
      else if server.certSecret = secret.name then
        match certFile url with
        | .error err => (pc, hasChanged, some err)
        | .ok certFile' =>
          updateServersFromSecret secret certFile order
            ({ pc with managementServers :=
                pc.managementServers.insert url { server with certFile := certFile' } }, true)
      else updateServersFromSecret secret certFile order (pc, hasChanged)

/-- The loop of `UpdateCertsAndCredentials` over the arrays does what `UpdateCreds` does. -/
def updateArraysFromSecret (secret : Secret) :
    List String → ProxyConfig × Bool → Except Crash (ProxyConfig × Bool × Option String)
  | [], (pc, hasChanged) => .ok (pc, hasChanged, none)
  | arrayID :: order, (pc, hasChanged) =>
    match pc.managedArrays.lookup arrayID with
    | none => updateArraysFromSecret secret order (pc, hasChanged)
    | some array =>
      if (array.proxySecret secret.name).credentialSecret = secret.name then
        match getCredentialFromSecret secret with
        | .error err => .ok (pc, hasChanged, some err)
        | .ok credentials =>
          match updateArrayCreds secret.name credentials arrayID (pc, hasChanged) with
          | .error crash => .error crash
          | .ok s => updateArraysFromSecret secret order s
      else updateArraysFromSecret secret order (pc, hasChanged)

/-- `UpdateCertsAndCredentials`: the configuration, whether it has changed, and the error. -/
def updateCertsAndCredentials (pc : ProxyConfig) (secret : Secret)
    (certFile : URL → Except String String) (servers : List URL) (arrays : List String) :
    Except Crash (ProxyConfig × Bool × Option String) :=
  match updateServersFromSecret secret certFile servers (pc, false) with
  | (pc, hasChanged, some err) => .ok (pc, hasChanged, some err)
  | (pc, hasChanged, none) => updateArraysFromSecret secret arrays (pc, hasChanged)

theorem updateServersFromSecret_fields (secret : Secret) (certFile : URL → Except String String)
    (order : List URL) (pc : ProxyConfig) (hasChanged : Bool) :
    (updateServersFromSecret secret certFile order (pc, hasChanged)).1.managedArrays =
        pc.managedArrays ∧
      (updateServersFromSecret secret certFile order (pc, hasChanged)).1.proxyCredentials =
        pc.proxyCredentials := by
  induction order generalizing pc hasChanged with
  | nil => exact ⟨rfl, rfl⟩
  | cons url order ih =>
    unfold updateServersFromSecret
    split
    · exact ih pc hasChanged
    · split
      · split
        · exact ⟨rfl, rfl⟩
        · split
          · exact ih _ true
          · exact ih pc hasChanged
      · split
        · split
          · exact ⟨rfl, rfl⟩
          · exact ih _ true
        · exact ih pc hasChanged

theorem updateArraysFromSecret_of_error {secret : Secret} {err : String}
    (he : getCredentialFromSecret secret = .error err) (order : List String) (pc : ProxyConfig)
    (hasChanged : Bool) :
    ∃ err', updateArraysFromSecret secret order (pc, hasChanged) = .ok (pc, hasChanged, err') := by
  induction order with
  | nil => exact ⟨none, rfl⟩
  | cons arrayID order ih =>
    unfold updateArraysFromSecret
    split
    · exact ih
    · split
      · rw [he]
        exact ⟨some err, rfl⟩
      · exact ih

theorem updateArraysFromSecret_of_ok {secret : Secret} {creds : Credentials}
    (hc : getCredentialFromSecret secret = .ok creds) (order : List String)
    (s : ProxyConfig × Bool) :
    updateArraysFromSecret secret order s =
      (updateArraysCreds secret.name creds order s).map fun s => (s.1, s.2, none) := by
  obtain ⟨pc, hasChanged⟩ := s
  induction order generalizing pc hasChanged with
  | nil => rfl
  | cons arrayID order ih =>
    unfold updateArraysFromSecret updateArraysCreds
    simp only [hc]
    cases hl : pc.managedArrays.lookup arrayID with
    | none =>
      simp only [updateArrayCreds, hl]
      exact ih pc hasChanged
    | some array =>
      simp only
      split
      case isTrue hs =>
        cases updateArrayCreds secret.name creds arrayID (pc, hasChanged) with
        | error crash => rfl
        | ok s => exact ih s.1 s.2
      case isFalse hs =>
        simp only [updateArrayCreds, hl, if_neg hs]
        exact ih pc hasChanged

end ProxyConfig

section

variable {pc : ProxyConfig} {secretName : String} {creds : Credentials} {arrayID : String}

theorem updateArrayCreds_same (hn : secretName ≠ "")
    (h : ∀ stored, pc.secretOf arrayID secretName = some stored → stored.credentials = creds)
    (isUpdated : Bool) :
    updateArrayCreds secretName creds arrayID (pc, isUpdated) = .ok (pc, isUpdated) := by
  unfold updateArrayCreds
  simp only
  unfold secretOf at h
  split
  case h_1 => rfl
  case h_2 array hl =>
    rw [hl] at h
    unfold StorageArray.proxySecret
    cases hs : array.proxyCredentialSecrets.lookup secretName with
    | none => rw [getD_none, if_neg hn.symm]
    | some stored =>
      rw [getD_some, h stored hs]
      split
      · rw [if_neg (not_not_intro rfl)]
      · rfl

theorem updateArraysCreds_same (hn : secretName ≠ "")
    (h : ∀ id stored, pc.secretOf id secretName = some stored → stored.credentials = creds)
    (order : List String) (isUpdated : Bool) :
    updateArraysCreds secretName creds order (pc, isUpdated) = .ok (pc, isUpdated) := by
  induction order with
  | nil => rfl
  | cons arrayID order ih =>
    unfold updateArraysCreds
    rw [updateArrayCreds_same hn (h arrayID)]
    exact ih

theorem updateArrayCreds_move {old : Credentials} {proxyUser : ProxyUser}
    (hs : pc.secretOf arrayID secretName = some ⟨old, secretName⟩) (hne : old ≠ creds)
    (hu : pc.proxyCredentials.lookup old.userName = some proxyUser) (isUpdated : Bool) :
    ∃ pc', updateArrayCreds secretName creds arrayID (pc, isUpdated) =
        .ok (pc', true) ∧
      pc'.proxyCredentials = (pc.proxyCredentials.erase old.userName).insert creds.userName
        ⟨proxyUser.storageArrayIdentifiers, creds⟩ ∧
      pc'.secretOf arrayID secretName = some ⟨creds, secretName⟩ ∧
      ∀ id secret, id ≠ arrayID ∨ secret ≠ secretName →
        pc'.secretOf id secret = pc.secretOf id secret := by
  obtain ⟨array, hl, hse⟩ := bind_eq_some_iff.mp hs
  have hp := proxySecret_eq hse
  have hn : (array.proxySecret secretName).credentialSecret = secretName := by rw [hp]
  have hc : (array.proxySecret secretName).credentials ≠ creds := by rwa [hp]
  simp only [updateArrayCreds, hl]
  rw [if_pos hn, if_pos hc, hp, hu]
  refine ⟨_, rfl, rfl, ?_, fun id secret ho => ?_⟩
  · unfold secretOf
    rw [lookup_insert]
    exact lookup_insert _
  · unfold secretOf
    by_cases hid : id = arrayID
    · subst hid
      rw [lookup_insert, hl]
      exact lookup_insert_ne (ho.resolve_left (not_not_intro rfl))
    · rw [lookup_insert_ne hid]

end

theorem UsersOf.move {users : GoMap String ProxyUser} {latest : String → Credentials}
    {has : String → String → Prop} (h : UsersOf users latest has)
    (hd : DistinctUsers latest fun secret => ∃ id, has id secret) {secretName id : String}
    (hid : has id secretName) {creds : Credentials}
    (hnew : ∀ secret, secret ≠ secretName → (∃ id, has id secret) →
      (latest secret).userName ≠ creds.userName) {proxyUser : ProxyUser}
    (hi : ∀ id, id ∈ proxyUser.storageArrayIdentifiers ↔ has id secretName) :
    UsersOf ((users.erase (latest secretName).userName).insert creds.userName
      ⟨proxyUser.storageArrayIdentifiers, creds⟩) (update latest secretName creds) has where
  known id' secret hid' := by
    rw [mem_insert, mem_erase]
    by_cases heq : secret = secretName
    · subst heq
      rw [update_self]
      exact .inl rfl
    · rw [update_of_ne heq]
      refine .inr ⟨fun hu => heq ?_, h.known id' secret hid'⟩
      exact hd secret secretName ⟨id', hid'⟩ ⟨id, hid⟩ hu
  granted user entry hl := by
    by_cases hu : user = creds.userName
    · subst hu
      rw [lookup_insert] at hl
      cases hl
      refine ⟨secretName, ⟨id, hid⟩, ?_, ?_, hi⟩
      · rw [update_self]
      · rw [update_self]
    · rw [lookup_insert_ne hu] at hl
      have hold : user ≠ (latest secretName).userName := by
        rintro rfl
        rw [lookup_erase] at hl
        cases hl
      rw [lookup_erase_ne hold] at hl
      obtain ⟨secret, hs, hc, hn, hi'⟩ := h.granted user entry hl
      have hne : secret ≠ secretName := by
        rintro rfl
        exact hold hn.symm
      refine ⟨secret, hs, ?_, ?_, hi'⟩
      · rw [update_of_ne hne]
        exact hc
      · rw [update_of_ne hne]
        exact hn

theorem DistinctUsers.update {latest : String → Credentials} {P : String → Prop}
    (h : DistinctUsers latest P) {secretName : String} {creds : Credentials}
    (hn : ∀ secret, secret ≠ secretName → P secret → (latest secret).userName ≠ creds.userName) :
    DistinctUsers (update latest secretName creds) P := by
  intro secret secret' hs hs' heq
  by_cases hse : secret = secretName
  · subst hse
    by_cases hse' : secret' = secret
    · exact hse'.symm
    · rw [update_self, update_of_ne hse'] at heq
      exact absurd heq.symm (hn secret' hse' hs')
  · rw [update_of_ne hse] at heq
    by_cases hse' : secret' = secretName
    · subst hse'
      rw [update_self] at heq
      exact absurd heq (hn secret hse hs)
    · rw [update_of_ne hse'] at heq
      exact h secret secret' hs hs' heq

section

variable {latest : String → Credentials} {secretName : String} {creds : Credentials}

variable (latest secretName creds) in
/-- The arrays in `visited` that have the secret have its new credentials, and the user is moved as
soon as there is one. -/
structure Moving (visited : List String) (pc : ProxyConfig) : Prop where
  new : ∀ id ∈ visited, pc.Has id secretName → pc.secretOf id secretName = some ⟨creds, secretName⟩
  old : ∀ id secret stored, id ∉ visited ∨ secret ≠ secretName →
    pc.secretOf id secret = some stored → stored = ⟨latest secret, secret⟩
  users : UsersOf pc.proxyCredentials
    (if ∃ id ∈ visited, pc.Has id secretName then update latest secretName creds
      else latest) pc.Has

/-- The user name of the secret stays, or one array at most has the secret. -/
def ProxyConfig.Movable (pc : ProxyConfig) (secretName : String) (old creds : Credentials) : Prop :=
  creds.userName ≠ old.userName → ∀ id id', pc.Has id secretName → pc.Has id' secretName → id = id'

variable {pc : ProxyConfig} {visited : List String}

variable (latest secretName creds) in
/-- The credentials are new, no other secret has their user name, and the entry can be moved. -/
structure Replaces (pc : ProxyConfig) : Prop where
  named : secretName ≠ ""
  changed : latest secretName ≠ creds
  distinct : DistinctUsers latest fun secret => ∃ id, pc.Has id secret
  fresh : ∀ secret, secret ≠ secretName → (∃ id, pc.Has id secret) →
    (latest secret).userName ≠ creds.userName
  movable : pc.Movable secretName (latest secretName) creds

theorem Replaces.congr {pc' : ProxyConfig} (h : Replaces latest secretName creds pc)
    (hh : pc'.Has = pc.Has) : Replaces latest secretName creds pc' := by
  refine ⟨h.named, h.changed, hh ▸ h.distinct, hh ▸ h.fresh, ?_⟩
  unfold Movable
  exact hh ▸ h.movable

theorem Moving.visit (h : Moving latest secretName creds visited pc)
    (hr : Replaces latest secretName creds pc) {arrayID : String} (ha : arrayID ∉ visited)
    (isUpdated : Bool) :
    ∃ pc' isUpdated', updateArrayCreds secretName creds arrayID (pc, isUpdated) =
        .ok (pc', isUpdated') ∧
      pc'.Has = pc.Has ∧ Moving latest secretName creds (visited ++ [arrayID]) pc' := by
  obtain ⟨hn, hc, hd, hnew, hmo⟩ := hr
  by_cases hh : pc.Has arrayID secretName
  case neg =>
    have hno : pc.secretOf arrayID secretName = none := not_isSome_iff_eq_none.mp hh
    refine ⟨pc, isUpdated, updateArrayCreds_same hn (fun stored hs => ?_) _, rfl, ?_, ?_, ?_⟩
    · rw [hno] at hs
      cases hs
    · intro id hid hh'
      rcases mem_append.mp hid with hid | hid
      · exact h.new id hid hh'
      · rw [mem_singleton.mp hid] at hh'
        exact absurd hh' hh
    · intro id secret stored hold
      refine h.old id secret stored (hold.imp_left fun hid hv => hid ?_)
      exact mem_append_left _ hv
    · have hso : (∃ id ∈ visited ++ [arrayID], pc.Has id secretName) ↔
          ∃ id ∈ visited, pc.Has id secretName := by
        simp [or_iff_left hh]
      simp only [hso]
      exact h.users
  case pos =>
    obtain ⟨stored, hs⟩ := isSome_iff_exists.mp hh
    obtain rfl := h.old arrayID secretName stored (.inl ha) hs
    -- the entry is under the old user name, also if it was moved before
    obtain ⟨proxyUser, hus, hi, hm⟩ : ∃ proxyUser,
        pc.proxyCredentials.lookup (latest secretName).userName = some proxyUser ∧
        (∀ id, id ∈ proxyUser.storageArrayIdentifiers ↔ pc.Has id secretName) ∧
        UsersOf ((pc.proxyCredentials.erase (latest secretName).userName).insert creds.userName
          ⟨proxyUser.storageArrayIdentifiers, creds⟩) (update latest secretName creds)
          pc.Has := by
      have hu := h.users
      split at hu
      case isFalse =>
        obtain ⟨proxyUser, hl, -, hi⟩ := hu.lookup hd hh
        exact ⟨proxyUser, hl, hi, hu.move hd hh hnew hi⟩
      case isTrue hso =>
        obtain ⟨id, hid, hid'⟩ := hso
        have hsa : creds.userName = (latest secretName).userName := by
          by_contra hne
          exact ha (hmo hne id arrayID hid' hh ▸ hid)
        have hd' := hd.update hnew
        obtain ⟨proxyUser, hl, -, hi⟩ := hu.lookup hd' hh
        have hnew' : ∀ secret, secret ≠ secretName → (∃ id, pc.Has id secret) →
            (update latest secretName creds secret).userName ≠ creds.userName := by
          intro secret hse
          rw [update_of_ne hse]
          exact hnew secret hse
        have hm := hu.move hd' hh hnew' hi
        rw [update_self] at hl hm
        rw [update_idem] at hm
        rw [← hsa]
        exact ⟨proxyUser, hl, hi, hsa ▸ hm⟩
    obtain ⟨pc', hst, hu', how, ho⟩ := updateArrayCreds_move hs hc hus isUpdated
    have hh' : pc'.Has = pc.Has := by
      funext id secret
      by_cases heq : id = arrayID ∧ secret = secretName
      · obtain ⟨rfl, rfl⟩ := heq
        rw [Has, Has, how, hs]
        rfl
      · rw [Has, Has, ho id secret (not_and_or.mp heq)]
    refine ⟨pc', true, hst, hh', ?_, ?_, ?_⟩
    · intro id hid hid'
      by_cases heq : id = arrayID
      · rw [heq]
        exact how
      · rw [ho id secretName (.inl heq)]
        rcases mem_append.mp hid with hid | hid
        · exact h.new id hid (hh' ▸ hid')
        · exact absurd (mem_singleton.mp hid) heq
    · intro id secret stored hold hs'
      have hold' : id ∉ visited ∨ secret ≠ secretName :=
        hold.imp_left fun hid hv => hid (mem_append_left _ hv)
      refine h.old id secret stored hold' ?_
      rw [← ho id secret ?_]
      · exact hs'
      · refine hold.imp_left fun hid heq => hid ?_
        exact mem_append_right _ (mem_singleton.mpr heq)
    · have hso : ∃ id ∈ visited ++ [arrayID], pc'.Has id secretName :=
        ⟨arrayID, mem_append_right _ mem_cons_self, hh' ▸ hh⟩
      rw [if_pos hso, hu', hh']
      exact hm

variable {order : List String}

theorem Moving.visitAll (h : Moving latest secretName creds visited pc)
    (hr : Replaces latest secretName creds pc) (hn : (visited ++ order).Nodup) (isUpdated : Bool) :
    ∃ pc' isUpdated', updateArraysCreds secretName creds order (pc, isUpdated) =
        .ok (pc', isUpdated') ∧
      pc'.Has = pc.Has ∧ Moving latest secretName creds (visited ++ order) pc' := by
  induction order generalizing pc isUpdated visited with
  | nil =>
    rw [append_nil]
    exact ⟨pc, isUpdated, rfl, rfl, h⟩
  | cons arrayID order ih =>
    have ha : arrayID ∉ visited := fun hmem =>
      (nodup_append.mp hn).2.2 arrayID hmem arrayID mem_cons_self rfl
    obtain ⟨pc₁, isUpdated₁, hst, hh₁, h₁⟩ := h.visit hr ha isUpdated
    rw [append_cons] at hn ⊢
    obtain ⟨pc', isUpdated', hl, hh', h'⟩ := ih h₁ (hr.congr hh₁) hn isUpdated₁
    refine ⟨pc', isUpdated', ?_, hh'.trans hh₁, h'⟩
    unfold updateArraysCreds
    rw [hst]
    exact hl

theorem Moving.start (h : pc.Current latest) : Moving latest secretName creds [] pc where
  new _ hid := absurd hid not_mem_nil
  old id secret stored _ := h.stored id secret stored
  users := by
    rw [if_neg fun ⟨_, hid, _⟩ => not_mem_nil hid]
    exact h.users

theorem Moving.finish (h : Moving latest secretName creds visited pc)
    (ha : ∀ id, pc.Has id secretName → id ∈ visited)
    (hd : DistinctUsers (update latest secretName creds) fun secret => ∃ id, pc.Has id secret) :
    pc.Current (update latest secretName creds) where
  stored id secret stored hs := by
    by_cases heq : secret = secretName
    · subst heq
      have hh : pc.Has id secret := isSome_iff_exists.mpr ⟨stored, hs⟩
      rw [h.new id (ha id hh) hh] at hs
      rw [update_self]
      exact (some.inj hs).symm
    · rw [update_of_ne heq]
      exact h.old id secret stored (.inr heq) hs
  users := by
    have hu := h.users
    split at hu
    case isTrue => exact hu
    case isFalse hn =>
      refine hu.congr (fun _ _ => Iff.rfl) fun id secret hid => ?_
      rw [update_of_ne]
      rintro rfl
      exact hn ⟨id, ha id hid, hid⟩
  distinct := hd

/-- **`UpdateCreds`, over the arrays.**  Arrays and users get the new credentials. -/
theorem updateArraysCreds_current (h : pc.Current latest) (hn : secretName ≠ "")
    (hd : DistinctUsers (update latest secretName creds) fun secret => ∃ id, pc.Has id secret)
    (hmo : pc.Movable secretName (latest secretName) creds)
    (ho : pc.managedArrays.Range order) (isUpdated : Bool) :
    ∃ pc' isUpdated', updateArraysCreds secretName creds order (pc, isUpdated) =
        .ok (pc', isUpdated') ∧
      pc'.Has = pc.Has ∧ pc'.Current (update latest secretName creds) := by
  by_cases hm : latest secretName ≠ creds ∧ ∃ id, pc.Has id secretName
  case neg =>
    have hsa : ∀ id stored, pc.secretOf id secretName = some stored →
        stored.credentials = creds := by
      intro id stored hs
      have hh : pc.Has id secretName := isSome_iff_exists.mpr ⟨stored, hs⟩
      obtain rfl := h.stored id secretName stored hs
      by_contra hne
      exact hm ⟨hne, id, hh⟩
    have hl : ∀ id secret, pc.Has id secret →
        latest secret = update latest secretName creds secret := by
      intro id secret hid
      by_cases heq : secret = secretName
      · subst heq
        rw [update_self]
        by_contra hne
        exact hm ⟨hne, id, hid⟩
      · rw [update_of_ne heq]
    refine ⟨pc, isUpdated, updateArraysCreds_same hn hsa order isUpdated, rfl, ?_⟩
    refine ⟨fun id secret stored hs => ?_, h.users.congr (fun _ _ => Iff.rfl) hl, hd⟩
    rw [← hl id secret (isSome_iff_exists.mpr ⟨stored, hs⟩)]
    exact h.stored id secret stored hs
  case pos =>
    obtain ⟨hch, hc⟩ := hm
    have hnew : ∀ secret, secret ≠ secretName → (∃ id, pc.Has id secret) →
        (latest secret).userName ≠ creds.userName := by
      intro secret hne hse hu
      refine hne (hd secret secretName hse hc ?_)
      rw [update_of_ne hne, update_self]
      exact hu
    obtain ⟨pc', isUpdated', hlo, hh, hmov⟩ :=
      (Moving.start h).visitAll ⟨hn, hch, h.distinct, hnew, hmo⟩ ho.nodup isUpdated
    refine ⟨pc', isUpdated', hlo, hh, hmov.finish (fun id hid => ?_) ?_⟩
    · rw [hh] at hid
      obtain ⟨array, ha⟩ := isSome_iff_exists.mp (lookup_isSome.mpr hid.managed)
      exact ho.mem_iff.mpr ⟨array, ha⟩
    · rw [hh]
      exact hd

/-- It dereferences a nil pointer if the user name changes and two arrays have the secret. -/
theorem updateArraysCreds_crash (h : pc.Current latest)
    (hm : ¬ pc.Movable secretName (latest secretName) creds)
    (ho : pc.managedArrays.Range order) (isUpdated : Bool) :
    updateArraysCreds secretName creds order (pc, isUpdated) =
      .error .nilDereference := by
  simp only [Movable, not_forall] at hm
  obtain ⟨hu, id, id', hid, hid', hne⟩ := hm
  have hs (id : String) (hid : pc.Has id secretName) : id ∈ order ∧
      pc.Stale secretName creds id (latest secretName).userName := by
    obtain ⟨stored, hst⟩ := isSome_iff_exists.mp hid
    obtain rfl := h.stored id secretName stored hst
    obtain ⟨array, ha, hse⟩ := bind_eq_some_iff.mp hst
    refine ⟨ho.mem_iff.mpr ⟨array, ha⟩, array, ha, ?_⟩
    rw [proxySecret_eq hse]
    refine ⟨rfl, ?_, rfl⟩
    rintro rfl
    exact hu rfl
  obtain ⟨hmem, hs₁⟩ := hs id hid
  obtain ⟨hmem', hs₂⟩ := hs id' hid'
  exact updateArraysCreds_crashes ho.nodup hmem hs₁ hu.symm (.inr ⟨id', hmem', hne, hs₂⟩)

end

/-- A call that updates credentials, with the orders in which it visits servers and arrays. -/
inductive CredentialCall where
  | updateCreds (useSecret : Bool) (secretName : String) (credentials : Credentials)
      (arrays : List String)
  | updateCertsAndCredentials (secret : Secret) (certFile : URL → Except String String)
      (servers : List URL) (arrays : List String)

namespace CredentialCall

def secretName : CredentialCall → String
  | updateCreds _ secretName _ _ => secretName
  | updateCertsAndCredentials secret _ _ _ => secret.name

def credentials : CredentialCall → Option Credentials
  | updateCreds _ _ credentials _ => some credentials
  | updateCertsAndCredentials secret _ _ _ => (getCredentialFromSecret secret).toOption

def arrays : CredentialCall → List String
  | updateCreds _ _ _ arrays => arrays
  | updateCertsAndCredentials _ _ _ arrays => arrays

def apply (pc : ProxyConfig) : CredentialCall → Except Crash (ProxyConfig × Option String)
  | updateCreds useSecret secretName credentials arrays =>
    (pc.updateCreds useSecret secretName credentials arrays).map fun r => (r.1, none)
  | updateCertsAndCredentials secret certFile servers arrays =>
    (pc.updateCertsAndCredentials secret certFile servers arrays).map fun r => (r.1, r.2.2)

end CredentialCall

structure CredentialState where
  config : ProxyConfig
  latest : String → Credentials

namespace CredentialState

/-- The credentials of a call that returns without an error are the latest ones. -/
def afterCall (latest : String → Credentials) (call : CredentialCall) (err : Option String) :
    String → Credentials :=
  match err, call.credentials with
  | none, some credentials => update latest call.secretName credentials
  | _, _ => latest

/-- A call changes the configuration; what is expected of it is noted beside it. -/
def step (s : CredentialState) (call : CredentialCall) : Except Crash CredentialState :=
  (call.apply s.config).map fun r => ⟨r.1, afterCall s.latest call r.2⟩

/-- The call is about a named secret and keeps the user names of different secrets distinct. -/
structure Admissible (s : CredentialState) (call : CredentialCall) : Prop where
  named : call.secretName ≠ ""
  arrays : s.config.managedArrays.Range call.arrays
  distinct : ∀ credentials, call.credentials = some credentials →
    DistinctUsers (update s.latest call.secretName credentials)
      fun secret => ∃ id, s.config.Has id secret

/-- The call keeps the user name of the secret, or one array at most has the secret. -/
def Movable (s : CredentialState) (call : CredentialCall) : Prop :=
  ∀ credentials, call.credentials = some credentials →
    s.config.Movable call.secretName (s.latest call.secretName) credentials

/-- Calls that keep the user name of their secret or are about one that one array at most has. -/
inductive Run (start : CredentialState) : CredentialState → Prop where
  | start : Run start start
  | step {s s' : CredentialState} {call : CredentialCall} (hs : Run start s)
      (hcall : s.Admissible call) (hmovable : s.Movable call) (hstep : s.step call = .ok s') :
      Run start s'

variable {s : CredentialState} {call : CredentialCall} {credentials : Credentials}

theorem updateArrays_current (h : s.config.Current s.latest) (hca : s.Admissible call)
    (hm : s.Movable call) (hc : call.credentials = some credentials)
    {pc : ProxyConfig} (ha : pc.managedArrays = s.config.managedArrays)
    (hu : pc.proxyCredentials = s.config.proxyCredentials) (isUpdated : Bool) :
    ∃ pc' isUpdated', updateArraysCreds call.secretName credentials call.arrays
        (pc, isUpdated) = .ok (pc', isUpdated') ∧
      pc'.Has = s.config.Has ∧
      pc'.Current (update s.latest call.secretName credentials) := by
  have hh := has_congr (secretOf_congr ha)
  have hd := hca.distinct credentials hc
  have hm' := hm credentials hc
  have ho := hca.arrays
  rw [← hh] at hd
  rw [← ha] at ho
  unfold ProxyConfig.Movable at hm'
  rw [← hh] at hm'
  obtain ⟨pc', isUpdated', hl, hh', hcu⟩ := updateArraysCreds_current
    (h.congr ha hu) hca.named hd hm' ho isUpdated
  exact ⟨pc', isUpdated', hl, hh'.trans hh, hcu⟩

/-- The arrays are current after the call, and have the secrets that they had before. -/
def StepCurrent (s : CredentialState) (call : CredentialCall) : Prop :=
  ∃ s', s.step call = .ok s' ∧ s'.config.Has = s.config.Has ∧ s'.config.Current s'.latest

theorem stepCurrent_of_apply {pc : ProxyConfig} {err : Option String}
    (ha : call.apply s.config = .ok (pc, err)) (hh : pc.Has = s.config.Has)
    (hc : pc.Current (afterCall s.latest call err)) : s.StepCurrent call := by
  refine ⟨⟨pc, afterCall s.latest call err⟩, ?_, hh, hc⟩
  unfold step
  rw [ha]
  rfl

variable {useSecret : Bool} {secretName : String} {arrays : List String}

theorem updateCreds_current (h : s.config.Current s.latest)
    (hca : s.Admissible (.updateCreds useSecret secretName credentials arrays))
    (hm : s.Movable (.updateCreds useSecret secretName credentials arrays)) :
    s.StepCurrent (.updateCreds useSecret secretName credentials arrays) := by
  have hu : ∃ pc' isUpdated',
      s.config.updateCreds useSecret secretName credentials arrays = .ok (pc', isUpdated') ∧
      pc'.Has = s.config.Has ∧ pc'.Current (update s.latest secretName credentials) :=
    updateArrays_current h hca hm rfl (by rfl) (by rfl) _
  obtain ⟨pc', isUpdated', hok, hh, hc⟩ := hu
  have ha : CredentialCall.apply s.config
      (.updateCreds useSecret secretName credentials arrays) = .ok (pc', none) := by
    simp only [CredentialCall.apply, hok]
    rfl
  exact stepCurrent_of_apply ha hh hc

theorem updateCertsAndCredentials_current {secret : Secret} {certFile : URL → Except String String}
    {servers : List URL} (h : s.config.Current s.latest)
    (hca : s.Admissible (.updateCertsAndCredentials secret certFile servers arrays))
    (hm : s.Movable (.updateCertsAndCredentials secret certFile servers arrays)) :
    s.StepCurrent (.updateCertsAndCredentials secret certFile servers arrays) := by
  obtain ⟨har, hu⟩ :=
    updateServersFromSecret_fields secret certFile servers s.config false
  cases hs : updateServersFromSecret secret certFile servers (s.config, false) with
  | mk pc rest =>
  obtain ⟨hasChanged, err⟩ := rest
  rw [hs] at har hu
  have hh := has_congr (secretOf_congr har)
  have hc := h.congr har hu
  cases err with
  | some err =>
    have ha : CredentialCall.apply s.config
        (.updateCertsAndCredentials secret certFile servers arrays) = .ok (pc, some err) := by
      simp only [CredentialCall.apply, updateCertsAndCredentials, hs]
      rfl
    exact stepCurrent_of_apply ha hh hc
  | none =>
    have ha : CredentialCall.apply s.config
        (.updateCertsAndCredentials secret certFile servers arrays) =
        (updateArraysFromSecret secret arrays (pc, hasChanged)).map
          fun r => (r.1, r.2.2) := by
      simp [CredentialCall.apply, updateCertsAndCredentials, hs]
    cases hcre : getCredentialFromSecret secret with
    | error err =>
      -- no array has the secret, or the call returns the error: the credentials stay
      obtain ⟨err', hok⟩ :=
        updateArraysFromSecret_of_error hcre arrays pc hasChanged
      rw [hok] at ha
      refine stepCurrent_of_apply ha hh ?_
      simp only [afterCall, CredentialCall.credentials, hcre]
      cases err' <;> exact hc
    | ok credentials =>
      have hcr : (CredentialCall.updateCertsAndCredentials secret certFile servers
          arrays).credentials = some credentials := by
        simp only [CredentialCall.credentials, hcre]
        rfl
      obtain ⟨pc', isUpdated', hok, hh', hc'⟩ :=
        updateArrays_current h hca hm hcr har hu hasChanged
      rw [updateArraysFromSecret_of_ok hcre] at ha
      refine stepCurrent_of_apply (ha.trans (congrArg _ (congrArg _ hok))) hh' ?_
      unfold afterCall
      rw [hcr]
      exact hc'

theorem step_current (h : s.config.Current s.latest) (hc : s.Admissible call)
    (hm : s.Movable call) : s.StepCurrent call := by
  cases call with
  | updateCreds useSecret secretName credentials arrays =>
    exact updateCreds_current h hc hm
  | updateCertsAndCredentials secret certFile servers arrays =>
    exact updateCertsAndCredentials_current h hc hm

theorem latest_updateCreds {s' : CredentialState}
    (h : s.step (.updateCreds useSecret secretName credentials arrays) = .ok s') :
    s'.latest = update s.latest secretName credentials := by
  simp only [step, CredentialCall.apply] at h
  cases hok : s.config.updateCreds useSecret secretName credentials arrays with
  | error crash =>
    rw [hok] at h
    cases h
  | ok r =>
    rw [hok] at h
    cases h
    rfl

theorem Run.current {start : CredentialState} (hsta : start.config.Current start.latest)
    (hs : Run start s) : s.config.Has = start.config.Has ∧ s.config.Current s.latest := by
  induction hs with
  | start => exact ⟨rfl, hsta⟩
  | step _ hca hm hst ih =>
    obtain ⟨hh, hc⟩ := ih
    obtain ⟨s'', hst', hh', hc'⟩ := step_current hc hca hm
    rw [hst] at hst'
    cases hst'
    exact ⟨hh'.trans hh, hc'⟩

/-- `UpdateCreds` crashes exactly if the user name changes and two arrays have the secret. -/
theorem updateCreds_crash_iff (h : s.config.Current s.latest) {order : List String}
    (hca : s.Admissible (.updateCreds useSecret secretName credentials order)) :
    s.step (.updateCreds useSecret secretName credentials order) = .error .nilDereference ↔
      ¬ s.Movable (.updateCreds useSecret secretName credentials order) := by
  constructor
  · intro hc hm
    obtain ⟨s', hok, -⟩ := step_current h hca hm
    rw [hc] at hok
    cases hok
  · intro hm
    have hm' : ¬ s.config.Movable secretName (s.latest secretName) credentials := by
      intro hco
      refine hm fun credentials' heq => ?_
      cases heq
      exact hco
    have hc : s.config.updateCreds useSecret secretName credentials order =
        .error .nilDereference :=
      updateArraysCreds_crash (h.congr (by rfl) (by rfl)) (by exact hm') (by exact hca.arrays) _
    simp only [step, CredentialCall.apply, hc]
    rfl

end CredentialState

/-- **The credentials stay current.**  As long as the user name changes only for secrets that one
array at most has, no call crashes, and `IsUserAuthorized` accepts exactly the latest credentials of
an array.  Any other call crashes. -/
theorem credentials_current (parseURL : String → Except String URL) (store : SecretStore)
    (port : String) (arrays : List StorageArrayConfig) (servers : List ManagementServerConfig)
    (hsa : SameSecrets parseURL store (servers.map (·.sanitize.endpoint)) (arrays.map (·.sanitize)))
    (hd : DistinctUsers store.credentials
      (Configured parseURL store (servers.map (·.sanitize.endpoint)) (arrays.map (·.sanitize))))
    (pc : ProxyConfig)
    (hp : .ok pc ∈ outcomes store.answers (parseConfig parseURL ⟨port, some ⟨arrays, servers⟩⟩))
    (s : CredentialState) (hs : CredentialState.Run ⟨pc, store.credentials⟩ s) :
    (∀ call, s.Admissible call → s.Movable call → ∃ s', s.step call = .ok s') ∧
      s.config.Has = pc.Has ∧
      (∀ storageArrayID username password,
        s.config.isUserAuthorized username password storageArrayID = .ok true ↔
          ∃ secret, pc.Has storageArrayID secret ∧ s.latest secret = ⟨username, password⟩) ∧
      ∀ useSecret secretName credentials order,
        s.Admissible (.updateCreds useSecret secretName credentials order) →
        (s.step (.updateCreds useSecret secretName credentials order) = .error .nilDereference ↔
          ¬ s.Movable (.updateCreds useSecret secretName credentials order)) := by
  obtain ⟨hst, -⟩ := parseConfig_current hsa hd hp
  obtain ⟨hh, hc⟩ := CredentialState.Run.current hst hs
  refine ⟨fun call hca hm => ?_, hh, fun storageArrayID username password => ?_,
    fun _ _ _ _ => CredentialState.updateCreds_crash_iff hc⟩
  · obtain ⟨s', hok, -⟩ := CredentialState.step_current hc hca hm
    exact ⟨s', hok⟩
  · rw [hc.users.isUserAuthorized_iff hc.distinct, hh]

/-! Two arrays share a secret. -/

namespace SharedSecret

open StrayArray

def arrays : List StorageArrayConfig :=
  [⟨"000197900046", "unisphere-1", "", ["csi-creds"]⟩,
    ⟨"000197900047", "unisphere-1", "", ["csi-creds"]⟩]

def servers : List ManagementServerConfig := [unisphere.toManagementServerConfig]

def configMap : ProxyConfigMap := ⟨"2222", some ⟨arrays, servers⟩⟩

def reads : History ConfigCall ConfigAnswer :=
  [⟨.getCredentialsFromSecretName "csi-creds", .ok ⟨"smc", "smc"⟩⟩,
    ⟨.range ["csi-creds"], ["csi-creds"]⟩,
    ⟨.getCredentialsFromSecretName "csi-creds", .ok ⟨"smc", "smc"⟩⟩,
    ⟨.range ["csi-creds"], ["csi-creds"]⟩,
    ⟨.getCredentialsFromSecretName "csi-creds", .ok ⟨"smc", "smc"⟩⟩]

def parsed : Option ProxyConfig :=
  (((parseConfig hostOnly configMap).follow reads).bind result).bind Except.toOption

def change (pc : ProxyConfig) (credentials : Credentials) : CredentialCall :=
  .updateCreds false "csi-creds" credentials pc.managedArrays.keys

theorem parsed_crashes : parsed.any (fun pc => pc.Has "000197900046" "csi-creds" ∧
    ((change pc ⟨"new", "smc"⟩).apply pc).toOption.isNone) = true := by
  decide +kernel

theorem mem_outcomes_of_parsed {pc : ProxyConfig} (h : parsed = some pc) :
    .ok pc ∈ outcomes store.answers (parseConfig hostOnly configMap) := by
  obtain ⟨r, hr, hok⟩ := bind_eq_some_iff.mp h
  obtain rfl : r = .ok pc := by
    cases r with
    | error err => cases hok
    | ok pc' => exact congrArg Except.ok (some.inj hok)
  refine mem_outcomes_iff.mpr ⟨reads, exec_of_follow hr, ?_⟩
  simp only [reads, forall_mem_cons]
  exact ⟨rfl, .refl _, rfl, .refl _, rfl, fun _ h => absurd h not_mem_nil⟩

theorem secrets_eq : ∀ array ∈ arrays.map (·.sanitize),
    array.proxyCredentialSecrets = ["csi-creds"] := by
  decide +kernel

theorem sameSecrets : SameSecrets hostOnly store (servers.map (·.sanitize.endpoint))
    (arrays.map (·.sanitize)) := by
  intro array ha array' ha' _ _ _ secret
  rw [secrets_eq array ha, secrets_eq array' ha']

theorem eq_of_configured {secret : String} (h : Configured hostOnly store
    (servers.map (·.sanitize.endpoint)) (arrays.map (·.sanitize)) secret) :
    secret = "csi-creds" := by
  obtain ⟨array, ha, -, hs⟩ := h
  rw [secrets_eq array ha] at hs
  exact mem_singleton.mp hs

theorem distinctUsers : DistinctUsers store.credentials (Configured hostOnly store
    (servers.map (·.sanitize.endpoint)) (arrays.map (·.sanitize))) :=
  fun _ _ hs hs' _ => (eq_of_configured hs).trans (eq_of_configured hs').symm

theorem admissible {pc : ProxyConfig} (h : parsed = some pc) (credentials : Credentials) :
    CredentialState.Admissible ⟨pc, store.credentials⟩ (change pc credentials) where
  named := show "csi-creds" ≠ "" by decide
  arrays := .refl _
  distinct credentials' _ := by
    obtain ⟨-, hc⟩ := parseConfig_current sameSecrets distinctUsers (mem_outcomes_of_parsed h)
    rintro secret secret' ⟨id, hid⟩ ⟨id', hid'⟩ -
    exact (eq_of_configured (hc id secret hid)).trans (eq_of_configured (hc id' secret' hid')).symm

/-- A new user name stops the process. -/
theorem new_user_crashes : ∃ pc,
    .ok pc ∈ outcomes store.answers (parseConfig hostOnly configMap) ∧
      DistinctUsers store.credentials (Configured hostOnly store
        (servers.map (·.sanitize.endpoint)) (arrays.map (·.sanitize))) ∧
      CredentialState.Admissible ⟨pc, store.credentials⟩ (change pc ⟨"new", "smc"⟩) ∧
      CredentialState.step ⟨pc, store.credentials⟩ (change pc ⟨"new", "smc"⟩) =
        .error .nilDereference := by
  obtain ⟨pc, hp, hc⟩ := (any_eq_true _ _).mp parsed_crashes
  obtain ⟨-, hc⟩ := of_decide_eq_true hc
  refine ⟨pc, mem_outcomes_of_parsed hp, distinctUsers, admissible hp _, ?_⟩
  unfold CredentialState.step
  cases ha : (change pc ⟨"new", "smc"⟩).apply pc with
  | error crash =>
    rfl
  | ok r =>
    rw [ha] at hc
    cases hc

end SharedSecret

open SharedSecret StrayArray
theorem credentials_current_new_password : ∃ pc s,
    .ok pc ∈ outcomes store.answers (parseConfig hostOnly configMap) ∧
      CredentialState.step ⟨pc, store.credentials⟩ (change pc ⟨"smc", "new"⟩) = .ok s ∧
      s.config.isUserAuthorized "smc" "new" "000197900046" = .ok true ∧
      s.config.isUserAuthorized "smc" "smc" "000197900046" ≠ .ok true := by
  obtain ⟨pc, hpa, hh⟩ := (any_eq_true _ _).mp parsed_crashes
  obtain ⟨hh, -⟩ := of_decide_eq_true hh
  have hp := mem_outcomes_of_parsed hpa
  obtain ⟨hr, -⟩ := credentials_current hostOnly store "2222" arrays servers sameSecrets
    distinctUsers pc hp _ .start
  have hm : CredentialState.Movable ⟨pc, store.credentials⟩ (change pc ⟨"smc", "new"⟩) := by
    intro credentials heq hne
    cases heq
    exact absurd rfl hne
  have ha := admissible hpa ⟨"smc", "new"⟩
  obtain ⟨s, hs⟩ := hr _ ha hm
  obtain ⟨-, -, hau, -⟩ := credentials_current hostOnly store "2222" arrays servers
    sameSecrets distinctUsers pc hp s (.step .start ha hm hs)
  have hl : s.latest "csi-creds" = ⟨"smc", "new"⟩ := by
    rw [CredentialState.latest_updateCreds hs, update_self]
  refine ⟨pc, s, hp, hs, (hau _ _ _).mpr ⟨"csi-creds", hh, hl⟩, fun hold => ?_⟩
  obtain ⟨secret, hse, hcr⟩ := (hau _ _ _).mp hold
  obtain ⟨-, hc⟩ := parseConfig_current sameSecrets distinctUsers hp
  rw [eq_of_configured (hc _ secret hse), hl] at hcr
  exact absurd hcr (by decide)

end PowerMaxCsi.Proxy
