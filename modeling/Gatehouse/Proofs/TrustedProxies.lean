import Gatehouse.Proofs.Except
import Gatehouse.Proofs.Settings
import Gatehouse.Proofs.Text.Blank
import Gatehouse.Proofs.Text.Split
import Mathlib.Logic.Function.Basic

/-! From the text that lists the trusted proxies to the peers whose headers count.  No entry of the
list gets lost on the way: each one is blank, or denotes an address, or is the reason why there are
no settings. -/

namespace Gatehouse

open Identity Net Text Web

namespace Settings

/-- What stands between the commas of a list. -/
def listed (raw : Option String) : List String :=
  ((raw.getD "").toList.splitOn ',').map String.ofList

theorem entries_eq (raw : Option String) :
    entries raw = ((listed raw).map trim).filter (!·.isEmpty) := by
  have hPieces : pieces (· == ',') (raw.getD "").toList = (raw.getD "").toList.splitOn ',' :=
    pieces_eq_splitOnP _
  simp only [entries, listed, hPieces, List.map_map]
  congr 2
  funext cs
  simp [trim]

theorem mem_entries_iff {raw : Option String} {entry : String} :
    entry ∈ entries raw ↔ ∃ item ∈ listed raw, isBlankText item = false ∧ trim item = entry := by
  rw [entries_eq, List.mem_filter, List.mem_map]
  constructor
  · rintro ⟨⟨item, hMem, rfl⟩, hNe⟩
    refine ⟨item, hMem, ?_, rfl⟩
    rw [← Bool.not_eq_true, ← trim_eq_empty_iff]
    simpa using hNe
  · rintro ⟨item, hMem, hBlank, rfl⟩
    refine ⟨⟨item, hMem, rfl⟩, ?_⟩
    rw [← Bool.not_eq_true, ← trim_eq_empty_iff] at hBlank
    simpa using hBlank

variable {raw : Option String}

theorem proxies_ok_iff {addresses : List IpAddress} :
    proxies raw = .ok addresses ↔ (entries raw).mapM IpAddress.parse? = some addresses := by
  rw [proxies]
  cases (entries raw).mapM IpAddress.parse? <;> simp

/-- The trusted addresses are those that the items of the list denote. -/
theorem mem_proxies_iff {addresses : List IpAddress} (h : proxies raw = .ok addresses)
    (ip : IpAddress) :
    ip ∈ addresses ↔ ∃ item ∈ listed raw, IpAddress.parse? (trim item) = some ip := by
  rw [mem_iff_of_mapM (proxies_ok_iff.mp h)]
  simp only [mem_entries_iff]
  constructor
  · rintro ⟨_, ⟨item, hMem, -, rfl⟩, hDenotes⟩
    exact ⟨item, hMem, hDenotes⟩
  · rintro ⟨item, hMem, hDenotes⟩
    refine ⟨_, ⟨item, hMem, ?_, rfl⟩, hDenotes⟩
    by_contra hBlank
    rw [Bool.not_eq_false, ← trim_eq_empty_iff] at hBlank
    rw [hBlank] at hDenotes
    cases hDenotes

/-- Nobody is named if every item of the list is blank, and only then. -/
theorem proxies_eq_nil_iff {addresses : List IpAddress} (h : proxies raw = .ok addresses) :
    addresses = [] ↔ ∀ item ∈ listed raw, isBlankText item = true := by
  have hEntries : entries raw = [] ↔ ∀ item ∈ listed raw, isBlankText item = true := by
    simp only [List.eq_nil_iff_forall_not_mem, mem_entries_iff, not_exists, not_and]
    constructor
    · intro hNone item hMem
      by_contra hBlank
      exact hNone _ item hMem (Bool.not_eq_true _ ▸ hBlank) rfl
    · intro hAll _ item hMem hBlank
      rw [hAll item hMem] at hBlank
      cases hBlank
  have hRead := proxies_ok_iff.mp h
  rw [← hEntries]
  cases hEntry : entries raw with
  | nil =>
    rw [hEntry] at hRead
    cases hRead
    simp
  | cons entry more =>
    rw [hEntry, List.mapM_cons] at hRead
    obtain ⟨ip, -, hMore⟩ := Option.bind_eq_some_iff.mp hRead
    obtain ⟨rest, -, hAll⟩ := Option.bind_eq_some_iff.mp hMore
    cases hAll
    simp

theorem proxies_error_iff {e : SettingsError} :
    proxies raw = .error e ↔
      (∃ item ∈ listed raw, isBlankText item = false ∧ IpAddress.parse? (trim item) = none) ∧
        e = .invalid "TRUSTED_PROXIES" := by
  have hItem : (∃ item ∈ listed raw, isBlankText item = false ∧
      IpAddress.parse? (trim item) = none) ↔ (entries raw).mapM IpAddress.parse? = none := by
    simp only [mapM_eq_none_iff, mem_entries_iff]
    constructor
    · rintro ⟨item, hMem, hBlank, hNone⟩
      exact ⟨_, ⟨item, hMem, hBlank, rfl⟩, hNone⟩
    · rintro ⟨_, ⟨item, hMem, hBlank, rfl⟩, hNone⟩
      exact ⟨item, hMem, hBlank, hNone⟩
  rw [hItem, proxies]
  cases (entries raw).mapM IpAddress.parse? <;> simp [eq_comm]

theorem proxies_error_of_item {item : String} (hMem : item ∈ listed raw)
    (hBlank : isBlankText item = false) (hNone : IpAddress.parse? (trim item) = none) :
    proxies raw = .error (.invalid "TRUSTED_PROXIES") :=
  proxies_error_iff.mpr ⟨⟨item, hMem, hBlank, hNone⟩, rfl⟩

/-- A setting that is read before the trusted proxies is lacking or cannot be used. -/
inductive FailsBefore (get : String → Option String) : SettingsError → Prop
  | database (h : get "DATABASE_URL" = none) : FailsBefore get (.missing "DATABASE_URL")
  | environment {e : SettingsError} (h : Environment.parse (get "APP_ENV") = .error e) :
      FailsBefore get e
  | secret {environment : Environment} {e : SettingsError}
      (hEnvironment : Environment.parse (get "APP_ENV") = .ok environment)
      (h : secretFor environment (get "JWT_SECRET") = .error e) : FailsBefore get e
  | accessTtl {e : SettingsError} (h : tokenTtl get "JWT_ACCESS_TOKEN_TTL_SECONDS" 900 = .error e) :
      FailsBefore get e
  | refreshTtl {e : SettingsError}
      (h : tokenTtl get "JWT_REFRESH_TOKEN_TTL_SECONDS" 604800 = .error e) : FailsBefore get e

variable {get : String → Option String}

theorem load_ok {settings : Settings} (h : load get = .ok settings) :
    proxies (get "TRUSTED_PROXIES") = .ok settings.trustedProxies :=
  (loads_of_load h).trustedProxies

theorem load_error {e : SettingsError} (h : load get = .error e) :
    proxies (get "TRUSTED_PROXIES") = .error e ∨ FailsBefore get e := by
  rw [← errorOf_eq_some_iff, errorOf_load] at h
  simp only [Option.or_eq_some_iff, errorOf_eq_some_iff] at h
  obtain hUrl | ⟨-, hEnvironment | ⟨-, hSecret | ⟨-, hAccess | ⟨-, hRefresh | ⟨-, hProxies⟩⟩⟩⟩⟩ := h
  · split at hUrl
    · rename_i hNone
      cases hUrl
      exact .inr (.database hNone)
    · cases hUrl
  · exact .inr (.environment hEnvironment)
  · rw [secretError?] at hSecret
    split at hSecret
    · rename_i environment hEnvironment
      exact .inr (.secret hEnvironment (errorOf_eq_some_iff.mp hSecret))
    · cases hSecret
  · exact .inr (.accessTtl hAccess)
  · exact .inr (.refreshTtl hRefresh)
  · exact .inl hProxies

end Settings

namespace Identity.GatewayPolicy

/-- Whatever the headers of the peer say counts. -/
def Honours (policy : GatewayPolicy) (peer : Option SocketAddress) : Prop :=
  ∀ headers, policy.extract headers peer = Principal.ofHeaders headers policy.requireRole

/-- The peer is refused, whatever its headers say. -/
def Ignores (policy : GatewayPolicy) (peer : Option SocketAddress) : Prop :=
  ∀ headers, policy.extract headers peer = .error .untrusted

theorem extract_of_admits {policy : GatewayPolicy} {peer : Option SocketAddress}
    (h : policy.trust.admits peer = true) (headers : Headers) :
    policy.extract headers peer = Principal.ofHeaders headers policy.requireRole := if_pos h

theorem extract_of_not_admits {policy : GatewayPolicy} {peer : Option SocketAddress}
    (h : ¬policy.trust.admits peer = true) (headers : Headers) :
    policy.extract headers peer = .error .untrusted := if_neg h

/-- Without headers the number of the caller is lacking, whoever the peer is. -/
theorem ofHeaders_nil (requireRole : Bool) :
    Principal.ofHeaders [] requireRole = .error .missing := rfl

theorem honours_iff {policy : GatewayPolicy} {peer : Option SocketAddress} :
    policy.Honours peer ↔ policy.trust.admits peer = true := by
  constructor
  · intro h
    by_contra hNot
    have hSame := (extract_of_not_admits hNot []).symm.trans (h [])
    rw [ofHeaders_nil] at hSame
    cases hSame
  · exact extract_of_admits

theorem ignores_iff {policy : GatewayPolicy} {peer : Option SocketAddress} :
    policy.Ignores peer ↔ ¬policy.trust.admits peer = true := by
  constructor
  · intro h hAdmits
    have hSame := (extract_of_admits hAdmits []).symm.trans (h [])
    rw [ofHeaders_nil] at hSame
    cases hSame
  · exact extract_of_not_admits

end Identity.GatewayPolicy

theorem Identity.Trust.admits_ofPeers_iff {addresses : List IpAddress}
    {peer : Option SocketAddress} :
    (Trust.ofPeers addresses).admits peer = true ↔
      addresses = [] ∨ ∃ p, peer = some p ∧ p.ip ∈ addresses := by
  cases addresses with
  | nil => simp [Trust.ofPeers, Trust.admits]
  | cons ip more =>
    cases peer with
    | none => simp [Trust.ofPeers, Trust.admits]
    | some p =>
      have hAny : (ip :: more).any (· == p.ip) = true ↔ p.ip ∈ ip :: more := by
        simp only [List.any_eq_true, beq_iff_eq, exists_eq_right]
      simpa [Trust.ofPeers, Trust.admits] using hAny

open Settings

/-- The peer is on the list of trusted proxies, or the list names nobody. -/
def IsTrusted (raw : Option String) (peer : Option SocketAddress) : Prop :=
  (∀ item ∈ listed raw, isBlankText item = true) ∨
    ∃ p, peer = some p ∧ ∃ item ∈ listed raw, IpAddress.parse? (trim item) = some p.ip

/-- Identity headers count exactly if the text says so; and where the text cannot be read, nothing
is loaded. -/
theorem trust_boundary (get : String → Option String) :
    (∀ settings, load get = .ok settings → ∀ peer,
      (settings.gatewayPolicy.Honours peer ↔ IsTrusted (get "TRUSTED_PROXIES") peer) ∧
      (settings.gatewayPolicy.Ignores peer ↔ ¬IsTrusted (get "TRUSTED_PROXIES") peer)) ∧
    ∀ item ∈ listed (get "TRUSTED_PROXIES"), isBlankText item = false →
      IpAddress.parse? (trim item) = none →
        ∃ e, load get = .error e ∧ (e = .invalid "TRUSTED_PROXIES" ∨ FailsBefore get e) := by
  constructor
  · intro settings hLoad peer
    have hProxies := load_ok hLoad
    have hTrusted : settings.gatewayPolicy.trust.admits peer = true ↔
        IsTrusted (get "TRUSTED_PROXIES") peer := by
      simp only [gatewayPolicy, Trust.admits_ofPeers_iff, proxies_eq_nil_iff hProxies,
        mem_proxies_iff hProxies, IsTrusted]
    rw [GatewayPolicy.honours_iff, GatewayPolicy.ignores_iff, hTrusted]
    exact ⟨Iff.rfl, Iff.rfl⟩
  · intro item hMem hBlank hNone
    have hProxies := proxies_error_of_item hMem hBlank hNone
    cases hLoad : load get with
    | ok settings =>
      rw [load_ok hLoad] at hProxies
      cases hProxies
    | error e =>
      refine ⟨e, rfl, (load_error hLoad).imp_left fun hError => ?_⟩
      rw [hProxies] at hError
      exact (Except.error.inj hError).symm

/-- Settings for development with two trusted proxies. -/
def twoProxies (key : String) : Option String :=
  if key = "DATABASE_URL" then some "db"
  else if key = "TRUSTED_PROXIES" then some " 10.0.0.1\t,, 2001:DB8:0:0::0:1"
  else none

theorem proxy_honoured :
    ∃ settings, load twoProxies = .ok settings ∧
      settings.gatewayPolicy.Honours (some ⟨.v6 #v[0x2001, 0xDB8, 0, 0, 0, 0, 0, 1], 443⟩) ∧
      settings.gatewayPolicy.Ignores (some ⟨.v4 #v[10, 0, 0, 2], 443⟩) ∧
      settings.gatewayPolicy.Ignores none := by
  obtain ⟨settings, hLoad⟩ : ∃ settings, load twoProxies = .ok settings := ⟨_, rfl⟩
  have hDecision := (trust_boundary twoProxies).1 settings hLoad
  have hSome : ¬∀ item ∈ listed (twoProxies "TRUSTED_PROXIES"), isBlankText item = true := by decide
  refine ⟨settings, hLoad, (hDecision _).1.mpr (.inr ⟨_, rfl, ?_⟩), (hDecision _).2.mpr ?_,
    (hDecision _).2.mpr ?_⟩
  · decide
  · rintro (hAll | ⟨p, hPeer, hListed⟩)
    · exact hSome hAll
    · cases hPeer
      exact absurd hListed (by decide)
  · rintro (hAll | ⟨p, hPeer, -⟩)
    · exact hSome hAll
    · cases hPeer

end Gatehouse
