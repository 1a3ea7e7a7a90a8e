import IssueTracker.Config
import IssueTracker.Proofs.Except
import IssueTracker.Proofs.Text.Blank
import IssueTracker.Proofs.Text.Split

/-!
# What the settings are, given their texts

Reading the settings is a chain of steps, each of which can end it. That it succeeds says something
of every setting by itself: it has its default if no text is given for it, and otherwise what its
text is read as. What is true of the default and of everything that can be read is therefore true
of the setting, whatever the texts are.
-/

namespace IssueTracker.Config

/-- Whether a setting has a value: the default if no text is given, or what its text is read as. -/
inductive IsValueOf {α : Type} (read : String → Option α) (default : α) : Option String → α → Prop
  | standing : IsValueOf read default none default
  | given {text : String} {value : α} (accepted : read text = some value) :
      IsValueOf read default (some text) value

/-- Settings that every text is in order for, with what they are. -/
structure LoadedFrom (lookup : String → Option String) (config : Config) : Prop where
  port : IsValueOf (Natural.ofText? Natural.bound16) 8080 (lookup "PORT") config.port
  stage : config.stage = ((lookup "APP_ENV").map Stage.ofText).getD .development
  corsOrigins : config.corsOrigins = items ((lookup "CORS_ALLOWED_ORIGINS").getD "")
  providerUrl : lookup "OPENID_PROVIDER_URL" = some config.providerUrl
  absolute : Url.isAbsolute config.providerUrl = true
  clientId : lookup "OAUTH_CLIENT_ID" = some config.clientId
  enforceClientId : IsValueOf flag? false (lookup "AUTH_ENFORCE_CLIENT_ID") config.enforceClientId
  authScheme : IsValueOf scheme? defaultScheme (lookup "AUTH_SCHEME") config.authScheme
  authAlgorithms : IsValueOf algorithms? supportedAlgorithms (lookup "AUTH_ALGORITHMS")
    config.authAlgorithms
  verifyTimeout : ∃ millis,
    IsValueOf positive? 5000 (lookup "AUTH_VERIFY_TIMEOUT_MS") millis ∧
      config.verifyTimeout = .ofMillis millis
  providerTimeout : ∃ seconds,
    IsValueOf positive? 10 (lookup "PROVIDER_HTTP_TIMEOUT_SECS") seconds ∧
      config.providerTimeout = .ofSeconds seconds
  tenant : IsValueOf Uuid.ofText? ((Uuid.ofText? defaultTenant).getD .zero)
    (lookup "TENANT_CUSTOMER_ID") config.tenant

section Reading

variable {α : Type} {read : String → Option α} {default value : α} {given : Option String}
  {lookup : String → Option String} {key text : String}

theorem accept_eq_ok_iff {offered : Option α} :
    accept key offered = .ok value ↔ offered = some value := by
  cases offered with
  | none => simp [accept]
  | some other => simp [accept]

/-- A setting that may be left out is read as its value. -/
theorem readOr_eq_ok_iff :
    readOr lookup key read default = .ok value ↔ IsValueOf read default (lookup key) value := by
  cases found : lookup key with
  | none =>
    simp only [readOr, found, Except.ok.injEq]
    constructor
    · rintro rfl
      exact .standing
    · intro settled
      cases settled with
      | standing => rfl
  | some text =>
    simp only [readOr, found, accept_eq_ok_iff]
    constructor
    · exact .given
    · intro settled
      cases settled with
      | given accepted => exact accepted

/-- A setting that is required is its text. -/
theorem require_eq_ok_iff : require lookup key = .ok text ↔ lookup key = some text := by
  cases found : lookup key with
  | none => simp [require, found]
  | some other => simp [require, found]

/-- The address of a provider is its text, if that is absolute. -/
theorem address?_eq_some_iff {address : String} :
    address? text = some address ↔ text = address ∧ Url.isAbsolute address = true := by
  simp only [address?, Option.ite_none_right_eq_some, Option.some.injEq]
  constructor
  · rintro ⟨absolute, rfl⟩
    exact ⟨rfl, absolute⟩
  · rintro ⟨rfl, absolute⟩
    exact ⟨absolute, rfl⟩

/-- What is true of a default and of everything that is read is true of a setting. -/
@[elab_as_elim]
theorem IsValueOf.satisfies {property : α → Prop} (settled : IsValueOf read default given value)
    (ofDefault : property default)
    (ofText : ∀ text value, read text = some value → property value) :
    property value := by
  cases settled with
  | standing => exact ofDefault
  | given accepted => exact ofText _ _ accepted

/-- A setting has another value than the default exactly if its text is read as that. -/
theorem IsValueOf.eq_iff_of_ne {other : α} (settled : IsValueOf read default given value)
    (different : other ≠ default) :
    value = other ↔ ∃ text, given = some text ∧ read text = some other := by
  cases settled with
  | standing =>
    constructor
    · intro same
      exact absurd same.symm different
    · rintro ⟨_, ⟨⟩, _⟩
  | given accepted =>
    constructor
    · rintro rfl
      exact ⟨_, rfl, accepted⟩
    · rintro ⟨_, ⟨⟩, read⟩
      exact Option.some.inj (accepted.symm.trans read)

end Reading

/-- Reading the settings succeeds exactly if every text is in order, with what they are. -/
theorem ofLookup_eq_ok_iff {lookup : String → Option String} {config : Config} :
    ofLookup lookup = .ok config ↔ LoadedFrom lookup config := by
  simp only [ofLookup, Except.bind_eq_ok, readOr_eq_ok_iff, require_eq_ok_iff, accept_eq_ok_iff,
    address?_eq_some_iff]
  constructor
  · rintro ⟨port, portRead, address, addressFound, providerUrl, ⟨rfl, absolute⟩, clientId,
      clientFound, enforceClientId, enforceRead, authScheme, schemeRead, authAlgorithms,
      algorithmsRead, millis, millisRead, seconds, secondsRead, tenant, tenantRead, built⟩
    cases built
    exact ⟨portRead, rfl, rfl, addressFound, absolute, clientFound, enforceRead, schemeRead,
      algorithmsRead, ⟨millis, millisRead, rfl⟩, ⟨seconds, secondsRead, rfl⟩, tenantRead⟩
  · rintro ⟨port, stage, corsOrigins, providerUrl, absolute, clientId, enforceClientId, authScheme,
      authAlgorithms, ⟨millis, millisRead, verifyTimeout⟩, ⟨seconds, secondsRead, providerTimeout⟩,
      tenant⟩
    refine ⟨_, port, _, providerUrl, _, ⟨rfl, absolute⟩, _, clientId, _, enforceClientId, _,
      authScheme, _, authAlgorithms, _, millisRead, _, secondsRead, _, tenant, ?_⟩
    rw [← stage, ← corsOrigins, ← verifyTimeout, ← providerTimeout]
    rfl

section Texts

variable {text : String}

/-- The items of a list are what the parts between its commas are without the blanks around them,
except that empty ones are left out. -/
theorem mem_items_iff {item : String} :
    item ∈ items text ↔
      item ≠ "" ∧ ∃ piece, Blank.trim piece = item ∧
        ',' ∉ piece.toList ∧ Auth.Envelope.StandsIn ',' piece.toList text.toList := by
  simp only [items, List.mem_filter, List.mem_map, Auth.Envelope.mem_split_iff]
  constructor
  · rintro ⟨⟨piece, ⟨whole, stands⟩, trimmed⟩, kept⟩
    exact ⟨by simpa using kept, piece, trimmed, whole, stands⟩
  · rintro ⟨nonempty, piece, trimmed, whole, stands⟩
    exact ⟨⟨piece, ⟨whole, stands⟩, trimmed⟩, by simpa using nonempty⟩

example : items " , https://a.example ,,*" = ["https://a.example", "*"] := by decide

/-- An item of a list is not empty, has no blanks around it and no comma in it. -/
theorem item_sound {item : String} (member : item ∈ items text) :
    item ≠ "" ∧ Blank.IsTrimmed item ∧ ',' ∉ item.toList := by
  obtain ⟨nonempty, piece, rfl, whole, -⟩ := mem_items_iff.mp member
  refine ⟨nonempty, Blank.isTrimmed_trim piece, ?_⟩
  intro inside
  exact whole (Blank.mem_of_mem_trim inside)

/-- A scheme is a text without the blanks around it, if something is left and no space is in it. -/
theorem scheme?_eq_some_iff {scheme : String} :
    scheme? text = some scheme ↔
      Blank.trim text = scheme ∧ scheme ≠ "" ∧ ' ' ∉ scheme.toList := by
  simp only [scheme?, Option.ite_none_left_eq_some, Option.some.injEq, Bool.or_eq_true,
    String.isEmpty_iff, List.contains_iff_mem, not_or]
  constructor
  · rintro ⟨fit, rfl⟩
    exact ⟨rfl, fit⟩
  · rintro ⟨rfl, fit⟩
    exact ⟨fit, rfl⟩

/-- A list of algorithms is one of supported algorithms, with at least one of them. -/
theorem algorithms?_eq_some_iff {algorithms : List String} :
    algorithms? text = some algorithms ↔
      items text = algorithms ∧ algorithms ≠ [] ∧
        ∀ algorithm ∈ algorithms, algorithm ∈ supportedAlgorithms := by
  simp only [algorithms?, Option.ite_none_left_eq_some, Option.some.injEq, Bool.or_eq_true,
    List.isEmpty_iff, Bool.not_eq_true', List.all_eq_false, List.contains_iff_mem, not_or,
    not_exists, not_and, not_not]
  constructor
  · rintro ⟨fit, rfl⟩
    exact ⟨rfl, fit⟩
  · rintro ⟨rfl, fit⟩
    exact ⟨fit, rfl⟩

/-- A positive number is read as one above zero. -/
theorem pos_of_positive? {n : Nat} (read : positive? text = some n) : 0 < n := by
  simpa using (Option.filter_eq_some_iff.mp read).2

end Texts

end IssueTracker.Config
