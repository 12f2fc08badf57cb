import PycloudParallel.TransportReceived

/-!
# Restricted contexts

No pickle is loaded in a restricted context: every receiver takes its mode from
a validation that raises for a pickle there.
-/

namespace PycloudParallel.Transport

open CallLog

variable {φ α ρ : Type} {codecs : Codecs φ α ρ} {builtins : Builtins φ α ρ}
  {context : String}

def Restricted (builtins : Builtins φ α ρ) (context : String) : Prop :=
  normalizedText builtins.casing context ∈ pickleRestrictedContexts

theorem except_bind_eq_ok {ε β γ : Type} {first : Except ε β}
    {rest : β → Except ε γ} {result : γ}
    (hresult : first >>= rest = .ok result) :
    ∃ value, first = .ok value ∧ rest value = .ok result := by
  cases first with
  | error error => cases hresult
  | ok value => exact ⟨value, rfl, hresult⟩

variable {trustMode : String}

section

variable (hrestricted : Restricted builtins context)

include hrestricted

theorem validateModeForContext_safe {mode : String} {strict : Bool}
    {validated : Mode}
    (hvalidated : validateModeForContext builtins.casing mode context trustMode
      strict = .ok validated) : validated.isPickle = false := by
  obtain ⟨normalized, -, hcases⟩ := except_bind_eq_ok hvalidated
  dsimp only at hcases
  split at hcases
  · split at hcases
    · cases hcases
      rfl
    · cases hcases
  · next hallowed =>
    cases hcases
    rw [not_and] at hallowed
    rw [Bool.eq_false_iff]
    exact fun hpickle => hallowed hpickle hrestricted

theorem resolveReceivedTransportMode_safe {declaredMode defaultMode : String}
    {resolved : Mode}
    (hresolved : resolveReceivedTransportMode builtins.casing declaredMode
      defaultMode context trustMode = .ok resolved) :
    resolved.isPickle = false := by
  obtain ⟨declared, -, hvalidated⟩ := except_bind_eq_ok hresolved
  exact validateModeForContext_safe hrestricted hvalidated

theorem not_internal_of_restricted :
    normalizedText builtins.casing context ∉ internalPickleNativeContexts := by
  have hapart : ∀ name ∈ pickleRestrictedContexts,
      name ∉ internalPickleNativeContexts := by decide
  exact hapart _ hrestricted

theorem payloadBytesMode_safe {codec : String} {mode : Mode}
    (hmode : payloadBytesMode builtins codec context trustMode = .ok mode) :
    mode.isPickle = false := by
  unfold payloadBytesMode at hmode
  split at hmode
  · rw [if_neg (not_internal_of_restricted hrestricted)] at hmode
    cases hmode
  · exact resolveReceivedTransportMode_safe hrestricted hmode

theorem validateTransportPayloadBytes_safe {codec : String}
    {version limitBytes : ℤ} {payload raw : Blob} {validated : Mode} {size : ℕ}
    (hvalidated : validateTransportPayloadBytes builtins codec version payload
      context trustMode limitBytes = .ok (validated, raw, size)) :
    validated.isPickle = false := by
  obtain ⟨normalized, hnormalized, hchecks⟩ := except_bind_eq_ok hvalidated
  split at hchecks
  · cases hchecks
  split at hchecks
  · cases hchecks
  cases hchecks
  exact payloadBytesMode_safe hrestricted hnormalized

end

/-! ## Receivers -/

structure NeverUnpickles (receiving : Receiving (PyValue φ α ρ)) : Prop where
  keeps : Keeps (fun loader => loader.unpickles = false) receiving
  calls : Calls receiving

variable {receiving : Receiving (PyValue φ α ρ)}

theorem neverUnpickles_load {loader : Loader}
    (hloader : loader.unpickles = false) (result : Option (PyValue φ α ρ)) :
    NeverUnpickles (load loader result) where
  keeps := by
    apply keeps_call
    exact hloader
  calls := calls_call loader _

theorem neverUnpickles_raise (error : TransportError) :
    NeverUnpickles (.lift (.error error) : Receiving (PyValue φ α ρ)) where
  keeps := keeps_lift _
  calls := calls_error error

theorem neverUnpickles_lift {β : Type} {result : Except TransportError β}
    {rest : β → Receiving (PyValue φ α ρ)}
    (hrest : ∀ value, result = .ok value → NeverUnpickles (rest value)) :
    NeverUnpickles (.lift result >>= rest) := by
  constructor
  · exact keeps_lift_bind fun value hvalue => (hrest value hvalue).keeps
  · intro before value hreturned
    rw [runFrom_bind, runFrom_lift] at hreturned ⊢
    cases hresult : result with
    | error error =>
      rw [hresult] at hreturned
      cases hreturned
    | ok first =>
      rw [hresult] at hreturned
      exact (hrest first hresult).calls before value hreturned

theorem NeverUnpickles.bind (hfirst : NeverUnpickles receiving)
    {rest : PyValue φ α ρ → Receiving (PyValue φ α ρ)}
    (hrest : ∀ value, NeverUnpickles (rest value)) :
    NeverUnpickles (receiving >>= rest) where
  keeps := hfirst.keeps.bind fun value => (hrest value).keeps
  calls := calls_bind fun value => (hrest value).calls

theorem receiveTransportPayloadBytes_safe
    (hrestricted : Restricted builtins context) (codec trustMode : String)
    (version limitBytes : ℤ) (payload : Blob) :
    NeverUnpickles (receiveTransportPayloadBytes codecs builtins codec version
      payload context trustMode limitBytes) := by
  unfold receiveTransportPayloadBytes
  apply neverUnpickles_lift
  rintro ⟨validated, raw, size⟩ hvalidated
  have hsafe := validateTransportPayloadBytes_safe hrestricted hvalidated
  cases validated with
  | legacyV1 | structuredV1 => exact neverUnpickles_load rfl _
  | pickleStableV1 | pickleNativeV1 => cases hsafe

theorem receiveEnvelope_safe {codec : Mode} (hsafe : codec.isPickle = false)
    (payload : PyValue φ α ρ) :
    NeverUnpickles (receiveEnvelope codecs codec payload) := by
  cases codec with
  | legacyV1 | structuredV1 => exact neverUnpickles_load rfl _
  | pickleStableV1 | pickleNativeV1 => cases hsafe

section

variable (hrestricted : Restricted builtins context)

include hrestricted

theorem receiveTransportValue_safe (value : PyValue φ α ρ)
    (mode trustMode : String) :
    NeverUnpickles (receiveTransportValue codecs builtins value mode context
      trustMode) := by
  unfold receiveTransportValue
  apply neverUnpickles_lift
  intro normalized _
  split
  · apply neverUnpickles_lift
    intro envelope _
    dsimp only
    split
    · exact neverUnpickles_raise _
    · apply neverUnpickles_lift
      intro codec hcodec
      exact receiveEnvelope_safe
        (resolveReceivedTransportMode_safe hrestricted hcodec) _
  · split
    · exact neverUnpickles_raise _
    · exact neverUnpickles_load rfl _

theorem decodePayloadFromTransport_safe (payload : PyValue φ α ρ)
    (mode trustMode : String) :
    NeverUnpickles (decodePayloadFromTransport codecs builtins payload mode
      context trustMode) :=
  (receiveTransportValue_safe hrestricted payload mode trustMode).bind
    fun _ => neverUnpickles_load rfl _

theorem decodeInlineTransportCarrier_safe (value : PyValue φ α ρ)
    (trustMode : String) (limitBytes : ℤ) :
    NeverUnpickles (decodeInlineTransportCarrier codecs builtins value context
      trustMode limitBytes) := by
  unfold decodeInlineTransportCarrier
  apply neverUnpickles_lift
  rintro ⟨codec, raw⟩ _
  exact receiveTransportPayloadBytes_safe hrestricted _ _ _ _ _

end

def OnlySafeLoaders (receiving : Receiving (PyValue φ α ρ)) : Prop :=
  (∀ loader ∈ receiving.calls,
    loader = .convertDictToArrow ∨ loader = .structuredLoads) ∧
  ∀ value, receiving.outcome = .ok value → receiving.calls ≠ []

theorem NeverUnpickles.onlySafe (hnever : NeverUnpickles receiving) :
    OnlySafeLoaders receiving := by
  constructor
  · intro loader hloader
    have hsafe := hnever.keeps.calls hloader
    cases loader with
    | convertDictToArrow => exact Or.inl rfl
    | structuredLoads => exact Or.inr rfl
    | stablePickleLoads | pickleLoads => cases hsafe
  · intro value hvalue
    exact hnever.calls.calls_ne_nil hvalue

/-- In a restricted context every receiver raises or decodes without a pickle,
whatever is declared and whatever mode and trust mode the caller passes. -/
theorem restricted_receivers_never_unpickle (codecs : Codecs φ α ρ)
    (builtins : Builtins φ α ρ) (context : String)
    (hrestricted : normalizedText builtins.casing context ∈
      pickleRestrictedContexts) (mode trustMode codec : String)
    (version limitBytes : ℤ) (payload : Blob) (value : PyValue φ α ρ) :
    OnlySafeLoaders (receiveTransportValue codecs builtins value mode context
        trustMode) ∧
      OnlySafeLoaders (receiveTransportPayloadBytes codecs builtins codec
        version payload context trustMode limitBytes) ∧
      OnlySafeLoaders (decodeInlineTransportCarrier codecs builtins value
        context trustMode limitBytes) ∧
      OnlySafeLoaders (decodePayloadFromTransport codecs builtins value mode
        context trustMode) ∧
      OnlySafeLoaders (decodeResultFromTransport codecs builtins value mode
        context trustMode) :=
  ⟨(receiveTransportValue_safe hrestricted value mode trustMode).onlySafe,
    (receiveTransportPayloadBytes_safe hrestricted codec trustMode version
      limitBytes payload).onlySafe,
    (decodeInlineTransportCarrier_safe hrestricted value trustMode
      limitBytes).onlySafe,
    (decodePayloadFromTransport_safe hrestricted value mode trustMode).onlySafe,
    (decodePayloadFromTransport_safe hrestricted value mode trustMode).onlySafe⟩

/-- A pickle is one byte that tells `None`; nothing else is decoded. -/
def plainCodecs : Codecs ℤ Unit Unit where
  refEntries _ := []
  refFrom _ := none
  encodeObject _ := none
  decodeObject _ _ := none
  intOf _ := none
  ofInt := id
  truncate := id
  isZero number := number == 0
  base64 _ := ""
  restoreBlob _ := some [78]
  jsonDumps _ := none
  jsonLoads _ := none
  pickleDumps _ _ := none
  pickleLoads _ blob := if blob = [78] then some .null else none

def plainBuiltins : Builtins ℤ Unit Unit where
  casing := {
    lower := fun text => .ofList (text.toList.map Char.toLower)
    upper := fun text => .ofList (text.toList.map Char.toUpper) }
  str
    | .str text => text
    | _ => ""
  int
    | .int value => some value
    | _ => none
  bytes _ := none
  dict
    | .dict entries => some entries
    | _ => none
  sha256 _ := ""

def pickledEnvelope : PyValue ℤ Unit Unit :=
  .dict [(transportEnvelopeSentinel, .dict [
    ("codec", .str " Pickle_Stable_V1"), ("payload", .str "Tg==")])]

/-- In a trusted context the pickle is loaded. -/
example : (receiveTransportValue plainCodecs plainBuiltins pickledEnvelope
    "legacy_v1" "service_internal" "").calls = [.stablePickleLoads] := by
  decide +kernel

theorem gateway_never_unpickles :
    normalizedText plainBuiltins.casing " Gateway_Public" ∈
        pickleRestrictedContexts ∧
      OnlySafeLoaders (receiveTransportValue plainCodecs plainBuiltins
        pickledEnvelope "legacy_v1" " Gateway_Public" "trusted") := by
  have hrestricted : normalizedText plainBuiltins.casing " Gateway_Public" ∈
      pickleRestrictedContexts := by decide +kernel
  exact ⟨hrestricted, (restricted_receivers_never_unpickle plainCodecs
    plainBuiltins " Gateway_Public" hrestricted "legacy_v1" "trusted" "" 1 0 []
    pickledEnvelope).1⟩

end PycloudParallel.Transport
