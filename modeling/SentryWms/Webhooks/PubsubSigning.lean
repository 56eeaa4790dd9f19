import Mathlib.Data.List.Nodup
import SentryWms.Coding.Json

/-!
# Signed messages between the dispatchers

The workers of the dispatcher tell one another of changed subscriptions over a channel that
anybody with access to the broker can write to.  A message is an envelope: a payload and its
signature.  The thread that listens verifies the envelope and queues a wake event; an
exception that the verification lets through ends the thread.
-/

namespace SentryWms.Webhooks

open Coding.Json

/-! ## Strings and bytes -/

abbrev Octets := List UInt8

def isContinuation (low high : ℕ) (octet : UInt8) : Bool :=
  decide (low ≤ octet.toNat ∧ octet.toNat ≤ high)

/-- `bytes.decode("utf-8")`. -/
def decodeUtf8 : Octets → Option Points
  | [] => some []
  | first :: rest =>
      if first.toNat < 0x80 then (decodeUtf8 rest).map (first.toNat :: ·)
      else if 0xC2 ≤ first.toNat ∧ first.toNat ≤ 0xDF then
        match rest with
        | second :: rest =>
            if isContinuation 0x80 0xBF second then
              (decodeUtf8 rest).map ((first.toNat % 32 * 64 + second.toNat % 64) :: ·)
            else none
        | _ => none
      else if 0xE0 ≤ first.toNat ∧ first.toNat ≤ 0xEF then
        match rest with
        | second :: third :: rest =>
            if isContinuation (if first.toNat = 0xE0 then 0xA0 else 0x80)
                (if first.toNat = 0xED then 0x9F else 0xBF) second ∧
                isContinuation 0x80 0xBF third then
              (decodeUtf8 rest).map
                ((first.toNat % 16 * 4096 + second.toNat % 64 * 64 + third.toNat % 64) :: ·)
            else none
        | _ => none
      else if 0xF0 ≤ first.toNat ∧ first.toNat ≤ 0xF4 then
        match rest with
        | second :: third :: fourth :: rest =>
            if isContinuation (if first.toNat = 0xF0 then 0x90 else 0x80)
                (if first.toNat = 0xF4 then 0x8F else 0xBF) second ∧
                isContinuation 0x80 0xBF third ∧ isContinuation 0x80 0xBF fourth then
              (decodeUtf8 rest).map ((first.toNat % 8 * 262144 + second.toNat % 64 * 4096 +
                third.toNat % 64 * 64 + fourth.toNat % 64) :: ·)
            else none
        | _ => none
      else none

/-- The octets of a point that stands for a character. -/
def encodeUtf8Point (point : ℕ) : Option Octets :=
  if point < 0x80 then some [UInt8.ofNat point]
  else if point < 0x800 then
    some [UInt8.ofNat (0xC0 + point / 64), UInt8.ofNat (0x80 + point % 64)]
  else if 0xD800 ≤ point ∧ point ≤ 0xDFFF then none
  else if point < 0x10000 then
    some [UInt8.ofNat (0xE0 + point / 4096), UInt8.ofNat (0x80 + point / 64 % 64),
      UInt8.ofNat (0x80 + point % 64)]
  else
    some [UInt8.ofNat (0xF0 + point / 262144), UInt8.ofNat (0x80 + point / 4096 % 64),
      UInt8.ofNat (0x80 + point / 64 % 64), UInt8.ofNat (0x80 + point % 64)]

/-- `str.encode("utf-8")`, which raises on surrogates. -/
def encodeUtf8 (text : Points) : Option Octets := (text.mapM encodeUtf8Point).map List.flatten

/-- `str.isspace()`. -/
def isSpace (point : ℕ) : Bool :=
  decide ((9 ≤ point ∧ point ≤ 13) ∨ (28 ≤ point ∧ point ≤ 32) ∨ point = 0x85 ∨
    point = 0xA0 ∨ point = 0x1680 ∨ (0x2000 ≤ point ∧ point ≤ 0x200A) ∨ point = 0x2028 ∨
    point = 0x2029 ∨ point = 0x202F ∨ point = 0x205F ∨ point = 0x3000)

/-- `str.strip()`. -/
def strip (text : Points) : Points := ((text.dropWhile isSpace).reverse.dropWhile isSpace).reverse

/-! ## The key -/

/-- `_PLACEHOLDER_KEYS`. -/
def placeholderKeys : List Points :=
  [ofChars "replace-me-with-secrets-token-hex-32".toList,
   ofChars "replace-me-with-openssl-rand-hex-32".toList]

/-- `_MIN_KEY_BYTES`. -/
def minKeyBytes : ℕ := 32

/-- How `load_key` fails: with `PubsubKeyConfigError`, or on a value that is no text. -/
inductive LoadKeyError
  | unset
  | placeholder
  | short
  | unicodeEncodeError
  deriving DecidableEq, Repr

/-- `load_key`, of the value of the environment variable. -/
def loadKey (environ : Option Points) : Except LoadKeyError Octets :=
  match environ with
  | none => .error .unset
  | some raw =>
      if strip raw = [] then .error .unset
      else if strip raw ∈ placeholderKeys then .error .placeholder
      else
        match encodeUtf8 raw with
        | none => .error .unicodeEncodeError
        | some encoded => if encoded.length < minKeyBytes then .error .short else .ok encoded

/-! ## Envelopes -/

/-- HMAC-SHA256, and its hexadecimal form. -/
structure Signing where
  hexdigest : (key message : Octets) → Points
  hexdigest_ascii : ∀ key message, ∀ point ∈ hexdigest key message, point < 128

/-- The exceptions that `parse_envelope` lets through. -/
inductive Escaped
  | recursionError
  | unicodeEncodeError
  | typeError
  deriving DecidableEq, Repr

variable (signing : Signing) (depth : ℕ)

/-- The names of the fields. -/
def sigName : Points := ofChars "sig".toList

def payloadName : Points := ofChars "payload".toList

def eventName : Points := ofChars "event".toList

def subscriptionIdName : Points := ofChars "subscription_id".toList

/-- `canonical_payload`. -/
def canonicalPayload (subscriptionId event : Points) : Points :=
  dumps [(eventName, event), (subscriptionIdName, subscriptionId)]

/-- `sign_payload`. -/
def signPayload (payload : Points) (key : Octets) : Except Escaped Points :=
  match encodeUtf8 payload with
  | none => .error .unicodeEncodeError
  | some message => .ok (signing.hexdigest key message)

/-- `hmac.compare_digest` of two strings, which must be ASCII. -/
def compareDigest (left right : Points) : Except Escaped Bool :=
  if left.all (· < 128) ∧ right.all (· < 128) then .ok (decide (left = right))
  else .error .typeError

/-- `verify_payload`. -/
def verifyPayload (payload signature : Points) (key : Octets) : Except Escaped Bool :=
  match signPayload signing payload key with
  | .error error => .error error
  | .ok expected => compareDigest expected signature

/-- `build_envelope`. -/
def buildEnvelope (subscriptionId event : Points) (key : Octets) : Except Escaped Points :=
  let payload := canonicalPayload subscriptionId event
  (signPayload signing payload key).map fun signature =>
    dumps [(sigName, signature), (payloadName, payload)]

/-- `dict.get`. -/
def getField (fields : List (Points × Value)) (key : Points) : Option Value :=
  (fields.find? fun field => field.1 = key).map Prod.snd

/-- `parse_envelope`. -/
def parseEnvelope (raw : Points) (key : Octets) : Except Escaped (Option (List (Points × Value))) :=
  match loads depth raw with
  | .error .value => .ok none
  | .error .recursion => .error .recursionError
  | .ok (.dict outer) =>
      match getField outer sigName, getField outer payloadName with
      | some (.str signature), some (.str payload) =>
          match verifyPayload signing payload signature key with
          | .error error => .error error
          | .ok false => .ok none
          | .ok true =>
              match loads depth payload with
              | .error .value => .ok none
              | .error .recursion => .error .recursionError
              | .ok (.dict inner) => .ok (some inner)
              | .ok _ => .ok none
      | _, _ => .ok none
  | .ok _ => .ok none

/-! ## The subscriber -/

/-- A `WakeEvent` of kind `subscription_event`. -/
structure WakeEvent where
  subscriptionId : Points
  subscriptionEventKind : Points
  deriving DecidableEq, Repr

/-- `_VALID_SUBSCRIPTION_EVENT_KINDS`. -/
def validSubscriptionEventKinds : List Points :=
  [ofChars "paused".toList, ofChars "resumed".toList, ofChars "deleted".toList,
   ofChars "delivery_url_changed".toList, ofChars "rate_limit_changed".toList,
   ofChars "secret_rotated".toList, ofChars "subscription_filter_changed".toList,
   ofChars "ceiling_changed".toList]

/-- The event that a verified object asks for; an event kind that cannot be hashed raises. -/
def wakeEvent (data : List (Points × Value)) : Except Escaped (Option WakeEvent) :=
  match getField data subscriptionIdName with
  | some (.str subscriptionId) =>
      if subscriptionId = [] then .ok none
      else
        match getField data eventName with
        | some (.list _) => .error .typeError
        | some (.dict _) => .error .typeError
        | some (.str event) =>
            .ok (if event ∈ validSubscriptionEventKinds then some ⟨subscriptionId, event⟩
              else none)
        | _ => .ok none
  | _ => .ok none

/-- `_handle_pubsub_message`, of the data of a message. -/
def handlePubsubMessage (environ : Option Points) (data : Octets) :
    Except Escaped (Option WakeEvent) :=
  match decodeUtf8 data with
  | none => .ok none
  | some [] => .ok none
  | some raw =>
      match loadKey environ with
      | .error .unicodeEncodeError => .error .unicodeEncodeError
      | .error _ => .ok none
      | .ok key =>
          match parseEnvelope signing depth raw key with
          | .error error => .error error
          | .ok none => .ok none
          | .ok (some inner) => wakeEvent inner

/-- What the thread hears: whether the shutdown has begun, and the data, unless it is no
message. -/
structure Heard where
  shutdown : Bool
  data : Option Octets

/-- How the thread ends: it goes on listening, it returns, or an exception ends it. -/
inductive Ending
  | listening
  | returned
  | exited (error : Escaped)
  deriving DecidableEq, Repr

/-- The loop of `_run_pubsub`: what it puts into the queue, and how it ends. -/
def runPubsub (environ : Option Points) : List Heard → List WakeEvent × Ending
  | [] => ([], .listening)
  | heard :: rest =>
      if heard.shutdown then ([], .returned)
      else
        match heard.data with
        | none => runPubsub environ rest
        | some data =>
            match handlePubsubMessage signing depth environ data with
            | .error error => ([], .exited error)
            | .ok none => runPubsub environ rest
            | .ok (some event) =>
                let later := runPubsub environ rest
                (event :: later.1, later.2)

/-- The messages that reach the thread before the shutdown. -/
def delivered (heard : List Heard) : List Octets :=
  (heard.takeWhile fun message => !message.shutdown).filterMap (·.data)

/-! ## Messages that end the thread -/

/-- The text is an envelope with this signature and payload. -/
def Carries (raw signature payload : Points) : Prop :=
  ∃ outer, loads depth raw = .ok (.dict outer) ∧ getField outer sigName = some (.str signature) ∧
    getField outer payloadName = some (.str payload)

/-- The text nests too deep, or is an envelope whose payload has no encoding or whose
signature is not ASCII. -/
def Breaks (raw : Points) : Prop :=
  loads depth raw = .error .recursion ∨
    ∃ signature payload, Carries depth raw signature payload ∧
      (encodeUtf8 payload = none ∨ ∃ point ∈ signature, 128 ≤ point)

/-- The text is an envelope of this payload with its signature under the key. -/
def SignedUnder (raw : Points) (key : Octets) (payload : Points) : Prop :=
  ∃ signature message, Carries depth raw signature payload ∧
    encodeUtf8 payload = some message ∧ signature = signing.hexdigest key message

section Parse

variable {signing depth} {raw payload signature : Points} {key : Octets}

/-- A signature is verified, or refused, if the payload has an encoding and it is ASCII. -/
theorem verifyPayload_of_encoded {message : Octets} (hencoded : encodeUtf8 payload = some message)
    (hascii : ∀ point ∈ signature, point < 128) :
    verifyPayload signing payload signature key =
      .ok (decide (signing.hexdigest key message = signature)) := by
  have hexpected : ((signing.hexdigest key message).all fun point => decide (point < 128)) =
      true :=
    List.all_eq_true.mpr fun point hpoint =>
      decide_eq_true (signing.hexdigest_ascii key message point hpoint)
  have hsignature : (signature.all fun point => decide (point < 128)) = true :=
    List.all_eq_true.mpr fun point hpoint => decide_eq_true (hascii point hpoint)
  rw [verifyPayload, signPayload, hencoded]
  simp only [compareDigest, hexpected, hsignature, and_self, if_true]

/-- A payload without an encoding, or a signature that is not ASCII, raises. -/
theorem verifyPayload_breaks
    (hbreaks : encodeUtf8 payload = none ∨ ∃ point ∈ signature, 128 ≤ point) :
    ∃ error, verifyPayload signing payload signature key = .error error := by
  rw [verifyPayload, signPayload]
  cases hencoded : encodeUtf8 payload with
  | none => exact ⟨.unicodeEncodeError, rfl⟩
  | some message =>
      cases hbreaks with
      | inl hnone =>
          rw [hencoded] at hnone
          cases hnone
      | inr hpoint =>
          obtain ⟨point, hmem, hlarge⟩ := hpoint
          refine ⟨.typeError, ?_⟩
          simp only [compareDigest]
          rw [if_neg]
          rintro ⟨-, hall⟩
          have hsmall := of_decide_eq_true (List.all_eq_true.mp hall point hmem)
          omega

/-- A message that breaks the verification raises. -/
theorem parseEnvelope_breaks (hbreaks : Breaks depth raw) :
    ∃ error, parseEnvelope signing depth raw key = .error error := by
  cases hbreaks with
  | inl hdeep =>
      refine ⟨.recursionError, ?_⟩
      rw [parseEnvelope, hdeep]
  | inr hcarries =>
      obtain ⟨signature, payload, ⟨outer, hloads, hsignature, hpayload⟩, hbad⟩ := hcarries
      obtain ⟨error, herror⟩ := @verifyPayload_breaks signing payload signature key hbad
      refine ⟨error, ?_⟩
      rw [parseEnvelope, hloads]
      simp only [hsignature, hpayload, herror]

/-- What `parse_envelope` does with a message that does not break the verification. -/
theorem parseEnvelope_cases (hholds : ¬ Breaks depth raw) :
    parseEnvelope signing depth raw key = .ok none ∨
      ∃ payload, SignedUnder signing depth raw key payload ∧
        ((loads depth payload = .error .recursion ∧
            parseEnvelope signing depth raw key = .error .recursionError) ∨
          ∃ inner, loads depth payload = .ok (.dict inner) ∧
            parseEnvelope signing depth raw key = .ok (some inner)) := by
  unfold parseEnvelope
  split
  · exact Or.inl rfl
  · rename_i hdeep
    exact absurd (Or.inl hdeep) hholds
  · rename_i outer hloads
    split
    · rename_i signature payload hsignature hpayload
      have hcarries : Carries depth raw signature payload := ⟨outer, hloads, hsignature, hpayload⟩
      obtain ⟨message, hencoded⟩ : ∃ message, encodeUtf8 payload = some message := by
        cases hencoded : encodeUtf8 payload with
        | none => exact absurd (Or.inr ⟨signature, payload, hcarries, Or.inl hencoded⟩) hholds
        | some message => exact ⟨message, rfl⟩
      have hascii : ∀ point ∈ signature, point < 128 := by
        intro point hpoint
        by_contra hlarge
        exact hholds (Or.inr ⟨signature, payload, hcarries,
          Or.inr ⟨point, hpoint, Nat.not_lt.mp hlarge⟩⟩)
      rw [verifyPayload_of_encoded hencoded hascii]
      by_cases hsame : signing.hexdigest key message = signature
      · rw [decide_eq_true hsame]
        have hsigned : SignedUnder signing depth raw key payload :=
          ⟨signature, message, hcarries, hencoded, hsame.symm⟩
        simp only
        split
        · exact Or.inl rfl
        · rename_i hdeep
          exact Or.inr ⟨payload, hsigned, Or.inl ⟨hdeep, rfl⟩⟩
        · rename_i inner hinner
          exact Or.inr ⟨payload, hsigned, Or.inr ⟨inner, hinner, rfl⟩⟩
        · exact Or.inl rfl
      · rw [decide_eq_false hsame]
        exact Or.inl rfl
    · exact Or.inl rfl
  · exact Or.inl rfl

end Parse

/-! ## What the signer builds -/

theorem encodeUtf8_cons (point : ℕ) (text : Points) :
    encodeUtf8 (point :: text) =
      (encodeUtf8Point point).bind fun first =>
        (encodeUtf8 text).map fun rest => first ++ rest := by
  rw [encodeUtf8, encodeUtf8, List.mapM_cons]
  cases encodeUtf8Point point with
  | none => rfl
  | some first =>
      cases text.mapM encodeUtf8Point with
      | none | some => rfl

/-- ASCII text has an encoding. -/
theorem encodeUtf8_ascii {text : Points} (hascii : ∀ point ∈ text, point < 128) :
    ∃ message, encodeUtf8 text = some message := by
  induction text with
  | nil => exact ⟨[], rfl⟩
  | cons point text ih =>
      obtain ⟨rest, hrest⟩ := ih fun later hlater => hascii later (List.mem_cons_of_mem _ hlater)
      have hpoint : encodeUtf8Point point = some [UInt8.ofNat point] := by
        rw [encodeUtf8Point, if_pos (hascii point List.mem_cons_self)]
      refine ⟨[UInt8.ofNat point] ++ rest, ?_⟩
      rw [encodeUtf8_cons, hpoint, hrest]
      rfl

theorem getField_head (key : Points) (value : Value) (rest : List (Points × Value)) :
    getField ((key, value) :: rest) key = some value := by
  simp [getField]

theorem getField_tail {key other : Points} (hother : other ≠ key) (value : Value)
    (rest : List (Points × Value)) :
    getField ((other, value) :: rest) key = getField rest key := by
  simp [getField, hother]

section Build

variable {signing depth}

/-- The names differ. -/
theorem sigName_ne : sigName ≠ payloadName := by
  decide +kernel

theorem eventName_ne : eventName ≠ subscriptionIdName := by
  decide +kernel

/-- The fields of a payload. -/
theorem canonicalPayload_fields (subscriptionId event : List Char) :
    ∀ field ∈ [(eventName, ofChars event),
      (subscriptionIdName, ofChars subscriptionId)], ScalarField field := by
  intro field hfield
  simp only [List.mem_cons, List.not_mem_nil, or_false] at hfield
  rcases hfield with rfl | rfl
  · exact ⟨scalar_ofChars _, scalar_ofChars _⟩
  · exact ⟨scalar_ofChars _, scalar_ofChars _⟩

/-- A payload reads back. -/
theorem loads_canonicalPayload (subscriptionId event : List Char) :
    loads (depth + 1) (canonicalPayload (ofChars subscriptionId) (ofChars event)) =
      .ok (.dict [(eventName, .str (ofChars event)),
        (subscriptionIdName, .str (ofChars subscriptionId))]) :=
  loads_dumps depth (canonicalPayload_fields subscriptionId event)
    (List.nodup_cons.mpr ⟨by simpa using eventName_ne, List.nodup_singleton _⟩)

/-- What the signer builds is parsed. -/
theorem parseEnvelope_buildEnvelope (subscriptionId event : List Char) (key : Octets) :
    ∃ raw, buildEnvelope signing (ofChars subscriptionId) (ofChars event) key = .ok raw ∧
      parseEnvelope signing (depth + 1) raw key =
        .ok (some [(eventName, .str (ofChars event)),
          (subscriptionIdName, .str (ofChars subscriptionId))]) := by
  have hascii : ∀ written ∈ canonicalPayload (ofChars subscriptionId) (ofChars event),
      written < 128 :=
    dumps_ascii (canonicalPayload_fields subscriptionId event)
  obtain ⟨message, hencoded⟩ := encodeUtf8_ascii hascii
  have hsig := signing.hexdigest_ascii key message
  have hfields : ∀ field ∈ [(sigName, signing.hexdigest key message),
      (payloadName, canonicalPayload (ofChars subscriptionId) (ofChars event))],
      ScalarField field := by
    intro field hfield
    simp only [List.mem_cons, List.not_mem_nil, or_false] at hfield
    rcases hfield with rfl | rfl
    · exact ⟨scalar_ofChars _, fun point hpoint => scalar_of_lt (hsig point hpoint)⟩
    · exact ⟨scalar_ofChars _, fun point hpoint => scalar_of_lt (hascii point hpoint)⟩
  have houter := loads_dumps depth hfields
    (List.nodup_cons.mpr ⟨by simpa using sigName_ne, List.nodup_singleton _⟩)
  have hverified := @verifyPayload_of_encoded signing _ _ key _ hencoded hsig
  rw [decide_eq_true rfl] at hverified
  refine ⟨dumps [(sigName, signing.hexdigest key message),
    (payloadName, canonicalPayload (ofChars subscriptionId) (ofChars event))],
    ?_, ?_⟩
  · simp only [buildEnvelope, signPayload, hencoded]
    rfl
  · rw [parseEnvelope, houter]
    simp only [List.map_cons, List.map_nil, getField_head, getField_tail sigName_ne, hverified,
      loads_canonicalPayload]

/-- The event of a payload that the signer built. -/
theorem wakeEvent_canonical (subscriptionId event : List Char) :
    wakeEvent [(eventName, .str (ofChars event)),
        (subscriptionIdName, .str (ofChars subscriptionId))] =
      .ok (if ofChars subscriptionId ≠ [] ∧ ofChars event ∈ validSubscriptionEventKinds then
        some ⟨ofChars subscriptionId, ofChars event⟩ else none) := by
  rw [wakeEvent, getField_tail eventName_ne, getField_head]
  simp only [getField_head]
  by_cases hempty : ofChars subscriptionId = []
  · simp [hempty]
  · simp [hempty]

end Build

/-! ## Everything that is heard -/

/-- HMAC cannot be forged: each payload that arrives with its signature under the key is one
that the signer built. -/
def Unforged (key : Octets) (built : List (List Char × List Char)) (heard : List Heard) : Prop :=
  ∀ data ∈ delivered heard, ∀ raw ∈ decodeUtf8 data, ∀ payload,
    SignedUnder signing depth raw key payload →
      ∃ pair ∈ built, payload = canonicalPayload (ofChars pair.1) (ofChars pair.2)

/-- The thread survives what it hears: each text is parsed to nothing or to the object of a
payload with its signature, no exception ends the thread, only events that were signed are
queued, and what the signer builds is parsed to the object it was built from. -/
structure Survives (environ : Option Points) (key : Octets)
    (built : List (List Char × List Char)) (heard : List Heard) : Prop where
  parses : ∀ data ∈ delivered heard, ∀ raw ∈ decodeUtf8 data,
    ∃ result, parseEnvelope signing depth raw key = .ok result ∧
      ∀ inner ∈ result, ∃ payload, SignedUnder signing depth raw key payload ∧
        loads depth payload = .ok (.dict inner)
  continues : ∀ error, (runPubsub signing depth environ heard).2 ≠ .exited error
  genuine : ∀ event ∈ (runPubsub signing depth environ heard).1, ∃ pair ∈ built,
    event = ⟨ofChars pair.1, ofChars pair.2⟩
  returns : ∀ subscriptionId event : List Char, ∃ raw,
    buildEnvelope signing (ofChars subscriptionId) (ofChars event) key = .ok raw ∧
      parseEnvelope signing depth raw key =
        .ok (some [(eventName, .str (ofChars event)),
          (subscriptionIdName, .str (ofChars subscriptionId))])

variable {signing depth} {environ : Option Points} {key : Octets}
  {built : List (List Char × List Char)} {heard : List Heard}

/-- Where HMAC is not forged, a text that does not break the verification is parsed to
nothing or to the object of a payload that the signer built. -/
theorem parseEnvelope_unforged {raw : Points} (hholds : ¬ Breaks (depth + 1) raw)
    (hunforged : ∀ payload, SignedUnder signing (depth + 1) raw key payload →
      ∃ pair ∈ built, payload = canonicalPayload (ofChars pair.1) (ofChars pair.2)) :
    parseEnvelope signing (depth + 1) raw key = .ok none ∨
      ∃ payload, SignedUnder signing (depth + 1) raw key payload ∧ ∃ pair ∈ built,
        loads (depth + 1) payload = .ok (.dict [(eventName, .str (ofChars pair.2)),
          (subscriptionIdName, .str (ofChars pair.1))]) ∧
        parseEnvelope signing (depth + 1) raw key =
          .ok (some [(eventName, .str (ofChars pair.2)),
            (subscriptionIdName, .str (ofChars pair.1))]) := by
  cases parseEnvelope_cases hholds with
  | inl hnone => exact Or.inl hnone
  | inr hsigned =>
      obtain ⟨payload, hsigned, hparsed⟩ := hsigned
      obtain ⟨pair, hpair, hpayload⟩ := hunforged payload hsigned
      have hloads : loads (depth + 1) payload = .ok (.dict [(eventName, .str (ofChars pair.2)),
          (subscriptionIdName, .str (ofChars pair.1))]) := by
        rw [hpayload, loads_canonicalPayload]
      refine Or.inr ⟨payload, hsigned, pair, hpair, hloads, ?_⟩
      rcases hparsed with ⟨hdeep, -⟩ | ⟨inner, hinner, hparsed⟩
      · rw [hloads] at hdeep
        cases hdeep
      · rw [hloads] at hinner
        cases hinner
        exact hparsed

/-- A message that does not break the verification queues nothing, or an event that was
signed. -/
theorem handlePubsubMessage_unforged (hkey : loadKey environ = .ok key) {data : Octets}
    (hholds : ∀ raw ∈ decodeUtf8 data, ¬ Breaks (depth + 1) raw)
    (hunforged : ∀ raw ∈ decodeUtf8 data, ∀ payload,
      SignedUnder signing (depth + 1) raw key payload →
        ∃ pair ∈ built, payload = canonicalPayload (ofChars pair.1) (ofChars pair.2)) :
    handlePubsubMessage signing (depth + 1) environ data = .ok none ∨
      ∃ pair ∈ built, handlePubsubMessage signing (depth + 1) environ data =
        .ok (some ⟨ofChars pair.1, ofChars pair.2⟩) := by
  unfold handlePubsubMessage
  split
  · exact Or.inl rfl
  · exact Or.inl rfl
  · rename_i raw hnonempty hraw
    rw [hkey]
    cases parseEnvelope_unforged (hholds raw hraw) (hunforged raw hraw) with
    | inl hnone =>
        simp only [hnone]
        exact Or.inl trivial
    | inr hsigned =>
        obtain ⟨payload, -, pair, hpair, -, hparsed⟩ := hsigned
        simp only [hparsed, wakeEvent_canonical]
        split
        · exact Or.inr ⟨pair, hpair, rfl⟩
        · exact Or.inl rfl

theorem delivered_cons (message : Heard) (rest : List Heard) :
    delivered (message :: rest) =
      if message.shutdown then [] else message.data.toList ++ delivered rest := by
  rw [delivered, List.takeWhile_cons]
  cases message.shutdown with
  | true => rfl
  | false =>
      cases hdata : message.data with
      | none | some => simp [delivered, hdata]

/-- A run of messages of which none raises. -/
theorem runPubsub_spec
    (hhandled : ∀ data ∈ delivered heard,
      handlePubsubMessage signing depth environ data = .ok none ∨
        ∃ pair ∈ built, handlePubsubMessage signing depth environ data =
          .ok (some ⟨ofChars pair.1, ofChars pair.2⟩)) :
    (∀ error, (runPubsub signing depth environ heard).2 ≠ .exited error) ∧
      ∀ event ∈ (runPubsub signing depth environ heard).1, ∃ pair ∈ built,
        event = ⟨ofChars pair.1, ofChars pair.2⟩ := by
  induction heard with
  | nil =>
      constructor
      · intro error hexited
        cases hexited
      · intro event hevent
        cases hevent
  | cons message rest ih =>
      rw [delivered_cons] at hhandled
      rw [runPubsub]
      cases hshutdown : message.shutdown with
      | true =>
          constructor
          · intro error hexited
            cases hexited
          · intro event hevent
            cases hevent
      | false =>
          rw [hshutdown] at hhandled
          simp only [Bool.false_eq_true, if_false] at hhandled ⊢
          have hrest := ih fun data hdata => hhandled data (List.mem_append_right _ hdata)
          cases hdata : message.data with
          | none => exact hrest
          | some data =>
              have hhere := hhandled data (List.mem_append_left _ (by rw [hdata]; simp))
              rcases hhere with hnone | ⟨pair, hpair, hsome⟩
              · simp only [hnone]
                exact hrest
              · simp only [hsome]
                refine ⟨hrest.1, fun event hevent => ?_⟩
                cases List.mem_cons.mp hevent with
                | inl hfirst => exact ⟨pair, hpair, hfirst⟩
                | inr hlater => exact hrest.2 event hlater

/-- Under a key that loads, and with HMAC not forged, the thread survives what it hears if
and only if no text breaks the verification. -/
theorem survives_iff (hdepth : 0 < depth) (hkey : loadKey environ = .ok key)
    (hunforged : Unforged signing depth key built heard) :
    Survives signing depth environ key built heard ↔
      ∀ data ∈ delivered heard, ∀ raw ∈ decodeUtf8 data, ¬ Breaks depth raw := by
  obtain ⟨depth, rfl⟩ : ∃ less, depth = less + 1 := ⟨depth - 1, by omega⟩
  constructor
  · intro hsurvives data hdata raw hraw hbreaks
    obtain ⟨result, hparsed, -⟩ := hsurvives.parses data hdata raw hraw
    obtain ⟨error, herror⟩ := @parseEnvelope_breaks signing (depth + 1) raw key hbreaks
    rw [hparsed] at herror
    cases herror
  · intro hholds
    have hrun := runPubsub_spec fun data hdata =>
      handlePubsubMessage_unforged hkey (hholds data hdata) (hunforged data hdata)
    refine ⟨?_, hrun.1, hrun.2, fun subscriptionId event =>
      parseEnvelope_buildEnvelope subscriptionId event key⟩
    intro data hdata raw hraw
    cases parseEnvelope_unforged (hholds data hdata raw hraw) (hunforged data hdata raw hraw) with
    | inl hnone =>
        refine ⟨none, hnone, fun inner hinner => ?_⟩
        cases hinner
    | inr hsigned =>
        obtain ⟨payload, hsigned, pair, -, hloads, hparsed⟩ := hsigned
        refine ⟨_, hparsed, fun inner hinner => ?_⟩
        cases hinner
        exact ⟨payload, hsigned, hloads⟩

/-- The signature of the empty payload under a key of 64 digits. -/
def emptyDigest : Points :=
  ofChars "081247dc68bb7fafbf13220013a0ab71db8b628d679161f87b5e5bd9e19b1494".toList

def emptySigning : Signing where
  hexdigest := fun _ _ => emptyDigest
  hexdigest_ascii := by
    intro _ _
    decide +kernel

def digitsKey : Points := (List.replicate 4 (ofChars "0123456789abcdef".toList)).flatten

/-- `{"sig":"00","payload":""}`. -/
def forgedText : Points :=
  [123, 34, 115, 105, 103, 34, 58, 34, 48, 48, 34, 44, 34, 112, 97, 121, 108, 111, 97, 100, 34,
    58, 34, 34, 125]

theorem loads_forgedText :
    loads 1 forgedText =
      .ok (.dict [([115, 105, 103], .str [48, 48]),
        ([112, 97, 121, 108, 111, 97, 100], .str [])]) :=
  rfl

/-- The thread survives a forged signature. -/
theorem survives_iff_forged :
    Survives emptySigning 1 (some digitsKey) (digitsKey.map UInt8.ofNat) []
        [⟨false, some (forgedText.map UInt8.ofNat)⟩] ↔
      ∀ data ∈ delivered [⟨false, some (forgedText.map UInt8.ofNat)⟩],
        ∀ raw ∈ decodeUtf8 data, ¬ Breaks 1 raw := by
  apply survives_iff (by decide) (by decide +kernel)
  intro data hdata raw hraw payload hsigned
  have hdata : data = forgedText.map UInt8.ofNat := by simpa [delivered] using hdata
  have hraw : raw = forgedText := by
    have hdecoded : decodeUtf8 (forgedText.map UInt8.ofNat) = some forgedText := by
      decide +kernel
    rw [hdata, hdecoded] at hraw
    cases hraw
    rfl
  obtain ⟨signature, message, ⟨outer, hloads, hsignature, -⟩, -, hdigest⟩ := hsigned
  rw [hraw, loads_forgedText] at hloads
  cases hloads
  have hname : sigName = [115, 105, 103] := by decide +kernel
  rw [hname, getField_head] at hsignature
  cases hsignature
  have hother : ([48, 48] : Points) ≠ emptyDigest := by decide +kernel
  exact absurd hdigest hother

/-- `{"sig":"é","payload":""}`. -/
def accentedText : Points :=
  [123, 34, 115, 105, 103, 34, 58, 34, 233, 34, 44, 34, 112, 97, 121, 108, 111, 97, 100, 34, 58,
    34, 34, 125]

/-- A signature that is not ASCII ends the thread, and the message after it is not heard. -/
theorem accented_exits :
    parseEnvelope emptySigning 1 accentedText (digitsKey.map UInt8.ofNat) = .error .typeError ∧
      runPubsub emptySigning 1 (some digitsKey)
          [⟨false, encodeUtf8 accentedText⟩, ⟨false, some (forgedText.map UInt8.ofNat)⟩] =
        ([], .exited .typeError) ∧
      ¬ Survives emptySigning 1 (some digitsKey) (digitsKey.map UInt8.ofNat) []
        [⟨false, encodeUtf8 accentedText⟩] := by
  have hparsed : parseEnvelope emptySigning 1 accentedText (digitsKey.map UInt8.ofNat) =
      .error .typeError := rfl
  refine ⟨hparsed, by decide +kernel, fun hsurvives => ?_⟩
  have hexited : (runPubsub emptySigning 1 (some digitsKey)
      [⟨false, encodeUtf8 accentedText⟩]).2 = .exited .typeError := by
    decide +kernel
  exact hsurvives.continues .typeError hexited

end SentryWms.Webhooks
