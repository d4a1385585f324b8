import Attestation.Instant
import Attestation.KeySet

/-!
A cache of key sets by the place they are published at. A set is asked for again when it is stale,
or when a key is not in it and it is not too recent: names of keys come from tokens that nobody has
verified yet and must not drive requests. Failures leave the cache as it is.
-/
namespace Attestation

/-- A place where key sets are published: the document under a URL, or why there is none. -/
abbrev KeySource := String → Except String String

structure KeyCache.Entry where
  keys : KeySet
  fetchedAt : Instant

structure KeyCache where
  /-- Nanoseconds after which a set is stale. -/
  ttl : Nat
  /-- Nanoseconds before which a set is not asked for again because a key is not in it. -/
  minRefetch : Nat
  entries : Table String KeyCache.Entry

namespace KeyCache

def new (ttl minRefetch : Nat) : KeyCache := ⟨ttl, minRefetch, Table.empty⟩

inductive FetchError where
  | unavailable (reason : String)
  | notKeySet
  deriving DecidableEq, Repr

def FetchError.message : FetchError → String
  | unavailable reason => reason
  | notKeySet => "key set is not a JWKS document: not a key set"

inductive Error where
  | fetch (url : String) (cause : FetchError)
  | noUsableKeys (url : String)
  | unknownKey (url id : String)
  deriving DecidableEq, Repr

def Error.message : Error → String
  | fetch url cause => url ++ ": " ++ cause.message
  | noUsableKeys url => url ++ " publishes no usable keys"
  | unknownKey url id => url ++ " publishes no key with id " ++ id

/-- What a request for a key may have to warn of. -/
inductive Warning where
  | skippedKey (defect : KeySet.Defect)
  | fetchFailed (url : String) (cause : FetchError)
  | noUsableKeys (url : String)
  deriving DecidableEq, Repr

def Warning.message : Warning → String
  | skippedKey defect => "skipping unusable signing key: " ++ defect.message
  | fetchFailed url cause => "failed to fetch key set from " ++ url ++ ": " ++ cause.message
  | noUsableKeys url => "key set at " ++ url ++ " has no usable keys"

/-- What became of a request: its answer, the cache after it, the URLs asked for, the warnings. -/
structure Resolution where
  answer : Except Error Jwt.VerificationKey
  cache : KeyCache
  fetched : List String
  warnings : List Warning

/-- The set kept for a URL and its age, unless it is stale. A set from the future is stale. -/
def fresh? (c : KeyCache) (url : String) (now : Instant) : Option (KeySet × Nat) := do
  let entry ← c.entries.get? url
  let age ← entry.fetchedAt.since? now
  if age < c.ttl then return (entry.keys, age) else none

def keyIn (keys : KeySet) (url id : String) : Except Error Jwt.VerificationKey :=
  match keys.get? id with
  | some key => .ok key
  | none => .error (.unknownKey url id)

def readingOf (source : KeySource) (url : String) : Except FetchError KeySet.Reading :=
  match source url with
  | .error reason => .error (.unavailable reason)
  | .ok document =>
    match KeySet.ofDocument? document with
    | some reading => .ok reading
    | none => .error .notKeySet

/-- The answer that needs no request, if there is one. A key that is not in a set is taken to be
missing only as long as the set is recent. -/
def cached? (c : KeyCache) (url id : String) (now : Instant) :
    Option (Except Error Jwt.VerificationKey) := do
  let (keys, age) ← c.fresh? url now
  if keys.contains id || age < c.minRefetch then return keyIn keys url id else none

/-- Keeps a set in place of the one that was there. -/
def store (c : KeyCache) (url : String) (keys : KeySet) (now : Instant) : KeyCache :=
  { c with entries := c.entries.insert url ⟨keys, now⟩ }

/-- Asks for the set and, if it has a usable key, keeps it. -/
def refresh (c : KeyCache) (source : KeySource) (url id : String) (now : Instant) : Resolution :=
  match readingOf source url with
  | .error cause => ⟨.error (.fetch url cause), c, [url], [.fetchFailed url cause]⟩
  | .ok reading =>
    let skipped := reading.skipped.map Warning.skippedKey
    if reading.keys.isEmpty then
      ⟨.error (.noUsableKeys url), c, [url], skipped ++ [.noUsableKeys url]⟩
    else ⟨keyIn reading.keys url id, c.store url reading.keys now, [url], skipped⟩

/-- Finds the key of the given name among those published at a URL. -/
def resolve (c : KeyCache) (source : KeySource) (url id : String) (now : Instant) : Resolution :=
  match c.cached? url id now with
  | some answer => ⟨answer, c, [], []⟩
  | none => c.refresh source url id now

end KeyCache

end Attestation
