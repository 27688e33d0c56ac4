import SignalService.Codec.Base64
import SignalService.Core

/-! # Username links

`websocket/usernames.rs`: the link by which an account shares its username. Its fragment has the
entropy that the username is encrypted with, followed by the handle that the service knows it by.
-/

namespace SignalService.Usernames

open Effect

/-- The `url` crate and the engine `BASE64_URL_SAFE_NO_PAD`. -/
structure LinkExternals where
  Url : Type
  scheme : Url → String
  hostStr : Url → Option String
  fragment : Url → Option String
  parse : String → Option Url
  encode : Bytes → String
  decode : String → Option Bytes

/-- The engine decodes the canonical encodings, which have none but letters, digits and two more,
and a URL has the fragment of these that it was given. -/
structure LinkExternals.Lawful (L : LinkExternals) : Prop where
  canonical : ∀ text bytes, L.decode text = some bytes ↔ text = L.encode bytes
  alphabet : ∀ bytes, ∀ c ∈ (L.encode bytes).toList, c ∈ Codec.Base64.urlSafeChars
  parsed : ∀ fragment : String, (∀ c ∈ fragment.toList, c ∈ '/' :: Codec.Base64.urlSafeChars) →
    ∃ url, L.parse ("https://signal.me/#" ++ fragment) = some url ∧ L.scheme url = "https" ∧
      L.hostStr url = some "signal.me" ∧ L.fragment url = some fragment

abbrev Entropy := Vector UInt8 32

variable (L : LinkExternals)

/-- `text.split(separator)`. -/
def splitAt (separator : Char) (text : String) : List String :=
  (text.toList.splitOn separator).map String.ofList

/-- `bytes.split_first_chunk`. -/
def splitFirstChunk (n : Nat) (bytes : Bytes) : Option (Vector UInt8 n × Bytes) :=
  if size : (bytes.take n).toArray.size = n then some (⟨(bytes.take n).toArray, size⟩, bytes.drop n)
  else none

/-- `ok_or`. -/
def present {α : Type} (missing : ServiceError) : Option α → Except ServiceError α
  | none => .error missing
  | some value => .ok value

/-- The segments are taken one by one from an iterator, as far as the third. -/
def parseUsernameLink (link : L.Url) : Except ServiceError (Uuid × Entropy) :=
  if L.scheme link ≠ "https" ∨ L.hostStr link ≠ some "signal.me" then
    .error (.invalidFrame "username link base is not https://signal.me")
  else do
    let fragment ← present (.invalidFrame "username link missing fragment") (L.fragment link)
    let segments := splitAt '/' fragment
    if segments[0]? ≠ some "eu" then
      .error (.invalidFrame "username link must start with #eu/")
    else
      let payload ← present (.invalidFrame "username link payload missing") segments[1]?
      if segments[2]?.isSome then
        .error (.invalidFrame "username link has extra path segments")
      else
        let bytes ← present .base64DecodeError (L.decode payload)
        let (entropy, rest) ← present
          (.invalidFrame "username link payload shorter than entropy") (splitFirstChunk 32 bytes)
        let handle ← present
          (.invalidFrame "username link payload missing handle UUID") (Uuid.ofBytes? rest)
        return (handle, entropy)

/-- `expect` in the end. -/
def generateUsernameLink (handle : Uuid) (entropy : Entropy) : Exit ServiceError L.Url :=
  let payload := entropy.toList ++ handle.toBytes
  Exit.ofOption (.panic "can only generate valid URLs")
    (L.parse ("https://signal.me/#eu/" ++ L.encode payload))

/-! ## What is accepted -/

/-- The grammar of the links. -/
structure IsLink (link : L.Url) (handle : Uuid) (entropy : Entropy) : Prop where
  scheme : L.scheme link = "https"
  host : L.hostStr link = some "signal.me"
  fragment : L.fragment link = some ("eu/" ++ L.encode (entropy.toList ++ handle.toBytes))

variable {L}

theorem bind_present_eq_ok {α β : Type} {missing : ServiceError} {x : Option α}
    {f : α → Except ServiceError β} {b : β} :
    (present missing x >>= f) = .ok b ↔ ∃ a, x = some a ∧ f a = .ok b := by
  cases x <;> simp [present, bind, Except.bind]

theorem splitFirstChunk_eq_some {n : Nat} {bytes rest : Bytes} {chunk : Vector UInt8 n} :
    splitFirstChunk n bytes = some (chunk, rest) ↔ bytes = chunk.toList ++ rest := by
  constructor
  · intro cut
    unfold splitFirstChunk at cut
    split at cut
    · cases cut
      exact (List.take_append_drop n bytes).symm
    · cases cut
  · rintro rfl
    simp [splitFirstChunk, Vector.toList]

theorem splitAt_join {separator : Char} {first second : String}
    (freeFirst : separator ∉ first.toList) (freeSecond : separator ∉ second.toList) :
    splitAt separator (first ++ .singleton separator ++ second) = [first, second] := by
  have joined : (first ++ .singleton separator ++ second).toList =
      first.toList ++ separator :: second.toList := by
    simp
  rw [splitAt, joined, List.splitOn_append_cons_self_of_not_mem freeFirst,
    List.splitOn_eq_singleton freeSecond]
  simp

theorem join_of_splitAt {separator : Char} {text first second : String}
    (split : splitAt separator text = [first, second]) :
    text = first ++ .singleton separator ++ second := by
  have parts := congrArg (List.map String.toList) split
  have same : String.toList ∘ String.ofList = id := funext fun l => String.toList_ofList
  rw [splitAt, List.map_map, same, List.map_id] at parts
  have joined : [separator].intercalate (text.toList.splitOn separator) = text.toList :=
    List.intercalate_splitOn separator
  rw [parts] at joined
  apply String.toList_injective
  rw [← joined]
  simp [List.intercalate]

theorem eq_pair_of_getElem? {α : Type} {l : List α} {a b : α} (first : l[0]? = some a)
    (second : l[1]? = some b) (third : l[2]? = none) : l = [a, b] := by
  match l with
  | [] => cases first
  | [x] => cases second
  | [x, y] =>
      cases first
      cases second
      rfl
  | _ :: _ :: _ :: _ => cases third

theorem slash_not_mem_encode (lawful : L.Lawful) (bytes : Bytes) :
    '/' ∉ (L.encode bytes).toList := by
  intro member
  exact absurd (lawful.alphabet bytes _ member) (by decide)

theorem isLink_of_parse (lawful : L.Lawful) {link : L.Url} {handle : Uuid} {entropy : Entropy}
    (accepted : parseUsernameLink L link = .ok (handle, entropy)) :
    IsLink L link handle entropy := by
  unfold parseUsernameLink at accepted
  split at accepted
  case isTrue => cases accepted
  case isFalse base =>
    obtain ⟨fragment, given, accepted⟩ := bind_present_eq_ok.mp accepted
    dsimp only at accepted
    split at accepted
    case isTrue => cases accepted
    case isFalse marked =>
      obtain ⟨payload, second, accepted⟩ := bind_present_eq_ok.mp accepted
      split at accepted
      case isTrue => cases accepted
      case isFalse alone =>
        obtain ⟨bytes, decoded, accepted⟩ := bind_present_eq_ok.mp accepted
        obtain ⟨⟨chunk, rest⟩, cut, accepted⟩ := bind_present_eq_ok.mp accepted
        obtain ⟨id, read, accepted⟩ := bind_present_eq_ok.mp accepted
        cases accepted
        have split := eq_pair_of_getElem? (not_not.mp marked) second
          (Option.not_isSome_iff_eq_none.mp alone)
        have handleBytes : rest = handle.toBytes := Uuid.ofBytes?_eq_some.mp read
        rw [lawful.canonical, splitFirstChunk_eq_some.mp cut, handleBytes] at decoded
        refine ⟨by tauto, by tauto, ?_⟩
        rw [given, join_of_splitAt split, decoded]
        rfl

theorem parse_of_isLink (lawful : L.Lawful) {link : L.Url} {handle : Uuid} {entropy : Entropy}
    (grammar : IsLink L link handle entropy) :
    parseUsernameLink L link = .ok (handle, entropy) := by
  have marker : "eu/" = "eu" ++ String.singleton '/' := rfl
  have split : splitAt '/' ("eu/" ++ L.encode (entropy.toList ++ handle.toBytes)) =
      ["eu", L.encode (entropy.toList ++ handle.toBytes)] := by
    rw [marker]
    exact splitAt_join (by decide) (slash_not_mem_encode lawful _)
  have decoded : L.decode (L.encode (entropy.toList ++ handle.toBytes)) =
      some (entropy.toList ++ handle.toBytes) :=
    (lawful.canonical _ _).mpr rfl
  have cut : splitFirstChunk 32 (entropy.toList ++ handle.toBytes) =
      some (entropy, handle.toBytes) :=
    splitFirstChunk_eq_some.mpr rfl
  unfold parseUsernameLink
  rw [if_neg (by simp [grammar.scheme, grammar.host])]
  refine bind_present_eq_ok.mpr ⟨_, grammar.fragment, ?_⟩
  dsimp only
  rw [split, if_neg (by simp)]
  refine bind_present_eq_ok.mpr ⟨_, rfl, ?_⟩
  rw [if_neg (by simp)]
  refine bind_present_eq_ok.mpr ⟨_, decoded, ?_⟩
  refine bind_present_eq_ok.mpr ⟨_, cut, ?_⟩
  exact bind_present_eq_ok.mpr ⟨handle, Uuid.ofBytes?_toBytes handle, rfl⟩

theorem generateUsernameLink_isLink (lawful : L.Lawful) (handle : Uuid) (entropy : Entropy) :
    ∃ link, generateUsernameLink L handle entropy = .ret link ∧ IsLink L link handle entropy := by
  have safe : ∀ c ∈ ("eu/" ++ L.encode (entropy.toList ++ handle.toBytes)).toList,
      c ∈ '/' :: Codec.Base64.urlSafeChars := by
    intro c member
    rw [String.toList_append, List.mem_append] at member
    obtain marker | payload := member
    · have letters : c ∈ ['e', 'u', '/'] := marker
      simp only [List.mem_cons, List.not_mem_nil, or_false] at letters
      obtain rfl | rfl | rfl := letters
      · exact List.mem_cons_of_mem _ (by decide)
      · exact List.mem_cons_of_mem _ (by decide)
      · exact List.mem_cons_self
    · exact List.mem_cons_of_mem _ (lawful.alphabet _ c payload)
  obtain ⟨link, parsed, scheme, host, fragment⟩ := lawful.parsed _ safe
  refine ⟨link, ?_, scheme, host, fragment⟩
  unfold generateUsernameLink
  rw [← String.append_assoc] at parsed
  exact Exit.ofOption_panic_eq_ret.mpr parsed

/-- What is accepted is the grammar, what is generated is accepted as what it was made of, and
what a link says is all that its fragment has. -/
theorem username_links_exact (lawful : L.Lawful) :
    (∀ link handle entropy,
      parseUsernameLink L link = .ok (handle, entropy) ↔ IsLink L link handle entropy) ∧
    (∀ handle entropy, ∃ link, generateUsernameLink L handle entropy = .ret link ∧
      parseUsernameLink L link = .ok (handle, entropy)) ∧
    (∀ link link' pair, parseUsernameLink L link = .ok pair → parseUsernameLink L link' = .ok pair →
      L.fragment link = L.fragment link') := by
  refine ⟨fun link handle entropy => ⟨isLink_of_parse lawful, parse_of_isLink lawful⟩, ?_, ?_⟩
  · intro handle entropy
    obtain ⟨link, generated, grammar⟩ := generateUsernameLink_isLink lawful handle entropy
    exact ⟨link, generated, parse_of_isLink lawful grammar⟩
  · intro link link' pair accepted accepted'
    rw [(isLink_of_parse lawful accepted).fragment, (isLink_of_parse lawful accepted').fragment]

/-! ## An instance -/

namespace Sample

structure Url where
  scheme : String
  host : Option String
  fragment : Option String

/-- Of a URL with a host as much as is looked at, with nothing in it that would be escaped. -/
def parseUrl (text : String) : Option Url :=
  let (scheme, rest) := text.toList.span (· ≠ ':')
  (rest.dropPrefix? "://".toList).map fun rest =>
    ⟨.ofList scheme, some (.ofList (rest.takeWhile (· ∉ ['/', '?', '#']))),
      (rest.dropWhile (· ≠ '#')).tail?.map String.ofList⟩

def externals : LinkExternals where
  Url := Url
  scheme := Url.scheme
  hostStr := Url.host
  fragment := Url.fragment
  parse := parseUrl
  encode bytes := .ofList (Codec.Base64.encode Codec.Base64.urlSafe bytes)
  decode text := Codec.Base64.decode Codec.Base64.urlSafe text.toList

theorem parseUrl_signal (fragment : String) :
    parseUrl ("https://signal.me/#" ++ fragment) =
      some ⟨"https", some "signal.me", some fragment⟩ := by
  conv_rhs => rw [← String.ofList_toList (s := fragment)]
  unfold parseUrl
  rw [String.toList_append]
  rfl

theorem externals_lawful : externals.Lawful where
  canonical text bytes := by
    change Codec.Base64.decode _ text.toList = some bytes ↔ _
    rw [Codec.Base64.decode_eq_some_iff]
    exact ⟨fun same => by rw [← String.ofList_toList (s := text), same]; rfl, fun same => by
      rw [same]
      exact String.toList_ofList⟩
  alphabet bytes c member := by
    change c ∈ (String.ofList _).toList at member
    rw [String.toList_ofList] at member
    exact Codec.Base64.encode_urlSafe_mem member
  parsed fragment _ := ⟨_, parseUrl_signal fragment, rfl, rfl, rfl⟩

end Sample

/-- The link of the source's own test. -/
theorem link_round_trip :
    ∃ link, generateUsernameLink Sample.externals ⟨0x9d0652a3dcc34d11975f74d61598733f⟩
        (Vector.replicate 32 0x42) = .ret link ∧
      parseUsernameLink Sample.externals link =
        .ok (⟨0x9d0652a3dcc34d11975f74d61598733f⟩, Vector.replicate 32 0x42) :=
  (username_links_exact Sample.externals_lawful).2.1 _ _

end SignalService.Usernames
