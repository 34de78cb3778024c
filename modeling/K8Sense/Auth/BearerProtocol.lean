import K8Sense.Library.Base64
import K8Sense.Library.Text

/-! Tokens that a websocket request carries in its subprotocols, and the authorization
that is made of them. -/

namespace K8Sense.Auth.BearerProtocol
open Base64 Text

/-- The values of the two headers, one for each line. -/
structure Request where
  authorization : List Bytes
  protocol : List String

def utf8 (text : String) : Bytes := text.toList.flatMap String.utf8EncodeChar

/-- A token that cannot be decoded is taken as it is. -/
def decodeToken (token : String) : Bytes :=
  match urlSafe.decode token.toList with
  | some decodedBytes => decodedBytes
  | none =>
    match standard.decodeRaw token.toList with
    | some decodedBytes => decodedBytes
    | none => utf8 token

def processTokenProtocol (request : Request) (protocol tokenPrefix : String) : Request :=
  if request.authorization.headD [] ≠ [] then request
  else
    let token := trimPrefix tokenPrefix protocol
    if token = "" then request else { request with authorization := [utf8 "Bearer " ++ decodeToken token] }

def bearerTokenPrefix : String := "base64url.bearer.authorization.k8s.io."

def isBearer (protocol : String) : Bool := bearerTokenPrefix.toList.isPrefixOf protocol.toList

def sift (seen : Request × List String) (protocol : String) : Request × List String :=
  let protocol := trimSpace protocol
  if isBearer protocol then (processTokenProtocol seen.1 protocol bearerTokenPrefix, seen.2)
  else (seen.1, seen.2 ++ [protocol])

def processWebSocketProtocolHeader (request : Request) : Request :=
  let secWebSocketProtocol := request.protocol.headD ""
  if secWebSocketProtocol = "" then request
  else
    let (after, validProtocols) := (split ',' secWebSocketProtocol).foldl sift (request, [])
    { after with protocol := if validProtocols = [] then [] else [concat ", " validProtocols] }

def listOf (line : String) : List String := (split ',' line).map trimSpace

/-- A header with several lines is that with their lists one behind the other. -/
def subprotocols (lines : List String) : List String := lines.flatMap listOf

def encoded (padded : Bool) (token : Bytes) : List Char := if padded then urlSafe.encode token else urlSafe.encodeRaw token

/-- A request without authorization that has a token as one of its subprotocols. -/
structure Carries (request : Request) (padded : Bool) (token : Bytes) (before after : List String) : Prop where
  authorization : request.authorization = []
  present : token ≠ []
  listed : subprotocols request.protocol =
    before ++ [bearerTokenPrefix ++ String.ofList (encoded padded token)] ++ after
  others : ∀ other ∈ before ++ after, other ≠ "" ∧ isBearer other = false

structure Forwards (request : Request) (token : Bytes) (others : List String) : Prop where
  authorization : request.authorization = [utf8 "Bearer " ++ token]
  others : subprotocols request.protocol = others

/-- The encoding has its padding or needs none, or it has neither of the characters in
which the alphabets differ; and all subprotocols are in one line. -/
structure Readable (request : Request) (padded : Bool) (token : Bytes) : Prop where
  encoding : padded = true ∨ token.length % 3 = 0 ∨ ∀ char ∈ urlSafe.encodeRaw token, char ≠ '-' ∧ char ≠ '_'
  line : request.protocol.length = 1

section
variable {request : Request} {padded : Bool} {token : Bytes} {before after : List String}

theorem length_le_utf8 (text : String) : text.toList.length ≤ (utf8 text).length := by
  unfold utf8
  generalize text.toList = chars
  induction chars with
  | nil => simp
  | cons char chars ih =>
    have visible := List.length_pos_iff.mpr (String.utf8EncodeChar_ne_nil (c := char))
    simp only [List.flatMap_cons, List.length_append, List.length_cons]
    omega

theorem decodeRaw_common {token : Bytes} (common : ∀ char ∈ urlSafe.encodeRaw token, char ≠ '-' ∧ char ≠ '_') :
    standard.decodeRaw (urlSafe.encodeRaw token) = some token := by
  rw [Alphabet.decodeRaw_congr, Alphabet.decodeRaw_encodeRaw]
  intro char member
  have known := common char member
  rw [digit_standard (Alphabet.mem_encodeRaw member), if_neg (by simp [known])]

theorem decodeRaw_special {token : Bytes} (special : ¬∀ char ∈ urlSafe.encodeRaw token, char ≠ '-' ∧ char ≠ '_') :
    standard.decodeRaw (urlSafe.encodeRaw token) = none := by
  obtain ⟨char, special⟩ := not_forall.mp special
  obtain ⟨member, apart⟩ := Classical.not_imp.mp special
  have known := Alphabet.mem_encodeRaw member
  apply Alphabet.decodeRaw_none member (Alphabet.isLineEnd_of_mem known)
  rw [digit_standard known, if_pos]
  by_contra neither
  exact apart (not_or.mp neither)

theorem encoded_ne_nil (nonempty : token ≠ []) : encoded padded token ≠ [] := by
  have digits : urlSafe.encodeRaw token ≠ [] := List.ne_nil_of_length_pos (Nat.zero_lt_of_lt (Alphabet.length_lt_encodeRaw nonempty))
  cases padded with
  | true => exact List.append_ne_nil_of_left_ne_nil digits _
  | false => exact digits

theorem decodeToken_eq_iff (nonempty : token ≠ []) : decodeToken (String.ofList (encoded padded token)) = token ↔
    padded = true ∨ token.length % 3 = 0 ∨ ∀ char ∈ urlSafe.encodeRaw token, char ≠ '-' ∧ char ≠ '_' := by
  unfold decodeToken encoded
  rw [String.toList_ofList]
  cases padded with
  | true => simp [Alphabet.decode_encode]
  | false =>
    simp only [Bool.false_eq_true, if_false, false_or, Alphabet.decode_encodeRaw]
    by_cases whole : token.length % 3 = 0
    · simp [whole]
    · rw [if_neg whole]
      by_cases common : ∀ char ∈ urlSafe.encodeRaw token, char ≠ '-' ∧ char ≠ '_'
      · rw [decodeRaw_common common]
        exact iff_of_true rfl (Or.inr common)
      · rw [decodeRaw_special common]
        apply iff_of_false
        · intro same
          have longer : token.length < (urlSafe.encodeRaw token).length := Alphabet.length_lt_encodeRaw nonempty
          have bytes := length_le_utf8 (String.ofList (urlSafe.encodeRaw token))
          rw [String.toList_ofList] at bytes
          dsimp only at same
          rw [same] at bytes
          omega
        · exact not_or.mpr ⟨whole, common⟩

theorem sift_bearer (protocols : List String) (request : Request) (valid : List String) :
    protocols.foldl sift (request, valid) =
      (((protocols.map trimSpace).filter isBearer).foldl (fun request protocol => processTokenProtocol request protocol bearerTokenPrefix)
        request, valid ++ (protocols.map trimSpace).filter fun protocol => !isBearer protocol) := by
  induction protocols generalizing request valid with
  | nil => simp
  | cons protocol protocols ih =>
    rw [List.foldl_cons, List.map_cons]
    cases bearer : isBearer (trimSpace protocol) with
    | true =>
      have first : sift (request, valid) protocol =
          (processTokenProtocol request (trimSpace protocol) bearerTokenPrefix, valid) := by simp [sift, bearer]
      rw [first, ih]
      simp [bearer]
    | false =>
      have first : sift (request, valid) protocol = (request, valid ++ [trimSpace protocol]) := by simp [sift, bearer]
      rw [first, ih]
      simp [bearer]

theorem free_of_mem_listOf {line protocol : String} (member : protocol ∈ listOf line) :
    ',' ∉ protocol.toList ∧ trimSpace protocol = protocol := by
  obtain ⟨piece, inside, rfl⟩ := List.mem_map.mp member
  exact ⟨fun comma => free_of_mem_split inside (mem_trimSpace comma), trimSpace_trimSpace piece⟩

theorem listOf_concat {valid : List String} (nonempty : valid ≠ [])
    (free : ∀ protocol ∈ valid, ',' ∉ protocol.toList ∧ trimSpace protocol = protocol) :
    listOf (concat ", " valid) = valid := by
  obtain ⟨protocol, rest, rfl⟩ := List.exists_cons_of_ne_nil nonempty
  rw [List.forall_mem_cons] at free
  have joined := concat_blank ',' protocol rest
  rw [show String.ofList [',', ' '] = ", " from rfl] at joined
  rw [listOf, joined, split_join (List.cons_ne_nil _ _)]
  · rw [List.map_cons, free.1.2, List.map_map, List.map_congr_left, List.map_id]
    intro other member
    have trimmed : trimSpace (String.ofList (' ' :: other.toList)) = trimSpace other := by simp [trimSpace, isSpace]
    exact trimmed.trans (free.2 other member).2
  · rw [List.forall_mem_cons, List.forall_mem_map]
    refine ⟨free.1.1, ?_⟩
    intro other member
    simp [(free.2 other member).1]

theorem subprotocols_written {valid : List String} (free : ∀ protocol ∈ valid, ',' ∉ protocol.toList ∧ trimSpace protocol = protocol) :
    subprotocols (if valid = [] then [] else [concat ", " valid]) = valid := by
  split
  next none => rw [none, subprotocols, List.flatMap_nil]
  next some => rw [subprotocols, List.flatMap_singleton, listOf_concat some free]

theorem processTokenProtocol_new (unset : request.authorization = []) (text : String) (visible : text ≠ "") :
    processTokenProtocol request (bearerTokenPrefix ++ text) bearerTokenPrefix =
      { request with authorization := [utf8 "Bearer " ++ decodeToken text] } := by
  unfold processTokenProtocol
  rw [unset, trimPrefix_append]
  simp [visible]

theorem processed {line : String} {rest : List String} (lines : request.protocol = line :: rest) (visible : line ≠ "") :
    processWebSocketProtocolHeader request =
      { ((listOf line).filter isBearer).foldl (fun request protocol => processTokenProtocol request protocol bearerTokenPrefix)
        request with protocol :=
          if ((listOf line).filter fun protocol => !isBearer protocol) = [] then []
          else [concat ", " ((listOf line).filter fun protocol => !isBearer protocol)] } := by
  unfold processWebSocketProtocolHeader
  rw [lines, List.headD_cons]
  simp only [if_neg visible, sift_bearer, List.nil_append]
  rfl

theorem isBearer_append (text : String) : isBearer (bearerTokenPrefix ++ text) = true := by
  unfold isBearer
  rw [String.toList_append, List.isPrefixOf_iff_prefix]
  exact List.prefix_append _ _

section
variable (carries : Carries request padded token before after)
include carries

theorem bearers : (subprotocols request.protocol).filter isBearer = [bearerTokenPrefix ++ String.ofList (encoded padded token)] := by
  rw [carries.listed, List.filter_append, List.filter_append]
  have none (list : List String) (inside : ∀ other ∈ list, other ∈ before ++ after) : list.filter isBearer = [] := by
    apply List.filter_eq_nil_iff.mpr
    intro other member
    rw [(carries.others other (inside other member)).2]
    decide
  rw [none before (fun other member => by simp [member]), none after (fun other member => by simp [member])]
  simp [isBearer_append]

theorem remaining : ((subprotocols request.protocol).filter fun protocol => !isBearer protocol) = before ++ after := by
  rw [carries.listed, List.filter_append, List.filter_append]
  have all (list : List String) (inside : ∀ other ∈ list, other ∈ before ++ after) :
      (list.filter fun protocol => !isBearer protocol) = list := by
    apply List.filter_eq_self.mpr
    intro other member
    rw [(carries.others other (inside other member)).2, Bool.not_false]
  rw [all before (fun other member => by simp [member]), all after (fun other member => by simp [member])]
  simp [isBearer_append]

theorem visible_line {line : String} (member : line ∈ request.protocol) : line ≠ "" := by
  intro blank
  have inside : "" ∈ subprotocols request.protocol := List.mem_flatMap.mpr ⟨line, member, by rw [blank]; decide⟩
  cases bearer : isBearer "" with
  | true => exact absurd bearer (by decide)
  | false =>
    have other : "" ∈ before ++ after := remaining carries ▸ List.mem_filter.mpr ⟨inside, by rw [bearer, Bool.not_false]⟩
    exact (carries.others "" other).1 rfl

theorem forwards_one {line : String} (lines : request.protocol = [line]) :
    Forwards (processWebSocketProtocolHeader request) token (before ++ after) ↔
      decodeToken (String.ofList (encoded padded token)) = token := by
  have whole : listOf line = subprotocols request.protocol := by rw [lines, subprotocols, List.flatMap_singleton]
  have visible : String.ofList (encoded padded token) ≠ "" := by
    intro blank
    apply encoded_ne_nil carries.present
    rw [← String.toList_ofList (l := encoded padded token), blank]
    rfl
  have outcome := processed lines (visible_line carries (by simp [lines]))
  rw [whole, bearers carries, remaining carries, List.foldl_cons, List.foldl_nil,
    processTokenProtocol_new carries.authorization _ visible] at outcome
  rw [outcome]
  constructor
  · intro forwards
    simpa using forwards.authorization
  · intro same
    refine ⟨by rw [same], subprotocols_written ?_⟩
    intro protocol member
    rw [← remaining carries, ← whole] at member
    exact free_of_mem_listOf (List.mem_filter.mp member).1

theorem not_forwards_more {line next : String} {rest : List String} (lines : request.protocol = line :: next :: rest) :
    ¬Forwards (processWebSocketProtocolHeader request) token (before ++ after) := by
  intro forwards
  have outcome := processed lines (visible_line carries (by simp [lines]))
  have whole : subprotocols request.protocol = listOf line ++ subprotocols (next :: rest) := by
    rw [lines, subprotocols, List.flatMap_cons, ← subprotocols]
  have bearers := bearers carries
  have remaining := remaining carries
  rw [whole, List.filter_append] at bearers remaining
  have later : subprotocols (next :: rest) ≠ [] := by
    have pieces : listOf next ≠ [] := by simp [listOf, split, List.splitOn_ne_nil]
    rw [subprotocols, List.flatMap_cons]
    exact List.append_ne_nil_of_left_ne_nil pieces _
  cases first : (listOf line).filter isBearer with
  | nil =>
    have unset : (processWebSocketProtocolHeader request).authorization = [] := by
      rw [outcome, first]
      exact carries.authorization
    rw [forwards.authorization] at unset
    cases unset
  | cons protocol more =>
    have none : (subprotocols (next :: rest)).filter isBearer = [] := by
      rw [first] at bearers
      exact (List.append_eq_nil_iff.mp (List.cons.inj bearers).2).2
    have written := forwards.others
    rw [outcome, subprotocols_written fun protocol member => free_of_mem_listOf (List.mem_filter.mp member).1] at written
    rw [written, List.append_right_eq_self] at remaining
    apply later
    apply List.eq_nil_iff_forall_not_mem.mpr
    intro protocol member
    have plain := List.filter_eq_nil_iff.mp none protocol member
    have bearer := List.filter_eq_nil_iff.mp remaining protocol member
    simp [plain] at bearer

end

end

end K8Sense.Auth.BearerProtocol
