import K8Sense.Library.Text

/-! URLs that have been parsed: their escaped paths, the resolution of references, and
`path.Clean`. A byte is the character with its number. -/

namespace K8Sense.Urls
open Text

structure Octet where
  char : Char
  encoded : Bool
  deriving DecidableEq

/-- What stands between two slashes that are not encoded. -/
abbrev Segment := List Octet

structure Host where
  hostname : String
  port : Option String
  deriving DecidableEq

/-- `rawPath` is there if it differs from the path that is escaped by default. `rest` is what follows
the scheme of a URL that has no path. -/
structure Url where
  scheme : String
  user : Option String
  host : Option Host
  path : String
  rawPath : Option (List Segment)
  query : Option String
  rest : String
  deriving DecidableEq

namespace Segment

def decode (segment : Segment) : String := String.ofList (segment.map Octet.char)

def dot : Segment := [⟨'.', false⟩]

def dotDot : Segment := [⟨'.', false⟩, ⟨'.', false⟩]

end Segment

/-- The text of an escaped path, with its bytes decoded. -/
def decode (segments : List Segment) : String := join '/' (segments.map Segment.decode)

def shouldEscape (char : Char) : Bool := !(char.isAlphanum || "-_.~$&+,/:;=@".toList.contains char)

def escape (path : String) : List Segment :=
  (split '/' path).map fun part => part.toList.map fun char => ⟨char, shouldEscape char⟩

def validEncoded (segments : List Segment) : Bool :=
  segments.flatten.all fun octet => octet.encoded || "!$&'()*+,;=:@[]".toList.contains octet.char || !shouldEscape octet.char

namespace Url

def escapedPath (url : Url) : List Segment :=
  let escaped := if url.path = "*" then [[⟨'*', false⟩]] else escape url.path
  match url.rawPath with
  | none => escaped
  | some raw => if validEncoded raw ∧ decode raw = url.path then raw else escaped

def setPath (segments : List Segment) (url : Url) : Url :=
  { url with
    path := decode segments
    rawPath := if segments = escape (decode segments) then none else some segments }

end Url

/-- The scheme, the host and the port that a URL is requested from. -/
def Url.origin (url : Url) : Option (String × String × String) :=
  url.host.map fun host =>
    let port := host.port.getD ""
    (url.scheme, String.ofList (host.hostname.toList.map Char.toLower),
      if port ≠ "" then port else if url.scheme = "https" then "443" else "80")

def Url.removeEmptyPort (url : Url) : Url :=
  { url with host := url.host.map fun host => if host.port = some "" then { host with port := none } else host }

def push (stack : List Segment) (segment : Segment) : List Segment :=
  if segment = .dot then (if stack = [] then [[]] else stack)
  else if segment = .dotDot then stack.dropLast
  else stack ++ [segment]

/-- What is left of a path without `.` and `..`. -/
def withoutDots (full : List Segment) : List Segment :=
  let stack := full.foldl push []
  (if stack = [] then [[]] else stack) ++ if full.getLast? = some .dot ∨ full.getLast? = some .dotDot then [[]] else []

/-- The path begins with one slash more, except where there are two then. -/
def removeDots (full : List Segment) : List Segment :=
  if (withoutDots full).head? = some [] ∧ 2 ≤ (withoutDots full).length then withoutDots full else [] :: withoutDots full

def resolvePath (base ref : List Segment) : List Segment :=
  let full := if decode ref = "" then base else if ref.head? = some [] then ref else base.dropLast ++ ref
  if decode full = "" then [] else removeDots full

def Url.resolveReference (base ref : Url) : Url :=
  if ref.scheme ≠ "" ∨ ref.host.isSome ∨ ref.user.isSome then
    Url.setPath (resolvePath ref.escapedPath []) { ref with scheme := if ref.scheme = "" then base.scheme else ref.scheme }
  else if ref.rest ≠ "" then { ref with scheme := base.scheme, user := none, host := none, path := "" }
  else
    let query := if ref.path = "" ∧ ref.query = none then base.query else ref.query
    if ref.path = "" ∧ base.rest ≠ "" then
      { ref with scheme := base.scheme, user := none, host := none, path := "", query, rest := base.rest }
    else
      Url.setPath (resolvePath base.escapedPath ref.escapedPath)
        { ref with scheme := base.scheme, user := base.user, host := base.host, query }

/-- What `path.Clean` makes of one more part. -/
def cleanPart (rooted : Bool) (out : List String) (part : String) : List String :=
  if part = "" ∨ part = "." then out
  else if part ≠ ".." then out ++ [part]
  else if out = [] ∨ out.getLast? = some ".." then (if rooted then out else out ++ [".."])
  else out.dropLast

def rooted (path : String) : Bool := path.toList.head? = some '/'

def cleanParts (path : String) : List String := (split '/' path).foldl (cleanPart (rooted path)) []

/-- `path.Clean`. -/
def clean (path : String) : String :=
  if rooted path then join '/' ("" :: if cleanParts path = [] then [""] else cleanParts path)
  else if cleanParts path = [] then "." else join '/' (cleanParts path)

/-- How far below the root the parts of a path lead, if they do not lead above it. -/
def descend (depth : Option Nat) (part : String) : Option Nat :=
  if part = "" ∨ part = "." then depth
  else if part ≠ ".." then depth.map (· + 1)
  else depth.bind fun depth => if depth = 0 then none else some (depth - 1)

/-- The path leads above the root by its dot segments, encoded or not. -/
def Climbs (path : String) : Prop := (split '/' path).foldl descend (some 0) = none

instance (path : String) : Decidable (Climbs path) := inferInstanceAs (Decidable (_ = _))

/-! Escaped paths. -/

theorem decode_escape (path : String) : decode (escape path) = path := by
  rw [decode, escape, List.map_map]
  have same : (Segment.decode ∘ fun part : String => part.toList.map fun char => Octet.mk char (shouldEscape char)) = id := by
    funext part
    simp [Segment.decode, Function.comp_def]
  rw [same, List.map_id, join_split]

theorem decode_escapedPath (url : Url) : decode url.escapedPath = url.path := by
  have escaped : decode (if url.path = "*" then [[⟨'*', false⟩]] else escape url.path) = url.path := by
    split
    · next star => rw [star]; rfl
    · exact decode_escape url.path
  unfold Url.escapedPath
  cases url.rawPath with
  | none => exact escaped
  | some raw =>
    simp only
    split
    · next valid => exact valid.2
    · exact escaped

theorem origin_removeEmptyPort (url : Url) : url.removeEmptyPort.origin = url.origin := by
  unfold Url.removeEmptyPort Url.origin
  cases url.host with
  | none => rfl
  | some host =>
    simp only [Option.map_some]
    split
    · next empty => simp [empty]
    · rfl

/-- No part of what is decoded leads up. -/
def Level (path : String) : Prop := ".." ∉ split '/' path

instance (path : String) : Decidable (Level path) := inferInstanceAs (Decidable (_ ∉ _))

theorem level_decode {segments : List Segment} : Level (decode segments) ↔ ∀ segment ∈ segments, Level segment.decode := by
  by_cases empty : segments = []
  · subst empty
    exact iff_of_true (by decide) (fun _ member => nomatch member)
  · unfold Level
    rw [decode, split_join_pieces (mt List.map_eq_nil_iff.mp empty), List.mem_flatMap]
    simp

theorem push_subset (stack : List Segment) (segment : Segment) : ∀ other ∈ push stack segment, other ∈ stack ∨ other = segment ∨ other = [] := by
  intro other member
  unfold push at member
  split at member
  · split at member
    · exact .inr (.inr (List.mem_singleton.mp member))
    · exact .inl member
  · split at member
    · exact .inl (List.dropLast_subset _ member)
    · exact (List.mem_append.mp member).imp_right fun last => .inl (List.mem_singleton.mp last)

theorem foldl_push_subset (full stack : List Segment) : ∀ other ∈ full.foldl push stack, other ∈ stack ∨ other ∈ full ∨ other = [] := by
  induction full generalizing stack with
  | nil => exact fun other member => .inl member
  | cons segment full ih =>
    intro other member
    obtain before | later | blank := ih _ other member
    · obtain old | rfl | blank := push_subset stack segment other before
      · exact .inl old
      · exact .inr (.inl List.mem_cons_self)
      · exact .inr (.inr blank)
    · exact .inr (.inl (List.mem_cons_of_mem _ later))
    · exact .inr (.inr blank)

theorem removeDots_subset (full : List Segment) : ∀ segment ∈ removeDots full, segment ∈ full ∨ segment = [] := by
  have body : ∀ segment ∈ withoutDots full, segment ∈ full ∨ segment = [] := by
    intro segment member
    obtain stacked | closing := List.mem_append.mp member
    · split at stacked
      · exact .inr (List.mem_singleton.mp stacked)
      · exact (foldl_push_subset full [] segment stacked).resolve_left List.not_mem_nil
    · split at closing
      · exact .inr (List.mem_singleton.mp closing)
      · exact nomatch closing
  intro segment member
  unfold removeDots at member
  split at member
  · exact body segment member
  · obtain rfl | member := List.mem_cons.mp member
    · exact .inr rfl
    · exact body segment member

/-- From a base without a path nothing but the reference is resolved. -/
theorem level_resolvePath {ref : List Segment} (level : Level (decode ref)) : Level (decode (resolvePath [[]] ref)) := by
  have blank : Level (Segment.decode []) := by decide
  rw [resolvePath]
  generalize shape : (if decode ref = "" then [[]] else if ref.head? = some [] then ref else List.dropLast [[]] ++ ref) = full
  have parts : ∀ segment ∈ full, Level (Segment.decode segment) := by
    rw [level_decode] at level
    subst shape
    split
    · simpa using blank
    · split
      all_goals exact level
  split
  · decide
  · rw [level_decode]
    intro segment member
    obtain inside | rfl := removeDots_subset full segment member
    · exact parts segment inside
    · exact blank

/-! Cleaned paths. -/

/-- What is found at any time: only what leads up from the start, where there is no root, and
names after it. -/
theorem foldl_cleanPart (rooted : Bool) (parts : List String) : ∃ count names, parts.foldl (cleanPart rooted) [] = List.replicate count ".." ++ names ∧
    (∀ name ∈ names, name ∈ parts ∧ name ≠ "..") ∧ (rooted = true → count = 0) := by
  induction parts using List.reverseRecOn with
  | nil => exact ⟨0, [], rfl, fun _ member => (nomatch member), fun _ => rfl⟩
  | append_singleton parts part ih =>
    obtain ⟨count, names, out, listed, root⟩ := ih
    have plain : ∀ name ∈ names, name ∈ parts ++ [part] ∧ name ≠ ".." := fun name member =>
      ⟨List.mem_append_left _ (listed name member).1, (listed name member).2⟩
    rw [List.foldl_append, out, List.foldl_cons, List.foldl_nil, cleanPart]
    split
    · exact ⟨count, names, rfl, plain, root⟩
    · split
      · next name =>
        refine ⟨count, names ++ [part], by rw [List.append_assoc], List.forall_mem_append.mpr ⟨plain, ?_⟩, root⟩
        exact List.forall_mem_singleton.mpr ⟨List.mem_append_right _ (List.mem_singleton_self part), name⟩
      · rcases List.eq_nil_or_concat names with rfl | ⟨names, name, rfl⟩
        · have stuck : List.replicate count ".." = [] ∨ (List.replicate count "..").getLast? = some ".." := by
            cases count with
            | zero => exact .inl rfl
            | succ count => exact .inr (by rw [List.replicate_succ', List.getLast?_concat])
          rw [List.append_nil, if_pos stuck]
          split
          · exact ⟨count, [], (List.append_nil _).symm, plain, root⟩
          · next free =>
            exact ⟨count + 1, [], by rw [List.replicate_succ', List.append_nil], plain, fun rooted => absurd rooted free⟩
        · rw [List.concat_eq_append, List.forall_mem_append, List.forall_mem_singleton] at plain
          rw [List.concat_eq_append, ← List.append_assoc, if_neg (by simp [plain.2.2]), List.dropLast_concat]
          exact ⟨count, names, rfl, plain.1, root⟩

theorem level_join {parts : List String} (nonempty : parts ≠ []) (free : ∀ part ∈ parts, '/' ∉ part.toList)
    (names : ∀ part ∈ parts, part ≠ "..") : Level (join '/' parts) := by
  rw [Level, split_join nonempty free]
  exact fun member => names ".." member rfl

/-- A path that is cleaned leads up from its start only. -/
theorem level_clean {path : String} (start : ¬(clean path = ".." ∨ "../".toList <+: (clean path).toList)) : Level (clean path) := by
  obtain ⟨count, names, out, plain, root⟩ := foldl_cleanPart (rooted path) (split '/' path)
  rw [← cleanParts] at out
  have free : ∀ name ∈ names, '/' ∉ name.toList := fun name member => free_of_mem_split (plain name member).1
  have level : ∀ name ∈ names, name ≠ ".." := fun name member => (plain name member).2
  unfold clean at start ⊢
  cases count with
  | zero =>
    rw [out, List.replicate_zero, List.nil_append] at start ⊢
    split
    · apply level_join (List.cons_ne_nil _ _)
      · refine List.forall_mem_cons.mpr ⟨by decide, ?_⟩
        split
        · simp
        · exact free
      · refine List.forall_mem_cons.mpr ⟨by decide, ?_⟩
        split
        · simp
        · exact level
    · split
      · decide
      · next some => exact level_join some free level
  | succ count =>
    have below : rooted path = false := Bool.eq_false_iff.mpr fun rooted => absurd (root rooted) (Nat.succ_ne_zero count)
    rw [below, out, if_neg Bool.false_ne_true, List.replicate_succ, List.cons_append, if_neg (List.cons_ne_nil _ _)] at start
    refine absurd ?_ start
    by_cases last : List.replicate count ".." ++ names = []
    · exact .inl (by rw [last, join_singleton])
    · refine .inr ?_
      rw [join_cons last]
      exact ⟨(join '/' (List.replicate count ".." ++ names)).toList, rfl⟩

theorem not_climbs {path : String} (level : Level path) : ¬Climbs path := by
  have stays : ∀ (parts : List String) (depth : Nat), ".." ∉ parts → parts.foldl descend (some depth) ≠ none := by
    intro parts
    induction parts with
    | nil => exact fun depth _ => Option.some_ne_none depth
    | cons part parts ih =>
      intro depth free
      rw [List.mem_cons, not_or] at free
      rw [List.foldl_cons, descend]
      split
      · exact ih depth free.2
      · rw [if_pos (Ne.symm free.1)]
        exact ih (depth + 1) free.2
  exact stays _ 0 level

end K8Sense.Urls
